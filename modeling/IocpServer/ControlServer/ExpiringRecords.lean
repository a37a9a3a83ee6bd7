import IocpServer.ControlServer.LobbySelection
import IocpServer.Json.RoundTrip
import IocpServer.Library.ExpiringMap

/-!
# Records that expire

The lobby manager with the JSON library it is built with, on a database whose
entries expire.  At every moment the database holds the record of the latest
registration of each lobby, as long as that is not older than the expire time.
No record can be read: a request behind a recent registration throws, and so
does a registration whose key is not UTF-8.
-/

namespace IocpServer.ControlServer

open IocpServer.Library
open IocpServer.Library.Fallible
open IocpServer.Database
open IocpServer.Json
open IocpServer.Network
open IocpServer.Protocol

variable {Number : Type} [FloatArithmetic Number] {floats : FloatText Number}

/-! ## The record of a lobby -/

theorem writable_writtenRecord {registration : Registration}
    (kept : floats.Keeps (FloatArithmetic.ofInt 0))
    (valid : ValidUtf8 registration.key) :
    (writtenRecord (registration.lobby : LobbyInfo Number)).Writable
      floats := by
  apply JsonValue.writable_ofMembers
  intro member present
  simp only [List.mem_cons, List.not_mem_nil, or_false] at present
  rcases present with rfl | rfl | rfl | rfl | rfl | rfl
  · exact ⟨⟨['k', 'e', 'y'], rfl⟩, valid⟩
  · exact ⟨⟨['p', 'o', 'r', 't'], rfl⟩, trivial⟩
  · exact ⟨⟨['c', 'u', 'r', 'r', 'e', 'n', 't'], rfl⟩, trivial⟩
  · exact ⟨⟨['r', 'e', 'm', 'a', 'i', 'n'], rfl⟩, trivial⟩
  · exact ⟨⟨['a', 'c', 't', 'i', 'v', 'e'], rfl⟩, trivial⟩
  · exact
      ⟨⟨['r', 'e', 's', 'p', 'o', 'n', 's', 'e', '_', 's', 'p', 'e', 'e', 'd'],
          rfl⟩,
        fun _ => kept⟩

omit [FloatArithmetic Number] in
/-- Only the key of a record may have no text. -/
theorem validUtf8_of_hasText {lobby : LobbyInfo Number}
    (hasText : (writtenRecord lobby).HasText) : ValidUtf8 lobby.key := by
  rw [writtenRecord, LobbyInfo.dataToJson_eq] at hasText
  rcases hasText with ⟨-, -, -, -, -, valid, -⟩
  exact valid

/-- A record that is written has a UTF-8 key, and its text is the record. -/
theorem parse_writtenRecord {registration : Registration} {text : ByteString}
    (kept : floats.Keeps (FloatArithmetic.ofInt 0))
    (dumped :
      (writtenRecord registration.lobby).dump floats none 0 = .ok text) :
    0 ∉ text ∧
      Parser.parse floats true text =
        .ok (writtenRecord registration.lobby).reread := by
  have writes :
      JsonValue.WritesIf
        ((writtenRecord registration.lobby).dump floats none 0)
        (writtenRecord registration.lobby).HasText :=
    JsonValue.writesIf_dump _ 0
  have valid := validUtf8_of_hasText (writes.1.mp ⟨text, dumped⟩)
  have writable := writable_writtenRecord kept valid
  exact
    ⟨(printable_dump _ writable dumped).zero_not_mem,
      Parser.parse_dump writable dumped true⟩

/-- A record crosses the text and the C interface whole if its key is UTF-8. -/
theorem preserves_writtenRecord_iff {registration : Registration}
    (kept : floats.Keeps (FloatArithmetic.ofInt 0)) :
    (nlohmannLibrary floats).Preserves
        (writtenRecord (registration.lobby : LobbyInfo Number)) ↔
      ValidUtf8 registration.key := by
  constructor
  · rintro ⟨text, dumped, -, -⟩
    have writes :
        JsonValue.WritesIf
          ((writtenRecord (registration.lobby : LobbyInfo Number)).dump floats
            none 0)
          (writtenRecord (registration.lobby : LobbyInfo Number)).HasText :=
      JsonValue.writesIf_dump _ 0
    exact validUtf8_of_hasText (writes.1.mp ⟨text, dumped⟩)
  · intro valid
    exact preserves_of_writable (writable_writtenRecord kept valid)

/-- The exception of a record that is read. -/
def recordException : JsonException :=
  .typeError 302 "type must be boolean, but is number"

theorem ofText_writtenRecord {registration : Registration} {text : ByteString}
    (kept : floats.Keeps (FloatArithmetic.ofInt 0))
    (dumped :
      (writtenRecord registration.lobby).dump floats none 0 = .ok text) :
    LobbyInfo.ofText (nlohmannLibrary floats) text =
      .error recordException := by
  have parsed :
      (nlohmannLibrary floats).parse text =
        .ok (writtenRecord registration.lobby).reread := by
    change (Parser.parse floats true text).mapError _ = _
    rw [(parse_writtenRecord kept dumped).2]
    rfl
  exact LobbyInfo.ofText_of_preserves parsed

/-! ## The lobby manager in time -/

/-- The expire time of `Hub::Construct`, in seconds. -/
def expireTime : Int32 := 60

/--
The lobby manager on a database whose entries expire, and how many of its
callbacks have been called.
-/
structure TimedManager (Number : Type) where
  server : ExpiringMap ByteString ByteString
  lobbyMap : Std.ExtTreeMap ByteString (Lobby Number)
  calls : Nat

namespace TimedManager

/-- A manager after `Construct`, on an empty database. -/
def construct : TimedManager Number where
  server := .empty
  lobbyMap := ∅
  calls := 0

/-- What it sees at a moment, in milliseconds. -/
def seen (manager : TimedManager Number) (now : Nat) : LobbyManager Number where
  redisWorker := ⟨manager.server.visible now⟩
  lobbyMap := manager.lobbyMap

/-- A callback has returned. -/
def called (manager : TimedManager Number) : TimedManager Number :=
  { manager with calls := manager.calls + 1 }

/-- `UpdateData`; the server refuses an `EX` that is not positive. -/
def updateData (manager : TimedManager Number) (now : Nat)
    (table key jsonString : ByteString) (ttl : Int32) : TimedManager Number :=
  if 0 < ttl then
    { manager with
      server :=
        manager.server.put
          { key := cString (RedisWorker.cacheKey table key)
            value := cString jsonString
            deadline := now + 1000 * ttl.toInt.toNat } }
  else
    manager

/-- `SaveLobbyInfo`. -/
def saveLobbyInfo (floats : FloatText Number) (manager : TimedManager Number)
    (now : Nat) (key : ByteString) (port capacity : Int32) (active : Bool) :
    Except JsonException (TimedManager Number) := do
  let activeOffset : Int32 := if active then 1 else 0
  let result :=
    LobbyInfo.dataToJson key port 0 capacity activeOffset
      (FloatArithmetic.ofInt 0 : Number)
  let jsonString ← (nlohmannLibrary floats).dump result
  return manager.updateData now lobbyTable key jsonString expireTime

omit [FloatArithmetic Number] in
/-- At its own moment an update is one without expiry. -/
theorem seen_updateData (manager : TimedManager Number) (now : Nat)
    (table key jsonString : ByteString) {ttl : Int32} (accepted : 0 < ttl) :
    (manager.updateData now table key jsonString ttl).seen now =
      { manager.seen now with
        redisWorker :=
          (manager.seen now).redisWorker.updateData table key jsonString } := by
  have positive : 0 < ttl.toInt := Int32.lt_iff_toInt_lt.mp accepted
  have fresh : now < now + 1000 * ttl.toInt.toNat := by omega
  have put :=
    manager.server.visible_put
      { key := cString (RedisWorker.cacheKey table key)
        value := cString jsonString
        deadline := now + 1000 * ttl.toInt.toNat }
      fresh
  rw [updateData, if_pos accepted]
  unfold seen
  dsimp only
  rw [put]
  rfl

/-- And so is a registration. -/
theorem seen_saveLobbyInfo (manager : TimedManager Number) (now : Nat)
    (key : ByteString) (port capacity : Int32) (active : Bool) :
    (manager.saveLobbyInfo floats now key port capacity active).map
        (fun saved => saved.seen now) =
      (manager.seen now).saveLobbyInfo (nlohmannLibrary floats) key port
        capacity active := by
  unfold saveLobbyInfo LobbyManager.saveLobbyInfo
  dsimp only
  cases (nlohmannLibrary floats).dump
      (LobbyInfo.dataToJson key port 0 capacity (if active then 1 else 0)
        (FloatArithmetic.ofInt 0 : Number)) with
  | error exception => rfl
  | ok text =>
      have updated :=
        manager.seen_updateData now lobbyTable key text
          (by decide : 0 < expireTime)
      exact congrArg Except.ok updated

end TimedManager

/-- A registration, and the moment at which it was executed. -/
structure TimedRegistration where
  registration : Registration
  moment : Nat

/-- The moment from which its record is gone. -/
def TimedRegistration.deadline (entry : TimedRegistration) : Nat :=
  entry.moment + 1000 * expireTime.toInt.toNat

/-- The place of its record in the database. -/
def TimedRegistration.place (entry : TimedRegistration) : ByteString :=
  cString (RedisWorker.cacheKey lobbyTable entry.registration.key)

/-- The record that is written for it. -/
def recordPut (floats : FloatText Number) (entry : TimedRegistration) :
    Put ByteString ByteString where
  key := entry.place
  value := recordText (nlohmannLibrary floats) entry.registration.lobby
  deadline := entry.deadline

/-- The latest registration that is stored at a place. -/
def latestAt (history : List TimedRegistration) (place : ByteString) :
    Option TimedRegistration :=
  history.reverse.find? fun entry => decide (entry.place = place)

theorem latest_map_recordPut (history : List TimedRegistration)
    (place : ByteString) :
    ExpiringMap.latest (history.map (recordPut floats)) place =
      (latestAt history place).map (recordPut floats) := by
  rw [ExpiringMap.latest, ← List.map_reverse, List.find?_map]
  rfl

theorem mem_of_latestAt {history : List TimedRegistration}
    {place : ByteString} {entry : TimedRegistration}
    (found : latestAt history place = some entry) :
    entry ∈ history ∧ entry.place = place := by
  rw [latestAt] at found
  have present := List.mem_of_find?_eq_some found
  have matched := List.find?_some found
  exact ⟨List.mem_reverse.mp present, of_decide_eq_true matched⟩

/-- A registration is the latest at its place if none behind it is there. -/
theorem latestAt_of_last (before after : List TimedRegistration)
    {entry : TimedRegistration}
    (last : ∀ other ∈ after, other.place ≠ entry.place) :
    latestAt (before ++ entry :: after) entry.place = some entry := by
  have later :
      (after.reverse.find? fun other => decide (other.place = entry.place)) =
        none := by
    apply List.find?_eq_none.mpr
    intro other member same
    exact last other (List.mem_reverse.mp member) (of_decide_eq_true same)
  have here :
      [entry].find? (fun other => decide (other.place = entry.place)) =
        some entry :=
    List.find?_cons_of_pos (decide_eq_true rfl)
  rw [latestAt, List.reverse_append, List.reverse_cons, List.find?_append,
    List.find?_append, later, here]
  rfl

/-- Some registration is not older than the expire time. -/
def Recent (history : List TimedRegistration) (now : Nat) : Prop :=
  ∃ entry ∈ history, now < entry.deadline

/--
The registrations that earlier processes of the server have executed on the
same database.
-/
structure EarlierRuns (clock : Nat → Nat) where
  registrations : List TimedRegistration
  valid : ∀ entry ∈ registrations, ValidUtf8 entry.registration.key
  ordered :
    registrations.Pairwise fun first second => first.moment ≤ second.moment
  past : ∀ entry ∈ registrations, entry.moment ≤ clock 0

/-- No process has used the database before. -/
def EarlierRuns.none {clock : Nat → Nat} : EarlierRuns clock where
  registrations := []
  valid := nofun
  ordered := .nil
  past := nofun

/-- A manager after `Construct`, with what earlier processes have stored. -/
def TimedManager.restarted (floats : FloatText Number) {clock : Nat → Nat}
    (earlier : EarlierRuns clock) : TimedManager Number :=
  { TimedManager.construct with
    server := .after (earlier.registrations.map (recordPut floats)) }

/-! ## The records in the database -/

/-- The database is the one behind some registrations. -/
structure HoldsRecords (floats : FloatText Number) (clock : Nat → Nat)
    (manager : TimedManager Number) (history : List TimedRegistration) :
    Prop where
  server : manager.server = .after (history.map (recordPut floats))
  valid : ∀ entry ∈ history, ValidUtf8 entry.registration.key
  ordered : history.Pairwise fun first second => first.moment ≤ second.moment
  past : ∀ entry ∈ history, entry.moment ≤ clock manager.calls

/-- The text of a record whose key is UTF-8. -/
theorem dump_recordText {registration : Registration}
    (kept : floats.Keeps (FloatArithmetic.ofInt 0))
    (valid : ValidUtf8 registration.key) :
    (writtenRecord (registration.lobby : LobbyInfo Number)).dump floats none
        0 =
      .ok (recordText (nlohmannLibrary floats) registration.lobby) := by
  rcases (preserves_writtenRecord_iff kept).mpr valid with ⟨text, dumped, -⟩
  rw [recordText, dumped]
  exact dumped

section Database

variable {clock : Nat → Nat} {manager : TimedManager Number}
variable {history : List TimedRegistration}

theorem holdsRecords_restarted (earlier : EarlierRuns clock) :
    HoldsRecords floats clock (TimedManager.restarted floats earlier)
      earlier.registrations where
  server := rfl
  valid := earlier.valid
  ordered := earlier.ordered
  past := earlier.past

/-- The records that are seen at a moment. -/
theorem HoldsRecords.mem_scan_iff
    (holds : HoldsRecords floats clock manager history)
    (kept : floats.Keeps (FloatArithmetic.ofInt 0)) {now : Nat}
    {place text : ByteString} :
    (place, text) ∈
        (manager.seen now).redisWorker.scanMultipleResult lobbyTable ↔
      ∃ entry,
        latestAt history place = some entry ∧ now < entry.deadline ∧
          (writtenRecord entry.registration.lobby).dump floats none 0 =
            .ok text := by
  rw [RedisWorker.mem_scanMultipleResult, TimedManager.seen, holds.server,
    ExpiringMap.visible_after, latest_map_recordPut]
  constructor
  · rintro ⟨⟨put, found, rfl, fresh⟩, -⟩
    rcases Option.map_eq_some_iff.mp found with ⟨entry, isLatest, rfl⟩
    have valid := holds.valid entry (mem_of_latestAt isLatest).1
    exact ⟨entry, isLatest, fresh, dump_recordText kept valid⟩
  · rintro ⟨entry, isLatest, fresh, dumped⟩
    rcases mem_of_latestAt isLatest with ⟨present, rfl⟩
    have valid := holds.valid entry present
    have same := dump_recordText kept valid
    rw [dumped] at same
    cases same
    refine ⟨⟨_, by rw [isLatest]; rfl, rfl, fresh⟩, ?_⟩
    rw [TimedRegistration.place, RedisWorker.cString_cacheKey (by decide)]
    exact RedisWorker.cacheKey_front lobbyTable _

end Database

section Database

variable {clock : Nat → Nat} {manager : TimedManager Number}
variable {history : List TimedRegistration}

/-- No record that is stored can be read. -/
theorem HoldsRecords.refused
    (holds : HoldsRecords floats clock manager history)
    (kept : floats.Keeps (FloatArithmetic.ofInt 0)) (now : Nat) :
    (manager.seen now).RecordsRefused (nlohmannLibrary floats) := by
  rintro ⟨place, text⟩ stored
  rcases (holds.mem_scan_iff kept).mp stored with ⟨entry, -, -, dumped⟩
  exact ofText_writtenRecord kept dumped

/-- There is a record as long as there is a recent registration. -/
theorem HoldsRecords.scan_ne_nil_iff
    (holds : HoldsRecords floats clock manager history)
    (kept : floats.Keeps (FloatArithmetic.ofInt 0)) {now : Nat} :
    (manager.seen now).redisWorker.scanMultipleResult lobbyTable ≠ [] ↔
      Recent history now := by
  constructor
  · intro some
    rcases List.exists_mem_of_ne_nil _ some with ⟨⟨place, text⟩, stored⟩
    rcases (holds.mem_scan_iff kept).mp stored with
      ⟨entry, found, fresh, -⟩
    exact ⟨entry, (mem_of_latestAt found).1, fresh⟩
  · rintro ⟨entry, present, fresh⟩
    have deadlines :
        (history.map (recordPut floats)).Pairwise fun first second =>
          first.deadline ≤ second.deadline := by
      rw [List.pairwise_map]
      exact holds.ordered.imp fun before => Nat.add_le_add_right before _
    rcases ExpiringMap.le_deadline_of_latest deadlines
        (List.mem_map_of_mem present) with
      ⟨put, found, later⟩
    rw [latest_map_recordPut] at found
    rcases Option.map_eq_some_iff.mp found with ⟨last, isLatest, rfl⟩
    have valid := holds.valid last (mem_of_latestAt isLatest).1
    have stored :=
      (holds.mem_scan_iff kept).mpr
        ⟨last, isLatest, Nat.lt_of_lt_of_le fresh later,
          dump_recordText kept valid⟩
    exact List.ne_nil_of_mem stored

/-! ## The callbacks -/

/--
The callbacks of the server, with the moment at which each call of one of them
takes place.
-/
def serverCallbacks (floats : FloatText Number) (clock : Nat → Nat) :
    JobCallbacks (TimedManager Number) where
  requestLobbyInfo manager lobbyKey lobbyPort _ :=
    ((manager.seen (clock manager.calls)).responseLobbyInfo
      (LobbyInfo.ofText (nlohmannLibrary floats)) lobbyKey lobbyPort).map
        fun found => (manager.called, found)
  saveLobbyInfo manager lobbyKey port capacity active :=
    (manager.saveLobbyInfo floats (clock manager.calls) lobbyKey port capacity
      active).map TimedManager.called

/-- Behind a call the clock has not gone back. -/
theorem HoldsRecords.called
    (holds : HoldsRecords floats clock manager history)
    (monotone : Monotone clock) :
    HoldsRecords floats clock manager.called history where
  server := holds.server
  valid := holds.valid
  ordered := holds.ordered
  past := by
    intro entry present
    exact (holds.past entry present).trans (monotone (Nat.le_succ _))

theorem request_search
    (holds : HoldsRecords floats clock manager history)
    (kept : floats.Keeps (FloatArithmetic.ofInt 0)) (now : Nat) :
    (manager.seen now).searchBestLobby
        (LobbyInfo.ofText (nlohmannLibrary floats)) =
      if (manager.seen now).redisWorker.scanMultipleResult lobbyTable = [] then
        .ok .initial
      else
        .error recordException :=
  LobbyManager.searchRecords_refused (holds.refused kept now) _

/-- A request behind a recent registration throws. -/
theorem request_throws
    (holds : HoldsRecords floats clock manager history)
    (kept : floats.Keeps (FloatArithmetic.ofInt 0))
    (recent : Recent history (clock manager.calls)) :
    (serverCallbacks floats clock).requestLobbyInfo manager (literal "") 0
        false =
      .error recordException := by
  have searched := request_search holds kept (clock manager.calls)
  rw [if_neg ((holds.scan_ne_nil_iff kept).mpr recent)] at searched
  change
    ((manager.seen (clock manager.calls)).responseLobbyInfo _ _ _).map _ = _
  rw [LobbyManager.responseLobbyInfo, searched]
  rfl

/-- Any other request finds no lobby. -/
theorem request_finds_none
    (holds : HoldsRecords floats clock manager history)
    (kept : floats.Keeps (FloatArithmetic.ofInt 0))
    (old : ¬Recent history (clock manager.calls)) :
    (serverCallbacks floats clock).requestLobbyInfo manager (literal "") 0
        false =
      .ok (manager.called, literal "", 0) := by
  have searched := request_search holds kept (clock manager.calls)
  rw [if_pos (not_not.mp (mt (holds.scan_ne_nil_iff kept).mp old))] at searched
  change
    ((manager.seen (clock manager.calls)).responseLobbyInfo _ _ _).map _ = _
  rw [LobbyManager.responseLobbyInfo, searched]
  rfl

/-- A registration whose key is not UTF-8 throws. -/
theorem registration_throws (registration : Registration)
    (invalid : ¬ValidUtf8 registration.key) :
    ∃ message,
      (serverCallbacks floats clock).saveLobbyInfo manager registration.key
          registration.port registration.capacity registration.active =
        .error (.typeError 316 message) := by
  have writes :
      JsonValue.WritesIf
        ((nlohmannLibrary floats).dump
          (writtenRecord (registration.lobby : LobbyInfo Number)))
        (writtenRecord (registration.lobby : LobbyInfo Number)).HasText :=
    JsonValue.writesIf_dump _ 0
  cases dumped :
      (nlohmannLibrary floats).dump
        (writtenRecord (registration.lobby : LobbyInfo Number)) with
  | ok text =>
      exact absurd (validUtf8_of_hasText (writes.1.mp ⟨text, dumped⟩)) invalid
  | error exception =>
      rcases writes.2 exception dumped with ⟨message, rfl⟩
      refine ⟨message, ?_⟩
      change (TimedManager.saveLobbyInfo _ _ _ _ _ _ _).map _ = _
      unfold TimedManager.saveLobbyInfo
      unfold writtenRecord Registration.lobby at dumped
      dsimp only at dumped ⊢
      rw [dumped]
      rfl

/-- Any other registration is stored behind the ones before. -/
theorem registration_stored (registration : Registration)
    (holds : HoldsRecords floats clock manager history)
    (kept : floats.Keeps (FloatArithmetic.ofInt 0)) (monotone : Monotone clock)
    (valid : ValidUtf8 registration.key) :
    ∃ saved,
      (serverCallbacks floats clock).saveLobbyInfo manager registration.key
          registration.port registration.capacity registration.active =
        .ok saved ∧
        saved.calls = manager.calls + 1 ∧
        HoldsRecords floats clock saved
          (history ++ [⟨registration, clock manager.calls⟩]) := by
  have dumped := dump_recordText kept valid
  have noZero := (parse_writtenRecord kept dumped).1
  have moves := monotone (Nat.le_succ manager.calls)
  refine
    ⟨(manager.updateData (clock manager.calls) lobbyTable registration.key
      (recordText (nlohmannLibrary floats) registration.lobby)
      expireTime).called, ?_, ?_, ?_⟩
  · have same :
        (nlohmannLibrary floats).dump
            (LobbyInfo.dataToJson registration.key registration.port 0
              registration.capacity (if registration.active then 1 else 0)
              (FloatArithmetic.ofInt 0)) =
          .ok (recordText (nlohmannLibrary floats) registration.lobby) :=
      dumped
    change (TimedManager.saveLobbyInfo _ _ _ _ _ _ _).map _ = _
    unfold TimedManager.saveLobbyInfo
    dsimp only
    rw [same]
    rfl
  · rw [TimedManager.updateData, if_pos (by decide)]
    rfl
  · rw [TimedManager.updateData, if_pos (by decide)]
    constructor
    · change manager.server.put _ = _
      rw [holds.server, List.map_append, List.map_singleton,
        ExpiringMap.after_append, cString_of_zero_not_mem noZero]
      rfl
    · intro entry present
      rcases List.mem_append.mp present with before | last
      · exact holds.valid entry before
      · rw [List.mem_singleton.mp last]
        exact valid
    · refine List.pairwise_append.mpr ⟨holds.ordered, List.pairwise_singleton _ _, ?_⟩
      intro entry before other last
      rw [List.mem_singleton.mp last]
      exact holds.past entry before
    · intro entry present
      rcases List.mem_append.mp present with before | last
      · exact (holds.past entry before).trans moves
      · rw [List.mem_singleton.mp last]
        exact moves

/-- The registrations among executed jobs, from a call of the clock on. -/
def timedRegistrations (clock : Nat → Nat) :
    Nat → List (Executed (TimedManager Number)) → List TimedRegistration
  | _, [] => []
  | call, done :: executed =>
      match registrationOfJob done.job with
      | none => timedRegistrations clock (call + 1) executed
      | some registration =>
          ⟨registration, clock call⟩ ::
            timedRegistrations clock (call + 1) executed

omit [FloatArithmetic Number] in
theorem timedRegistrations_append (clock : Nat → Nat) (call : Nat)
    (before after : List (Executed (TimedManager Number))) :
    timedRegistrations clock call (before ++ after) =
      timedRegistrations clock call before ++
        timedRegistrations clock (call + before.length) after := by
  induction before generalizing call with
  | nil => rfl
  | cons done before recursive =>
      rw [List.cons_append, List.length_cons, timedRegistrations,
        timedRegistrations, recursive, Nat.add_right_comm call 1,
        Nat.add_assoc]
      cases registrationOfJob done.job with
      | none => rfl
      | some registration => rfl

omit [FloatArithmetic Number] in
theorem job_of_timedRegistration {clock : Nat → Nat} {call : Nat}
    {executed : List (Executed (TimedManager Number))}
    {entry : TimedRegistration}
    (registered : entry ∈ timedRegistrations clock call executed) :
    ∃ done ∈ executed,
      registrationOfJob done.job = some entry.registration := by
  induction executed generalizing call with
  | nil => cases registered
  | cons done executed recursive =>
      have further :
          entry ∈ timedRegistrations clock (call + 1) executed →
            ∃ other ∈ done :: executed,
              registrationOfJob other.job = some entry.registration := by
        intro later
        rcases recursive later with ⟨other, member, same⟩
        exact ⟨other, List.mem_cons_of_mem _ member, same⟩
      rw [timedRegistrations] at registered
      cases asked : registrationOfJob done.job with
      | none =>
          rw [asked] at registered
          exact further registered
      | some registration =>
          rw [asked] at registered
          rcases List.mem_cons.mp registered with rfl | later
          · exact ⟨done, List.mem_cons_self, asked⟩
          · exact further later

/-- The registrations on the database behind the executed jobs. -/
def EarlierRuns.behind (earlier : EarlierRuns clock)
    (executed : List (Executed (TimedManager Number))) :
    List TimedRegistration :=
  earlier.registrations ++ timedRegistrations clock 0 executed

/-- The effects of a run of jobs, on the database. -/
theorem holdsRecords_replays
    {executed : List (Executed (TimedManager Number))}
    {start finish : TimedManager Number}
    (holds : HoldsRecords floats clock start history)
    (kept : floats.Keeps (FloatArithmetic.ofInt 0)) (monotone : Monotone clock)
    (replays : Replays (serverCallbacks floats clock) start executed finish) :
    finish.calls = start.calls + executed.length ∧
      HoldsRecords floats clock finish
        (history ++ timedRegistrations clock start.calls executed) := by
  induction executed generalizing start history with
  | nil =>
      cases replays
      rw [timedRegistrations, List.append_nil]
      exact ⟨rfl, holds⟩
  | cons done executed recursive =>
      rcases replays with ⟨-, next, effect, further⟩
      rw [timedRegistrations, List.length_cons]
      cases asked : done.job with
      | requestLobbyInfo socketPtr =>
          rw [asked] at effect
          rcases map_eq_ok.mp effect with ⟨result, response, sameManager⟩
          by_cases recent : Recent history (clock start.calls)
          · rw [request_throws holds kept recent] at response
            cases response
          · rw [request_finds_none holds kept recent] at response
            cases response
            cases sameManager
            rcases recursive (holds.called monotone) further with
              ⟨calls, stored⟩
            refine ⟨?_, stored⟩
            rw [calls]
            exact Nat.add_right_comm _ _ _
      | noticeLobbyReady socketPtr lobbyKey port capacity active =>
          rw [asked] at effect
          by_cases valid : ValidUtf8 lobbyKey
          · rcases registration_stored ⟨lobbyKey, port, capacity, active⟩ holds
                kept monotone valid with
              ⟨saved, same, counted, stored⟩
            cases same.symm.trans effect
            rcases recursive stored further with ⟨calls, rest⟩
            rw [counted] at calls rest
            rw [List.append_assoc] at rest
            refine ⟨?_, rest⟩
            rw [calls]
            exact Nat.add_right_comm _ _ _
          · have throws :
                ∃ message,
                  (serverCallbacks floats clock).saveLobbyInfo start lobbyKey
                      port capacity active =
                    .error (.typeError 316 message) :=
              registration_throws ⟨lobbyKey, port, capacity, active⟩ valid
            rcases throws with ⟨message, raised⟩
            cases raised.symm.trans effect

end Database

end IocpServer.ControlServer
