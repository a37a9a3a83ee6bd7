import IocpServer.ControlServer.StoredRecords
import IocpServer.Protocol.ControlServerProtocol

/-!
# The stored records as a table

What the record loop computes from the database is the loop's rule applied to
a table of lobbies, as long as every stored text reads as the lobby it was
written for.
-/

namespace IocpServer.ControlServer

open IocpServer.Library
open IocpServer.Database
open IocpServer.Json
open IocpServer.Protocol

variable {Number : Type}

/-- Lobbies by key. -/
abbrev LobbyTable (Number : Type) :=
  Std.ExtTreeMap ByteString (LobbyInfo Number)

/-- The lobby of the best record: its key in the database, and its port. -/
def BestLobby.lobby (best : BestLobby Number) : ByteString × Int32 :=
  (best.bestLobbyKey, best.bestLobbyPort)

/-- The rule of the record loop on a table, in key order. -/
def choose [FloatArithmetic Number] (table : LobbyTable Number) :
    BestLobby Number :=
  table.toList.foldl
    (fun best entry =>
      best.consider (RedisWorker.cacheKey lobbyTable entry.1) entry.2)
    .initial

/-- The text a lobby is stored as. -/
def recordText (library : JsonLibrary Number) (lobby : LobbyInfo Number) :
    ByteString :=
  match library.dump (writtenRecord lobby) with
  | .ok text => text
  | .error _ => []

/-- A registration's record has a text, without a zero, that reads back. -/
def Decodes [FloatArithmetic Number]
    (library : JsonLibrary Number) (reader : RecordReader Number)
    (registration : Registration) : Prop :=
  ∃ text,
    library.dump (writtenRecord registration.lobby) = .ok text ∧
      0 ∉ text ∧
      reader text = .ok registration.lobby

/-! ## Lists in key order -/

/-- Bytes in front of two keys do not change their order. -/
theorem compare_append_left (front first second : ByteString) :
    compare (front ++ first) (front ++ second) = compare first second := by
  induction front with
  | nil => rfl
  | cons byte front recursive =>
      rw [List.cons_append, List.cons_append, List.compare_cons_cons,
        Std.ReflOrd.compare_self]
      exact recursive

/-- One record comes before another. -/
def RecordBefore (first second : ByteString × ByteString) : Prop :=
  compare first.1 second.1 = .lt

instance : Std.Irrefl RecordBefore where
  irrefl record before := by
    rw [RecordBefore, Std.ReflOrd.compare_self] at before
    cases before

instance : Std.Antisymm RecordBefore where
  antisymm first second before after := by
    have swapped := Std.OrientedCmp.gt_of_lt before
    rw [RecordBefore, swapped] at after
    cases after

/-- A scan lists its records in key order. -/
theorem scanMultipleResult_ordered
    (redis : RedisWorker) (tableName : ByteString) :
    (redis.scanMultipleResult tableName).Pairwise RecordBefore := by
  unfold RedisWorker.scanMultipleResult
  apply List.Pairwise.filter
  exact redis.store.ordered_keys_toList

/-! ## The database and the table it stands for -/

/--
The database holds the records of the table's lobbies, each under its key,
and nothing else; every record reads as its lobby.
-/
structure Represents [FloatArithmetic Number]
    (library : JsonLibrary Number) (reader : RecordReader Number)
    (redis : RedisWorker) (table : LobbyTable Number) : Prop where
  record :
    ∀ key : ByteString,
      redis.store[RedisWorker.cacheKey lobbyTable key]? =
        table[key]?.map (recordText library)
  only :
    ∀ (place text : ByteString),
      redis.store[place]? = some text →
        ∃ key, place = RedisWorker.cacheKey lobbyTable key
  reads :
    ∀ (key : ByteString) (lobby : LobbyInfo Number),
      table[key]? = some lobby →
        reader (recordText library lobby) = .ok lobby

section Represents

variable [FloatArithmetic Number]
variable {library : JsonLibrary Number} {reader : RecordReader Number}
variable {redis : RedisWorker} {table : LobbyTable Number}

theorem represents_empty :
    Represents library reader RedisWorker.empty ∅ where
  record := by simp [RedisWorker.empty]
  only := by simp [RedisWorker.empty]
  reads := by simp

/-- The keys of the database are in the order of the lobbies' keys. -/
theorem compare_cacheKey (table first second : ByteString) :
    compare (RedisWorker.cacheKey table first)
        (RedisWorker.cacheKey table second) =
      compare first second :=
  compare_append_left _ first second

/-- The scan is the list of the table's records. -/
theorem Represents.scan
    (represents : Represents library reader redis table) :
    redis.scanMultipleResult lobbyTable =
      table.toList.map fun entry =>
        (RedisWorker.cacheKey lobbyTable entry.1,
          recordText library entry.2) := by
  apply List.Pairwise.eq_of_mem_iff
    (scanMultipleResult_ordered redis lobbyTable)
  · rw [List.pairwise_map]
    refine table.ordered_keys_toList.imp ?_
    intro first second before
    rw [RecordBefore, compare_cacheKey]
    exact before
  · intro record
    rw [RedisWorker.mem_scanMultipleResult, List.mem_map]
    constructor
    · rintro ⟨stored, -⟩
      rcases represents.only record.1 record.2 stored with ⟨key, atKey⟩
      rw [atKey, represents.record] at stored
      rcases Option.map_eq_some_iff.mp stored with ⟨lobby, present, atText⟩
      refine ⟨(key, lobby), ?_, Prod.ext atKey.symm atText⟩
      exact Std.ExtTreeMap.mem_toList_iff_getElem?_eq_some.mpr present
    · rintro ⟨⟨key, lobby⟩, present, rfl⟩
      have there :=
        Std.ExtTreeMap.mem_toList_iff_getElem?_eq_some.mp present
      refine ⟨?_, RedisWorker.cacheKey_front lobbyTable key⟩
      rw [represents.record, there]
      rfl

/-- The record loop over records that read back applies the rule to them. -/
theorem searchRecords_of_reads
    {entries : List (ByteString × LobbyInfo Number)}
    (reads :
      ∀ entry ∈ entries,
        reader (recordText library entry.2) = .ok entry.2)
    (best : BestLobby Number) :
    LobbyManager.searchRecords reader
        (entries.map fun entry =>
          (RedisWorker.cacheKey lobbyTable entry.1,
            recordText library entry.2)) best =
      .ok
        (entries.foldl
          (fun best entry =>
            best.consider (RedisWorker.cacheKey lobbyTable entry.1) entry.2)
          best) := by
  induction entries generalizing best with
  | nil => rfl
  | cons entry entries recursive =>
      rw [List.map_cons, LobbyManager.searchRecords,
        reads entry (List.mem_cons_self ..)]
      apply recursive
      intro later present
      exact reads later (List.mem_cons_of_mem entry present)

/-- `SearchBestLobby` applies its rule to the table. -/
theorem Represents.search {manager : LobbyManager Number}
    (represents :
      Represents library reader manager.redisWorker table) :
    manager.searchBestLobby reader = .ok (choose table) := by
  unfold LobbyManager.searchBestLobby choose
  rw [represents.scan]
  apply searchRecords_of_reads
  intro entry present
  apply represents.reads entry.1
  exact Std.ExtTreeMap.mem_toList_iff_getElem?_eq_some.mp present

/-- A stored lobby's key stands behind that of its table. -/
theorem cacheKey_length (key : ByteString) :
    (RedisWorker.cacheKey lobbyTable key).length = key.length + 16 := by
  simp only [RedisWorker.cacheKey, List.length_append]
  rw [show (literal "table:").length = 6 from rfl,
    show lobbyTable.length = 9 from rfl,
    show (literal ":").length = 1 from rfl]
  omega

/-- A response names a lobby exactly if the rule chooses it. -/
theorem Represents.response_iff {manager : LobbyManager Number}
    (represents :
      Represents library reader manager.redisWorker table)
    {key : ByteString} {port : Int32} :
    manager.responseLobbyInfo reader (literal "") 0 =
        .ok (RedisWorker.cacheKey lobbyTable key, port) ↔
      (choose table).lobby =
        (RedisWorker.cacheKey lobbyTable key, port) := by
  have named : literal "" ≠ RedisWorker.cacheKey lobbyTable key := by
    intro empty
    have length := cacheKey_length key
    rw [← empty] at length
    cases length
  rw [LobbyManager.responseLobbyInfo, represents.search]
  change
    (if (choose table).bestLobbyKey = literal "" then
      Except.ok (literal "", 0)
    else
      Except.ok (choose table).lobby) = _ ↔ _
  split_ifs with empty
  · constructor
    · intro found
      cases named (congrArg Prod.fst (Except.ok.inj found))
    · intro chosen
      cases named (empty.symm.trans (congrArg Prod.fst chosen))
  · exact ⟨Except.ok.inj, congrArg Except.ok⟩

/-- A registration puts its lobby under the key's C string. -/
theorem Represents.updateData {registration : Registration}
    {text : ByteString}
    (represents : Represents library reader redis table)
    (dumped : library.dump (writtenRecord registration.lobby) = .ok text)
    (noZero : 0 ∉ text)
    (reads : reader text = .ok registration.lobby) :
    Represents library reader
      (redis.updateData lobbyTable registration.key text)
      (table.insert (cString registration.key) registration.lobby) := by
  have sameText : recordText library registration.lobby = text := by
    rw [recordText, dumped]
  have placed :
      cString (RedisWorker.cacheKey lobbyTable registration.key) =
        RedisWorker.cacheKey lobbyTable (cString registration.key) :=
    RedisWorker.cString_cacheKey (by decide) registration.key
  unfold RedisWorker.updateData
  rw [placed, cString_of_zero_not_mem noZero]
  exact
    { record := by
        intro key
        rw [Std.ExtTreeMap.getElem?_insert, Std.ExtTreeMap.getElem?_insert,
          compare_cacheKey, represents.record]
        split_ifs
        · rw [Option.map_some, sameText]
        · rfl
      only := by
        intro place stored present
        rw [Std.ExtTreeMap.getElem?_insert] at present
        split_ifs at present with same
        · exact ⟨_, (Std.LawfulEqCmp.compare_eq_iff_eq.mp same).symm⟩
        · exact represents.only place stored present
      reads := by
        intro key lobby present
        rw [Std.ExtTreeMap.getElem?_insert] at present
        split_ifs at present with same
        · rw [← Option.some.inj present, sameText]
          exact reads
        · exact represents.reads key lobby present }

end Represents

end IocpServer.ControlServer
