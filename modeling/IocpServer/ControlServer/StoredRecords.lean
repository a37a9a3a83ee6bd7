import IocpServer.ControlServer.LobbyManager
import IocpServer.Library.DecimalText

/-!
# Reading stored records back

The record `SaveLobbyInfo` writes has the active flag as a number; the record
loop reads it as a boolean.  No record of the server reads back, and the loop
throws as soon as one is stored.
-/

namespace IocpServer.ControlServer

open IocpServer.Library
open IocpServer.Database
open IocpServer.Json

variable {Number : Type}

/-- The record of a lobby, with the active flag as the server passes it. -/
def writtenRecord (lobby : LobbyInfo Number) : JsonValue Number :=
  LobbyInfo.dataToJson lobby.key lobby.port lobby.current lobby.remain
    (if lobby.active then 1 else 0) lobby.responseSpeed

/-- The record's text reads as the lobby it was written for. -/
def ReadsBack [FloatArithmetic Number]
    (library : JsonLibrary Number) (lobby : LobbyInfo Number) : Prop :=
  (do LobbyInfo.ofText library (← library.dump (writtenRecord lobby))) =
    .ok lobby

/-- The arguments of one call of `SaveLobbyInfo`. -/
structure Registration where
  key : ByteString
  port : Int32
  capacity : Int32
  active : Bool

namespace Registration

/-- The lobby a registration stands for. -/
def lobby [FloatArithmetic Number] (registration : Registration) :
    LobbyInfo Number where
  key := registration.key
  port := registration.port
  current := 0
  remain := registration.capacity
  active := registration.active
  responseSpeed := FloatArithmetic.ofInt 0

end Registration

namespace LobbyManager

/-- A sequence of calls of `SaveLobbyInfo`. -/
def saveAll [FloatArithmetic Number]
    (library : JsonLibrary Number) :
    LobbyManager Number → List Registration →
      Except JsonException (LobbyManager Number)
  | manager, [] => .ok manager
  | manager, registration :: registrations =>
      (manager.saveLobbyInfo library registration.key registration.port
        registration.capacity registration.active).bind fun saved =>
          saved.saveAll library registrations

/-- The record loop comes to its end. -/
def LoopReturns [FloatArithmetic Number]
    (library : JsonLibrary Number) (manager : LobbyManager Number) : Prop :=
  ∃ best, manager.searchBestLobby (LobbyInfo.ofText library) = .ok best

/-- A registration whose record has a text stores that text. -/
theorem saveLobbyInfo_eq [FloatArithmetic Number]
    {library : JsonLibrary Number} {registration : Registration}
    {text : ByteString}
    (dumped :
      library.dump (writtenRecord registration.lobby) = .ok text)
    (manager : LobbyManager Number) :
    manager.saveLobbyInfo library registration.key registration.port
        registration.capacity registration.active =
      .ok { manager with
        redisWorker :=
          manager.redisWorker.updateData lobbyTable registration.key text } := by
  unfold saveLobbyInfo
  unfold writtenRecord Registration.lobby at dumped
  dsimp only at dumped ⊢
  rw [dumped]
  rfl

/-- The loop throws at its first record where no record can be read. -/
theorem searchRecords_refused [FloatArithmetic Number]
    {reader : RecordReader Number} {exception : JsonException}
    {records : List (ByteString × ByteString)}
    (refused : ∀ record ∈ records, reader record.2 = .error exception)
    (best : BestLobby Number) :
    searchRecords reader records best =
      if records = [] then .ok best else .error exception := by
  cases records with
  | nil => rfl
  | cons record records =>
      rw [if_neg (List.cons_ne_nil record records), searchRecords,
        refused record (List.mem_cons_self ..)]
      rfl

/-- Every lobby record in the database is one the reader refuses. -/
def RecordsRefused [FloatArithmetic Number]
    (library : JsonLibrary Number) (manager : LobbyManager Number) : Prop :=
  ∀ record ∈ manager.redisWorker.scanMultipleResult lobbyTable,
    LobbyInfo.ofText library record.2 =
      .error (.typeError 302 "type must be boolean, but is number")

/-- A registration stores a record, and one that the reader refuses. -/
theorem saveLobbyInfo_refused [FloatArithmetic Number]
    {library : JsonLibrary Number} {registration : Registration}
    (preserved : library.Preserves (writtenRecord registration.lobby))
    {manager : LobbyManager Number}
    (refused : manager.RecordsRefused library) :
    ∃ saved : LobbyManager Number,
      manager.saveLobbyInfo library registration.key registration.port
          registration.capacity registration.active = .ok saved ∧
        saved.RecordsRefused library ∧
        saved.redisWorker.scanMultipleResult lobbyTable ≠ [] := by
  rcases preserved with ⟨text, dumped, noZero, parsed⟩
  refine ⟨_, saveLobbyInfo_eq dumped manager, ?_, ?_⟩
  · intro record stored
    rw [RedisWorker.mem_scanMultipleResult_updateData] at stored
    split_ifs at stored
    · rw [stored.1, cString_of_zero_not_mem noZero]
      exact LobbyInfo.ofText_of_preserves parsed
    · exact refused record stored
  · have own :
        (cString (RedisWorker.cacheKey lobbyTable registration.key),
            cString text) ∈
          (manager.redisWorker.updateData lobbyTable registration.key
            text).scanMultipleResult lobbyTable := by
      rw [RedisWorker.mem_scanMultipleResult_updateData, if_pos rfl]
      refine ⟨rfl, ?_⟩
      rw [RedisWorker.cString_cacheKey (by decide)]
      exact RedisWorker.cacheKey_front lobbyTable _
    exact List.ne_nil_of_mem own

/-- What the loop does after a sequence of registrations. -/
theorem searchBestLobby_saveAll [FloatArithmetic Number]
    {library : JsonLibrary Number} {registrations : List Registration}
    (preserved :
      ∀ registration ∈ registrations,
        library.Preserves (writtenRecord registration.lobby))
    {manager : LobbyManager Number}
    (refused : manager.RecordsRefused library) :
    ∃ saved,
      manager.saveAll library registrations = .ok saved ∧
        saved.RecordsRefused library ∧
        (saved.redisWorker.scanMultipleResult lobbyTable = [] ↔
          registrations = [] ∧
            manager.redisWorker.scanMultipleResult lobbyTable = []) := by
  induction registrations generalizing manager with
  | nil => exact ⟨manager, rfl, refused, by simp⟩
  | cons registration registrations recursive =>
      rcases saveLobbyInfo_refused
          (preserved registration (List.mem_cons_self ..)) refused with
        ⟨first, firstSaved, firstRefused, firstStored⟩
      rcases recursive
          (fun later present =>
            preserved later (List.mem_cons_of_mem registration present))
          firstRefused with
        ⟨saved, restSaved, restRefused, restEmpty⟩
      refine ⟨saved, ?_, restRefused, ?_⟩
      · rw [saveAll, firstSaved]
        exact restSaved
      · rw [restEmpty]
        simp [firstStored]

end LobbyManager

/--
No record the server writes reads back, and after a sequence of registrations
the record loop comes to its end only if there was none.
-/
theorem records_never_read_back [FloatArithmetic Number]
    (library : JsonLibrary Number) :
    (∀ lobby : LobbyInfo Number,
      library.Preserves (writtenRecord lobby) → ¬ ReadsBack library lobby) ∧
    ∀ registrations : List Registration,
      (∀ registration ∈ registrations,
        library.Preserves (writtenRecord registration.lobby)) →
      ∃ manager,
        LobbyManager.construct.saveAll library registrations = .ok manager ∧
          (manager.LoopReturns library ↔ registrations = []) := by
  constructor
  · intro lobby preserved readsBack
    rcases preserved with ⟨text, dumped, -, parsed⟩
    have refused := LobbyInfo.ofText_of_preserves parsed
    unfold ReadsBack at readsBack
    rw [dumped] at readsBack
    exact absurd (refused.symm.trans readsBack) nofun
  · intro registrations preserved
    have started :
        (LobbyManager.construct : LobbyManager Number).RecordsRefused
          library := by
      intro record stored
      cases stored
    rcases LobbyManager.searchBestLobby_saveAll preserved started with
      ⟨manager, saved, refused, empty⟩
    refine ⟨manager, saved, ?_⟩
    have returned :=
      LobbyManager.searchRecords_refused refused BestLobby.initial
    unfold LobbyManager.LoopReturns LobbyManager.searchBestLobby
    rw [returned]
    constructor
    · rintro ⟨best, ended⟩
      split_ifs at ended with none
      exact (empty.mp none).1
    · intro none
      rw [if_pos (empty.mpr ⟨none, rfl⟩)]
      exact ⟨_, rfl⟩

/-! ## One lobby -/

mutual

/-- The text of a value without characters to escape, as `dump` writes it. -/
def plainText : JsonValue ℚ → ByteString
  | .null => literal "null"
  | .boolean true => literal "true"
  | .boolean false => literal "false"
  | .numberInteger value => integerText value.toInt
  | .numberUnsigned value => integerText value.toNat
  | .numberFloat value => integerText value.num ++ literal ".0"
  | .string value => literal "\"" ++ value ++ literal "\""
  | .array elements => literal "[" ++ elementsText elements ++ literal "]"
  | .object members => literal "\x7b" ++ membersText members ++ literal "\x7d"

def elementsText : List (JsonValue ℚ) → ByteString
  | [] => []
  | [element] => plainText element
  | element :: elements =>
      plainText element ++ literal "," ++ elementsText elements

def membersText : List (ByteString × JsonValue ℚ) → ByteString
  | [] => []
  | [(key, value)] => literal "\"" ++ key ++ literal "\":" ++ plainText value
  | (key, value) :: members =>
      literal "\"" ++ key ++ literal "\":" ++ plainText value ++ literal ","
        ++ membersText members

end

/-- A lobby of ten places, registered on port 7000. -/
def sampleLobby : LobbyInfo ℚ where
  key := literal "lobby"
  port := 7000
  current := 0
  remain := 10
  active := true
  responseSpeed := 0

/-- `dump` and `parse` as they are on the record of the sample lobby. -/
def sampleLibrary : JsonLibrary ℚ where
  dump value := .ok (plainText value)
  parse text :=
    if text = plainText (writtenRecord sampleLobby) then
      .ok (@JsonValue.reread ℚ exactArithmetic (writtenRecord sampleLobby))
    else
      .error (.parseError 101 "syntax error")

example :
    plainText (writtenRecord sampleLobby) =
      literal "\x7b\"active\":1,\"current\":0,\"key\":\"lobby\"," ++
        literal "\"port\":7000,\"remain\":10,\"response_speed\":0.0\x7d" := by
  decide

theorem sampleLibrary_preserves :
    @JsonLibrary.Preserves ℚ exactArithmetic sampleLibrary
      (writtenRecord sampleLobby) := by
  refine ⟨plainText (writtenRecord sampleLobby), rfl, by decide, ?_⟩
  simp [sampleLibrary]

/-- The text of the sample record is kept, but it is not read as the lobby. -/
theorem sampleLobby_refused :
    @JsonLibrary.Preserves ℚ exactArithmetic sampleLibrary
        (writtenRecord sampleLobby) ∧
      ¬ @ReadsBack ℚ exactArithmetic sampleLibrary sampleLobby := by
  constructor
  · exact sampleLibrary_preserves
  · intro readsBack
    cases readsBack

/-- The registration of the sample lobby, and the loop after it. -/
theorem sampleLobby_never_read_back :
    ¬ @ReadsBack ℚ exactArithmetic sampleLibrary sampleLobby ∧
      ∃ manager,
        @LobbyManager.saveAll ℚ exactArithmetic sampleLibrary .construct
            [⟨literal "lobby", 7000, 10, true⟩] = .ok manager ∧
          ¬ @LobbyManager.LoopReturns ℚ exactArithmetic sampleLibrary
            manager := by
  rcases @records_never_read_back ℚ exactArithmetic sampleLibrary with
    ⟨neverReadsBack, loopThrows⟩
  refine ⟨neverReadsBack sampleLobby sampleLibrary_preserves, ?_⟩
  rcases loopThrows [⟨literal "lobby", 7000, 10, true⟩] (by
      intro registration present
      rcases List.mem_singleton.mp present with rfl
      exact sampleLibrary_preserves) with
    ⟨manager, saved, returns⟩
  exact ⟨manager, saved, fun returned =>
    List.cons_ne_nil _ _ (returns.mp returned)⟩

end IocpServer.ControlServer
