import IocpServer.ControlServer.OutgoingBodies
import IocpServer.ControlServer.RecordLoop
import IocpServer.Protocol.ResponseReading

/-!
# The flag of a response

`Execute` passes its flag by value, so that the flag in the response stays
false.  The response tells the truth exactly if no lobby is chosen, and none
is exactly if no record is better than the figures the loop starts with.
-/

namespace IocpServer.ControlServer

open IocpServer.Library
open IocpServer.Library.Fallible
open IocpServer.Database
open IocpServer.Json
open IocpServer.Network
open IocpServer.Protocol

variable {Number : Type} [FloatArithmetic Number]

/-- A response says what the search has found. -/
def BestLobby.ToldBy
    (best : BestLobby Number) (response : ResponseLobbyInfo) : Prop :=
  if best.bestLobbyKey = literal "" then
    response = ⟨false, literal "", 0⟩
  else
    response = ⟨true, best.bestLobbyKey, best.bestLobbyPort⟩

/-- The key and the port a request is answered with. -/
def BestLobby.answer (best : BestLobby Number) : ByteString × Int32 :=
  if best.bestLobbyKey = literal "" then (literal "", 0) else best.lobby

/-- The body of a response reads as what `SearchBestLobby` has chosen. -/
def TellsTruth
    (reader : RecordReader Number) (manager : LobbyManager Number)
    (body : ByteString) : Prop :=
  ∃ best response,
    manager.searchBestLobby reader = .ok best ∧
      readResponseLobbyInfo body = some response ∧ best.ToldBy response

/-- The lobby of the record is taken by a loop that has none. -/
def LobbyAcceptable (lobby : LobbyInfo Number) : Prop :=
  lobby.Eligible ∧
    lobby.Improves FloatArithmetic.largest FloatArithmetic.largest

instance (lobby : LobbyInfo Number) : Decidable (LobbyAcceptable lobby) :=
  inferInstanceAs (Decidable (_ ∧ _))

/-! ## The lobby that is chosen -/

theorem initial_consider (key : ByteString) (lobby : LobbyInfo Number) :
    BestLobby.initial.consider key lobby =
      if LobbyAcceptable lobby then .ofRecord (key, lobby) else .initial :=
  BestLobby.consider_eq _ key lobby

section Chosen

variable {best : BestLobby Number}
variable {records : List (ByteString × LobbyInfo Number)}

/-- A loop that has a lobby does not lose it. -/
theorem considerAll_named
    (keys : ∀ record ∈ records, record.1 ≠ [])
    (named : best.bestLobbyKey ≠ []) :
    (considerAll best records).bestLobbyKey ≠ [] := by
  induction records generalizing best with
  | nil => exact named
  | cons record records recursive =>
      rw [considerAll_cons]
      apply recursive
      · intro later present
        exact keys later (List.mem_cons_of_mem record present)
      · rw [BestLobby.consider_eq]
        split_ifs
        · exact keys record List.mem_cons_self
        · exact named

/-- The loop has no lobby exactly if it could take none. -/
theorem considerAll_unnamed_iff
    (keys : ∀ record ∈ records, record.1 ≠ []) :
    (considerAll .initial records).bestLobbyKey = literal "" ↔
      ∀ record ∈ records, ¬ LobbyAcceptable record.2 := by
  induction records with
  | nil => exact ⟨fun _ => nofun, fun _ => rfl⟩
  | cons record records recursive =>
      have laterKeys : ∀ later ∈ records, later.1 ≠ [] :=
        fun later present => keys later (List.mem_cons_of_mem record present)
      rw [considerAll_cons, initial_consider, List.forall_mem_cons]
      by_cases acceptable : LobbyAcceptable record.2
      · have taken :
            (considerAll (.ofRecord record) records).bestLobbyKey ≠ [] :=
          considerAll_named laterKeys (keys record List.mem_cons_self)
        rw [if_pos acceptable]
        exact iff_of_false taken fun none => none.1 acceptable
      · rw [if_neg acceptable]
        exact (recursive laterKeys).trans (and_iff_right acceptable).symm

end Chosen

/-- A key the scan lists is not empty. -/
theorem scan_key_ne_nil
    {redis : RedisWorker} {record : ByteString × ByteString}
    (present : record ∈ redis.scanMultipleResult lobbyTable) :
    record.1 ≠ [] := by
  have front := (RedisWorker.mem_scanMultipleResult.mp present).2
  intro empty
  rw [empty, List.prefix_nil] at front
  exact absurd front (by decide)

section Response

variable {library : JsonLibrary Number} {reader : RecordReader Number}
variable {manager : LobbyManager Number}

/-- On records that can be read the search returns, and finds a lobby or not. -/
theorem searchBestLobby_of_decodable
    (decodable :
      Decodable reader
        (manager.redisWorker.scanMultipleResult lobbyTable)) :
    ∃ best,
      manager.searchBestLobby reader = .ok best ∧
        (best.bestLobbyKey = literal "" ↔
          ∀ record ∈ manager.redisWorker.scanMultipleResult lobbyTable,
            ∀ lobby, reader record.2 = .ok lobby →
              ¬ LobbyAcceptable lobby) := by
  refine ⟨_, searchRecords_of_decodable decodable _, ?_⟩
  rw [considerAll_unnamed_iff]
  · constructor
    · intro none record present lobby read
      exact none (record.1, lobby)
        (mem_readRecords.mpr ⟨record.2, present, read⟩)
    · rintro none ⟨key, lobby⟩ present
      rcases mem_readRecords.mp present with ⟨text, stored, read⟩
      exact none (key, text) stored lobby read
  · rintro ⟨key, lobby⟩ present
    rcases mem_readRecords.mp present with ⟨text, stored, -⟩
    exact scan_key_ne_nil stored

/-- `Execute` returns a response made with a flag that is false. -/
theorem execute_of_found {best : BestLobby Number}
    (found : manager.searchBestLobby reader = .ok best)
    (socketPtr : SocketPointer) (output : JobOutput) :
    ∃ outputAfter,
      (Job.requestLobbyInfo socketPtr).execute
          (LobbyManager.callbacks library reader) responseBuilder manager
          output =
        .ok (manager, outputAfter) ∧
      outputAfter.buffer =
        responseLobbyInfo false best.answer.1 best.answer.2 := by
  have answered :
      (LobbyManager.callbacks library reader).requestLobbyInfo manager
          (literal "") 0 false =
        .ok (manager, best.answer) := by
    simp only [LobbyManager.callbacks, LobbyManager.responseLobbyInfo, found]
    change Except.map _ (if _ then _ else _) = _
    rw [BestLobby.answer]
    split_ifs <;> rfl
  rw [Job.execute, answered]
  simp only [bind, Except.bind, responseBuilder.toInt_length,
    Int.toNat_natCast, List.take_length]
  exact ⟨_, rfl, rfl⟩

omit [FloatArithmetic Number] in
/-- A response without a flag tells the truth exactly if no lobby is chosen. -/
theorem toldBy_answer_iff (best : BestLobby Number) :
    (∃ response,
      readResponseLobbyInfo
          (responseLobbyInfo false best.answer.1 best.answer.2) =
          some response ∧
        best.ToldBy response) ↔
      best.bestLobbyKey = literal "" := by
  rw [BestLobby.answer]
  constructor
  · rintro ⟨response, read, told⟩
    by_contra named
    rw [BestLobby.ToldBy, if_neg named] at told
    have flag := feedback_of_read read
    rw [told] at flag
    cases flag
  · intro unnamed
    refine
      ⟨_, readResponseLobbyInfo_responseLobbyInfo ?_, ?_⟩
    · rw [if_pos unnamed]
      decide
    · rw [BestLobby.ToldBy, if_pos unnamed, if_pos unnamed]

end Response

/--
The response to a request tells the truth if and only if no record of the
table is one that a loop without a lobby would take.
-/
theorem response_tells_truth_iff
    (library : JsonLibrary Number) (reader : RecordReader Number)
    (manager : LobbyManager Number)
    (decodable :
      Decodable reader
        (manager.redisWorker.scanMultipleResult lobbyTable))
    (socketPtr : SocketPointer) (output : JobOutput) :
    (∃ managerAfter outputAfter,
      (Job.requestLobbyInfo socketPtr).execute
          (LobbyManager.callbacks library reader) responseBuilder manager
          output =
        .ok (managerAfter, outputAfter) ∧
      TellsTruth reader manager outputAfter.buffer) ↔
      ∀ record ∈ manager.redisWorker.scanMultipleResult lobbyTable,
        ∀ lobby, reader record.2 = .ok lobby → ¬ LobbyAcceptable lobby := by
  rcases searchBestLobby_of_decodable decodable with ⟨best, found, none⟩
  rcases @execute_of_found Number _ library _ _ best found socketPtr
      output with
    ⟨outputAfter, executed, body⟩
  rw [← none, ← toldBy_answer_iff, ← body]
  constructor
  · rintro ⟨managerAfter, alsoAfter, alsoExecuted, truth⟩
    cases executed.symm.trans alsoExecuted
    rcases truth with ⟨alsoBest, response, alsoFound, read, told⟩
    cases found.symm.trans alsoFound
    exact ⟨response, read, told⟩
  · rintro ⟨response, read, told⟩
    exact ⟨manager, outputAfter, executed, best, response, found, read, told⟩

/-! ## One lobby -/

/-- The lobby of the sample record, closed. -/
def closedLobby : LobbyInfo ℚ :=
  { sampleLobby with active := false }

/-- A reader of one lobby's record. -/
def soleReader (lobby : LobbyInfo ℚ) : RecordReader ℚ := fun text =>
  if text = plainText (writtenRecord lobby) then
    .ok lobby
  else
    .error (.parseError 101 "syntax error")

/-- A manager behind the record of one lobby. -/
def managerOf (lobby : LobbyInfo ℚ) : LobbyManager ℚ where
  redisWorker :=
    RedisWorker.empty.updateData lobbyTable lobby.key
      (plainText (writtenRecord lobby))
  lobbyMap := ∅

/-- The lobby's record is the only one, and it is read as the lobby. -/
theorem read_of_scan {lobby : LobbyInfo ℚ}
    (noZero : 0 ∉ plainText (writtenRecord lobby))
    {record : ByteString × ByteString}
    (present :
      record ∈
        (managerOf lobby).redisWorker.scanMultipleResult lobbyTable) :
    soleReader lobby record.2 = .ok lobby := by
  rw [managerOf, RedisWorker.mem_scanMultipleResult_updateData,
    cString_of_zero_not_mem noZero] at present
  split_ifs at present with same
  · rw [present.1]
    exact if_pos rfl
  · cases present

/-- A closed lobby is not named, and the response says so. -/
theorem response_tells_truth_closed :
    ∃ managerAfter outputAfter,
      (Job.requestLobbyInfo 7).execute
          (@LobbyManager.callbacks ℚ exactArithmetic sampleLibrary
            (soleReader closedLobby))
          responseBuilder (managerOf closedLobby) staleOutput =
        .ok (managerAfter, outputAfter) ∧
      @TellsTruth ℚ exactArithmetic (soleReader closedLobby)
        (managerOf closedLobby) outputAfter.buffer := by
  have noZero : 0 ∉ plainText (writtenRecord closedLobby) := by decide
  refine
    (@response_tells_truth_iff ℚ exactArithmetic sampleLibrary
      (soleReader closedLobby) (managerOf closedLobby) ?_ 7
      staleOutput).mpr ?_
  · intro record present
    exact ⟨closedLobby, read_of_scan noZero present⟩
  · intro record present lobby read acceptable
    rw [read_of_scan noZero present] at read
    cases read
    exact absurd acceptable.1.1 (by decide)

/-- A lobby that is chosen is answered with a flag that is false. -/
theorem response_denies_chosen_lobby :
    Decodable (soleReader sampleLobby)
        ((managerOf sampleLobby).redisWorker.scanMultipleResult
          lobbyTable) ∧
      ¬ ∃ managerAfter outputAfter,
        (Job.requestLobbyInfo 7).execute
            (@LobbyManager.callbacks ℚ exactArithmetic sampleLibrary
              (soleReader sampleLobby))
            responseBuilder (managerOf sampleLobby) staleOutput =
          .ok (managerAfter, outputAfter) ∧
        @TellsTruth ℚ exactArithmetic (soleReader sampleLobby)
          (managerOf sampleLobby) outputAfter.buffer := by
  have noZero : 0 ∉ plainText (writtenRecord sampleLobby) := by decide
  have decodable :
      Decodable (soleReader sampleLobby)
        ((managerOf sampleLobby).redisWorker.scanMultipleResult
          lobbyTable) :=
    fun record present => ⟨sampleLobby, read_of_scan noZero present⟩
  refine ⟨decodable, ?_⟩
  rintro ⟨managerAfter, outputAfter, executed, truth⟩
  rcases @searchBestLobby_of_decodable ℚ exactArithmetic _ _ decodable with
    ⟨best, found, none⟩
  rcases @execute_of_found ℚ exactArithmetic sampleLibrary _ _ best found 7
      staleOutput with
    ⟨alsoAfter, alsoExecuted, body⟩
  cases executed.symm.trans alsoExecuted
  rcases truth with ⟨alsoBest, response, alsoFound, read, told⟩
  cases found.symm.trans alsoFound
  rw [body] at read
  have unnamed := (toldBy_answer_iff best).mp ⟨response, read, told⟩
  have stored :
      (literal "table:LobbyInfo:lobby",
          plainText (writtenRecord sampleLobby)) ∈
        (managerOf sampleLobby).redisWorker.scanMultipleResult
          lobbyTable := by
    decide
  exact
    none.mp unnamed _ stored sampleLobby (read_of_scan noZero stored)
      (by decide +kernel)

end IocpServer.ControlServer
