import IocpServer.ControlServer.LobbyManager

/-!
# The record loop

On records that can be read the loop is a fold over their lobbies.  A lobby
can be chosen if it is active and has places, and it is if its ratio, or the
same ratio with its response speed, is less than what the loop has so far.
-/

namespace IocpServer.Json.LobbyInfo

open IocpServer.Library

variable {Number : Type}

/-- `total`. -/
def total (lobby : LobbyInfo Number) : Int32 :=
  lobby.current + lobby.remain

/-- The record is skipped by neither `continue`. -/
def Eligible (lobby : LobbyInfo Number) : Prop :=
  lobby.active = true ∧ lobby.total ≠ 0

instance (lobby : LobbyInfo Number) : Decidable lobby.Eligible :=
  inferInstanceAs (Decidable (_ ∧ _))

variable [FloatArithmetic Number]

/-- `ratio`. -/
def ratio (lobby : LobbyInfo Number) : Number :=
  FloatArithmetic.divide
    (FloatArithmetic.ofInt lobby.current.toInt)
    (FloatArithmetic.ofInt lobby.total.toInt)

/-- The lobby is better than a ratio with a response speed. -/
def Improves
    (lobby : LobbyInfo Number) (ratio responseSpeed : Number) : Prop :=
  FloatArithmetic.less lobby.ratio ratio = true ∨
    FloatArithmetic.equal lobby.ratio ratio = true ∧
      FloatArithmetic.less lobby.responseSpeed responseSpeed = true

instance (lobby : LobbyInfo Number) (ratio responseSpeed : Number) :
    Decidable (lobby.Improves ratio responseSpeed) :=
  inferInstanceAs (Decidable (_ ∨ _ ∧ _))

end IocpServer.Json.LobbyInfo

namespace IocpServer.ControlServer

open IocpServer.Library
open IocpServer.Database
open IocpServer.Json

variable {Number : Type}

/-- The records with their keys, read as lobbies. -/
def readRecords
    (reader : RecordReader Number)
    (records : List (ByteString × ByteString)) :
    List (ByteString × LobbyInfo Number) :=
  records.filterMap fun record =>
    match reader record.2 with
    | .ok targetLobby => some (record.1, targetLobby)
    | .error _ => none

/-- Every record can be read. -/
def Decodable
    (reader : RecordReader Number)
    (records : List (ByteString × ByteString)) : Prop :=
  ∀ record ∈ records, ∃ targetLobby, reader record.2 = .ok targetLobby

theorem mem_readRecords
    {reader : RecordReader Number}
    {records : List (ByteString × ByteString)}
    {key : ByteString} {lobby : LobbyInfo Number} :
    (key, lobby) ∈ readRecords reader records ↔
      ∃ text, (key, text) ∈ records ∧ reader text = .ok lobby := by
  rw [readRecords, List.mem_filterMap]
  constructor
  · rintro ⟨⟨place, text⟩, present, found⟩
    cases read : reader text with
    | error exception => simp [read] at found
    | ok targetLobby =>
        simp only [read, Option.some.injEq, Prod.mk.injEq] at found
        rcases found with ⟨rfl, rfl⟩
        exact ⟨text, present, read⟩
  · rintro ⟨text, present, read⟩
    exact ⟨(key, text), present, by simp [read]⟩

/-- The keys of the records that are read stay in order. -/
theorem readRecords_ordered
    {reader : RecordReader Number}
    {records : List (ByteString × ByteString)}
    (ordered :
      records.Pairwise fun first second => compare first.1 second.1 = .lt) :
    (readRecords reader records).Pairwise fun first second =>
      compare first.1 second.1 = .lt := by
  rw [readRecords, List.pairwise_filterMap]
  refine ordered.imp ?_
  intro first second inOrder
  rintro ⟨firstKey, firstLobby⟩ firstRead ⟨secondKey, secondLobby⟩ secondRead
  split at firstRead
  · split at secondRead
    · cases firstRead
      cases secondRead
      exact inOrder
    · cases secondRead
  · cases firstRead

section Loop

variable [FloatArithmetic Number]

/-- The loop's variables after a record was taken. -/
def BestLobby.ofRecord (record : ByteString × LobbyInfo Number) :
    BestLobby Number where
  bestRatio := record.2.ratio
  bestResponseSpeed := record.2.responseSpeed
  bestLobbyKey := record.1
  bestLobbyPort := record.2.port

/-- The body of the loop takes the record or leaves it. -/
theorem BestLobby.consider_eq
    (best : BestLobby Number) (key : ByteString) (lobby : LobbyInfo Number) :
    best.consider key lobby =
      if lobby.Eligible ∧
          lobby.Improves best.bestRatio best.bestResponseSpeed then
        .ofRecord (key, lobby)
      else
        best := by
  unfold BestLobby.consider
  by_cases active : lobby.active = false
  · rw [if_pos active, if_neg]
    rintro ⟨⟨on, -⟩, -⟩
    rw [active] at on
    cases on
  · rw [if_neg active]
    dsimp only
    by_cases none : lobby.current + lobby.remain = 0
    · rw [if_pos none, if_neg]
      rintro ⟨⟨-, some⟩, -⟩
      exact some none
    · have eligible : lobby.Eligible :=
        ⟨Bool.eq_true_of_not_eq_false active, none⟩
      rw [if_neg none]
      simp only [eligible, true_and, LobbyInfo.Improves, Bool.or_eq_true,
        Bool.and_eq_true]
      rfl

/-- The loop over records that have been read. -/
def considerAll
    (best : BestLobby Number) (records : List (ByteString × LobbyInfo Number)) :
    BestLobby Number :=
  records.foldl (fun best record => best.consider record.1 record.2) best

theorem considerAll_cons
    (best : BestLobby Number) (record : ByteString × LobbyInfo Number)
    (records : List (ByteString × LobbyInfo Number)) :
    considerAll best (record :: records) =
      considerAll (best.consider record.1 record.2) records :=
  rfl

theorem considerAll_append
    (best : BestLobby Number)
    (records : List (ByteString × LobbyInfo Number))
    (record : ByteString × LobbyInfo Number) :
    considerAll best (records ++ [record]) =
      (considerAll best records).consider record.1 record.2 :=
  List.foldl_append

/-- The loop on records that can be read. -/
theorem searchRecords_of_decodable
    {reader : RecordReader Number}
    {records : List (ByteString × ByteString)}
    (decodable : Decodable reader records) (best : BestLobby Number) :
    LobbyManager.searchRecords reader records best =
      .ok (considerAll best (readRecords reader records)) := by
  induction records generalizing best with
  | nil => rfl
  | cons record records recursive =>
      rcases decodable record List.mem_cons_self with ⟨targetLobby, read⟩
      have readFirst :
          readRecords reader (record :: records) =
            (record.1, targetLobby) :: readRecords reader records := by
        rw [readRecords, List.filterMap_cons, read]
        rfl
      rw [LobbyManager.searchRecords, read, readFirst]
      exact
        recursive
          (fun later present =>
            decodable later (List.mem_cons_of_mem record present)) _

end Loop

end IocpServer.ControlServer
