import IocpServer.ControlServer.RecordLoop
import IocpServer.Library.FloatValues
import Mathlib.Data.List.MinMax

/-!
# The rank of a lobby

The loop compares ratios, and response speeds where the ratios are equal.
Where the response speeds are numbers it keeps the first of the lobbies with
the least rank.
-/

namespace IocpServer.ControlServer

open IocpServer.Library
open IocpServer.Json

variable {Number : Type} [FloatArithmetic Number] [FloatValues Number]

/-- The values of the ratio and of the response speed, in this order. -/
def rank (lobby : LobbyInfo Number) :
    WithBot (WithTop ℚ) ×ₗ WithBot (WithTop ℚ) :=
  toLex
    (FloatValues.value lobby.ratio, FloatValues.value lobby.responseSpeed)

/-- A response speed that is not a NaN. -/
def SpeedNumber (lobby : LobbyInfo Number) : Prop :=
  FloatValues.IsNumber lobby.responseSpeed

/-- The first figures of the loop are those of no lobby. -/
def BestLobby.Fresh (best : BestLobby Number) : Prop :=
  best.bestRatio = FloatArithmetic.largest ∧
    best.bestResponseSpeed = FloatArithmetic.largest

section Ranks

variable {first second : LobbyInfo Number}

theorem ratio_number (eligible : first.Eligible) :
    FloatValues.IsNumber first.ratio :=
  FloatValues.quotient_number first.current eligible.2

/-- One lobby improves on another exactly if its rank is less. -/
theorem improves_iff_rank
    (firstEligible : first.Eligible) (secondEligible : second.Eligible)
    (firstSpeed : SpeedNumber first) (secondSpeed : SpeedNumber second) :
    first.Improves second.ratio second.responseSpeed ↔
      rank first < rank second := by
  have firstRatio := ratio_number firstEligible
  have secondRatio := ratio_number secondEligible
  rw [LobbyInfo.Improves, FloatValues.less_iff firstRatio secondRatio,
    FloatValues.equal_iff firstRatio secondRatio,
    FloatValues.less_iff firstSpeed secondSpeed, rank, rank,
    Prod.Lex.toLex_lt_toLex]

/-- Every eligible lobby improves on the first figures. -/
theorem improves_largest
    (eligible : first.Eligible) (responseSpeed : Number) :
    first.Improves FloatArithmetic.largest responseSpeed :=
  .inl
    ((FloatValues.less_iff (ratio_number eligible)
      FloatValues.largest_number).mpr
        (FloatValues.quotient_lt_largest first.current eligible.2))

end Ranks

/-- The eligible records. -/
def eligibleRecords (records : List (ByteString × LobbyInfo Number)) :
    List (ByteString × LobbyInfo Number) :=
  records.filter fun record => record.2.Eligible

/-- The first of the eligible records with the least rank. -/
def firstLeast (records : List (ByteString × LobbyInfo Number)) :
    Option (ByteString × LobbyInfo Number) :=
  (eligibleRecords records).argmin fun record => rank record.2

omit [FloatArithmetic Number] [FloatValues Number] in
theorem mem_eligibleRecords
    {records : List (ByteString × LobbyInfo Number)}
    {record : ByteString × LobbyInfo Number} :
    record ∈ eligibleRecords records ↔
      record ∈ records ∧ record.2.Eligible := by
  rw [eligibleRecords, List.mem_filter, decide_eq_true_iff]

/-- The loop ends with the first record of the least rank. -/
theorem considerAll_eq_firstLeast
    {start : BestLobby Number} (fresh : start.Fresh)
    {records : List (ByteString × LobbyInfo Number)}
    (speeds : ∀ record ∈ records, SpeedNumber record.2) :
    considerAll start records =
      match firstLeast records with
      | none => start
      | some record => .ofRecord record := by
  induction records using List.reverseRecOn with
  | nil => rfl
  | append_singleton records record recursive =>
      have earlierSpeeds : ∀ earlier ∈ records, SpeedNumber earlier.2 :=
        fun earlier present =>
          speeds earlier (List.mem_append_left _ present)
      have speed : SpeedNumber record.2 :=
        speeds record (List.mem_append_right _ List.mem_cons_self)
      rw [considerAll_append, recursive earlierSpeeds,
        BestLobby.consider_eq]
      unfold firstLeast
      by_cases eligible : record.2.Eligible
      · have filtered :
            eligibleRecords (records ++ [record]) =
              eligibleRecords records ++ [record] := by
          simp [eligibleRecords, eligible]
        rw [filtered, List.argmin_concat]
        cases before :
            (eligibleRecords records).argmin fun record => rank record.2 with
        | none =>
            dsimp only
            rw [fresh.1, fresh.2]
            exact if_pos ⟨eligible, improves_largest eligible _⟩
        | some best =>
            have member := mem_eligibleRecords.mp (List.argmin_mem before)
            have improves :
                record.2.Improves best.2.ratio best.2.responseSpeed ↔
                  rank record.2 < rank best.2 :=
              improves_iff_rank eligible member.2 speed
                (earlierSpeeds best member.1)
            dsimp only [BestLobby.ofRecord]
            simp only [eligible, true_and, improves]
            split_ifs <;> rfl
      · have filtered :
            eligibleRecords (records ++ [record]) =
              eligibleRecords records := by
          simp [eligibleRecords, eligible]
        rw [filtered, if_neg fun taken => eligible taken.1]

/-! ## The order of the records -/

/-- The lexicographic order of ratio, response speed and key. -/
def Precedes (first second : ByteString × LobbyInfo Number) : Prop :=
  rank first.2 < rank second.2 ∨
    rank first.2 = rank second.2 ∧ compare first.1 second.1 = .lt

/-- The first of two places in a list comes first. -/
theorem before_of_idxOf_le {α : Type} [DecidableEq α]
    {before : α → α → Prop} {elements : List α} {first second : α}
    (ordered : elements.Pairwise before)
    (firstIn : first ∈ elements) (secondIn : second ∈ elements)
    (places : elements.idxOf first ≤ elements.idxOf second) :
    second = first ∨ before first second := by
  have firstPlace := List.idxOf_lt_length_of_mem firstIn
  have secondPlace := List.idxOf_lt_length_of_mem secondIn
  rcases Nat.eq_or_lt_of_le places with same | earlier
  · exact .inl ((List.idxOf_inj secondIn).mp same.symm)
  · have apart :=
      List.pairwise_iff_getElem.mp ordered _ _ firstPlace secondPlace earlier
    rw [List.getElem_idxOf, List.getElem_idxOf] at apart
    exact .inr apart

section Order

variable {records : List (ByteString × LobbyInfo Number)}
variable {record : ByteString × LobbyInfo Number}

/-- Of the eligible records the one that is found precedes all others. -/
theorem precedes_of_firstLeast
    (ordered :
      records.Pairwise fun first second =>
        compare first.1 second.1 = .lt)
    (found : firstLeast records = some record) :
    record ∈ records ∧ record.2.Eligible ∧
      ∀ other ∈ records, other.2.Eligible →
        other = record ∨ Precedes record other := by
  classical
  have member := List.argmin_mem found
  have stays := mem_eligibleRecords.mp member
  refine ⟨stays.1, stays.2, ?_⟩
  intro other present eligible
  have otherMember := mem_eligibleRecords.mpr ⟨present, eligible⟩
  have least := List.le_of_mem_argmin otherMember found
  rcases lt_or_eq_of_le least with less | same
  · exact .inr (.inl less)
  · have places := List.index_of_argmin found otherMember same.ge
    rcases before_of_idxOf_le (ordered.filter _) member otherMember places with
      equal | before
    · exact .inl equal
    · exact .inr (.inr ⟨same, before⟩)

theorem firstLeast_eq_none_iff :
    firstLeast records = none ↔
      ∀ record ∈ records, ¬ record.2.Eligible := by
  rw [firstLeast, List.argmin_eq_none, List.eq_nil_iff_forall_not_mem]
  simp only [mem_eligibleRecords, not_and]

end Order

end IocpServer.ControlServer
