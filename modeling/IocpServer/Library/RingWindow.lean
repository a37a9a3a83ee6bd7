import Mathlib.Tactic.Common
import Mathlib.Logic.Function.Basic
import Mathlib.Data.Nat.ModEq

/-!
# Windows of a circular array

A circular array of `size` slots is read through a window: `count` slots
from `start` on, indices taken modulo `size`.  `ringDistance` is the length
of the window between a start and an end index.  The lemmas say what happens
to a window when one of its ends moves by one slot and when a slot outside
it is written.
-/

namespace IocpServer.Library

variable {α : Type*}

/-- The number of slots from `start` up to `finish`, going round once. -/
def ringDistance (size start finish : Nat) : Nat :=
  if start ≤ finish then finish - start else size - start + finish

theorem ringDistance_lt
    {size start finish : Nat}
    (startBound : start < size) (finishBound : finish < size) :
    ringDistance size start finish < size := by
  unfold ringDistance
  split <;> omega

theorem ringDistance_eq_zero
    {size start finish : Nat}
    (startBound : start < size) :
    ringDistance size start finish = 0 ↔ start = finish := by
  unfold ringDistance
  split <;> omega

/-- One slot further, wrapping from the last slot to the first. -/
theorem ring_succ_mod
    {size index : Nat} (bound : index < size) :
    (index + 1) % size = if index + 1 = size then 0 else index + 1 := by
  split
  · next last => rw [last, Nat.mod_self]
  · next notLast => exact Nat.mod_eq_of_lt (by omega)

/-- Walking the distance from the start arrives at the end. -/
theorem ring_add_distance
    {size start finish : Nat}
    (startBound : start < size) (finishBound : finish < size) :
    (start + ringDistance size start finish) % size = finish := by
  unfold ringDistance
  split
  · next ordered =>
      have arrival : start + (finish - start) = finish := by omega
      rw [arrival, Nat.mod_eq_of_lt finishBound]
  · next wrapped =>
      have arrival : start + (size - start + finish) = finish + size := by
        omega
      rw [arrival, Nat.add_mod_right, Nat.mod_eq_of_lt finishBound]

/-- Moving the end one slot on lengthens a window that is not full. -/
theorem ringDistance_succ_finish
    {size start finish : Nat}
    (startBound : start < size) (finishBound : finish < size)
    (room : (finish + 1) % size ≠ start) :
    ringDistance size start ((finish + 1) % size) =
      ringDistance size start finish + 1 := by
  rw [ring_succ_mod finishBound] at room ⊢
  unfold ringDistance
  split_ifs at room ⊢ <;> omega

/-- The window is full exactly when its end cannot move on. -/
theorem ring_full_iff
    {size start finish : Nat}
    (startBound : start < size) (finishBound : finish < size) :
    (finish + 1) % size = start ↔
      ringDistance size start finish + 1 = size := by
  rw [ring_succ_mod finishBound]
  unfold ringDistance
  split_ifs <;> omega

/-- Moving the start one slot on shortens a window that is not empty. -/
theorem ringDistance_succ_start
    {size start finish : Nat}
    (startBound : start < size) (finishBound : finish < size)
    (nonempty : start ≠ finish) :
    ringDistance size ((start + 1) % size) finish + 1 =
      ringDistance size start finish := by
  rw [ring_succ_mod startBound]
  unfold ringDistance
  split_ifs <;> omega

/-- The contents of `count` slots from `start` on. -/
def ringWindow
    (size start : Nat) (buffer : Nat → α) (count : Nat) : List α :=
  (List.range count).map fun offset => buffer ((start + offset) % size)

@[simp]
theorem ringWindow_length
    (size start : Nat) (buffer : Nat → α) (count : Nat) :
    (ringWindow size start buffer count).length = count := by
  simp [ringWindow]

/-- A window grows at its end by the slot its end points at. -/
theorem ringWindow_succ
    (size start : Nat) (buffer : Nat → α) (count : Nat) :
    ringWindow size start buffer (count + 1) =
      ringWindow size start buffer count ++
        [buffer ((start + count) % size)] := by
  simp [ringWindow, List.range_succ]

/-- A window shrinks at its start by the slot its start points at. -/
theorem ringWindow_cons
    {size start : Nat} (startBound : start < size)
    (buffer : Nat → α) (count : Nat) :
    ringWindow size start buffer (count + 1) =
      buffer start ::
        ringWindow size ((start + 1) % size) buffer count := by
  unfold ringWindow
  rw [List.range_succ_eq_map, List.map_cons, List.map_map,
    Nat.add_zero, Nat.mod_eq_of_lt startBound]
  congr 1
  apply List.map_congr_left
  intro offset _
  have shifted : start + (offset + 1) = start + 1 + offset := by omega
  simp [Function.comp, shifted, Nat.add_mod]

/-- Different offsets below `size` lead to different slots. -/
theorem ring_slot_injective
    {size start left right : Nat}
    (leftBound : left < size) (rightBound : right < size)
    (same : (start + left) % size = (start + right) % size) :
    left = right := by
  have congruent : left ≡ right [MOD size] :=
    Nat.ModEq.add_left_cancel' start same
  have leftMod := Nat.mod_eq_of_lt leftBound
  have rightMod := Nat.mod_eq_of_lt rightBound
  have equal : left % size = right % size := congruent
  omega

/-- Writing a slot outside a window leaves the window unchanged. -/
theorem ringWindow_update
    {size start slot count : Nat}
    (buffer : Nat → α) (value : α)
    (outside : ∀ offset, offset < count → (start + offset) % size ≠ slot) :
    ringWindow size start (Function.update buffer slot value) count =
      ringWindow size start buffer count := by
  unfold ringWindow
  apply List.map_congr_left
  intro offset member
  rw [Function.update_of_ne (outside offset (List.mem_range.mp member))]

end IocpServer.Library
