import IocpServer.Library.RingWindow

/-!
# The circular queue, one call at a time

`LockFreeCircleQueue` keeps two indices into a circular buffer with one slot
more than it can hold, so that equal indices mean empty and a next input
index equal to the output index means full.  The index bounds are fields:
no operation of the source leaves them.

This file embeds the calls as the source computes them and reads the queue
as the list of its elements.  The same calls cut into their atomic accesses
are in `IocpServer.Utility.QueueInterleaving`.
-/

namespace IocpServer.Utility

open IocpServer.Library

/--
What the queue uses of its element type: the value of `T()` and the value
`std::move` leaves behind.
-/
class Movable (T : Type) where
  initial : T
  movedFrom : T → T

/-- A raw pointer; moving from one copies it. -/
inductive RawPointer (α : Type) where
  | null
  | to (object : α)
deriving DecidableEq, Repr

instance (α : Type) : Movable (RawPointer α) where
  initial := .null
  movedFrom pointer := pointer

/-- A `std::shared_ptr`; moving from one leaves the null pointer. -/
inductive SharedPointer (α : Type) where
  | null
  | to (object : α)
deriving DecidableEq, Repr

instance (α : Type) : Movable (SharedPointer α) where
  initial := .null
  movedFrom _ := .null

/-- The two indices and the buffer of `Utility::LockFreeCircleQueue<T>`. -/
structure LockFreeCircleQueue (T : Type) where
  queueMaxSize : Nat
  inputIndex : Nat
  outputIndex : Nat
  buffer : Nat → T
  input_lt : inputIndex < queueMaxSize
  output_lt : outputIndex < queueMaxSize

namespace LockFreeCircleQueue

variable {T : Type}

/-- `Construct(queueMaxSize)` after the constructor zeroed the indices. -/
def construct [Movable T] (queueMaxSize : Nat) :
    LockFreeCircleQueue T where
  queueMaxSize := queueMaxSize + 1
  inputIndex := 0
  outputIndex := 0
  buffer := fun _ => Movable.initial
  input_lt := Nat.succ_pos queueMaxSize
  output_lt := Nat.succ_pos queueMaxSize

/-- `(index + 1) % _queueMaxSize`. -/
def nextIndex (queue : LockFreeCircleQueue T) (index : Nat) : Nat :=
  (index + 1) % queue.queueMaxSize

theorem nextIndex_lt (queue : LockFreeCircleQueue T) (index : Nat) :
    queue.nextIndex index < queue.queueMaxSize :=
  Nat.mod_lt _ (Nat.zero_lt_of_lt queue.input_lt)

/-- Assignment to one buffer slot. -/
def writeSlot
    (queue : LockFreeCircleQueue T) (slot : Nat) (value : T) :
    LockFreeCircleQueue T :=
  { queue with buffer := Function.update queue.buffer slot value }

/-- `_inputIndex.store((index + 1) % _queueMaxSize)`. -/
def storeInput
    (queue : LockFreeCircleQueue T) (index : Nat) :
    LockFreeCircleQueue T :=
  { queue with
    inputIndex := queue.nextIndex index
    input_lt := queue.nextIndex_lt index }

/-- `_outputIndex.store((index + 1) % _queueMaxSize)`. -/
def storeOutput
    (queue : LockFreeCircleQueue T) (index : Nat) :
    LockFreeCircleQueue T :=
  { queue with
    outputIndex := queue.nextIndex index
    output_lt := queue.nextIndex_lt index }

/-- `push`: the returned flag and the queue afterwards. -/
def push (queue : LockFreeCircleQueue T) (data : T) :
    Bool × LockFreeCircleQueue T :=
  if queue.nextIndex queue.inputIndex = queue.outputIndex then
    (false, queue)
  else
    (true,
      (queue.writeSlot queue.inputIndex data).storeInput queue.inputIndex)

/-- `pop`: the returned value and the queue afterwards. -/
def pop [Movable T] (queue : LockFreeCircleQueue T) :
    T × LockFreeCircleQueue T :=
  if queue.outputIndex = queue.inputIndex then
    (Movable.initial, queue)
  else
    let data := queue.buffer queue.outputIndex
    (data,
      (queue.writeSlot queue.outputIndex
        (Movable.movedFrom data)).storeOutput queue.outputIndex)

/-- `empty`. -/
def empty (queue : LockFreeCircleQueue T) : Bool :=
  queue.inputIndex == queue.outputIndex

/-- `size`. -/
def size (queue : LockFreeCircleQueue T) : Nat :=
  if queue.inputIndex ≥ queue.outputIndex then
    queue.inputIndex - queue.outputIndex
  else
    queue.queueMaxSize - queue.outputIndex + queue.inputIndex

/-- `clear`. -/
def clear (queue : LockFreeCircleQueue T) : LockFreeCircleQueue T :=
  { queue with
    inputIndex := 0
    outputIndex := 0
    input_lt := Nat.zero_lt_of_lt queue.input_lt
    output_lt := Nat.zero_lt_of_lt queue.output_lt }

/-- `Front`. -/
def front (queue : LockFreeCircleQueue T) : T :=
  queue.buffer queue.outputIndex

/-- The elements held, oldest first. -/
def contents (queue : LockFreeCircleQueue T) : List T :=
  ringWindow queue.queueMaxSize queue.outputIndex queue.buffer queue.size

/-! ## The queue as a list -/

theorem size_lt (queue : LockFreeCircleQueue T) :
    queue.size < queue.queueMaxSize :=
  ringDistance_lt queue.output_lt queue.input_lt

@[simp]
theorem contents_length (queue : LockFreeCircleQueue T) :
    queue.contents.length = queue.size := by
  simp [contents]

theorem size_eq_zero (queue : LockFreeCircleQueue T) :
    queue.size = 0 ↔ queue.outputIndex = queue.inputIndex :=
  ringDistance_eq_zero queue.output_lt

/-- The input index is the slot behind the last element. -/
theorem output_add_size (queue : LockFreeCircleQueue T) :
    (queue.outputIndex + queue.size) % queue.queueMaxSize =
      queue.inputIndex :=
  ring_add_distance queue.output_lt queue.input_lt

/-- No element lies in the slot the input index points at. -/
theorem input_outside
    (queue : LockFreeCircleQueue T)
    (offset : Nat) (bound : offset < queue.size) :
    (queue.outputIndex + offset) % queue.queueMaxSize ≠
      queue.inputIndex := by
  intro hit
  rw [← queue.output_add_size] at hit
  have sizeBound := queue.size_lt
  have equal :=
    ring_slot_injective (bound.trans sizeBound) sizeBound hit
  omega

/-- Only the first element lies in the slot the output index points at. -/
theorem output_outside
    (queue : LockFreeCircleQueue T)
    (offset : Nat) (bound : offset + 1 < queue.size) :
    (queue.nextIndex queue.outputIndex + offset) % queue.queueMaxSize ≠
      queue.outputIndex := by
  intro hit
  have start :
      (queue.outputIndex + 0) % queue.queueMaxSize =
        queue.outputIndex :=
    Nat.mod_eq_of_lt queue.output_lt
  have shifted :
      (queue.outputIndex + (offset + 1)) % queue.queueMaxSize =
        (queue.outputIndex + 0) % queue.queueMaxSize := by
    rw [nextIndex, Nat.mod_add_mod] at hit
    rw [start, ← Nat.add_assoc, Nat.add_right_comm]
    exact hit
  have sizeBound := queue.size_lt
  have equal : offset + 1 = 0 :=
    ring_slot_injective (bound.trans sizeBound)
      (Nat.zero_lt_of_lt sizeBound) shifted
  exact Nat.succ_ne_zero offset equal

theorem full_iff (queue : LockFreeCircleQueue T) :
    queue.nextIndex queue.inputIndex = queue.outputIndex ↔
      queue.size + 1 = queue.queueMaxSize :=
  ring_full_iff queue.output_lt queue.input_lt

/-- Storing the input index after a write appends the written value. -/
theorem contents_storeInput
    (queue : LockFreeCircleQueue T)
    (room : queue.nextIndex queue.inputIndex ≠ queue.outputIndex) :
    (queue.storeInput queue.inputIndex).contents =
      queue.contents ++ [queue.buffer queue.inputIndex] := by
  have longer :
      (queue.storeInput queue.inputIndex).size = queue.size + 1 :=
    ringDistance_succ_finish queue.output_lt queue.input_lt room
  rw [contents, longer]
  change
    ringWindow queue.queueMaxSize queue.outputIndex queue.buffer
        (queue.size + 1) = _
  rw [ringWindow_succ, output_add_size]
  rfl

/-- Storing the output index drops the first element. -/
theorem contents_storeOutput
    (queue : LockFreeCircleQueue T)
    (nonempty : queue.outputIndex ≠ queue.inputIndex) :
    queue.contents =
      queue.buffer queue.outputIndex ::
        (queue.storeOutput queue.outputIndex).contents := by
  have shorter :
      (queue.storeOutput queue.outputIndex).size + 1 = queue.size :=
    ringDistance_succ_start queue.output_lt queue.input_lt nonempty
  rw [contents, ← shorter, ringWindow_cons queue.output_lt]
  rfl

/-- Writing behind the last element changes no element. -/
theorem contents_writeSlot_input
    (queue : LockFreeCircleQueue T) (value : T) :
    (queue.writeSlot queue.inputIndex value).contents =
      queue.contents :=
  ringWindow_update queue.buffer value queue.input_outside

@[simp]
theorem contents_construct [Movable T] (queueMaxSize : Nat) :
    (construct queueMaxSize : LockFreeCircleQueue T).contents = [] :=
  rfl

@[simp]
theorem queueMaxSize_construct [Movable T] (queueMaxSize : Nat) :
    (construct queueMaxSize : LockFreeCircleQueue T).queueMaxSize =
      queueMaxSize + 1 :=
  rfl

@[simp]
theorem queueMaxSize_push (queue : LockFreeCircleQueue T) (data : T) :
    (queue.push data).2.queueMaxSize = queue.queueMaxSize := by
  unfold push
  split <;> rfl

@[simp]
theorem queueMaxSize_pop [Movable T] (queue : LockFreeCircleQueue T) :
    queue.pop.2.queueMaxSize = queue.queueMaxSize := by
  unfold pop
  split <;> rfl

/-- A push with room succeeds and appends. -/
theorem push_of_room
    (queue : LockFreeCircleQueue T) (data : T)
    (room : queue.contents.length + 1 < queue.queueMaxSize) :
    (queue.push data).1 = true ∧
      (queue.push data).2.contents = queue.contents ++ [data] := by
  have notFull : queue.nextIndex queue.inputIndex ≠ queue.outputIndex := by
    intro full
    have atCapacity := queue.full_iff.mp full
    rw [contents_length] at room
    omega
  rw [push, if_neg notFull]
  refine ⟨rfl, ?_⟩
  have stored :=
    contents_storeInput
      (queue.writeSlot queue.inputIndex data) notFull
  have written :
      (queue.writeSlot queue.inputIndex data).buffer
        queue.inputIndex = data :=
    Function.update_self ..
  calc
    ((queue.writeSlot queue.inputIndex data).storeInput
        queue.inputIndex).contents =
        (queue.writeSlot queue.inputIndex data).contents ++
          [(queue.writeSlot queue.inputIndex data).buffer
            queue.inputIndex] := stored
    _ = queue.contents ++ [data] := by
        rw [contents_writeSlot_input, written]

/-- A push into a full queue fails and changes nothing. -/
theorem push_of_full
    (queue : LockFreeCircleQueue T) (data : T)
    (full : queue.contents.length + 1 = queue.queueMaxSize) :
    queue.push data = (false, queue) := by
  rw [contents_length] at full
  rw [push, if_pos (queue.full_iff.mpr full)]

/-- Popping an empty queue yields `T()` and changes nothing. -/
theorem pop_of_nil [Movable T]
    (queue : LockFreeCircleQueue T)
    (nothing : queue.contents = []) :
    queue.pop = (Movable.initial, queue) := by
  have sizeZero : queue.size = 0 := by
    rw [← contents_length, nothing, List.length_nil]
  rw [pop, if_pos (queue.size_eq_zero.mp sizeZero)]

/-- Popping a queue with elements yields and removes the oldest. -/
theorem pop_of_cons [Movable T]
    (queue : LockFreeCircleQueue T) {head : T} {tail : List T}
    (holds : queue.contents = head :: tail) :
    queue.pop.1 = head ∧ queue.pop.2.contents = tail := by
  have nonempty : queue.outputIndex ≠ queue.inputIndex := by
    intro equal
    have sizeZero := queue.size_eq_zero.mpr equal
    rw [← contents_length, holds] at sizeZero
    simp at sizeZero
  have split := queue.contents_storeOutput nonempty
  rw [holds] at split
  rcases List.cons.inj split with ⟨headEqual, tailEqual⟩
  rw [pop, if_neg nonempty]
  refine ⟨headEqual.symm, ?_⟩
  rw [tailEqual]
  have shorter :
      (queue.storeOutput queue.outputIndex).size + 1 = queue.size :=
    ringDistance_succ_start queue.output_lt queue.input_lt nonempty
  -- the moved-from slot is no longer in the window
  apply ringWindow_update
  intro offset bound
  apply queue.output_outside
  rw [← shorter]
  exact Nat.succ_lt_succ bound

theorem empty_iff (queue : LockFreeCircleQueue T) :
    queue.empty = true ↔ queue.contents = [] := by
  rw [← List.length_eq_zero_iff, contents_length, size_eq_zero, empty,
    beq_iff_eq]
  exact eq_comm

@[simp]
theorem contents_clear (queue : LockFreeCircleQueue T) :
    queue.clear.contents = [] :=
  rfl

/-- `Front` of a queue with elements is the oldest. -/
theorem front_of_cons
    (queue : LockFreeCircleQueue T) {head : T} {tail : List T}
    (holds : queue.contents = head :: tail) :
    queue.front = head := by
  have nonempty : queue.outputIndex ≠ queue.inputIndex := by
    intro equal
    have sizeZero := queue.size_eq_zero.mpr equal
    rw [← contents_length, holds] at sizeZero
    cases sizeZero
  have split := queue.contents_storeOutput nonempty
  rw [holds] at split
  exact (List.cons.inj split).1.symm

/-- A loop of pushes, each of the value of one item. -/
def pushAll {Item : Type}
    (value : Item → T) (items : List Item)
    (queue : LockFreeCircleQueue T) :
    LockFreeCircleQueue T :=
  items.foldl (fun queue item => (queue.push (value item)).2) queue

/-- With room for all of them, the loop appends the values in order. -/
theorem contents_pushAll {Item : Type}
    (value : Item → T) (items : List Item)
    (queue : LockFreeCircleQueue T)
    (room :
      queue.contents.length + items.length < queue.queueMaxSize) :
    (queue.pushAll value items).contents =
      queue.contents ++ items.map value := by
  induction items generalizing queue with
  | nil => simp [pushAll]
  | cons item rest induction =>
      rw [List.length_cons] at room
      have appended :=
        (queue.push_of_room (value item) (by omega)).2
      have roomAfter :
          (queue.push (value item)).2.contents.length + rest.length <
            (queue.push (value item)).2.queueMaxSize := by
        rw [appended, queueMaxSize_push, List.length_append,
          List.length_singleton]
        omega
      calc
        (queue.pushAll value (item :: rest)).contents =
            ((queue.push (value item)).2.pushAll value
              rest).contents := rfl
        _ = (queue.push (value item)).2.contents ++
              rest.map value := induction _ roomAfter
        _ = queue.contents ++ (item :: rest).map value := by
            rw [appended, List.append_assoc]
            rfl

@[simp]
theorem queueMaxSize_pushAll {Item : Type}
    (value : Item → T) (items : List Item)
    (queue : LockFreeCircleQueue T) :
    (queue.pushAll value items).queueMaxSize = queue.queueMaxSize := by
  induction items generalizing queue with
  | nil => rfl
  | cons item rest induction =>
      exact (induction _).trans (queue.queueMaxSize_push (value item))

/-- A pop which yields an object took it from the front. -/
theorem contents_of_pop {α : Type}
    {queue after : LockFreeCircleQueue (RawPointer α)} {object : α}
    (popped : queue.pop = (.to object, after)) :
    queue.contents = .to object :: after.contents := by
  cases holds : queue.contents with
  | nil =>
      rw [queue.pop_of_nil holds] at popped
      cases popped
  | cons head tail =>
      rcases queue.pop_of_cons holds with ⟨first, rest⟩
      rw [popped] at first rest
      rw [← first, ← rest]

end LockFreeCircleQueue

end IocpServer.Utility
