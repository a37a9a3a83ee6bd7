import IocpServer.Library.CallSequence
import IocpServer.Utility.LockFreeCircleQueue

/-!
# The circular queue as a list of bounded length

`BoundedFifo` is what the queue is for: a list of at most so many elements.
`IntCircleQueue` is the queue with the `int` arithmetic of the source.  It
computes what `LockFreeCircleQueue` computes as long as no sum leaves the
type, and that one stands for the list.
-/

namespace IocpServer.Utility

open IocpServer.Library

/-- The calls of the queue. -/
inductive QueueCall (T : Type) where
  | push (data : T)
  | pop
  | empty
  | size
  | front
  | clear

/-- What a call returns. -/
inductive QueueAnswer (T : Type) where
  | pushed (succeeded : Bool)
  | element (value : T)
  | emptied (isEmpty : Bool)
  | count (size : Int)
  | done

/-- A list of at most `bound` elements, oldest first. -/
structure BoundedFifo (T : Type) (bound : Nat) where
  elements : List T
  length_le : elements.length ≤ bound

namespace BoundedFifo

variable {T : Type} {bound : Nat}

/-- A queue without elements. -/
def start (T : Type) (bound : Nat) : BoundedFifo T bound where
  elements := []
  length_le := Nat.zero_le bound

/-- Append an element, if there is room. -/
def push (fifo : BoundedFifo T bound) (data : T) :
    Bool × BoundedFifo T bound :=
  if room : fifo.elements.length < bound then
    (true,
      { elements := fifo.elements ++ [data]
        length_le := by
          rw [List.length_append, List.length_singleton]
          exact room })
  else
    (false, fifo)

/-- Remove the oldest element, if there is one. -/
def pop [Movable T] (fifo : BoundedFifo T bound) :
    T × BoundedFifo T bound :=
  (fifo.elements.headD Movable.initial,
    { elements := fifo.elements.tail
      length_le := by
        rw [List.length_tail]
        exact (Nat.sub_le _ 1).trans fifo.length_le })

/-- One call; the first element of an empty queue is left open. -/
def respond [Movable T] (fifo : BoundedFifo T bound) :
    QueueCall T → Option (QueueAnswer T) × BoundedFifo T bound
  | .push data =>
      let (succeeded, after) := fifo.push data
      (some (.pushed succeeded), after)
  | .pop =>
      let (value, after) := fifo.pop
      (some (.element value), after)
  | .empty => (some (.emptied fifo.elements.isEmpty), fifo)
  | .size => (some (.count fifo.elements.length), fifo)
  | .front => (fifo.elements.head?.map .element, fifo)
  | .clear => (some .done, start T bound)

end BoundedFifo

/-! ## The queue with its `int` fields -/

/-- The fields of `Utility::LockFreeCircleQueue<T>`, the slots by number. -/
structure IntCircleQueue (T : Type) where
  queueMaxSize : Int32
  inputIndex : Int32
  outputIndex : Int32
  buffer : Int → T

namespace IntCircleQueue

variable {T : Type}

/-- `Construct(queueMaxSize)` after the constructor zeroed the indices. -/
def construct [Movable T] (queueMaxSize : Int32) : IntCircleQueue T where
  queueMaxSize := queueMaxSize + 1
  inputIndex := 0
  outputIndex := 0
  buffer := fun _ => Movable.initial

/-- `push`. -/
def push (queue : IntCircleQueue T) (data : T) : Bool × IntCircleQueue T :=
  let currentInputIndex := queue.inputIndex
  let nextIndex := (currentInputIndex + 1) % queue.queueMaxSize
  if nextIndex = queue.outputIndex then
    (false, queue)
  else
    (true,
      { queue with
        buffer := Function.update queue.buffer currentInputIndex.toInt data
        inputIndex := nextIndex })

/-- `pop`. -/
def pop [Movable T] (queue : IntCircleQueue T) : T × IntCircleQueue T :=
  let currentOutputIndex := queue.outputIndex
  if currentOutputIndex = queue.inputIndex then
    (Movable.initial, queue)
  else
    let data := queue.buffer currentOutputIndex.toInt
    (data,
      { queue with
        buffer :=
          Function.update queue.buffer currentOutputIndex.toInt
            (Movable.movedFrom data)
        outputIndex := (currentOutputIndex + 1) % queue.queueMaxSize })

/-- `empty`. -/
def empty (queue : IntCircleQueue T) : Bool :=
  queue.inputIndex == queue.outputIndex

/-- `size`. -/
def size (queue : IntCircleQueue T) : Int32 :=
  if queue.inputIndex ≥ queue.outputIndex then
    queue.inputIndex - queue.outputIndex
  else
    queue.queueMaxSize - queue.outputIndex + queue.inputIndex

/-- `clear`. -/
def clear (queue : IntCircleQueue T) : IntCircleQueue T :=
  { queue with inputIndex := 0, outputIndex := 0 }

/-- `Front`. -/
def front (queue : IntCircleQueue T) : T :=
  queue.buffer queue.outputIndex.toInt

/-- One call. -/
def respond [Movable T] (queue : IntCircleQueue T) :
    QueueCall T → QueueAnswer T × IntCircleQueue T
  | .push data =>
      let (succeeded, after) := queue.push data
      (.pushed succeeded, after)
  | .pop =>
      let (value, after) := queue.pop
      (.element value, after)
  | .empty => (.emptied queue.empty, queue)
  | .size => (.count queue.size.toInt, queue)
  | .front => (.element queue.front, queue)
  | .clear => (.done, queue.clear)

/-! ## The `int` arithmetic -/

/--
The `int` fields hold the indices of a queue that is small enough for them,
and the slots hold its elements.
-/
structure Embeds
    (ints : IntCircleQueue T) (queue : LockFreeCircleQueue T) : Prop where
  small : queue.queueMaxSize < 2 ^ 31
  queueMaxSize : ints.queueMaxSize = Int32.ofNat queue.queueMaxSize
  inputIndex : ints.inputIndex = Int32.ofNat queue.inputIndex
  outputIndex : ints.outputIndex = Int32.ofNat queue.outputIndex
  buffer :
    ∀ slot : Nat,
      slot < queue.queueMaxSize → ints.buffer slot = queue.buffer slot

section Embeds

variable {ints : IntCircleQueue T} {queue : LockFreeCircleQueue T}

/-- Small natural numbers are different `int`s. -/
theorem ofNat_eq_iff {left right : Nat}
    (leftSmall : left < 2 ^ 31) (rightSmall : right < 2 ^ 31) :
    Int32.ofNat left = Int32.ofNat right ↔ left = right := by
  rw [← Int32.toInt_inj, Int32.toInt_ofNat_of_lt leftSmall,
    Int32.toInt_ofNat_of_lt rightSmall]
  exact Int.ofNat_inj

/-- The successor of an index does not overflow. -/
theorem Embeds.next
    (embeds : ints.Embeds queue) {index : Nat}
    (bound : index < queue.queueMaxSize) :
    (Int32.ofNat index + 1) % ints.queueMaxSize =
      Int32.ofNat (queue.nextIndex index) := by
  have small := embeds.small
  rw [LockFreeCircleQueue.nextIndex, embeds.queueMaxSize,
    Int32.ofNat_mod (by omega) small, Int32.ofNat_add]
  rfl

theorem Embeds.input_small (embeds : ints.Embeds queue) :
    queue.inputIndex < 2 ^ 31 :=
  queue.input_lt.trans embeds.small

theorem Embeds.output_small (embeds : ints.Embeds queue) :
    queue.outputIndex < 2 ^ 31 :=
  queue.output_lt.trans embeds.small

/-- Comparing the indices as `int`s compares the indices. -/
theorem Embeds.indices_eq_iff (embeds : ints.Embeds queue) :
    ints.outputIndex = ints.inputIndex ↔
      queue.outputIndex = queue.inputIndex := by
  rw [embeds.outputIndex, embeds.inputIndex,
    ofNat_eq_iff embeds.output_small embeds.input_small]

/-- A write to one slot, through the `int` index and through the number. -/
theorem Embeds.writeSlot
    (embeds : ints.Embeds queue) {index : Nat}
    (bound : index < queue.queueMaxSize) (value : T) :
    Embeds
      { ints with
        buffer :=
          Function.update ints.buffer (Int32.ofNat index).toInt value }
      (queue.writeSlot index value) := by
  have located : (Int32.ofNat index).toInt = index :=
    Int32.toInt_ofNat_of_lt (bound.trans embeds.small)
  refine { embeds with buffer := ?_ }
  intro slot slotBound
  change
    Function.update ints.buffer (Int32.ofNat index).toInt value slot =
      Function.update queue.buffer index value slot
  rw [located]
  by_cases same : slot = index
  · rw [same, Function.update_self, Function.update_self]
  · rw [Function.update_of_ne same, Function.update_of_ne]
    · exact embeds.buffer slot slotBound
    · exact fun equal => same (Int.ofNat_inj.mp equal)

theorem embeds_construct [Movable T] {queueMaxSize : Int32}
    (nonneg : 0 ≤ queueMaxSize) (below : queueMaxSize < Int32.maxValue) :
    (construct queueMaxSize : IntCircleQueue T).Embeds
      (.construct queueMaxSize.toInt.toNat) := by
  rw [Int32.le_iff_toInt_le, Int32.toInt_zero] at nonneg
  rw [Int32.lt_iff_toInt_lt, Int32.toInt_maxValue] at below
  have whole : Int32.ofNat queueMaxSize.toInt.toNat = queueMaxSize := by
    apply Int32.toInt_inj.mp
    rw [Int32.toInt_ofNat_of_lt (by omega), Int.toNat_of_nonneg nonneg]
  exact
    { small := by
        rw [LockFreeCircleQueue.queueMaxSize_construct]
        omega
      queueMaxSize := by
        rw [LockFreeCircleQueue.queueMaxSize_construct, Int32.ofNat_add,
          whole]
        rfl
      inputIndex := rfl
      outputIndex := rfl
      buffer := fun _ _ => rfl }

theorem Embeds.push
    (embeds : ints.Embeds queue) (data : T) :
    (ints.push data).1 = (queue.push data).1 ∧
      (ints.push data).2.Embeds (queue.push data).2 := by
  have next := embeds.next queue.input_lt
  have full :
      (ints.inputIndex + 1) % ints.queueMaxSize = ints.outputIndex ↔
        queue.nextIndex queue.inputIndex = queue.outputIndex := by
    rw [embeds.inputIndex, next, embeds.outputIndex, ofNat_eq_iff]
    · exact (queue.nextIndex_lt _).trans embeds.small
    · exact embeds.output_small
  simp only [IntCircleQueue.push, LockFreeCircleQueue.push, full]
  split_ifs
  · exact ⟨rfl, embeds⟩
  · refine ⟨rfl, ?_⟩
    rw [embeds.inputIndex, next]
    exact
      { embeds.writeSlot queue.input_lt data with
        inputIndex := rfl }

theorem Embeds.pop [Movable T] (embeds : ints.Embeds queue) :
    ints.pop.1 = queue.pop.1 ∧ ints.pop.2.Embeds queue.pop.2 := by
  have located : ints.outputIndex.toInt = queue.outputIndex := by
    rw [embeds.outputIndex, Int32.toInt_ofNat_of_lt embeds.output_small]
  have oldest :
      ints.buffer ints.outputIndex.toInt = queue.buffer queue.outputIndex := by
    rw [located, embeds.buffer _ queue.output_lt]
  simp only [IntCircleQueue.pop, LockFreeCircleQueue.pop,
    embeds.indices_eq_iff, oldest]
  split_ifs
  · exact ⟨rfl, embeds⟩
  · refine ⟨rfl, ?_⟩
    rw [embeds.outputIndex, embeds.next queue.output_lt]
    exact
      { embeds.writeSlot queue.output_lt _ with
        outputIndex := rfl }

theorem Embeds.empty (embeds : ints.Embeds queue) :
    ints.empty = queue.empty := by
  rw [Bool.eq_iff_iff, IntCircleQueue.empty, LockFreeCircleQueue.empty,
    beq_iff_eq, beq_iff_eq, eq_comm, embeds.indices_eq_iff, eq_comm]

theorem Embeds.size (embeds : ints.Embeds queue) :
    ints.size = Int32.ofNat queue.size := by
  have ordered :
      ints.inputIndex ≥ ints.outputIndex ↔
        queue.inputIndex ≥ queue.outputIndex := by
    rw [ge_iff_le, embeds.inputIndex, embeds.outputIndex]
    exact Int32.ofNat_le_iff_le embeds.output_small embeds.input_small
  simp only [IntCircleQueue.size, LockFreeCircleQueue.size, ordered]
  rw [embeds.inputIndex, embeds.outputIndex, embeds.queueMaxSize]
  split_ifs with straight
  · rw [Int32.ofNat_sub _ _ straight]
  · rw [Int32.ofNat_add, Int32.ofNat_sub _ _ (Nat.le_of_lt queue.output_lt)]

theorem Embeds.front (embeds : ints.Embeds queue) :
    ints.front = queue.front := by
  rw [IntCircleQueue.front, LockFreeCircleQueue.front, embeds.outputIndex,
    Int32.toInt_ofNat_of_lt embeds.output_small,
    embeds.buffer _ queue.output_lt]

theorem Embeds.clear (embeds : ints.Embeds queue) :
    ints.clear.Embeds queue.clear :=
  { embeds with inputIndex := rfl, outputIndex := rfl }

end Embeds

/-! ## The list behind the queue -/

/-- The queue stands for the list. -/
def Represents {bound : Nat}
    (ints : IntCircleQueue T) (fifo : BoundedFifo T bound) : Prop :=
  ∃ queue : LockFreeCircleQueue T,
    ints.Embeds queue ∧ queue.queueMaxSize = bound + 1 ∧
      queue.contents = fifo.elements

/-- What the queue answers where the list gives an answer. -/
def Meets
    (answer : QueueAnswer T) (expected : Option (QueueAnswer T)) : Prop :=
  ∀ stated, expected = some stated → answer = stated

section Represents

variable {bound : Nat}
variable {ints : IntCircleQueue T} {fifo : BoundedFifo T bound}

theorem Represents.push
    (represents : ints.Represents fifo) (data : T) :
    (ints.push data).1 = (fifo.push data).1 ∧
      (ints.push data).2.Represents (fifo.push data).2 := by
  rcases represents with ⟨queue, embeds, capacity, holds⟩
  rcases embeds.push data with ⟨answer, after⟩
  have size := (queue.queueMaxSize_push data).trans capacity
  by_cases room : fifo.elements.length < bound
  · rw [BoundedFifo.push, dif_pos room, answer]
    have fits : queue.contents.length + 1 < queue.queueMaxSize := by
      rw [holds, capacity]
      omega
    rcases queue.push_of_room data fits with ⟨succeeded, appended⟩
    exact ⟨succeeded, _, after, size, appended.trans (by rw [holds])⟩
  · rw [BoundedFifo.push, dif_neg room, answer]
    have full : queue.contents.length + 1 = queue.queueMaxSize := by
      have atMost := fifo.length_le
      rw [holds, capacity]
      omega
    rw [queue.push_of_full data full] at after ⊢
    exact ⟨rfl, _, after, capacity, holds⟩

theorem Represents.pop [Movable T] (represents : ints.Represents fifo) :
    ints.pop.1 = fifo.pop.1 ∧ ints.pop.2.Represents fifo.pop.2 := by
  rcases represents with ⟨queue, embeds, capacity, holds⟩
  rcases embeds.pop with ⟨answer, after⟩
  have size := queue.queueMaxSize_pop.trans capacity
  have popped :
      queue.pop.1 = fifo.elements.headD Movable.initial ∧
        queue.pop.2.contents = fifo.elements.tail := by
    rw [← holds]
    cases contents : queue.contents with
    | nil =>
        rw [queue.pop_of_nil contents]
        exact ⟨rfl, contents⟩
    | cons head tail => exact queue.pop_of_cons contents
  exact ⟨answer.trans popped.1, _, after, size, popped.2⟩

/-- Every call is answered as the list answers it. -/
theorem Represents.respond [Movable T]
    (represents : ints.Represents fifo) (call : QueueCall T) :
    Meets (ints.respond call).1 (fifo.respond call).1 ∧
      (ints.respond call).2.Represents (fifo.respond call).2 := by
  have unchanged := represents
  rcases represents with ⟨queue, embeds, capacity, holds⟩
  cases call with
  | push data =>
      rcases unchanged.push data with ⟨answer, after⟩
      refine ⟨?_, after⟩
      rintro _ ⟨⟩
      exact congrArg _ answer
  | pop =>
      rcases unchanged.pop with ⟨answer, after⟩
      refine ⟨?_, after⟩
      rintro _ ⟨⟩
      exact congrArg _ answer
  | empty =>
      refine ⟨?_, unchanged⟩
      rintro _ ⟨⟩
      apply congrArg QueueAnswer.emptied
      rw [embeds.empty, Bool.eq_iff_iff, queue.empty_iff, holds,
        List.isEmpty_iff]
  | size =>
      refine ⟨?_, unchanged⟩
      rintro _ ⟨⟩
      apply congrArg QueueAnswer.count
      rw [embeds.size,
        Int32.toInt_ofNat_of_lt (queue.size_lt.trans embeds.small),
        ← queue.contents_length, holds]
  | front =>
      refine ⟨?_, unchanged⟩
      rintro stated first
      rcases Option.map_eq_some_iff.mp first with ⟨head, isHead, rfl⟩
      rcases List.head?_eq_some_iff.mp isHead with ⟨tail, elements⟩
      apply congrArg QueueAnswer.element
      rw [embeds.front, queue.front_of_cons (holds.trans elements)]
  | clear =>
      refine ⟨?_, queue.clear, embeds.clear, capacity, rfl⟩
      rintro _ ⟨⟩
      rfl

/-- The indices of the queue stay inside the buffer. -/
theorem Represents.bounds (represents : ints.Represents fifo) :
    (0 ≤ ints.inputIndex.toInt ∧ ints.inputIndex.toInt ≤ bound) ∧
      0 ≤ ints.outputIndex.toInt ∧ ints.outputIndex.toInt ≤ bound := by
  rcases represents with ⟨queue, embeds, capacity, -⟩
  have inputBound := queue.input_lt
  have outputBound := queue.output_lt
  rw [embeds.inputIndex, embeds.outputIndex,
    Int32.toInt_ofNat_of_lt embeds.input_small,
    Int32.toInt_ofNat_of_lt embeds.output_small]
  omega

end Represents

/--
After `Construct(n)` the queue answers every sequence of calls as a list of
at most `n` elements does, and its indices stay between `0` and `n`.
-/
theorem queue_is_bounded_fifo [Movable T]
    (n : Int32) (nonneg : 0 ≤ n) (below : n < Int32.maxValue)
    (calls : List (QueueCall T)) :
    let queue := answerAll IntCircleQueue.respond (construct n) calls
    let fifo :=
      answerAll BoundedFifo.respond (.start T n.toInt.toNat) calls
    List.Forall₂ Meets queue.1 fifo.1 ∧
      (0 ≤ queue.2.inputIndex ∧ queue.2.inputIndex ≤ n) ∧
        0 ≤ queue.2.outputIndex ∧ queue.2.outputIndex ≤ n := by
  intro queue fifo
  have started :
      (construct n : IntCircleQueue T).Represents
        (.start T n.toInt.toNat) :=
    ⟨_, embeds_construct nonneg below, rfl, rfl⟩
  rcases answerAll_related (fun _ _ call related => related.respond call)
      started calls with
    ⟨answers, finish⟩
  have bounds := finish.bounds
  rw [Int32.le_iff_toInt_le, Int32.toInt_zero] at nonneg
  rw [Int.toNat_of_nonneg nonneg] at bounds
  simp only [Int32.le_iff_toInt_le, Int32.toInt_zero]
  exact ⟨answers, bounds⟩

/-- Three pushes into a queue of two, a pop and a push into the freed slot. -/
def fillAndWrap : List (QueueCall (RawPointer Nat)) :=
  [.push (.to 1), .push (.to 2), .push (.to 3), .pop, .push (.to 4), .size,
    .front, .clear, .pop]

theorem queue_is_bounded_fifo_two :
    List.Forall₂ Meets
      (answerAll IntCircleQueue.respond (construct 2) fillAndWrap).1
      (answerAll BoundedFifo.respond (.start (RawPointer Nat) 2)
        fillAndWrap).1 :=
  (queue_is_bounded_fifo 2 (by decide) (by decide) fillAndWrap).1

end IntCircleQueue

end IocpServer.Utility
