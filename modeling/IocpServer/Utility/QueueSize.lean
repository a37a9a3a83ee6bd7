import IocpServer.Utility.ProducerConsumer

/-!
# `size` while the queue is in use

`size` loads the input index, then the output index and, where the second
is the greater one, the output index once more.  The producer and the
consumer go on between these loads, so the three indices need not have
stood in the queue together.  A caller is the producer between two of its
pushes or a third thread.
-/

namespace IocpServer.Utility

open IocpServer.Library

/-- A `size()` in progress, by the last access it made. -/
inductive SizePoint where
  | inputLoaded (input : Nat)
  | wrapped (input : Nat)
deriving DecidableEq, Repr

/-- The input index a call has loaded. -/
def SizePoint.input : SizePoint → Nat
  | .inputLoaded input => input
  | .wrapped input => input

namespace LockFreeCircleQueue

variable {T : Type}

/-- `size` loads the input index. -/
def beginSize (queue : LockFreeCircleQueue T) : SizePoint :=
  .inputLoaded queue.inputIndex

/-- The next access of a `size` in progress, with its `int` arithmetic. -/
def stepSize (queue : LockFreeCircleQueue T) :
    SizePoint → Progress SizePoint Int32
  | .inputLoaded input =>
      if input ≥ queue.outputIndex then
        .returned (Int32.ofNat input - Int32.ofNat queue.outputIndex)
      else
        .running (.wrapped input)
  | .wrapped input =>
      .returned
        (Int32.ofNat queue.queueMaxSize - Int32.ofNat queue.outputIndex +
          Int32.ofNat input)

/-- The accesses of one `size` made in a row compute `size`. -/
theorem size_eq_steps (queue : LockFreeCircleQueue T) :
    Int32.ofNat queue.size =
      match queue.stepSize queue.beginSize with
      | .returned result => result
      | .running second =>
          match queue.stepSize second with
          | .returned result => result
          | .running _ => 0 := by
  by_cases straight : queue.inputIndex ≥ queue.outputIndex
  · simp only [size, stepSize, beginSize, if_pos straight]
    exact Int32.ofNat_sub _ _ straight
  · simp only [size, stepSize, beginSize, if_neg straight]
    rw [Int32.ofNat_add, Int32.ofNat_sub _ _ (Nat.le_of_lt queue.output_lt)]

end LockFreeCircleQueue

/-- The value of a call that returns with an access. -/
def Progress.result {Point Result : Type} :
    Progress Point Result → Option Result
  | .running _ => none
  | .returned result => some result

/-- Who calls `size`. -/
inductive SizeCaller where
  | producer
  | observer
deriving DecidableEq, Repr

/-- The queue with its two threads, and the calls of `size` in progress. -/
structure ObservedQueue (T : Type) where
  shared : SharedQueue T
  sizing : SizeCaller → Option SizePoint

/-- The next access of one of the threads. -/
inductive ObservedEvent (T : Type) where
  | access (event : SharedEvent T)
  | beginSize (caller : SizeCaller)
  | size (caller : SizeCaller)

/-- An access the producer makes. -/
def SharedEvent.ofProducer {T : Type} : SharedEvent T → Bool
  | .beginPush _ => true
  | .push => true
  | .beginPop => false
  | .pop => false

namespace ObservedQueue

variable {T : Type} [Movable T]

/-- A queue behind `Construct`, with all threads outside of it. -/
def start (queueMaxSize : Nat) : ObservedQueue T where
  shared := .start queueMaxSize
  sizing := fun _ => none

/-- The caller is in no other call of the queue. -/
def idle (state : ObservedQueue T) : SizeCaller → Bool
  | .producer => state.shared.producer.isNone
  | .observer => true

/-- One access. -/
def step (state : ObservedQueue T) :
    ObservedEvent T → Option (ObservedQueue T)
  | .access event =>
      if event.ofProducer && (state.sizing .producer).isSome then
        none
      else
        (state.shared.step event).map fun shared =>
          { state with shared := shared }
  | .beginSize caller =>
      match state.sizing caller with
      | some _ => none
      | none =>
          if state.idle caller then
            some
              { state with
                sizing :=
                  Function.update state.sizing caller
                    (some state.shared.queue.beginSize) }
          else
            none
  | .size caller =>
      match state.sizing caller with
      | none => none
      | some point =>
          some
            { state with
              sizing :=
                Function.update state.sizing caller
                  (state.shared.queue.stepSize point).point }

/-- The threads over the queue. -/
def system : TransitionSystem (ObservedQueue T) (ObservedEvent T) where
  step := step

/-- The value of a call that returns with this access. -/
def sizeReturned (state : ObservedQueue T) :
    ObservedEvent T → Option Int32
  | .access _ => none
  | .beginSize _ => none
  | .size caller =>
      (state.sizing caller).bind fun point =>
        (state.shared.queue.stepSize point).result

/-- What this access returns is a number of elements the queue can hold. -/
def SizeInRange
    (queueMaxSize : Nat) (state : ObservedQueue T)
    (event : ObservedEvent T) : Prop :=
  ∀ size, state.sizeReturned event = some size →
    0 ≤ size.toInt ∧ size.toInt ≤ queueMaxSize

/-- The input index of a call that loads the output index once more. -/
def reloading (state : ObservedQueue T) : ObservedEvent T → Option Nat
  | .access _ => none
  | .beginSize _ => none
  | .size caller =>
      match state.sizing caller with
      | none => none
      | some (.inputLoaded _) => none
      | some (.wrapped input) => some input

/--
Where the output index is loaded once more, it is still greater than the
input index that was loaded at first.
-/
def OutputAhead
    (state : ObservedQueue T) (event : ObservedEvent T) : Prop :=
  ∀ input ∈ state.reloading event, input < state.shared.queue.outputIndex

instance (state : ObservedQueue T) (event : ObservedEvent T) :
    Decidable (state.OutputAhead event) :=
  inferInstanceAs (Decidable (∀ input ∈ state.reloading event, _))

/-- The size of the buffer, and that calls hold indices into it. -/
structure Sized (queueMaxSize : Nat) (state : ObservedQueue T) : Prop where
  capacity : state.shared.queue.queueMaxSize = queueMaxSize + 1
  input_le :
    ∀ caller point,
      state.sizing caller = some point → point.input ≤ queueMaxSize

section Steps

variable {queueMaxSize : Nat} {state after : ObservedQueue T}

theorem start_sized :
    (start queueMaxSize : ObservedQueue T).Sized queueMaxSize where
  capacity := rfl
  input_le := by
    intro caller point absent
    cases absent

/-- No access of the two threads changes the number of slots. -/
theorem queueMaxSize_access
    {shared next : SharedQueue T} {event : SharedEvent T}
    (taken : shared.step event = some next) :
    next.queue.queueMaxSize = shared.queue.queueMaxSize := by
  unfold SharedQueue.step at taken
  split at taken
  · split at taken
    · cases taken
      rfl
    · cases taken
  · split at taken
    · cases taken
    · cases taken
      exact LockFreeCircleQueue.queueMaxSize_stepPush rfl
  · split at taken
    · cases taken
      rfl
    · cases taken
  · split at taken
    · cases taken
    · cases taken
      exact LockFreeCircleQueue.queueMaxSize_stepPop rfl

omit [Movable T] in
/-- A call that goes on keeps the input index it has loaded. -/
theorem input_stepSize
    {queue : LockFreeCircleQueue T} {point next : SizePoint}
    (running : (queue.stepSize point).point = some next) :
    next.input = point.input := by
  unfold LockFreeCircleQueue.stepSize at running
  split at running
  · split_ifs at running
    · cases running
    · cases running
      rfl
  · cases running

omit [Movable T] in
/-- Another call of `size` in progress keeps the indices in bounds. -/
theorem Sized.update
    {caller : SizeCaller} {made : Option SizePoint}
    (sized : state.Sized queueMaxSize)
    (bounded : ∀ point, made = some point → point.input ≤ queueMaxSize) :
    Sized queueMaxSize
      { state with sizing := Function.update state.sizing caller made } where
  capacity := sized.capacity
  input_le := by
    intro other point calling
    change Function.update state.sizing caller made other = _ at calling
    by_cases same : other = caller
    · subst same
      rw [Function.update_self] at calling
      exact bounded point calling
    · rw [Function.update_of_ne same] at calling
      exact sized.input_le other point calling

theorem Sized.step
    {event : ObservedEvent T}
    (sized : state.Sized queueMaxSize)
    (taken : state.step event = some after) :
    after.Sized queueMaxSize := by
  unfold ObservedQueue.step at taken
  split at taken
  · next event =>
      split_ifs at taken
      rcases Option.map_eq_some_iff.mp taken with ⟨shared, stepped, rfl⟩
      exact
        { capacity := (queueMaxSize_access stepped).trans sized.capacity
          input_le := sized.input_le }
  · next caller =>
      split at taken
      · cases taken
      · split_ifs at taken
        cases taken
        apply sized.update
        rintro point ⟨⟩
        have bound := state.shared.queue.input_lt
        rw [sized.capacity] at bound
        exact Nat.le_of_lt_succ bound
  · next caller =>
      split at taken
      · cases taken
      · next point calling =>
          cases taken
          apply sized.update
          intro next running
          rw [input_stepSize running]
          exact sized.input_le caller point calling

/-- Two indices in order differ by a number of elements. -/
theorem straight_in_range
    {input output : Nat}
    (small : queueMaxSize + 1 < 2 ^ 31)
    (input_le : input ≤ queueMaxSize)
    (ordered : output ≤ input) :
    0 ≤ (Int32.ofNat input - Int32.ofNat output).toInt ∧
      (Int32.ofNat input - Int32.ofNat output).toInt ≤ queueMaxSize := by
  rw [← Int32.ofNat_sub _ _ ordered, Int32.toInt_ofNat_of_lt (by omega)]
  omega

/--
The sum of the wrapped branch counts elements if and only if the output index
is the greater one.  Otherwise it exceeds the capacity, or the range of `int`.
-/
theorem wrapped_in_range_iff
    {input output : Nat}
    (small : queueMaxSize + 1 < 2 ^ 31)
    (input_le : input ≤ queueMaxSize)
    (output_le : output ≤ queueMaxSize) :
    (0 ≤
          (Int32.ofNat (queueMaxSize + 1) - Int32.ofNat output +
            Int32.ofNat input).toInt ∧
        (Int32.ofNat (queueMaxSize + 1) - Int32.ofNat output +
            Int32.ofNat input).toInt ≤
          queueMaxSize) ↔
      input < output := by
  have within : output ≤ queueMaxSize + 1 := Nat.le_succ_of_le output_le
  rw [← Int32.ofNat_sub _ _ within, ← Int32.ofNat_add]
  by_cases fits : queueMaxSize + 1 - output + input < 2 ^ 31
  · rw [Int32.toInt_ofNat_of_lt fits]
    omega
  · have overflown :
        (Int32.ofNat (queueMaxSize + 1 - output + input)).toInt < 0 := by
      have words : Int32.size = 4294967296 := rfl
      rw [Int32.toInt_ofNat', words, Int.bmod_def]
      split_ifs <;> omega
    omega

omit [Movable T] in
/-- An access returns a value in range exactly if the index is ahead. -/
theorem sizeInRange_iff
    (small : queueMaxSize + 1 < 2 ^ 31)
    (sized : state.Sized queueMaxSize)
    (event : ObservedEvent T) :
    state.SizeInRange queueMaxSize event ↔ state.OutputAhead event := by
  have output_le : state.shared.queue.outputIndex ≤ queueMaxSize := by
    have bound := state.shared.queue.output_lt
    rw [sized.capacity] at bound
    exact Nat.le_of_lt_succ bound
  cases event with
  | access event =>
      simp [SizeInRange, OutputAhead, sizeReturned, reloading]
  | beginSize caller =>
      simp [SizeInRange, OutputAhead, sizeReturned, reloading]
  | size caller =>
      simp only [SizeInRange, OutputAhead, sizeReturned, reloading]
      cases calling : state.sizing caller with
      | none => simp
      | some point =>
          rw [Option.bind_some]
          cases point with
          | inputLoaded input =>
              have input_le : input ≤ queueMaxSize :=
                sized.input_le caller _ calling
              by_cases straight : input ≥ state.shared.queue.outputIndex
              · have inRange :=
                  straight_in_range small input_le straight
                rw [LockFreeCircleQueue.stepSize, if_pos straight]
                simpa [Progress.result] using inRange
              · rw [LockFreeCircleQueue.stepSize, if_neg straight]
                simp [Progress.result]
          | wrapped input =>
              have input_le : input ≤ queueMaxSize :=
                sized.input_le caller _ calling
              have ahead :=
                wrapped_in_range_iff small input_le output_le
              rw [LockFreeCircleQueue.stepSize, sized.capacity]
              constructor
              · rintro returned _ ⟨⟩
                exact ahead.mp (returned _ rfl)
              · rintro below _ ⟨⟩
                exact ahead.mpr (below _ rfl)

end Steps

/--
Along every schedule of the producer, the consumer and the callers of `size`,
all values returned lie between zero and the capacity if and only if no
consumer has carried the output index past the end of the buffer to a slot at
or below the loaded input index before it is loaded once more.
-/
theorem size_in_range_iff
    {queueMaxSize : Nat} (small : queueMaxSize + 1 < 2 ^ 31)
    (schedule : List (ObservedEvent T)) :
    system.Always (SizeInRange queueMaxSize) (start queueMaxSize)
        schedule ↔
      system.Always OutputAhead (start queueMaxSize) schedule :=
  TransitionSystem.always_congr
    (fun _ _ _ sized _ taken => Sized.step sized taken)
    (fun _ event sized _ => sizeInRange_iff small sized event)
    start_sized
    (TransitionSystem.always_of_events fun _ _ => trivial)

/--
A queue of one that has wrapped around: its element lies in the last slot,
and the producer's `size` is between its second load and its third.
-/
def wrappedCall : List (ObservedEvent (SharedPointer Nat)) :=
  [.access (.beginPush (.to 5)), .access .push, .access .push,
    .access .push, .access .beginPop, .access .pop, .access .pop,
    .access .pop, .access (.beginPush (.to 6)), .access .push,
    .access .push, .access .push, .beginSize .producer, .size .producer]

/-- The third load comes at once: the value is the one element. -/
theorem size_in_range_undisturbed :
    system.Always (SizeInRange 1) (start 1)
      (wrappedCall ++ [.size .producer]) :=
  (size_in_range_iff (by decide) _).mpr
    (TransitionSystem.always_of_runAllowed (by decide))

/-- The `pop` that empties the queue in front of the third load. -/
def emptyingPop : List (ObservedEvent (SharedPointer Nat)) :=
  [.access .beginPop, .access .pop, .access .pop, .access .pop]

theorem overtaken_complete :
    (system.run (start 1) (wrappedCall ++ emptyingPop)).isSome = true := by
  decide

/-- The empty queue of one is said to hold two elements. -/
theorem size_exceeds_capacity :
    ¬ ∀ (queueMaxSize : Nat)
        (schedule : List (ObservedEvent (SharedPointer Nat))),
      queueMaxSize + 1 < 2 ^ 31 →
        system.Always (SizeInRange queueMaxSize) (start queueMaxSize)
          schedule := by
  intro inRange
  have always :=
    inRange 1 (wrappedCall ++ emptyingPop ++ [.size .producer]) (by decide)
  have last := always.behind (Option.some_get overtaken_complete).symm
  have bounds := last.1 2 (by decide)
  exact absurd bounds.2 (by decide)

end ObservedQueue

end IocpServer.Utility
