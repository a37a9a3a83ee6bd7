import IocpServer.Library.TransitionSystem
import IocpServer.Utility.QueueInterleaving

/-!
# One producer and one consumer

The producer runs one push after the other, the consumer one pop after the
other, and every access of either is a step of its own.  What the consumer
has taken and what the queue holds make up, in order, what the producer has
stored.
-/

namespace IocpServer.Utility

open IocpServer.Library

/--
The queue, the calls in progress, the arguments of the pushes that returned
`true` and the values of the pops that found the queue nonempty.
-/
structure SharedQueue (T : Type) where
  queue : LockFreeCircleQueue T
  producer : Option (PushPoint T)
  consumer : Option (PopPoint T)
  pushed : List T
  popped : List T

/-- The next access of one of the threads. -/
inductive SharedEvent (T : Type) where
  | beginPush (data : T)
  | push
  | beginPop
  | pop

/-- The point of a call after an access; a finished call has none. -/
def Progress.point {Point Result : Type} :
    Progress Point Result → Option Point
  | .running point => some point
  | .returned _ => none

/-- What a push adds to the arguments that were stored. -/
def PushPoint.stores {T : Type} (point : PushPoint T) :
    Progress (PushPoint T) Bool → List T
  | .returned true => [point.data]
  | .returned false => []
  | .running _ => []

/-- What a pop adds to the values that were taken. -/
def PopPoint.takes {T : Type} :
    PopPoint T → Progress (PopPoint T) T → List T
  | .slotRead _ _, .returned value => [value]
  | _, _ => []

namespace SharedQueue

variable {T : Type} [Movable T]

/-- A queue behind `Construct`, with both threads outside of it. -/
def start (queueMaxSize : Nat) : SharedQueue T where
  queue := .construct queueMaxSize
  producer := none
  consumer := none
  pushed := []
  popped := []

/-- One access. -/
def step (state : SharedQueue T) :
    SharedEvent T → Option (SharedQueue T)
  | .beginPush data =>
      match state.producer with
      | none =>
          some { state with producer := some (state.queue.beginPush data) }
      | some _ => none
  | .push =>
      match state.producer with
      | none => none
      | some point =>
          let (progress, after) := state.queue.stepPush point
          some
            { state with
              queue := after
              producer := progress.point
              pushed := state.pushed ++ point.stores progress }
  | .beginPop =>
      match state.consumer with
      | none => some { state with consumer := some state.queue.beginPop }
      | some _ => none
  | .pop =>
      match state.consumer with
      | none => none
      | some point =>
          let (progress, after) := state.queue.stepPop point
          some
            { state with
              queue := after
              consumer := progress.point
              popped := state.popped ++ point.takes progress }

/-- Both threads over the queue. -/
def system : TransitionSystem (SharedQueue T) (SharedEvent T) where
  step := step

/-- The slot the producer writes with its next access. -/
def writes (state : SharedQueue T) : Option Nat :=
  match state.producer with
  | some (.notFull _ currentInputIndex) => some currentInputIndex
  | _ => none

/-- The slot the consumer reads with its next access. -/
def reads (state : SharedQueue T) : Option Nat :=
  match state.consumer with
  | some (.notEmpty currentOutputIndex) => some currentOutputIndex
  | _ => none

/-- What holds of the queue and the two histories at every point. -/
structure Flowing (queueMaxSize : Nat) (state : SharedQueue T) : Prop where
  coherent : state.queue.Coherent state.producer state.consumer
  flow :
    state.pushed = state.popped ++ state.queue.elements state.consumer
  capacity : state.queue.queueMaxSize = queueMaxSize + 1

section Steps

variable {queueMaxSize : Nat} {state after : SharedQueue T}

theorem start_flowing : (start queueMaxSize : SharedQueue T).Flowing
    queueMaxSize where
  coherent := LockFreeCircleQueue.coherent_idle _
  flow := rfl
  capacity := rfl

/-- An access of the producer: its store appends to both sides. -/
theorem Flowing.push
    {point : PushPoint T} {progress : Progress (PushPoint T) Bool}
    {queue : LockFreeCircleQueue T}
    (flowing : state.Flowing queueMaxSize)
    (running : state.producer = some point)
    (taken : state.queue.stepPush point = (progress, queue)) :
    Flowing queueMaxSize
      { state with
        queue := queue
        producer := progress.point
        pushed := state.pushed ++ point.stores progress } := by
  have coherent := flowing.coherent
  rw [running] at coherent
  have capacity : queue.queueMaxSize = queueMaxSize + 1 :=
    (LockFreeCircleQueue.queueMaxSize_stepPush taken).trans flowing.capacity
  rcases coherent.stepPush taken with
    ⟨next, rfl, -, kept, same⟩ | ⟨rfl, kept, appended⟩ |
      ⟨rfl, rfl, kept, -⟩
  · refine ⟨kept, ?_, capacity⟩
    change state.pushed ++ [] = state.popped ++ queue.elements state.consumer
    rw [same, List.append_nil, flowing.flow]
  · refine ⟨kept, ?_, capacity⟩
    change
      state.pushed ++ [point.data] =
        state.popped ++ queue.elements state.consumer
    rw [appended, ← List.append_assoc, flowing.flow]
  · refine ⟨kept, ?_, capacity⟩
    change
      state.pushed ++ [] = state.popped ++ state.queue.elements state.consumer
    rw [List.append_nil, flowing.flow]

/-- An access of the consumer: its store takes the head of what is held. -/
theorem Flowing.pop
    {point : PopPoint T} {progress : Progress (PopPoint T) T}
    {queue : LockFreeCircleQueue T}
    (flowing : state.Flowing queueMaxSize)
    (running : state.consumer = some point)
    (taken : state.queue.stepPop point = (progress, queue)) :
    Flowing queueMaxSize
      { state with
        queue := queue
        consumer := progress.point
        popped := state.popped ++ point.takes progress } := by
  have coherent := flowing.coherent
  have flow := flowing.flow
  rw [running] at coherent flow
  have capacity : queue.queueMaxSize = queueMaxSize + 1 :=
    (LockFreeCircleQueue.queueMaxSize_stepPop taken).trans flowing.capacity
  rcases coherent.stepPop taken with
    ⟨next, rfl, kept, same⟩ | ⟨head, rfl, kept, split⟩ |
      ⟨rfl, rfl, kept, nothing⟩
  · refine ⟨kept, ?_, capacity⟩
    have takesNone : point.takes (.running next) = [] := by
      cases point <;> rfl
    change
      state.pushed =
        state.popped ++ point.takes (.running next) ++
          queue.elements (some next)
    rw [takesNone, List.append_nil, same, flow]
  · refine ⟨kept, ?_, capacity⟩
    have takesHead : point.takes (.returned head) = [head] := by
      cases point with
      | outputLoaded index =>
          -- the call that finds nothing leaves the queue as long as it was
          rw [LockFreeCircleQueue.stepPop] at taken
          split_ifs at taken
          · cases taken
            have longer := congrArg List.length split
            rw [List.length_cons, LockFreeCircleQueue.elements_length,
              LockFreeCircleQueue.elements_length] at longer
            omega
          · cases taken
      | notEmpty index => cases taken
      | slotRead index data => rfl
    change
      state.pushed =
        state.popped ++ point.takes (.returned head) ++ queue.elements none
    rw [takesHead, List.append_assoc, List.singleton_append, ← split, flow]
  · refine ⟨kept, ?_, capacity⟩
    have takesNone : point.takes (.returned Movable.initial) = [] := by
      cases point with
      | outputLoaded index => rfl
      | notEmpty index => rfl
      | slotRead index data =>
          have empty := (state.queue.elements_eq_nil _).mp nothing
          exact absurd empty coherent.pop.2.1
    change
      state.pushed =
        state.popped ++ point.takes (.returned Movable.initial) ++
          state.queue.elements none
    have empty := (state.queue.elements_eq_nil _).mp nothing
    rw [takesNone, List.append_nil, flow, nothing,
      (state.queue.elements_eq_nil none).mpr empty]

/-- Every access keeps what holds of the queue and the histories. -/
theorem Flowing.step {event : SharedEvent T}
    (flowing : state.Flowing queueMaxSize)
    (taken : state.step event = some after) :
    after.Flowing queueMaxSize := by
  have coherent := flowing.coherent
  unfold SharedQueue.step at taken
  split at taken
  · next data =>
      split at taken
      · next idle =>
          cases taken
          rw [idle] at coherent
          exact ⟨coherent.beginPush data, flowing.flow, flowing.capacity⟩
      · cases taken
  · split at taken
    · cases taken
    · next point running =>
        cases taken
        exact flowing.push running rfl
  · split at taken
    · next idle =>
        cases taken
        have flow := flowing.flow
        rw [idle] at coherent flow
        rcases coherent.beginPop with ⟨kept, same⟩
        exact ⟨kept, flow, flowing.capacity⟩
    · cases taken
  · split at taken
    · cases taken
    · next point running =>
        cases taken
        exact flowing.pop running rfl

theorem flowing_of_reachable
    (reached : system.Reachable (start queueMaxSize) state) :
    state.Flowing queueMaxSize :=
  reached.invariant start_flowing
    fun _ _ _ flowing _ taken => flowing.step taken

/-- The producer never writes the slot the consumer is reading. -/
theorem Flowing.writes_ne_reads
    (flowing : state.Flowing queueMaxSize)
    {written read : Nat}
    (writing : state.writes = some written)
    (reading : state.reads = some read) :
    written ≠ read := by
  have coherent := flowing.coherent
  unfold writes at writing
  unfold reads at reading
  split at writing
  · next data inputIndex producing =>
      split at reading
      · next outputIndex consuming =>
          cases writing
          cases reading
          rw [producing, consuming] at coherent
          rcases coherent.push with ⟨rfl, -⟩
          rcases coherent.pop with ⟨rfl, nonempty⟩
          exact Ne.symm nonempty
      · cases reading
  · cases writing

end Steps

/--
Wherever the accesses of one producer and one consumer lead, the values taken
are, in order, the first ones that were stored, no slot is written while it is
read, and the queue holds at most `queueMaxSize` elements.
-/
theorem single_producer_single_consumer
    {queueMaxSize : Nat} {state : SharedQueue T}
    (reached : system.Reachable (start queueMaxSize) state) :
    state.popped <+: state.pushed ∧
      (∀ written read,
        state.writes = some written →
          state.reads = some read → written ≠ read) ∧
      (state.queue.elements state.consumer).length ≤ queueMaxSize ∧
        state.queue.size ≤ queueMaxSize := by
  have flowing := flowing_of_reachable reached
  have held := state.queue.size_lt
  rw [flowing.capacity] at held
  refine ⟨?_, fun _ _ => flowing.writes_ne_reads, ?_, ?_⟩
  · rw [flowing.flow]
    exact List.prefix_append _ _
  · rw [LockFreeCircleQueue.elements_length]
    exact Nat.le_of_lt_succ held
  · exact Nat.le_of_lt_succ held

/-- Two pushes and a pop whose accesses alternate, in a queue of one. -/
def alternating : List (SharedEvent (SharedPointer Nat)) :=
  [.beginPush (.to 5), .beginPop, .push, .push, .push, .pop, .beginPush (.to 6),
    .pop, .push, .pop, .beginPush (.to 7), .push, .push, .push]

theorem alternating_complete :
    (system.runAllowed (fun _ _ => True) (start 1) alternating).isSome := by
  decide

theorem single_producer_single_consumer_alternating :
    ((system.runAllowed (fun _ _ => True) (start 1) alternating).get
        alternating_complete).popped <+:
      ((system.runAllowed (fun _ _ => True) (start 1) alternating).get
        alternating_complete).pushed :=
  (single_producer_single_consumer
    (TransitionSystem.reaches_get alternating_complete)).1

end SharedQueue

end IocpServer.Utility
