import IocpServer.Utility.LockFreeCircleQueue

/-!
# The circular queue, one atomic access at a time

A call in progress is a point between two accesses to the queue, together
with the local variables it still needs.  `beginPush` and `beginPop` make
the first load; `stepPush` and `stepPop` make one further load, store or
slot access.

`Coherent` relates the queue to at most one push and at most one pop in
progress, whatever threads they belong to, and `elements` is the list the
queue then stands for.  The step theorems say that such calls take effect
on that list at one access each: a push at its store, a pop at its store,
and a refused call at the load that refuses it.
-/

namespace IocpServer.Utility

open IocpServer.Library

/-- A `push(data)` in progress, by the last access it made. -/
inductive PushPoint (T : Type) where
  | inputLoaded (data : T) (currentInputIndex : Nat)
  | notFull (data : T) (currentInputIndex : Nat)
  | slotWritten (data : T) (currentInputIndex : Nat)
deriving DecidableEq, Repr

/-- The argument of the call. -/
def PushPoint.data {T : Type} : PushPoint T → T
  | .inputLoaded data _ => data
  | .notFull data _ => data
  | .slotWritten data _ => data

/-- A `pop()` in progress, by the last access it made. -/
inductive PopPoint (T : Type) where
  | outputLoaded (currentOutputIndex : Nat)
  | notEmpty (currentOutputIndex : Nat)
  | slotRead (currentOutputIndex : Nat) (data : T)
deriving DecidableEq, Repr

/-- A call after one more access: still running, or returned a value. -/
inductive Progress (Point Result : Type) where
  | running (point : Point)
  | returned (result : Result)
deriving DecidableEq, Repr

namespace LockFreeCircleQueue

variable {T : Type}

/-- `push` loads the input index. -/
def beginPush (queue : LockFreeCircleQueue T) (data : T) : PushPoint T :=
  .inputLoaded data queue.inputIndex

/-- The next access of a `push` in progress. -/
def stepPush (queue : LockFreeCircleQueue T) :
    PushPoint T → Progress (PushPoint T) Bool × LockFreeCircleQueue T
  | .inputLoaded data currentInputIndex =>
      if queue.nextIndex currentInputIndex = queue.outputIndex then
        (.returned false, queue)
      else
        (.running (.notFull data currentInputIndex), queue)
  | .notFull data currentInputIndex =>
      (.running (.slotWritten data currentInputIndex),
        queue.writeSlot currentInputIndex data)
  | .slotWritten _ currentInputIndex =>
      (.returned true, queue.storeInput currentInputIndex)

/-- `pop` loads the output index. -/
def beginPop (queue : LockFreeCircleQueue T) : PopPoint T :=
  .outputLoaded queue.outputIndex

/-- The next access of a `pop` in progress. -/
def stepPop [Movable T] (queue : LockFreeCircleQueue T) :
    PopPoint T → Progress (PopPoint T) T × LockFreeCircleQueue T
  | .outputLoaded currentOutputIndex =>
      if currentOutputIndex = queue.inputIndex then
        (.returned Movable.initial, queue)
      else
        (.running (.notEmpty currentOutputIndex), queue)
  | .notEmpty currentOutputIndex =>
      let data := queue.buffer currentOutputIndex
      (.running (.slotRead currentOutputIndex data),
        queue.writeSlot currentOutputIndex (Movable.movedFrom data))
  | .slotRead currentOutputIndex data =>
      (.returned data, queue.storeOutput currentOutputIndex)

/-! ## One push and one pop in progress -/

/-- What a push in progress has established about the queue. -/
def PushCoherent (queue : LockFreeCircleQueue T) :
    Option (PushPoint T) → Prop
  | none => True
  | some (.inputLoaded _ index) => index = queue.inputIndex
  | some (.notFull _ index) =>
      index = queue.inputIndex ∧
        queue.nextIndex queue.inputIndex ≠ queue.outputIndex
  | some (.slotWritten data index) =>
      index = queue.inputIndex ∧
        queue.nextIndex queue.inputIndex ≠ queue.outputIndex ∧
          queue.buffer queue.inputIndex = data

/-- What a pop in progress has established about the queue. -/
def PopCoherent [Movable T] (queue : LockFreeCircleQueue T) :
    Option (PopPoint T) → Prop
  | none => True
  | some (.outputLoaded index) => index = queue.outputIndex
  | some (.notEmpty index) =>
      index = queue.outputIndex ∧ queue.outputIndex ≠ queue.inputIndex
  | some (.slotRead index data) =>
      index = queue.outputIndex ∧
        queue.outputIndex ≠ queue.inputIndex ∧
          queue.buffer queue.outputIndex = Movable.movedFrom data

/-- Both sides' established facts. -/
structure Coherent [Movable T]
    (queue : LockFreeCircleQueue T)
    (pushing : Option (PushPoint T))
    (popping : Option (PopPoint T)) : Prop where
  push : queue.PushCoherent pushing
  pop : queue.PopCoherent popping

/-- The buffer with the value a pop has already moved out put back. -/
def restoredBuffer (queue : LockFreeCircleQueue T) :
    Option (PopPoint T) → Nat → T
  | some (.slotRead index data) =>
      Function.update queue.buffer index data
  | _ => queue.buffer

/-- The list the queue stands for while a pop is in progress. -/
def elements
    (queue : LockFreeCircleQueue T)
    (popping : Option (PopPoint T)) : List T :=
  ringWindow queue.queueMaxSize queue.outputIndex
    (queue.restoredBuffer popping) queue.size

@[simp]
theorem elements_none (queue : LockFreeCircleQueue T) :
    queue.elements none = queue.contents :=
  rfl

theorem elements_length
    (queue : LockFreeCircleQueue T) (popping : Option (PopPoint T)) :
    (queue.elements popping).length = queue.size := by
  simp [elements]

theorem elements_eq_nil
    (queue : LockFreeCircleQueue T) (popping : Option (PopPoint T)) :
    queue.elements popping = [] ↔
      queue.outputIndex = queue.inputIndex := by
  rw [← List.length_eq_zero_iff, elements_length, size_eq_zero]

theorem coherent_idle [Movable T] (queue : LockFreeCircleQueue T) :
    queue.Coherent none none :=
  ⟨trivial, trivial⟩

/-- Removing an element leaves room. -/
theorem storeOutput_not_full
    (queue : LockFreeCircleQueue T)
    (nonempty : queue.outputIndex ≠ queue.inputIndex) :
    queue.nextIndex queue.inputIndex ≠
      queue.nextIndex queue.outputIndex := by
  intro equal
  have congruent :
      queue.inputIndex + 1 ≡ queue.outputIndex + 1
        [MOD queue.queueMaxSize] := equal
  have same := Nat.ModEq.add_right_cancel' 1 congruent
  have inputMod := Nat.mod_eq_of_lt queue.input_lt
  have outputMod := Nat.mod_eq_of_lt queue.output_lt
  rw [Nat.ModEq, inputMod, outputMod] at same
  exact nonempty same.symm

/-- `push` may begin whatever a pop is doing. -/
theorem Coherent.beginPush [Movable T]
    {queue : LockFreeCircleQueue T} {popping : Option (PopPoint T)}
    (coherent : queue.Coherent none popping) (data : T) :
    queue.Coherent (some (queue.beginPush data)) popping :=
  ⟨rfl, coherent.pop⟩

/-- `pop` may begin whatever a push is doing, if no other pop is running. -/
theorem Coherent.beginPop [Movable T]
    {queue : LockFreeCircleQueue T} {pushing : Option (PushPoint T)}
    (coherent : queue.Coherent pushing none) :
    queue.Coherent pushing (some queue.beginPop) ∧
      queue.elements (some queue.beginPop) = queue.elements none :=
  ⟨⟨coherent.push, rfl⟩, rfl⟩

/-- Writing the slot behind the last element leaves a pop undisturbed. -/
theorem elements_writeSlot [Movable T]
    {queue : LockFreeCircleQueue T} {popping : Option (PopPoint T)}
    (coherent : queue.PopCoherent popping) (data : T) :
    (queue.writeSlot queue.inputIndex data).elements popping =
      queue.elements popping := by
  have plain :
      (queue.writeSlot queue.inputIndex data).contents =
        queue.contents :=
    queue.contents_writeSlot_input data
  match popping, coherent with
  | none, _ => exact plain
  | some (.outputLoaded _), _ => exact plain
  | some (.notEmpty _), _ => exact plain
  | some (.slotRead index taken), ⟨atOutput, nonempty, _⟩ =>
      subst atOutput
      -- the two written slots are different, so the writes commute
      have commuted :
          Function.update
              (Function.update queue.buffer queue.inputIndex data)
              queue.outputIndex taken =
            Function.update
              (Function.update queue.buffer queue.outputIndex taken)
              queue.inputIndex data :=
        Function.update_comm (Ne.symm nonempty) _ _ _
      change
        ringWindow queue.queueMaxSize queue.outputIndex
            (Function.update
              (Function.update queue.buffer queue.inputIndex data)
              queue.outputIndex taken) queue.size =
          ringWindow queue.queueMaxSize queue.outputIndex
            (Function.update queue.buffer queue.outputIndex taken)
            queue.size
      rw [commuted]
      exact ringWindow_update _ data queue.input_outside

/-- Storing the input index appends to the list, whatever a pop is doing. -/
theorem elements_storeInput [Movable T]
    {queue : LockFreeCircleQueue T} {popping : Option (PopPoint T)}
    (coherent : queue.PopCoherent popping)
    (room : queue.nextIndex queue.inputIndex ≠ queue.outputIndex) :
    (queue.storeInput queue.inputIndex).elements popping =
      queue.elements popping ++ [queue.buffer queue.inputIndex] := by
  have longer :
      (queue.storeInput queue.inputIndex).size = queue.size + 1 :=
    ringDistance_succ_finish queue.output_lt queue.input_lt room
  have appended :
      (queue.storeInput queue.inputIndex).elements popping =
        queue.elements popping ++
          [queue.restoredBuffer popping queue.inputIndex] := by
    rw [elements, longer]
    change
      ringWindow queue.queueMaxSize queue.outputIndex
          (queue.restoredBuffer popping) (queue.size + 1) = _
    rw [ringWindow_succ, output_add_size]
    rfl
  rw [appended]
  match popping, coherent with
  | none, _ => rfl
  | some (.outputLoaded _), _ => rfl
  | some (.notEmpty _), _ => rfl
  | some (.slotRead index taken), ⟨atOutput, nonempty, _⟩ =>
      subst atOutput
      change
        _ ++ [Function.update queue.buffer queue.outputIndex taken
          queue.inputIndex] = _
      rw [Function.update_of_ne (Ne.symm nonempty)]

/-- A pop's established facts survive the other side's store. -/
theorem PopCoherent.storeInput [Movable T]
    {queue : LockFreeCircleQueue T} {popping : Option (PopPoint T)}
    (coherent : queue.PopCoherent popping)
    (room : queue.nextIndex queue.inputIndex ≠ queue.outputIndex) :
    (queue.storeInput queue.inputIndex).PopCoherent popping := by
  match popping, coherent with
  | none, _ => trivial
  | some (.outputLoaded _), atOutput => exact atOutput
  | some (.notEmpty _), ⟨atOutput, _⟩ =>
      exact ⟨atOutput, Ne.symm room⟩
  | some (.slotRead _ _), ⟨atOutput, _, moved⟩ =>
      exact ⟨atOutput, Ne.symm room, moved⟩

/-- A pop's established facts survive the other side's write. -/
theorem PopCoherent.writeSlot [Movable T]
    {queue : LockFreeCircleQueue T} {popping : Option (PopPoint T)}
    (coherent : queue.PopCoherent popping) (value : T) :
    (queue.writeSlot queue.inputIndex value).PopCoherent popping := by
  match popping, coherent with
  | none, _ => trivial
  | some (.outputLoaded _), atOutput => exact atOutput
  | some (.notEmpty _), facts => exact facts
  | some (.slotRead _ _), ⟨atOutput, nonempty, moved⟩ =>
      refine ⟨atOutput, nonempty, ?_⟩
      change
        Function.update queue.buffer queue.inputIndex value
          queue.outputIndex = _
      rw [Function.update_of_ne nonempty, moved]

/-- Where moving copies, a pop in progress hides no element. -/
theorem PopCoherent.elements_eq_contents [Movable T]
    {queue : LockFreeCircleQueue T} {popping : Option (PopPoint T)}
    (coherent : queue.PopCoherent popping)
    (copies : ∀ value : T, Movable.movedFrom value = value) :
    queue.elements popping = queue.contents := by
  match popping, coherent with
  | none, _ => rfl
  | some (.outputLoaded _), _ => rfl
  | some (.notEmpty _), _ => rfl
  | some (.slotRead _ data), ⟨atOutput, _, moved⟩ =>
      subst atOutput
      have unchanged :
          Function.update queue.buffer queue.outputIndex data =
            queue.buffer := by
        rw [← copies data, ← moved, Function.update_eq_self]
      change
        ringWindow queue.queueMaxSize queue.outputIndex
            (Function.update queue.buffer queue.outputIndex data)
            queue.size = _
      rw [unchanged]
      rfl

/--
One access of a push in progress.  Either the call goes on and the list is
unchanged, or its store appends the argument, or the load of the output
index found the queue full.
-/
theorem Coherent.stepPush [Movable T]
    {queue after : LockFreeCircleQueue T} {point : PushPoint T}
    {popping : Option (PopPoint T)}
    {progress : Progress (PushPoint T) Bool}
    (coherent : queue.Coherent (some point) popping)
    (taken : queue.stepPush point = (progress, after)) :
    (∃ next,
        progress = .running next ∧ next.data = point.data ∧
          after.Coherent (some next) popping ∧
            after.elements popping = queue.elements popping) ∨
      (progress = .returned true ∧ after.Coherent none popping ∧
        after.elements popping =
          queue.elements popping ++ [point.data]) ∨
      (progress = .returned false ∧ after = queue ∧
        queue.Coherent none popping ∧
          queue.nextIndex queue.inputIndex = queue.outputIndex) := by
  rcases coherent with ⟨pushFacts, popFacts⟩
  cases point with
  | inputLoaded data index =>
      have atInput : index = queue.inputIndex := pushFacts
      subst atInput
      by_cases full :
          queue.nextIndex queue.inputIndex = queue.outputIndex
      · rw [LockFreeCircleQueue.stepPush, if_pos full] at taken
        rcases Prod.mk.inj taken with ⟨rfl, rfl⟩
        exact .inr (.inr ⟨rfl, rfl, ⟨trivial, popFacts⟩, full⟩)
      · rw [LockFreeCircleQueue.stepPush, if_neg full] at taken
        rcases Prod.mk.inj taken with ⟨rfl, rfl⟩
        exact .inl ⟨_, rfl, rfl, ⟨⟨rfl, full⟩, popFacts⟩, rfl⟩
  | notFull data index =>
      rcases pushFacts with ⟨atInput, room⟩
      subst atInput
      rcases Prod.mk.inj taken with ⟨rfl, rfl⟩
      have written :
          (queue.writeSlot queue.inputIndex data).buffer
            queue.inputIndex = data :=
        Function.update_self ..
      exact
        .inl ⟨_, rfl, rfl,
          ⟨⟨rfl, room, written⟩, popFacts.writeSlot data⟩,
          elements_writeSlot popFacts data⟩
  | slotWritten data index =>
      rcases pushFacts with ⟨atInput, room, written⟩
      subst atInput
      rcases Prod.mk.inj taken with ⟨rfl, rfl⟩
      refine
        .inr (.inl ⟨rfl, ⟨trivial, popFacts.storeInput room⟩, ?_⟩)
      rw [elements_storeInput popFacts room, written]
      rfl

/-- A push's established facts survive the other side's store. -/
theorem PushCoherent.storeOutput
    {queue : LockFreeCircleQueue T} {pushing : Option (PushPoint T)}
    (coherent : queue.PushCoherent pushing)
    (nonempty : queue.outputIndex ≠ queue.inputIndex) :
    (queue.storeOutput queue.outputIndex).PushCoherent pushing := by
  have room := queue.storeOutput_not_full nonempty
  match pushing, coherent with
  | none, _ => trivial
  | some (.inputLoaded _ _), atInput => exact atInput
  | some (.notFull _ _), ⟨atInput, _⟩ => exact ⟨atInput, room⟩
  | some (.slotWritten _ _), ⟨atInput, _, written⟩ =>
      exact ⟨atInput, room, written⟩

/-- A push's established facts survive a write to the first slot. -/
theorem PushCoherent.writeSlot
    {queue : LockFreeCircleQueue T} {pushing : Option (PushPoint T)}
    (coherent : queue.PushCoherent pushing)
    (nonempty : queue.outputIndex ≠ queue.inputIndex) (value : T) :
    (queue.writeSlot queue.outputIndex value).PushCoherent pushing := by
  match pushing, coherent with
  | none, _ => trivial
  | some (.inputLoaded _ _), atInput => exact atInput
  | some (.notFull _ _), facts => exact facts
  | some (.slotWritten _ _), ⟨atInput, room, written⟩ =>
      refine ⟨atInput, room, ?_⟩
      change
        Function.update queue.buffer queue.outputIndex value
          queue.inputIndex = _
      rw [Function.update_of_ne (Ne.symm nonempty), written]

/--
One access of a pop in progress.  Either the call goes on and the list is
unchanged, or its store removes the head, which it returns, or the load of
the input index found the queue empty.
-/
theorem Coherent.stepPop [Movable T]
    {queue after : LockFreeCircleQueue T} {point : PopPoint T}
    {pushing : Option (PushPoint T)}
    {progress : Progress (PopPoint T) T}
    (coherent : queue.Coherent pushing (some point))
    (taken : queue.stepPop point = (progress, after)) :
    (∃ next,
        progress = .running next ∧
          after.Coherent pushing (some next) ∧
            after.elements (some next) =
              queue.elements (some point)) ∨
      (∃ head,
        progress = .returned head ∧ after.Coherent pushing none ∧
          queue.elements (some point) =
            head :: after.elements none) ∨
      (progress = .returned Movable.initial ∧ after = queue ∧
        queue.Coherent pushing none ∧
          queue.elements (some point) = []) := by
  rcases coherent with ⟨pushFacts, popFacts⟩
  cases point with
  | outputLoaded index =>
      have atOutput : index = queue.outputIndex := popFacts
      subst atOutput
      by_cases nothing : queue.outputIndex = queue.inputIndex
      · rw [LockFreeCircleQueue.stepPop, if_pos nothing] at taken
        rcases Prod.mk.inj taken with ⟨rfl, rfl⟩
        exact
          .inr (.inr ⟨rfl, rfl, ⟨pushFacts, trivial⟩,
            (queue.elements_eq_nil _).mpr nothing⟩)
      · rw [LockFreeCircleQueue.stepPop, if_neg nothing] at taken
        rcases Prod.mk.inj taken with ⟨rfl, rfl⟩
        exact .inl ⟨_, rfl, ⟨pushFacts, rfl, nothing⟩, rfl⟩
  | notEmpty index =>
      rcases popFacts with ⟨atOutput, nonempty⟩
      subst atOutput
      rcases Prod.mk.inj taken with ⟨rfl, rfl⟩
      refine
        .inl ⟨_, rfl,
          ⟨pushFacts.writeSlot nonempty _, rfl, nonempty,
            Function.update_self ..⟩, ?_⟩
      -- putting the moved value back undoes the move
      have restored :
          Function.update
              (Function.update queue.buffer queue.outputIndex
                (Movable.movedFrom (queue.buffer queue.outputIndex)))
              queue.outputIndex (queue.buffer queue.outputIndex) =
            queue.buffer := by
        rw [Function.update_idem, Function.update_eq_self]
      change
        ringWindow queue.queueMaxSize queue.outputIndex
            (Function.update
              (Function.update queue.buffer queue.outputIndex
                (Movable.movedFrom (queue.buffer queue.outputIndex)))
              queue.outputIndex (queue.buffer queue.outputIndex))
            queue.size =
          ringWindow queue.queueMaxSize queue.outputIndex queue.buffer
            queue.size
      rw [restored]
  | slotRead index data =>
      rcases popFacts with ⟨atOutput, nonempty, _⟩
      subst atOutput
      rcases Prod.mk.inj taken with ⟨rfl, rfl⟩
      refine
        .inr (.inl ⟨data, rfl,
          ⟨pushFacts.storeOutput nonempty, trivial⟩, ?_⟩)
      have shorter :
          (queue.storeOutput queue.outputIndex).size + 1 = queue.size :=
        ringDistance_succ_start queue.output_lt queue.input_lt nonempty
      have split :
          queue.elements (some (.slotRead queue.outputIndex data)) =
            Function.update queue.buffer queue.outputIndex data
                queue.outputIndex ::
              ringWindow queue.queueMaxSize
                (queue.nextIndex queue.outputIndex)
                (Function.update queue.buffer queue.outputIndex data)
                (queue.storeOutput queue.outputIndex).size := by
        rw [elements, ← shorter]
        exact ringWindow_cons queue.output_lt _ _
      rw [split, Function.update_self]
      congr 1
      apply ringWindow_update
      intro offset bound
      apply queue.output_outside
      rw [← shorter]
      exact Nat.succ_lt_succ bound

/-- A push leaves a queue that holds something nonempty. -/
theorem Coherent.nonempty_stepPush [Movable T]
    {queue after : LockFreeCircleQueue T} {point : PushPoint T}
    {popping : Option (PopPoint T)}
    {progress : Progress (PushPoint T) Bool}
    (coherent : queue.Coherent (some point) popping)
    (taken : queue.stepPush point = (progress, after))
    (nonempty : queue.outputIndex ≠ queue.inputIndex) :
    after.outputIndex ≠ after.inputIndex := by
  have held : queue.elements popping ≠ [] := by
    intro nothing
    exact nonempty ((queue.elements_eq_nil popping).mp nothing)
  intro empty
  have nothing := (after.elements_eq_nil popping).mpr empty
  rcases coherent.stepPush taken with
    ⟨-, -, -, -, sameElements⟩ | ⟨-, -, appended⟩ | ⟨-, rfl, -, -⟩
  · exact held (sameElements.symm.trans nothing)
  · rw [appended] at nothing
    simp at nothing
  · exact held nothing

/-- A push leaves the number of slots and the output index. -/
theorem stepPush_frame
    {queue after : LockFreeCircleQueue T} {point : PushPoint T}
    {progress : Progress (PushPoint T) Bool}
    (taken : queue.stepPush point = (progress, after)) :
    after.queueMaxSize = queue.queueMaxSize ∧
      after.outputIndex = queue.outputIndex := by
  cases point with
  | inputLoaded data index =>
      rw [stepPush] at taken
      split_ifs at taken
      · cases taken
        exact ⟨rfl, rfl⟩
      · cases taken
        exact ⟨rfl, rfl⟩
  | notFull data index =>
      cases taken
      exact ⟨rfl, rfl⟩
  | slotWritten data index =>
      cases taken
      exact ⟨rfl, rfl⟩

/-- No access of a push changes the number of slots. -/
theorem queueMaxSize_stepPush
    {queue after : LockFreeCircleQueue T} {point : PushPoint T}
    {progress : Progress (PushPoint T) Bool}
    (taken : queue.stepPush point = (progress, after)) :
    after.queueMaxSize = queue.queueMaxSize :=
  (stepPush_frame taken).1

/-- No access of a pop changes the number of slots. -/
theorem queueMaxSize_stepPop [Movable T]
    {queue after : LockFreeCircleQueue T} {point : PopPoint T}
    {progress : Progress (PopPoint T) T}
    (taken : queue.stepPop point = (progress, after)) :
    after.queueMaxSize = queue.queueMaxSize := by
  cases point with
  | outputLoaded index =>
      rw [stepPop] at taken
      split_ifs at taken
      · cases taken
        rfl
      · cases taken
        rfl
  | notEmpty index =>
      cases taken
      rfl
  | slotRead index data =>
      cases taken
      rfl

/-- A push never moves the output index. -/
theorem outputIndex_stepPush
    {queue after : LockFreeCircleQueue T} {point : PushPoint T}
    {progress : Progress (PushPoint T) Bool}
    (taken : queue.stepPush point = (progress, after)) :
    after.outputIndex = queue.outputIndex :=
  (stepPush_frame taken).2

/--
One access of a pop that has found something.  Where the elements are the
images of objects, it ends with that of the first object.
-/
theorem Coherent.stepPop_nonempty [Movable T]
    {Object : Type} {wrap : Object → T} {queued : List Object}
    {queue after : LockFreeCircleQueue T} {point : PopPoint T}
    {pushing : Option (PushPoint T)}
    {progress : Progress (PopPoint T) T}
    (coherent : queue.Coherent pushing (some point))
    (nonempty : queue.outputIndex ≠ queue.inputIndex)
    (held : queue.elements (some point) = queued.map wrap)
    (taken : queue.stepPop point = (progress, after)) :
    (∃ next,
      progress = .running next ∧
        after.Coherent pushing (some next) ∧
          after.outputIndex ≠ after.inputIndex ∧
            after.elements (some next) = queued.map wrap) ∨
      ∃ head rest,
        queued = head :: rest ∧
          progress = .returned (wrap head) ∧
            after.Coherent pushing none ∧
              after.elements none = rest.map wrap := by
  have something : queue.elements (some point) ≠ [] := by
    intro nothing
    exact nonempty ((queue.elements_eq_nil _).mp nothing)
  rcases coherent.stepPop taken with
    ⟨next, running, kept, sameElements⟩ |
      ⟨head, returned, kept, split⟩ | ⟨-, -, -, nothing⟩
  · left
    refine
      ⟨next, running, kept, ?_, sameElements.trans held⟩
    intro empty
    apply something
    rw [← sameElements]
    exact (after.elements_eq_nil _).mpr empty
  · right
    have images : queued.map wrap = head :: after.elements none :=
      held.symm.trans split
    rcases List.map_eq_cons_iff.mp images with
      ⟨first, rest, whole, wrapped, restHeld⟩
    refine ⟨first, rest, whole, ?_, kept, restHeld.symm⟩
    rw [returned, wrapped]
  · exact absurd nothing something

/-! ## Calls that run without interference -/

/-- The accesses of one `push` made in a row compute `push`. -/
theorem push_eq_steps (queue : LockFreeCircleQueue T) (data : T) :
    queue.push data =
      match queue.stepPush (queue.beginPush data) with
      | (.returned result, after) => (result, after)
      | (.running second, after) =>
          match after.stepPush second with
          | (.returned result, after) => (result, after)
          | (.running third, after) =>
              match after.stepPush third with
              | (.returned result, after) => (result, after)
              | (.running _, after) => (false, after) := by
  by_cases full : queue.nextIndex queue.inputIndex = queue.outputIndex
  · simp [push, stepPush, beginPush, full]
  · simp [push, stepPush, beginPush, full]

/-- The accesses of one `pop` made in a row compute `pop`. -/
theorem pop_eq_steps [Movable T] (queue : LockFreeCircleQueue T) :
    queue.pop =
      match queue.stepPop queue.beginPop with
      | (.returned result, after) => (result, after)
      | (.running second, after) =>
          match after.stepPop second with
          | (.returned result, after) => (result, after)
          | (.running third, after) =>
              match after.stepPop third with
              | (.returned result, after) => (result, after)
              | (.running _, after) => (Movable.initial, after) := by
  by_cases nothing : queue.outputIndex = queue.inputIndex
  · simp [pop, stepPop, beginPop, nothing]
  · simp [pop, stepPop, beginPop, nothing]

end LockFreeCircleQueue

end IocpServer.Utility
