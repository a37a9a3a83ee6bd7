import IocpServer.Library.TransitionSystem
import IocpServer.Library.ListCuts
import IocpServer.Utility.QueueInterleaving
import IocpServer.Network.BasicData
import Mathlib.Data.List.Perm.Basic
import Mathlib.Data.List.Nodup

/-!
# Ownership of pooled overlapped objects

The network thread and a job thread share `_overlappedQueue`.  The network
thread takes a completion, pops an object for the next receive in
`CallReceiveReady` and pushes the finished object back; the job thread pops
an object in `SendRequest`.  Every load, store and slot access of `push` and
`pop` is one step, and so is every call of the system in between.  Job
threads exclude each other through `_lockJobThread`, so one job thread
stands for all of them.

What an operation does with its socket and its buffers is left out here:
only the pointers to the objects are followed.
-/

namespace IocpServer.Network.OverlappedOwnership

open IocpServer.Library
open IocpServer.Utility

/-- Where the network thread is in `ProcessCompletionHandler`. -/
inductive NetworkPoint where
  /-- In `GetQueuedCompletionStatus`. -/
  | waiting
  /-- In `CallReceiveReady`, before `getsockopt`. -/
  | readying (finished : Nat)
  /-- In the `pop` of `CallReceiveReady`. -/
  | popping (finished : Nat) (point : PopPoint (RawPointer Nat))
  /-- Between that `pop` and the return of `WSARecv`. -/
  | posting (finished acquired : Nat)
  /-- Before the finished object is cleared. -/
  | clearing (finished : Nat)
  /-- In the `push` of the finished object. -/
  | pushing (finished : Nat) (point : PushPoint (RawPointer Nat))
  /-- `Clear` was called on the null pointer. -/
  | crashed
deriving DecidableEq

/-- Where the job thread is in `SendRequest`. -/
inductive JobPoint where
  /-- Outside `SendRequest`, or still looking its socket up. -/
  | waiting
  /-- In the `pop` of `SendRequest`. -/
  | popping (point : PopPoint (RawPointer Nat))
  /-- Between that `pop` and the return of `WSASend`. -/
  | posting (acquired : Nat)
  /-- `Clear` was called on the null pointer. -/
  | crashed
deriving DecidableEq

/-- The shared queue, the operations in flight and the two threads. -/
structure PoolState where
  overlappedQueue : LockFreeCircleQueue (RawPointer Nat)
  outstanding : List (OperationType × Nat)
  network : NetworkPoint
  job : JobPoint

/--
A completion handed to the network thread, or a step of one thread;
`outcome` is what the system call in that step answers, if there is one.
-/
inductive PoolEvent where
  | complete (index : Nat) (carriesData : Bool)
  | network (outcome : Bool)
  | job (outcome : Bool)
deriving DecidableEq

/-- The handlers of these operations end in `CallReceiveReady`. -/
def callsReceiveReady : OperationType → Bool
  | .opConnect | .opAccept | .opRecv => true
  | .opSend | .opDefault => false

/-- The next step of the network thread outside its wait. -/
def networkStep (state : PoolState) (outcome : Bool) :
    Option PoolState :=
  match state.network with
  | .waiting | .crashed => none
  | .readying finished =>
      if outcome then
        some
          { state with
            network := .popping finished state.overlappedQueue.beginPop }
      else
        some { state with network := .clearing finished }
  | .popping finished point =>
      match state.overlappedQueue.stepPop point with
      | (.running next, after) =>
          some
            { state with
              overlappedQueue := after
              network := .popping finished next }
      | (.returned (.to acquired), after) =>
          some
            { state with
              overlappedQueue := after
              network := .posting finished acquired }
      | (.returned .null, after) =>
          some
            { state with overlappedQueue := after, network := .crashed }
  | .posting finished acquired =>
      if outcome then
        some
          { state with
            outstanding := state.outstanding ++ [(.opRecv, acquired)]
            network := .clearing finished }
      else
        some { state with network := .clearing finished }
  | .clearing finished =>
      some
        { state with
          network :=
            .pushing finished
              (state.overlappedQueue.beginPush (.to finished)) }
  | .pushing finished point =>
      match state.overlappedQueue.stepPush point with
      | (.running next, after) =>
          some
            { state with
              overlappedQueue := after
              network := .pushing finished next }
      | (.returned _, after) =>
          some
            { state with overlappedQueue := after, network := .waiting }

/-- The next step of the job thread. -/
def jobStep (state : PoolState) (outcome : Bool) : Option PoolState :=
  match state.job with
  | .crashed => none
  | .waiting =>
      some
        { state with job := .popping state.overlappedQueue.beginPop }
  | .popping point =>
      match state.overlappedQueue.stepPop point with
      | (.running next, after) =>
          some
            { state with
              overlappedQueue := after
              job := .popping next }
      | (.returned (.to acquired), after) =>
          some
            { state with
              overlappedQueue := after
              job := .posting acquired }
      | (.returned .null, after) =>
          some { state with overlappedQueue := after, job := .crashed }
  | .posting acquired =>
      if outcome then
        some
          { state with
            outstanding := state.outstanding ++ [(.opSend, acquired)]
            job := .waiting }
      else
        some { state with job := .waiting }

/-- The first point of the handler for a completion. -/
def handler
    (operation : OperationType) (carriesData : Bool) (finished : Nat) :
    NetworkPoint :=
  if carriesData && callsReceiveReady operation then
    .readying finished
  else
    .clearing finished

/-- The dequeued completion starts a handler. -/
def completeStep
    (state : PoolState) (index : Nat) (carriesData : Bool) :
    Option PoolState :=
  match state.network, state.outstanding[index]? with
  | .waiting, some (operation, finished) =>
      some
        { state with
          outstanding := state.outstanding.eraseIdx index
          network := handler operation carriesData finished }
  | _, _ => none

/-- A crash ends the process; otherwise either thread may move. -/
def poolStep (state : PoolState) (event : PoolEvent) :
    Option PoolState :=
  if state.network = .crashed ∨ state.job = .crashed then
    none
  else
    match event with
    | .complete index carriesData =>
        completeStep state index carriesData
    | .network outcome => networkStep state outcome
    | .job outcome => jobStep state outcome

/-- The two threads over the shared pool. -/
def pool : TransitionSystem PoolState PoolEvent where
  step := poolStep

/-- `Construct`: the addresses below `overlappedQueueMax` are pushed. -/
def constructQueue (overlappedQueueMax : Nat) :
    LockFreeCircleQueue (RawPointer Nat) :=
  (LockFreeCircleQueue.construct overlappedQueueMax).pushAll .to
    (List.range overlappedQueueMax)

/-- One `PrepareAcceptSocket` of the hub's start-up loop. -/
def prepareAccept (state : PoolState) : PoolState :=
  match state.overlappedQueue.pop with
  | (.to acquired, after) =>
      { state with
        overlappedQueue := after
        outstanding := state.outstanding ++ [(.opAccept, acquired)] }
  | (.null, _) => { state with job := .crashed }

/-- The state in which the threads start: the first accepts are pending. -/
def started (overlappedQueueMax preparedSocketMax : Nat) : PoolState :=
  prepareAccept^[preparedSocketMax]
    { overlappedQueue := constructQueue overlappedQueueMax
      outstanding := []
      network := .waiting
      job := .waiting }

/-! ## Who owns what -/

/-- The objects the network thread is working on. -/
def NetworkPoint.owned : NetworkPoint → List Nat
  | .waiting | .crashed => []
  | .readying finished => [finished]
  | .popping finished _ => [finished]
  | .posting finished acquired => [finished, acquired]
  | .clearing finished => [finished]
  | .pushing finished _ => [finished]

/-- The objects the job thread is working on. -/
def JobPoint.owned : JobPoint → List Nat
  | .posting acquired => [acquired]
  | .waiting | .popping _ | .crashed => []

/-- The objects of outstanding and of in-preparation operations. -/
def PoolState.inUse (state : PoolState) : List Nat :=
  state.outstanding.map Prod.snd ++ state.network.owned ++
    state.job.owned

/--
No object belongs to two operations at once, and none is in the pool and in
use.
-/
def PoolState.Exclusive (state : PoolState) : Prop :=
  state.inUse.Nodup ∧
    ∀ address ∈ state.inUse,
      RawPointer.to address ∉ state.overlappedQueue.contents

/-- The `pop` the network thread is in. -/
def NetworkPoint.popPoint :
    NetworkPoint → Option (PopPoint (RawPointer Nat))
  | .popping _ point => some point
  | _ => none

/-- The `push` the network thread is in. -/
def NetworkPoint.pushPoint :
    NetworkPoint → Option (PushPoint (RawPointer Nat))
  | .pushing _ point => some point
  | _ => none

/-- The `pop` the job thread is in. -/
def JobPoint.popPoint : JobPoint → Option (PopPoint (RawPointer Nat))
  | .popping point => some point
  | _ => none

/-- The `pop` in progress, the network thread's first. -/
def PoolState.popPoint (state : PoolState) :
    Option (PopPoint (RawPointer Nat)) :=
  state.network.popPoint.or state.job.popPoint

/-- The event makes a thread load the output index for a `pop`. -/
def beginsPop (state : PoolState) : PoolEvent → Bool
  | .network outcome =>
      match state.network with
      | .readying _ => outcome
      | _ => false
  | .job _ => state.job == .waiting
  | .complete _ _ => false

/--
A thread begins a `pop` of the pool only while the other thread is not
between the first load and the end of its own.
-/
def PopsExclude (state : PoolState) (event : PoolEvent) : Prop :=
  beginsPop state event = true → state.popPoint = none

instance (state : PoolState) (event : PoolEvent) :
    Decidable (PopsExclude state event) := by
  unfold PopsExclude
  infer_instance

/-! ## A queue of pointers as a pool -/

section Pool

variable {queue after : LockFreeCircleQueue (RawPointer Nat)}
variable {pushing : Option (PushPoint (RawPointer Nat))}
variable {popping : Option (PopPoint (RawPointer Nat))}
variable {held : List Nat}

/--
The calls in progress are coherent, and no pointer occurs twice among the
`held` ones and those in the pool.
-/
structure Distinct
    (queue : LockFreeCircleQueue (RawPointer Nat))
    (pushing : Option (PushPoint (RawPointer Nat)))
    (popping : Option (PopPoint (RawPointer Nat)))
    (held : List Nat) : Prop where
  coherent : queue.Coherent pushing popping
  nodup : (held.map RawPointer.to ++ queue.elements popping).Nodup

/-- Handing pointers on, or losing some, keeps them distinct. -/
theorem Distinct.mono
    (distinct : Distinct queue pushing popping held)
    {fewer : List Nat} (contained : fewer.Subperm held) :
    Distinct queue pushing popping fewer := by
  rcases distinct with ⟨coherent, nodup⟩
  rcases contained with ⟨sub, rearranged, sublist⟩
  refine ⟨coherent, ?_⟩
  have subNodup :
      (sub.map RawPointer.to ++ queue.elements popping).Nodup :=
    ((sublist.map RawPointer.to).append_right _).nodup nodup
  exact
    ((rearranged.map RawPointer.to).append_right _).nodup_iff.mp subNodup

theorem Distinct.beginPop
    (distinct : Distinct queue pushing none held) :
    Distinct queue pushing (some queue.beginPop) held := by
  rcases distinct with ⟨coherent, nodup⟩
  rcases coherent.beginPop with ⟨began, same⟩
  exact ⟨began, by rw [same]; exact nodup⟩

theorem Distinct.beginPush
    (distinct : Distinct queue none popping held)
    (pointer : RawPointer Nat) :
    Distinct queue (some (queue.beginPush pointer)) popping held :=
  ⟨distinct.coherent.beginPush pointer, distinct.nodup⟩

/-- A pop which goes on changes nothing. -/
theorem Distinct.pop_running
    {point next : PopPoint (RawPointer Nat)}
    (distinct : Distinct queue pushing (some point) held)
    (taken : queue.stepPop point = (.running next, after)) :
    Distinct after pushing (some next) held := by
  rcases distinct with ⟨coherent, nodup⟩
  rcases coherent.stepPop taken with
    ⟨_, equal, continued, same⟩ | ⟨_, equal, _⟩ | ⟨equal, _⟩
  · cases equal
    exact ⟨continued, by rw [same]; exact nodup⟩
  · cases equal
  · cases equal

/-- A pop which returns a pointer takes it out of the pool. -/
theorem Distinct.pop_returned
    {point : PopPoint (RawPointer Nat)} {acquired : Nat}
    (distinct : Distinct queue pushing (some point) held)
    (taken : queue.stepPop point = (.returned (.to acquired), after)) :
    Distinct after pushing none (acquired :: held) := by
  rcases distinct with ⟨coherent, nodup⟩
  rcases coherent.stepPop taken with
    ⟨_, equal, _⟩ | ⟨_, equal, continued, removed⟩ | ⟨equal, _⟩
  · cases equal
  · cases equal
    rw [removed] at nodup
    exact ⟨continued, List.perm_middle.nodup_iff.mp nodup⟩
  · cases equal

/-- A pop which returns the null pointer leaves the held ones alone. -/
theorem Distinct.pop_null
    {point : PopPoint (RawPointer Nat)}
    (distinct : Distinct queue pushing (some point) held)
    (taken : queue.stepPop point = (.returned .null, after)) :
    Distinct after pushing none held := by
  rcases distinct with ⟨coherent, nodup⟩
  rcases coherent.stepPop taken with
    ⟨_, equal, _⟩ | ⟨_, equal, continued, removed⟩ |
      ⟨_, rfl, continued, nothing⟩
  · cases equal
  · cases equal
    rw [removed] at nodup
    exact
      ⟨continued,
        ((List.sublist_cons_self _ _).append_left _).nodup nodup⟩
  · rw [nothing] at nodup
    refine ⟨continued, ?_⟩
    have empty : after.elements none = [] := by
      rw [after.elements_eq_nil] at nothing ⊢
      exact nothing
    rw [empty]
    exact nodup

/-- A push which goes on changes nothing. -/
theorem Distinct.push_running
    {point next : PushPoint (RawPointer Nat)}
    (distinct : Distinct queue (some point) popping held)
    (taken : queue.stepPush point = (.running next, after)) :
    Distinct after (some next) popping held ∧
      next.data = point.data := by
  rcases distinct with ⟨coherent, nodup⟩
  rcases coherent.stepPush taken with
    ⟨_, equal, sameData, continued, same⟩ | ⟨equal, _⟩ | ⟨equal, _⟩
  · cases equal
    exact ⟨⟨continued, by rw [same]; exact nodup⟩, sameData⟩
  · cases equal
  · cases equal

/-- A push which returns has put its pointer into the pool or lost it. -/
theorem Distinct.push_returned
    {point : PushPoint (RawPointer Nat)} {finished : Nat}
    {result : Bool}
    (distinct : Distinct queue (some point) popping (finished :: held))
    (argument : point.data = .to finished)
    (taken : queue.stepPush point = (.returned result, after)) :
    Distinct after none popping held := by
  rcases distinct with ⟨coherent, nodup⟩
  rcases coherent.stepPush taken with
    ⟨_, equal, _⟩ | ⟨equal, continued, appended⟩ |
      ⟨equal, rfl, continued, _⟩
  · cases equal
  · cases equal
    refine ⟨continued, ?_⟩
    rw [appended, argument, ← List.append_assoc]
    exact
      (List.perm_append_singleton (RawPointer.to finished) _).nodup_iff.mpr
        nodup
  · exact ⟨continued, (List.nodup_cons.mp nodup).2⟩

end Pool

/-! ## Runs whose pops exclude each other -/

/--
At most one `pop` is in progress, the pointer being pushed is the finished
one, and no pointer is held twice.
-/
structure Owned (state : PoolState) : Prop where
  single : state.network.popPoint = none ∨ state.job.popPoint = none
  argument :
    ∀ finished point,
      state.network = .pushing finished point →
        point.data = .to finished
  distinct :
    Distinct state.overlappedQueue state.network.pushPoint
      state.popPoint state.inUse

theorem Owned.exclusive
    {state : PoolState} (owned : Owned state) : state.Exclusive := by
  rcases owned.distinct with ⟨coherent, nodup⟩
  rw [coherent.pop.elements_eq_contents fun _ => rfl,
    List.nodup_append] at nodup
  rcases nodup with ⟨usedNodup, _, disjoint⟩
  refine ⟨List.Nodup.of_map _ usedNodup, ?_⟩
  intro address used pooled
  exact
    disjoint (.to address) (List.mem_map_of_mem used)
      (.to address) pooled rfl

@[simp]
theorem handler_popPoint
    (operation : OperationType) (carriesData : Bool) (finished : Nat) :
    (handler operation carriesData finished).popPoint = none := by
  unfold handler
  split <;> rfl

@[simp]
theorem handler_pushPoint
    (operation : OperationType) (carriesData : Bool) (finished : Nat) :
    (handler operation carriesData finished).pushPoint = none := by
  unfold handler
  split <;> rfl

@[simp]
theorem handler_owned
    (operation : OperationType) (carriesData : Bool) (finished : Nat) :
    (handler operation carriesData finished).owned = [finished] := by
  unfold handler
  split <;> rfl

theorem handler_ne_pushing
    (operation : OperationType) (carriesData : Bool) (finished : Nat)
    (pushed : Nat) (point : PushPoint (RawPointer Nat)) :
    handler operation carriesData finished ≠ .pushing pushed point := by
  unfold handler
  split <;> nofun

/-- Taking one operation out of the outstanding ones moves its pointer. -/
theorem outstanding_eraseIdx
    {outstanding : List (OperationType × Nat)} {index : Nat}
    {operation : OperationType} {address : Nat}
    (found : outstanding[index]? = some (operation, address)) :
    ((outstanding.eraseIdx index).map Prod.snd ++ [address]).Perm
      (outstanding.map Prod.snd) := by
  exact
    (List.perm_append_singleton address _).trans
      ((perm_cons_eraseIdx found).map Prod.snd)

/-- A dequeued completion moves its object to the network thread. -/
theorem completeStep_owned
    {state after : PoolState} {index : Nat} {carriesData : Bool}
    (owned : Owned state)
    (taken : completeStep state index carriesData = some after) :
    Owned after := by
  rcases owned with ⟨_, _, distinct⟩
  unfold completeStep at taken
  split at taken
  next operation finished waiting found =>
    cases taken
    rw [PoolState.popPoint, PoolState.inUse, waiting] at distinct
    refine ⟨.inl (handler_popPoint ..), ?_, ?_⟩
    · intro pushed point pushing
      exact (handler_ne_pushing _ _ _ _ _ pushing).elim
    · rw [PoolState.popPoint, PoolState.inUse, handler_popPoint,
        handler_pushPoint, handler_owned]
      refine distinct.mono (List.Perm.subperm ?_)
      rw [NetworkPoint.owned, List.append_nil]
      exact (outstanding_eraseIdx found).append_right _
  next => cases taken

/-- The network thread's pop, with the other thread in none. -/
theorem networkPop_owned
    {state after : PoolState} {outcome : Bool}
    {finished : Nat} {point : PopPoint (RawPointer Nat)}
    (owned : Owned state)
    (popping : state.network = .popping finished point)
    (taken : networkStep state outcome = some after) :
    Owned after := by
  rcases owned with ⟨single, -, distinct⟩
  have jobNone : state.job.popPoint = none := by
    rw [popping] at single
    exact single.resolve_left nofun
  rw [PoolState.popPoint, PoolState.inUse, popping] at distinct
  simp only [networkStep, popping] at taken
  split at taken
  next next queue stepped =>
    cases taken
    exact ⟨.inr jobNone, nofun, distinct.pop_running stepped⟩
  next acquired queue stepped =>
    cases taken
    refine ⟨.inl rfl, nofun, ?_⟩
    rw [PoolState.popPoint, PoolState.inUse, jobNone]
    refine (distinct.pop_returned stepped).mono (List.Perm.subperm ?_)
    simp only [NetworkPoint.owned]
    grind
  next queue stepped =>
    cases taken
    refine ⟨.inl rfl, nofun, ?_⟩
    rw [PoolState.popPoint, PoolState.inUse, jobNone]
    refine (distinct.pop_null stepped).mono (List.Sublist.subperm ?_)
    simp [NetworkPoint.owned]

/-- The posting of the next receive; a refused one drops its object. -/
theorem networkPost_owned
    {state after : PoolState} {outcome : Bool} {finished acquired : Nat}
    (owned : Owned state)
    (posting : state.network = .posting finished acquired)
    (taken : networkStep state outcome = some after) :
    Owned after := by
  have distinct := owned.distinct
  rw [PoolState.popPoint, PoolState.inUse, posting] at distinct
  simp only [networkStep, posting] at taken
  split at taken
  next accepted =>
    cases taken
    refine ⟨.inl rfl, nofun, ?_⟩
    refine distinct.mono (List.Perm.subperm ?_)
    simp only [PoolState.inUse, NetworkPoint.owned, List.map_append,
      List.map_cons, List.map_nil]
    grind
  next refused =>
    cases taken
    refine ⟨.inl rfl, nofun, ?_⟩
    refine distinct.mono (List.Sublist.subperm ?_)
    simp only [PoolState.inUse, NetworkPoint.owned]
    grind

/-- The network thread's push of the finished object. -/
theorem networkPush_owned
    {state after : PoolState} {outcome : Bool}
    {finished : Nat} {point : PushPoint (RawPointer Nat)}
    (owned : Owned state)
    (pushing : state.network = .pushing finished point)
    (taken : networkStep state outcome = some after) :
    Owned after := by
  have pushed := owned.argument finished point pushing
  have distinct := owned.distinct
  rw [PoolState.popPoint, PoolState.inUse, pushing] at distinct
  simp only [networkStep, pushing] at taken
  split at taken
  next next queue stepped =>
    cases taken
    rcases distinct.push_running stepped with ⟨continued, sameData⟩
    refine ⟨.inl rfl, ?_, continued⟩
    rintro _ _ ⟨rfl, rfl⟩
    exact sameData.trans pushed
  next result queue stepped =>
    cases taken
    refine ⟨.inl rfl, nofun, ?_⟩
    have reordered :
        Distinct state.overlappedQueue (some point)
          (NetworkPoint.popPoint (.pushing finished point) |>.or
            state.job.popPoint)
          (finished ::
            (state.outstanding.map Prod.snd ++ state.job.owned)) := by
      apply distinct.mono
      apply List.Perm.subperm
      simp only [NetworkPoint.owned]
      grind
    refine (reordered.push_returned pushed stepped).mono ?_
    simp only [PoolState.inUse, NetworkPoint.owned, List.append_nil]
    exact List.Subperm.refl _

/-- A step of the network thread. -/
theorem networkStep_owned
    {state after : PoolState} {outcome : Bool}
    (owned : Owned state)
    (permitted : PopsExclude state (.network outcome))
    (taken : networkStep state outcome = some after) :
    Owned after := by
  have distinct := owned.distinct
  cases located : state.network with
  | waiting => simp [networkStep, located] at taken
  | crashed => simp [networkStep, located] at taken
  | readying finished =>
      simp only [networkStep, located] at taken
      split at taken
      next accepted =>
        cases taken
        have noPop : state.popPoint = none :=
          permitted (by simp [beginsPop, located, accepted])
        rw [noPop, PoolState.inUse, located] at distinct
        exact
          ⟨.inr (Option.or_eq_none_iff.mp noPop).2, nofun,
            distinct.beginPop⟩
      next =>
        cases taken
        rw [PoolState.popPoint, PoolState.inUse, located] at distinct
        exact ⟨.inl rfl, nofun, distinct⟩
  | popping finished point => exact networkPop_owned owned located taken
  | posting finished acquired =>
      exact networkPost_owned owned located taken
  | clearing finished =>
      simp only [networkStep, located] at taken
      cases taken
      rw [PoolState.popPoint, PoolState.inUse, located] at distinct
      refine ⟨.inl rfl, ?_, distinct.beginPush _⟩
      rintro _ _ ⟨rfl, rfl⟩
      rfl
  | pushing finished point => exact networkPush_owned owned located taken

/-- A step of the job thread. -/
theorem jobStep_owned
    {state after : PoolState} {outcome : Bool}
    (owned : Owned state)
    (permitted : PopsExclude state (.job outcome))
    (taken : jobStep state outcome = some after) :
    Owned after := by
  rcases owned with ⟨single, argument, distinct⟩
  unfold jobStep at taken
  split at taken
  next => cases taken
  next waiting =>
    cases taken
    have noPop : state.popPoint = none :=
      permitted (by simp [beginsPop, waiting])
    have networkNone := (Option.or_eq_none_iff.mp noPop).1
    rw [noPop, PoolState.inUse, waiting] at distinct
    refine ⟨.inl networkNone, argument, ?_⟩
    rw [PoolState.popPoint, networkNone]
    exact distinct.beginPop
  next point popping =>
    have networkNone : state.network.popPoint = none := by
      rw [popping] at single
      exact single.resolve_right nofun
    rw [PoolState.popPoint, PoolState.inUse, networkNone,
      popping] at distinct
    split at taken
    next next queue stepped =>
      cases taken
      refine ⟨.inl networkNone, argument, ?_⟩
      rw [PoolState.popPoint, networkNone]
      exact distinct.pop_running stepped
    next acquired queue stepped =>
      cases taken
      refine ⟨.inl networkNone, argument, ?_⟩
      rw [PoolState.popPoint, networkNone]
      refine (distinct.pop_returned stepped).mono (List.Perm.subperm ?_)
      simp only [PoolState.inUse, JobPoint.owned]
      grind
    next queue stepped =>
      cases taken
      refine ⟨.inl networkNone, argument, ?_⟩
      rw [PoolState.popPoint, networkNone]
      exact distinct.pop_null stepped
  next acquired posting =>
    rw [PoolState.popPoint, PoolState.inUse, posting] at distinct
    split at taken
    next accepted =>
      cases taken
      refine ⟨.inr rfl, argument, ?_⟩
      refine distinct.mono (List.Perm.subperm ?_)
      simp only [PoolState.inUse, JobPoint.owned, List.map_append,
        List.map_cons, List.map_nil]
      grind
    next refused =>
      cases taken
      refine ⟨.inr rfl, argument, ?_⟩
      refine distinct.mono (List.Sublist.subperm ?_)
      simp only [PoolState.inUse, JobPoint.owned]
      grind

/-- Every step which lets pops exclude each other keeps ownership. -/
theorem poolStep_owned
    {state after : PoolState} {event : PoolEvent}
    (owned : Owned state)
    (permitted : PopsExclude state event)
    (taken : poolStep state event = some after) :
    Owned after := by
  unfold poolStep at taken
  split at taken
  next => cases taken
  next =>
    cases event with
    | complete index carriesData => exact completeStep_owned owned taken
    | network outcome => exact networkStep_owned owned permitted taken
    | job outcome => exact jobStep_owned owned permitted taken

/-! ## Start-up -/

theorem contents_constructQueue (overlappedQueueMax : Nat) :
    (constructQueue overlappedQueueMax).contents =
      (List.range overlappedQueueMax).map .to := by
  rw [constructQueue,
    LockFreeCircleQueue.contents_pushAll _ _ _ (by simp)]
  rfl

/-- Both threads are waiting, or the start-up loop crashed. -/
structure Started (state : PoolState) : Prop where
  network : state.network = .waiting
  job : state.job = .waiting ∨ state.job = .crashed
  distinct :
    Distinct state.overlappedQueue none none
      (state.outstanding.map Prod.snd)

theorem Started.prepareAccept
    {state : PoolState} (start : Started state) :
    Started (prepareAccept state) := by
  rcases start with ⟨network, job, coherent, nodup⟩
  unfold OverlappedOwnership.prepareAccept
  split
  next acquired after taken =>
    refine ⟨network, job, LockFreeCircleQueue.coherent_idle _, ?_⟩
    rw [LockFreeCircleQueue.elements_none,
      LockFreeCircleQueue.contents_of_pop taken] at nodup
    rw [LockFreeCircleQueue.elements_none]
    simpa using nodup
  next => exact ⟨network, .inr rfl, coherent, nodup⟩

theorem started_owned (overlappedQueueMax preparedSocketMax : Nat) :
    Owned (started overlappedQueueMax preparedSocketMax) := by
  have start :
      Started (started overlappedQueueMax preparedSocketMax) := by
    unfold started
    refine
      Function.Iterate.rec Started ?_
        (fun _ => Started.prepareAccept) preparedSocketMax
    refine ⟨rfl, .inl rfl, LockFreeCircleQueue.coherent_idle _, ?_⟩
    rw [LockFreeCircleQueue.elements_none, contents_constructQueue]
    exact List.nodup_range.map fun _ _ equal => by cases equal; rfl
  rcases start with ⟨network, job, distinct⟩
  have jobIdle :
      (started overlappedQueueMax preparedSocketMax).job.popPoint =
          none ∧
        (started overlappedQueueMax preparedSocketMax).job.owned =
          [] := by
    rcases job with equal | equal <;> rw [equal] <;> exact ⟨rfl, rfl⟩
  refine ⟨.inr jobIdle.1, ?_, ?_⟩
  · intro finished point pushing
    rw [network] at pushing
    cases pushing
  · rw [PoolState.popPoint, PoolState.inUse, network, jobIdle.1,
      jobIdle.2]
    simp only [NetworkPoint.owned, List.append_nil]
    exact distinct

/-! ## Exclusive ownership -/

/--
In every run in which no `pop` of the pool begins while another is in
progress, every overlapped object has one owner at most.
-/
theorem overlapped_exclusive
    {overlappedQueueMax preparedSocketMax : Nat} {state : PoolState}
    (reached :
      pool.Reaches PopsExclude
        (started overlappedQueueMax preparedSocketMax) state) :
    state.Exclusive := by
  have owned : Owned state :=
    reached.invariant
      (started_owned overlappedQueueMax preparedSocketMax)
      fun _ _ _ => poolStep_owned
  exact owned.exclusive

/--
A receive is posted and a send is prepared one after the other, with the
push of the finished object running into the second pop.
-/
def sequentialPops : List PoolEvent :=
  [.complete 0 true, .network true, .network true, .network true,
    .network true, .network true, .network true, .job true,
    .network true, .job true, .network true, .job true, .network true,
    .job true]

/-- An interleaved run with one pop after the other. -/
theorem overlapped_exclusive_interleaved :
    ((pool.runAllowed PopsExclude (started 3 1) sequentialPops).get
      (by decide)).Exclusive :=
  overlapped_exclusive (TransitionSystem.reaches_get (by decide))

/-- Both threads load the same output index before either stores it. -/
def overlappingPops : List PoolEvent :=
  [.complete 0 true, .network true, .job true, .network true, .job true,
    .network true, .job true, .network true, .job true]

/--
The two threads can pop the same object, so ownership is not exclusive in
every reachable state.
-/
theorem overlapped_popped_twice :
    ¬ ∀ (overlappedQueueMax preparedSocketMax : Nat)
        (state : PoolState),
      pool.Reachable
          (started overlappedQueueMax preparedSocketMax) state →
        state.Exclusive := by
  intro exclusive
  have complete :
      (pool.run (started 3 1) overlappingPops).isSome = true := by
    decide
  have reached :
      pool.Reachable (started 3 1)
        ((pool.run (started 3 1) overlappingPops).get complete) :=
    TransitionSystem.reachable_of_run (Option.some_get complete).symm
  have shared :
      ¬ ((pool.run (started 3 1) overlappingPops).get
        (by decide)).inUse.Nodup := by
    decide
  exact shared (exclusive 3 1 _ reached).1

end IocpServer.Network.OverlappedOwnership
