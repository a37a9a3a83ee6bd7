import IocpServer.Library.TransitionSystem
import IocpServer.Protocol.ControlServerProtocol
import IocpServer.Utility.QueueInterleaving

/-!
# The job threads

One thread pushes jobs; any number of threads run `Hub::JobThread`.  A step
is one access: a load or a store of the queue, an acquire or a release of the
mutex, a read of `isOn`, one `Execute`, one send.  What a job thread does
under the lock is a step of its own kind, so that the lock is held exactly at
those points.

A thread blocked on the condition variable may wake at any time: that is what
both a notification and a spurious wake-up look like.  A job that throws ends
the process.
-/

namespace IocpServer.ControlServer

open IocpServer.Library
open IocpServer.Json
open IocpServer.Network
open IocpServer.Protocol
open IocpServer.Utility

/-- Where a job thread is while it holds the lock. -/
inductive LockedPoint where
  /-- About to load the input index for the predicate of `wait`. -/
  | predicateInput
  | predicateOutput (inputIndex : Nat)
  /-- About to read `isOn` for the predicate. -/
  | predicateOn
  /-- About to block. -/
  | wait
  /-- About to read `isOn` behind `wait`. -/
  | checkOn
  /-- About to load the input index for the inner loop. -/
  | drainInput
  | drainOutput (inputIndex : Nat)
  | beginPop
  | popping (point : PopPoint (SharedPointer Job))
  | executing (job : SharedPointer Job)
  /-- About to read `output.IsSend`. -/
  | checkSend
  | sending
deriving DecidableEq, Repr

/-- Where a job thread is while it does not hold the lock. -/
inductive FreePoint where
  /-- About to read `isOn` in the outer loop. -/
  | top
  | acquiring
  | blocked
  | reacquiring
  | exited
deriving DecidableEq, Repr

inductive WorkerPoint where
  | free (point : FreePoint)
  | locked (point : LockedPoint)
deriving DecidableEq, Repr

/-- A job thread; its output outlives the job. -/
structure Worker where
  point : WorkerPoint
  output : JobOutput

/-- Why the process ended. -/
inductive Termination where
  | nullJob
  | exception (exception : JsonException)
deriving DecidableEq, Repr

/-- An executed job and the manager it was executed on. -/
structure Executed (Manager : Type) where
  job : Job
  manager : Manager

/--
What the threads share, with a record of the jobs pushed successfully, the
jobs executed and the messages sent.
-/
structure JobHub (Manager : Type) where
  isOn : Bool
  jobQueue : LockFreeCircleQueue (SharedPointer Job)
  pushing : Option (PushPoint (SharedPointer Job))
  manager : Manager
  terminated : Option Termination
  pushed : List Job
  executed : List (Executed Manager)
  sends : List SendCall

/-- The objects of a pointer: one, or none. -/
def pointees {α : Type} : SharedPointer α → List α
  | .null => []
  | .to object => [object]

/-- What a step under the lock leads to. -/
inductive Outcome where
  | stays (point : LockedPoint) (output : JobOutput)
  | leaves (point : FreePoint) (output : JobOutput)
deriving DecidableEq, Repr

namespace JobHub

variable {Manager : Type}
variable (callbacks : JobCallbacks Manager) (builder : ResponseBuilder)

/-- `job->Execute(output)`. -/
def execute
    (hub : JobHub Manager) (output : JobOutput) :
    SharedPointer Job → JobHub Manager × Outcome
  | .null =>
      ({ hub with terminated := some .nullJob },
        .stays (.executing .null) output)
  | .to job =>
      match job.execute callbacks builder hub.manager output with
      | .error exception =>
          ({ hub with terminated := some (.exception exception) },
            .stays (.executing (.to job)) output)
      | .ok (manager, written) =>
          ({ hub with
              manager := manager
              executed := hub.executed ++ [⟨job, hub.manager⟩] },
            .stays .checkSend written)

/-- One step of the thread that holds the lock. -/
def lockedStep
    (hub : JobHub Manager) (output : JobOutput) :
    LockedPoint → JobHub Manager × Outcome
  | .predicateInput =>
      (hub, .stays (.predicateOutput hub.jobQueue.inputIndex) output)
  | .predicateOutput inputIndex =>
      if inputIndex = hub.jobQueue.outputIndex then
        (hub, .stays .predicateOn output)
      else
        (hub, .stays .checkOn output)
  | .predicateOn =>
      (hub, .stays (if hub.isOn then .wait else .checkOn) output)
  | .wait => (hub, .leaves .blocked output)
  | .checkOn =>
      if hub.isOn then (hub, .stays .drainInput output)
      else (hub, .leaves .exited output)
  | .drainInput =>
      (hub, .stays (.drainOutput hub.jobQueue.inputIndex) output)
  | .drainOutput inputIndex =>
      if inputIndex = hub.jobQueue.outputIndex then
        (hub, .leaves .top output)
      else
        (hub, .stays .beginPop output)
  | .beginPop => (hub, .stays (.popping hub.jobQueue.beginPop) output)
  | .popping point =>
      match hub.jobQueue.stepPop point with
      | (.running next, queue) =>
          ({ hub with jobQueue := queue }, .stays (.popping next) output)
      | (.returned job, queue) =>
          ({ hub with jobQueue := queue }, .stays (.executing job) output)
  | .executing job => hub.execute callbacks builder output job
  | .checkSend =>
      (hub, .stays (if output.isSend then .sending else .drainInput) output)
  | .sending =>
      ({ hub with sends := hub.sends ++ [output.sendCall] },
        .stays .drainInput output)

/-- The producer's next access. -/
def stepPush
    (hub : JobHub Manager) (point : PushPoint (SharedPointer Job)) :
    JobHub Manager :=
  match hub.jobQueue.stepPush point with
  | (.running next, queue) =>
      { hub with jobQueue := queue, pushing := some next }
  | (.returned true, queue) =>
      { hub with
        jobQueue := queue
        pushing := none
        pushed := hub.pushed ++ pointees point.data }
  | (.returned false, queue) =>
      { hub with jobQueue := queue, pushing := none }

/--
What a step under the lock changes: the queue, by its pop; the process, by
ending it; the manager and the record, by one job; or the messages sent.
-/
theorem lockedStep_hub
    (hub : JobHub Manager) (output : JobOutput) (point : LockedPoint) :
    (∃ queue,
      (hub.lockedStep callbacks builder output point).1 =
        { hub with jobQueue := queue }) ∨
      (∃ termination,
        (hub.lockedStep callbacks builder output point).1 =
          { hub with terminated := some termination }) ∨
      (∃ job manager,
        job.effect callbacks hub.manager = .ok manager ∧
          (hub.lockedStep callbacks builder output point).1 =
            { hub with
              manager := manager
              executed := hub.executed ++ [⟨job, hub.manager⟩] }) ∨
      ∃ call,
        (hub.lockedStep callbacks builder output point).1 =
          { hub with sends := hub.sends ++ [call] } := by
  cases point with
  | popping point =>
      left
      simp only [lockedStep]
      split
      · exact ⟨_, rfl⟩
      · exact ⟨_, rfl⟩
  | executing job =>
      rcases job with _ | job
      · exact .inr (.inl ⟨_, rfl⟩)
      · simp only [lockedStep, execute]
        cases returned :
            job.execute callbacks builder hub.manager output with
        | error exception => exact .inr (.inl ⟨_, rfl⟩)
        | ok result =>
            exact
              .inr (.inr (.inl
                ⟨job, _, Job.effect_of_execute returned, rfl⟩))
  | sending => exact .inr (.inr (.inr ⟨_, rfl⟩))
  | predicateOutput inputIndex =>
      left
      simp only [lockedStep]
      split_ifs
      · exact ⟨_, rfl⟩
      · exact ⟨_, rfl⟩
  | checkOn =>
      left
      simp only [lockedStep]
      split_ifs
      · exact ⟨_, rfl⟩
      · exact ⟨_, rfl⟩
  | drainOutput inputIndex =>
      left
      simp only [lockedStep]
      split_ifs
      · exact ⟨_, rfl⟩
      · exact ⟨_, rfl⟩
  | predicateInput => exact .inl ⟨_, rfl⟩
  | predicateOn => exact .inl ⟨_, rfl⟩
  | wait => exact .inl ⟨_, rfl⟩
  | drainInput => exact .inl ⟨_, rfl⟩
  | beginPop => exact .inl ⟨_, rfl⟩
  | checkSend => exact .inl ⟨_, rfl⟩

end JobHub

/-- The job threads, the mutex and what they share. -/
structure JobState (Thread Manager : Type) where
  hub : JobHub Manager
  lockJobThread : Option Thread
  workers : Thread → Worker

inductive JobEvent (Thread : Type) where
  /-- The producer calls `push`. -/
  | beginPush (job : Job)
  /-- The producer's next access. -/
  | stepPush
  /-- `isOn` becomes false. -/
  | turnOff
  /-- A job thread's next access. -/
  | work (thread : Thread)
deriving DecidableEq, Repr

namespace JobState

variable {Thread Manager : Type} [DecidableEq Thread]

/-- Move a thread to a point and leave it an output. -/
def setWorker
    (state : JobState Thread Manager) (thread : Thread)
    (point : WorkerPoint) (output : JobOutput) :
    JobState Thread Manager :=
  { state with
    workers := Function.update state.workers thread ⟨point, output⟩ }

/-- One step of a thread that does not hold the lock. -/
def freeStep
    (state : JobState Thread Manager) (thread : Thread) :
    FreePoint → Option (JobState Thread Manager)
  | .top =>
      some
        (state.setWorker thread
          (.free (if state.hub.isOn then .acquiring else .exited))
          (state.workers thread).output)
  | .acquiring =>
      match state.lockJobThread with
      | some _ => none
      | none =>
          some
            ({ state with lockJobThread := some thread }.setWorker thread
              (.locked .predicateInput) (state.workers thread).output)
  | .blocked =>
      some
        (state.setWorker thread (.free .reacquiring)
          (state.workers thread).output)
  | .reacquiring =>
      match state.lockJobThread with
      | some _ => none
      | none =>
          some
            ({ state with lockJobThread := some thread }.setWorker thread
              (.locked .predicateInput) (state.workers thread).output)
  | .exited => none

/-- A step under the lock, and the release where the thread leaves it. -/
def finishLocked
    (state : JobState Thread Manager) (thread : Thread) :
    JobHub Manager × Outcome → JobState Thread Manager
  | (hub, .stays point output) =>
      { state with hub := hub }.setWorker thread (.locked point) output
  | (hub, .leaves point output) =>
      { state with hub := hub, lockJobThread := none }.setWorker thread
        (.free point) output

/-- One step; nothing moves after the process has ended. -/
def step
    (callbacks : JobCallbacks Manager) (builder : ResponseBuilder)
    (state : JobState Thread Manager) :
    JobEvent Thread → Option (JobState Thread Manager)
  | event =>
      if state.hub.terminated.isSome then
        none
      else
        match event with
        | .beginPush job =>
            match state.hub.pushing with
            | some _ => none
            | none =>
                some { state with hub := { state.hub with
                  pushing := some (state.hub.jobQueue.beginPush (.to job)) } }
        | .stepPush =>
            match state.hub.pushing with
            | none => none
            | some point =>
                some { state with hub := state.hub.stepPush point }
        | .turnOff => some { state with hub := { state.hub with isOn := false } }
        | .work thread =>
            match (state.workers thread).point with
            | .free point => state.freeStep thread point
            | .locked point =>
                some
                  (state.finishLocked thread
                    (state.hub.lockedStep callbacks builder
                      (state.workers thread).output point))

@[simp]
theorem finishLocked_hub
    (state : JobState Thread Manager) (thread : Thread)
    (result : JobHub Manager × Outcome) :
    (state.finishLocked thread result).hub = result.1 := by
  rcases result with ⟨hub, _ | _⟩
  · rfl
  · rfl

/-! ### What each step does -/

section Steps

variable {callbacks : JobCallbacks Manager} {builder : ResponseBuilder}
variable {before after : JobState Thread Manager}

/-- The producer begins a push only behind its last one. -/
theorem step_beginPush {job : Job}
    (taken : before.step callbacks builder (.beginPush job) = some after) :
    before.hub.pushing = none ∧
      after =
        { before with hub := { before.hub with
          pushing := some (before.hub.jobQueue.beginPush (.to job)) } } := by
  unfold JobState.step at taken
  split_ifs at taken
  cases idle : before.hub.pushing with
  | some point =>
      rw [idle] at taken
      cases taken
  | none =>
      rw [idle] at taken
      cases taken
      exact ⟨rfl, rfl⟩

theorem step_stepPush
    (taken : before.step callbacks builder .stepPush = some after) :
    ∃ point,
      before.hub.pushing = some point ∧
        after = { before with hub := before.hub.stepPush point } := by
  unfold JobState.step at taken
  split_ifs at taken
  cases running : before.hub.pushing with
  | none =>
      rw [running] at taken
      cases taken
  | some point =>
      rw [running] at taken
      cases taken
      exact ⟨point, rfl, rfl⟩

theorem step_turnOff
    (taken : before.step callbacks builder .turnOff = some after) :
    after = { before with hub := { before.hub with isOn := false } } := by
  unfold JobState.step at taken
  split_ifs at taken
  cases taken
  rfl

/-- A step outside the lock, and one under it, by their points. -/
theorem step_work_point {thread : Thread}
    (taken : before.step callbacks builder (.work thread) = some after) :
    (∃ point,
      (before.workers thread).point = .free point ∧
        before.freeStep thread point = some after) ∨
      ∃ point,
        (before.workers thread).point = .locked point ∧
          after =
            before.finishLocked thread
              (before.hub.lockedStep callbacks builder
                (before.workers thread).output point) := by
  unfold JobState.step at taken
  split_ifs at taken
  dsimp only at taken
  cases located : (before.workers thread).point with
  | free point =>
      simp only [located] at taken
      exact .inl ⟨point, rfl, taken⟩
  | locked point =>
      simp only [located, Option.some.injEq] at taken
      exact .inr ⟨point, rfl, taken.symm⟩

/-- A job thread moves outside the lock, acquires it, or acts under it. -/
theorem step_work {thread : Thread}
    (taken : before.step callbacks builder (.work thread) = some after) :
    (∃ point next,
      (before.workers thread).point = .free point ∧
        after =
          before.setWorker thread (.free next)
            (before.workers thread).output) ∨
      (before.lockJobThread = none ∧
        after =
          { before with lockJobThread := some thread }.setWorker thread
            (.locked .predicateInput) (before.workers thread).output) ∨
      ∃ point,
        (before.workers thread).point = .locked point ∧
          after =
            before.finishLocked thread
              (before.hub.lockedStep callbacks builder
                (before.workers thread).output point) := by
  rcases step_work_point taken with
    ⟨point, located, moved⟩ | ⟨point, located, moved⟩
  · cases point with
    | top =>
        cases moved
        exact .inl ⟨_, _, located, rfl⟩
    | acquiring =>
        cases idle : before.lockJobThread with
        | some owner => simp [freeStep, idle] at moved
        | none =>
            simp only [freeStep, idle, Option.some.injEq] at moved
            exact .inr (.inl ⟨rfl, moved.symm⟩)
    | blocked =>
        cases moved
        exact .inl ⟨_, _, located, rfl⟩
    | reacquiring =>
        cases idle : before.lockJobThread with
        | some owner => simp [freeStep, idle] at moved
        | none =>
            simp only [freeStep, idle, Option.some.injEq] at moved
            exact .inr (.inl ⟨rfl, moved.symm⟩)
    | exited => cases moved
  · exact .inr (.inr ⟨point, located, moved⟩)

/-- The job threads' own steps push nothing and turn nothing off. -/
theorem step_work_producer {thread : Thread}
    (taken : before.step callbacks builder (.work thread) = some after) :
    after.hub.isOn = before.hub.isOn ∧
      after.hub.pushed = before.hub.pushed ∧
        after.hub.pushing = before.hub.pushing := by
  rcases step_work taken with
    ⟨_, _, -, rfl⟩ | ⟨-, rfl⟩ | ⟨point, -, rfl⟩
  · exact ⟨rfl, rfl, rfl⟩
  · exact ⟨rfl, rfl, rfl⟩
  · rw [finishLocked_hub]
    rcases
      before.hub.lockedStep_hub callbacks builder
        (before.workers thread).output point with
      ⟨_, same⟩ | ⟨_, same⟩ | ⟨_, _, -, same⟩ | ⟨_, same⟩
    all_goals
      rw [same]
      exact ⟨rfl, rfl, rfl⟩

end Steps

/--
The threads right after they are created, on an empty queue; an output is
not initialised and may hold anything.
-/
def start
    (queueMaxSize : Nat) (manager : Manager)
    (outputs : Thread → JobOutput) : JobState Thread Manager where
  hub :=
    { isOn := true
      jobQueue := LockFreeCircleQueue.construct queueMaxSize
      pushing := none
      manager := manager
      terminated := none
      pushed := []
      executed := []
      sends := [] }
  lockJobThread := none
  workers thread := ⟨.free .top, outputs thread⟩

end JobState

/-- The job threads as a transition system. -/
def jobSystem {Thread Manager : Type} [DecidableEq Thread]
    (callbacks : JobCallbacks Manager) (builder : ResponseBuilder) :
    TransitionSystem (JobState Thread Manager) (JobEvent Thread) where
  step := JobState.step callbacks builder

end IocpServer.ControlServer
