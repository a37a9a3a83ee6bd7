import IocpServer.ControlServer.JobSerialisation

/-!
# The notifications of the job threads

The producer pushes a job and then calls `notify_one`, both without the lock.
A job thread that has found the queue empty and has not blocked yet hears
neither.  Only one thread at a time can be there, so with two job threads
another one hears; a single job thread can sleep on a job.

The steps of the job threads are those of
`IocpServer.ControlServer.JobThread`.  A blocked thread may still wake at any
time, as `std::condition_variable` allows.
-/

namespace IocpServer.ControlServer

open IocpServer.Library
open IocpServer.Protocol
open IocpServer.Utility

/-- What a job thread makes of a job that is pushed now. -/
inductive Standing where
  /-- It evaluates the predicate before it blocks, or has a notification. -/
  | alert
  /-- It has found the queue empty and is about to block. -/
  | deaf
  /-- It is blocked, and no notification is on its way to it. -/
  | waiting
  | gone
deriving DecidableEq, Repr

/-- The standing of a thread at a point, with or without a notification. -/
def WorkerPoint.standing (outputIndex : Nat) (notified : Bool) :
    WorkerPoint → Standing
  | .free .top => .alert
  | .free .acquiring => .alert
  | .free .blocked => if notified then .alert else .waiting
  | .free .reacquiring => .alert
  | .free .exited => .gone
  | .locked (.predicateOutput inputIndex) =>
      if inputIndex = outputIndex then .deaf else .alert
  | .locked .predicateOn => .deaf
  | .locked .wait => .deaf
  | .locked _ => .alert

/-- A deaf thread is under the lock. -/
theorem WorkerPoint.locked_of_deaf
    {outputIndex : Nat} {notified : Bool} {point : WorkerPoint}
    (deaf : point.standing outputIndex notified = .deaf) :
    ∃ locked, point = .locked locked := by
  rcases point with point | point
  · cases point with
    | blocked => cases notified <;> cases deaf
    | top => cases deaf
    | acquiring => cases deaf
    | reacquiring => cases deaf
    | exited => cases deaf
  · exact ⟨point, rfl⟩

/-- The job threads with the notifications of their condition variable. -/
structure WakeupState (jobThreadCount : Nat) (Manager : Type) where
  jobs : JobState (Fin jobThreadCount) Manager
  /-- The blocked threads that a notification is on its way to. -/
  notified : Fin jobThreadCount → Bool
  /-- The producer's next call is `notify_one`. -/
  notifyOwed : Bool

inductive WakeupEvent (jobThreadCount : Nat) where
  /-- A step of the job threads, or of a push. -/
  | jobs (event : JobEvent (Fin jobThreadCount))
  /-- The producer has nothing to push. -/
  | skip
  /-- `notify_one`, and the thread it wakes if one is waiting. -/
  | notifyOne (woken : Option (Fin jobThreadCount))

namespace WakeupState

variable {jobThreadCount : Nat} {Manager : Type}

/-- The standing of a job thread. -/
def standing
    (state : WakeupState jobThreadCount Manager)
    (thread : Fin jobThreadCount) : Standing :=
  (state.jobs.workers thread).point.standing
    state.jobs.hub.jobQueue.outputIndex (state.notified thread)

/-- A step of the job threads or of their producer's push. -/
def stepJobs
    (callbacks : JobCallbacks Manager) (builder : ResponseBuilder)
    (state : WakeupState jobThreadCount Manager)
    (event : JobEvent (Fin jobThreadCount)) :
    Option (WakeupState jobThreadCount Manager) :=
  match event with
  | .beginPush job =>
      if state.notifyOwed then
        none
      else
        (state.jobs.step callbacks builder (.beginPush job)).map fun jobs =>
          { state with jobs := jobs }
  | .stepPush =>
      -- `notify_one` follows the push, whatever the push returned.
      (state.jobs.step callbacks builder .stepPush).map fun jobs =>
        { state with
          jobs := jobs
          notifyOwed := jobs.hub.pushing.isNone }
  | .turnOff =>
      (state.jobs.step callbacks builder .turnOff).map fun jobs =>
        { state with jobs := jobs }
  | .work thread =>
      (state.jobs.step callbacks builder (.work thread)).map fun jobs =>
        { state with
          jobs := jobs
          notified := Function.update state.notified thread false }

/-- `notify_one`: it wakes one of the waiting threads, if there is one. -/
def notifyOne
    (state : WakeupState jobThreadCount Manager) :
    Option (Fin jobThreadCount) → Option (WakeupState jobThreadCount Manager)
  | some thread =>
      if state.standing thread = .waiting then
        some
          { state with
            notified := Function.update state.notified thread true
            notifyOwed := false }
      else
        none
  | none =>
      if ∀ thread, state.standing thread ≠ .waiting then
        some { state with notifyOwed := false }
      else
        none

/-- One step; nothing moves after the process has ended. -/
def step
    (callbacks : JobCallbacks Manager) (builder : ResponseBuilder)
    (state : WakeupState jobThreadCount Manager) :
    WakeupEvent jobThreadCount → Option (WakeupState jobThreadCount Manager)
  | .jobs event => state.stepJobs callbacks builder event
  | .skip =>
      if state.jobs.hub.terminated.isSome ∨ state.jobs.hub.pushing.isSome ∨
          state.notifyOwed then
        none
      else
        some { state with notifyOwed := true }
  | .notifyOne woken =>
      if state.jobs.hub.terminated.isSome ∨ ¬ state.notifyOwed then
        none
      else
        state.notifyOne woken

/-- Right after `InitializeSubThread`. -/
def start
    (queueMaxSize : Nat) (manager : Manager)
    (outputs : Fin jobThreadCount → JobOutput) :
    WakeupState jobThreadCount Manager where
  jobs := JobState.start queueMaxSize manager outputs
  notified _ := false
  notifyOwed := false

/--
A notification is heard: there are two job threads, or there is no job, or the
one job thread is not deaf.
-/
def Heard
    (state : WakeupState jobThreadCount Manager) :
    WakeupEvent jobThreadCount → Prop
  | .jobs _ => True
  | .skip => True
  | .notifyOne _ =>
      2 ≤ jobThreadCount ∨ state.jobs.hub.isOn = false ∨
        state.jobs.hub.jobQueue.empty = true ∨
          ∀ thread, state.standing thread ≠ .deaf

/-- There is a job, and nobody is up or will be called. -/
structure Stranded (state : WakeupState jobThreadCount Manager) : Prop where
  isOn : state.jobs.hub.isOn = true
  nonempty : state.jobs.hub.jobQueue.empty = false
  asleep : ∀ thread, state.standing thread = .waiting
  noPush : state.jobs.hub.pushing = none
  noNotify : state.notifyOwed = false

end WakeupState

/-- The job threads and their notifications as a transition system. -/
def wakeupSystem {jobThreadCount : Nat} {Manager : Type}
    (callbacks : JobCallbacks Manager) (builder : ResponseBuilder) :
    TransitionSystem (WakeupState jobThreadCount Manager)
      (WakeupEvent jobThreadCount) where
  step := WakeupState.step callbacks builder

/-! ## What a step of a job thread makes of its standing -/

section Steps

variable {jobThreadCount : Nat} {Manager : Type}
variable {callbacks : JobCallbacks Manager} {builder : ResponseBuilder}

/-- A thread that moves outside the lock while the hub is on is alert. -/
theorem JobState.freeStep_standing {Thread : Type} [DecidableEq Thread]
    {before after : JobState Thread Manager} {thread : Thread}
    {point : FreePoint}
    (isOn : before.hub.isOn = true)
    (taken : before.freeStep thread point = some after) :
    (after.workers thread).point.standing
        after.hub.jobQueue.outputIndex false =
      .alert := by
  cases point with
  | top =>
      cases taken
      simp [isOn, WorkerPoint.standing]
  | blocked =>
      cases taken
      simp [WorkerPoint.standing]
  | exited => cases taken
  | acquiring =>
      cases idle : before.lockJobThread with
      | some owner => simp [JobState.freeStep, idle] at taken
      | none =>
          simp only [JobState.freeStep, idle, Option.some.injEq] at taken
          rw [← taken]
          simp [WorkerPoint.standing]
  | reacquiring =>
      cases idle : before.lockJobThread with
      | some owner => simp [JobState.freeStep, idle] at taken
      | none =>
          simp only [JobState.freeStep, idle, Option.some.injEq] at taken
          rw [← taken]
          simp [WorkerPoint.standing]

/-- Where a step under the lock leads. -/
def Outcome.point : Outcome → WorkerPoint
  | .stays point _ => .locked point
  | .leaves point _ => .free point

/--
A step under the lock leaves the thread alert, unless the queue is empty or
the thread was not alert before.
-/
theorem JobHub.lockedStep_standing
    (hub : JobHub Manager) (output : JobOutput) (point : LockedPoint)
    (isOn : hub.isOn = true) :
    (hub.lockedStep callbacks builder output point).2.point.standing
          (hub.lockedStep callbacks builder output
            point).1.jobQueue.outputIndex false =
        .alert ∨
      (hub.lockedStep callbacks builder output point).1 = hub ∧
        (hub.lockedStep callbacks builder output point).2.point ≠
            .free .exited ∧
          (hub.jobQueue.empty = true ∨
            (WorkerPoint.locked point).standing hub.jobQueue.outputIndex
                false =
              .deaf) := by
  cases point with
  | predicateInput =>
      by_cases same : hub.jobQueue.inputIndex = hub.jobQueue.outputIndex
      · refine .inr ⟨rfl, ?_, .inl ?_⟩
        · intro exited
          cases exited
        · rw [LockFreeCircleQueue.empty, same, beq_self_eq_true]
      · left
        simp only [JobHub.lockedStep, Outcome.point, WorkerPoint.standing]
        exact if_neg same
  | predicateOutput inputIndex =>
      simp only [JobHub.lockedStep]
      split_ifs with same
      · refine .inr ⟨rfl, ?_, .inr ?_⟩
        · intro exited
          cases exited
        · exact if_pos same
      · exact .inl rfl
  | predicateOn =>
      refine .inr ⟨rfl, ?_, .inr rfl⟩
      simp [JobHub.lockedStep, Outcome.point]
  | wait =>
      refine .inr ⟨rfl, ?_, .inr rfl⟩
      intro exited
      cases exited
  | checkOn =>
      simp only [JobHub.lockedStep, isOn, if_true]
      exact .inl rfl
  | drainInput => exact .inl rfl
  | drainOutput inputIndex =>
      left
      simp only [JobHub.lockedStep]
      split_ifs
      · rfl
      · rfl
  | beginPop => exact .inl rfl
  | popping point =>
      left
      simp only [JobHub.lockedStep]
      split
      · rfl
      · rfl
  | executing job =>
      left
      simp only [JobHub.lockedStep]
      rcases job with _ | job
      · rfl
      · simp only [JobHub.execute]
        split
        · rfl
        · rfl
  | checkSend =>
      left
      simp only [JobHub.lockedStep]
      split_ifs
      · rfl
      · rfl
  | sending => exact .inl rfl

/-- A push leaves the hub on or off. -/
theorem JobHub.stepPush_isOn
    (hub : JobHub Manager) (point : PushPoint (SharedPointer Job)) :
    (hub.stepPush point).isOn = hub.isOn := by
  simp only [JobHub.stepPush]
  split <;> rfl

/-- The thread goes where its step under the lock leads. -/
theorem JobState.finishLocked_point {Thread : Type} [DecidableEq Thread]
    (state : JobState Thread Manager) (thread : Thread)
    (result : JobHub Manager × Outcome) :
    ((state.finishLocked thread result).workers thread).point =
      result.2.point := by
  rcases result with ⟨hub, outcome⟩
  cases outcome with
  | stays point output =>
      exact congrArg Worker.point (JobState.setWorker_self _ thread _ output)
  | leaves point output =>
      exact congrArg Worker.point (JobState.setWorker_self _ thread _ output)

/-- A step of one thread leaves the other threads where they are. -/
theorem JobState.work_others {Thread : Type} [DecidableEq Thread]
    {before after : JobState Thread Manager} {thread other : Thread}
    (taken : before.step callbacks builder (.work thread) = some after)
    (different : other ≠ thread) :
    after.workers other = before.workers other := by
  rcases JobState.step_work taken with
    ⟨_, _, -, rfl⟩ | ⟨-, rfl⟩ | ⟨point, -, rfl⟩
  · exact JobState.setWorker_other _ different _ _
  · exact JobState.setWorker_other _ different _ _
  · rcases
      before.hub.lockedStep callbacks builder
        (before.workers thread).output point with
      ⟨hub, outcome⟩
    cases outcome with
    | stays point output => exact JobState.setWorker_other _ different _ _
    | leaves point output => exact JobState.setWorker_other _ different _ _

/-- The standing of a thread under the lock owes nothing to notifications. -/
theorem WorkerPoint.standing_locked
    (outputIndex : Nat) (notified : Bool) (point : LockedPoint) :
    (WorkerPoint.locked point).standing outputIndex notified =
      (WorkerPoint.locked point).standing outputIndex false := by
  cases point <;> rfl

theorem WorkerPoint.blocked_of_waiting
    {outputIndex : Nat} {notified : Bool} {point : WorkerPoint}
    (waiting : point.standing outputIndex notified = .waiting) :
    point = .free .blocked := by
  rcases point with point | point
  · cases point with
    | blocked => rfl
    | top => cases waiting
    | acquiring => cases waiting
    | reacquiring => cases waiting
    | exited => cases waiting
  · cases point with
    | predicateOutput inputIndex =>
        simp only [WorkerPoint.standing] at waiting
        split_ifs at waiting
    | _ => cases waiting

theorem WorkerPoint.exited_of_gone
    {outputIndex : Nat} {notified : Bool} {point : WorkerPoint}
    (gone : point.standing outputIndex notified = .gone) :
    point = .free .exited := by
  rcases point with point | point
  · cases point with
    | exited => rfl
    | blocked => cases notified <;> cases gone
    | top => cases gone
    | acquiring => cases gone
    | reacquiring => cases gone
  · cases point with
    | predicateOutput inputIndex =>
        simp only [WorkerPoint.standing] at gone
        split_ifs at gone
    | _ => cases gone

namespace WakeupState

variable {before after : WakeupState jobThreadCount Manager}

/-- What a job thread's step takes from the job threads' own. -/
theorem stepJobs_work {thread : Fin jobThreadCount}
    (taken :
      before.stepJobs callbacks builder (.work thread) = some after) :
    before.jobs.step callbacks builder (.work thread) = some after.jobs ∧
      after.notified = Function.update before.notified thread false ∧
        after.notifyOwed = before.notifyOwed := by
  rcases Option.map_eq_some_iff.mp taken with ⟨jobs, moved, rfl⟩
  exact ⟨moved, rfl, rfl⟩

/--
While the hub is on, a step of a job thread leaves it alert, or it changes
nothing else and finds the queue empty or was deaf before.
-/
theorem work_standing {thread : Fin jobThreadCount}
    (isOn : before.jobs.hub.isOn = true)
    (taken :
      before.stepJobs callbacks builder (.work thread) = some after) :
    after.standing thread = .alert ∨
      after.jobs.hub = before.jobs.hub ∧
        (after.jobs.workers thread).point ≠ .free .exited ∧
          (before.jobs.hub.jobQueue.empty = true ∨
            before.standing thread = .deaf) := by
  rcases stepJobs_work taken with ⟨moved, notified, -⟩
  have cleared : after.notified thread = false := by
    rw [notified, Function.update_self]
  unfold standing
  rw [cleared]
  rcases JobState.step_work_point moved with
    ⟨point, -, free⟩ | ⟨point, located, locked⟩
  · exact .inl (JobState.freeStep_standing isOn free)
  · rw [locked, JobState.finishLocked_point, JobState.finishLocked_hub,
      located, WorkerPoint.standing_locked]
    exact
      before.jobs.hub.lockedStep_standing
        (before.jobs.workers thread).output point isOn

/-- The standing of another thread depends on the queue only. -/
theorem work_standing_other {thread other : Fin jobThreadCount}
    (taken :
      before.stepJobs callbacks builder (.work thread) = some after)
    (different : other ≠ thread)
    (sameHub : after.jobs.hub = before.jobs.hub) :
    after.standing other = before.standing other := by
  rcases stepJobs_work taken with ⟨moved, notified, -⟩
  unfold standing
  rw [JobState.work_others moved different, sameHub, notified,
    Function.update_of_ne different]

end WakeupState

end Steps

/-! ## Somebody is alert -/

section Attended

variable {jobThreadCount : Nat} {Manager : Type}
variable {callbacks : JobCallbacks Manager} {builder : ResponseBuilder}

/--
While the hub is on no job thread has returned; a job whose producer is done
with it has an alert thread.
-/
structure Attended
    (callbacks : JobCallbacks Manager) (builder : ResponseBuilder)
    (state : WakeupState jobThreadCount Manager) : Prop where
  serial : Serial callbacks builder state.jobs
  present :
    state.jobs.hub.isOn = true →
      ∀ thread, (state.jobs.workers thread).point ≠ .free .exited
  alert :
    state.jobs.hub.isOn = true →
      state.jobs.hub.jobQueue.empty = false →
        state.jobs.hub.pushing = none →
          state.notifyOwed = false →
            ∃ thread, state.standing thread = .alert

theorem start_attended
    (queueMaxSize : Nat) (manager : Manager)
    (outputs : Fin jobThreadCount → JobOutput) :
    Attended callbacks builder
      (WakeupState.start queueMaxSize manager outputs) where
  serial := start_serial queueMaxSize manager outputs
  present := nofun
  alert := nofun

namespace Attended

variable {before after : WakeupState jobThreadCount Manager}

/-- Where nobody waits, a thread that is not deaf is alert. -/
theorem alert_of_not_deaf {thread : Fin jobThreadCount}
    (present : (before.jobs.workers thread).point ≠ .free .exited)
    (awake : before.standing thread ≠ .waiting)
    (hears : before.standing thread ≠ .deaf) :
    before.standing thread = .alert := by
  cases stands : before.standing thread with
  | alert => rfl
  | deaf => exact absurd stands hears
  | waiting => exact absurd stands awake
  | gone => exact absurd (WorkerPoint.exited_of_gone stands) present

/-- Two threads cannot both be deaf. -/
theorem deaf_unique
    (attended : Attended callbacks builder before)
    {first second : Fin jobThreadCount}
    (firstDeaf : before.standing first = .deaf)
    (secondDeaf : before.standing second = .deaf) :
    first = second := by
  rcases WorkerPoint.locked_of_deaf firstDeaf with ⟨firstPoint, first⟩
  rcases WorkerPoint.locked_of_deaf secondDeaf with ⟨secondPoint, second⟩
  have firstHolds := attended.serial.exclusive _ firstPoint first
  have secondHolds := attended.serial.exclusive _ secondPoint second
  exact Option.some.inj (firstHolds.symm.trans secondHolds)

/-- A notification that nobody waits for finds an alert thread. -/
theorem exists_alert
    (attended : Attended callbacks builder before)
    (someThread : 1 ≤ jobThreadCount)
    (isOn : before.jobs.hub.isOn = true)
    (awake : ∀ thread, before.standing thread ≠ .waiting)
    (hears :
      2 ≤ jobThreadCount ∨ ∀ thread, before.standing thread ≠ .deaf) :
    ∃ thread, before.standing thread = .alert := by
  have present := attended.present isOn
  rcases hears with two | hears
  · let first : Fin jobThreadCount := ⟨0, by omega⟩
    let second : Fin jobThreadCount := ⟨1, by omega⟩
    by_cases firstDeaf : before.standing first = .deaf
    · refine ⟨second, alert_of_not_deaf (present _) (awake _) ?_⟩
      intro secondDeaf
      have same := attended.deaf_unique firstDeaf secondDeaf
      cases congrArg Fin.val same
    · exact ⟨first, alert_of_not_deaf (present _) (awake _) firstDeaf⟩
  · let only : Fin jobThreadCount := ⟨0, someThread⟩
    exact ⟨only, alert_of_not_deaf (present _) (awake _) (hears only)⟩

/-- A step of a job thread keeps somebody alert. -/
theorem work {thread : Fin jobThreadCount}
    (attended : Attended callbacks builder before)
    (taken :
      before.stepJobs callbacks builder (.work thread) = some after) :
    Attended callbacks builder after := by
  rcases WakeupState.stepJobs_work taken with ⟨moved, -, sameOwed⟩
  rcases JobState.step_work_producer moved with ⟨sameOn, -, samePushing⟩
  have others {other : Fin jobThreadCount} (different : other ≠ thread) :
      (after.jobs.workers other).point = (before.jobs.workers other).point := by
    rw [JobState.work_others moved different]
  constructor
  · exact attended.serial.step moved
  · intro isOn other
    rw [sameOn] at isOn
    by_cases same : other = thread
    · rw [same]
      rcases WakeupState.work_standing isOn taken with
        alert | ⟨-, present, -⟩
      · intro gone
        rw [WakeupState.standing, gone] at alert
        cases alert
      · exact present
    · rw [others same]
      exact attended.present isOn other
  · intro isOn nonempty noPush noNotify
    rw [sameOn] at isOn
    rcases WakeupState.work_standing isOn taken with
      alert | ⟨sameHub, -, empty | deaf⟩
    · exact ⟨thread, alert⟩
    · rw [sameHub, empty] at nonempty
      cases nonempty
    · rw [sameHub] at nonempty
      rcases
        attended.alert isOn nonempty (samePushing ▸ noPush)
          (sameOwed ▸ noNotify) with
        ⟨other, alert⟩
      refine ⟨other, ?_⟩
      have different : other ≠ thread := by
        rintro rfl
        rw [deaf] at alert
        cases alert
      rw [WakeupState.work_standing_other taken different sameHub]
      exact alert

/-- `notify_one` leaves somebody alert if it is heard. -/
theorem notifyOne {woken : Option (Fin jobThreadCount)}
    (attended : Attended callbacks builder before)
    (someThread : 1 ≤ jobThreadCount)
    (heard : before.Heard (.notifyOne woken))
    (taken : before.notifyOne woken = some after) :
    Attended callbacks builder after := by
  cases woken with
  | some thread =>
      simp only [WakeupState.notifyOne] at taken
      split_ifs at taken with waiting
      cases taken
      refine ⟨attended.serial, attended.present, ?_⟩
      intro _ _ _ _
      refine ⟨thread, ?_⟩
      have blocked := WorkerPoint.blocked_of_waiting waiting
      simp [WakeupState.standing, WorkerPoint.standing, blocked]
  | none =>
      simp only [WakeupState.notifyOne] at taken
      split_ifs at taken with awake
      cases taken
      refine ⟨attended.serial, attended.present, ?_⟩
      intro isOn nonempty _ _
      rcases heard with two | off | empty | hears
      · exact attended.exists_alert someThread isOn awake (.inl two)
      · cases off.symm.trans isOn
      · cases empty.symm.trans nonempty
      · exact attended.exists_alert someThread isOn awake (.inr hears)

/-- Every step whose notification is heard leaves somebody alert. -/
theorem step {event : WakeupEvent jobThreadCount}
    (attended : Attended callbacks builder before)
    (someThread : 1 ≤ jobThreadCount)
    (heard : before.Heard event)
    (taken : before.step callbacks builder event = some after) :
    Attended callbacks builder after := by
  cases event with
  | skip =>
      simp only [WakeupState.step] at taken
      split_ifs at taken
      cases taken
      exact ⟨attended.serial, attended.present, nofun⟩
  | notifyOne woken =>
      simp only [WakeupState.step] at taken
      split_ifs at taken
      exact attended.notifyOne someThread heard taken
  | jobs event =>
      cases event with
      | work thread => exact attended.work taken
      | beginPush job =>
          simp only [WakeupState.step, WakeupState.stepJobs] at taken
          split_ifs at taken
          rcases Option.map_eq_some_iff.mp taken with ⟨jobs, moved, rfl⟩
          have serial := attended.serial.step moved
          rcases JobState.step_beginPush moved with ⟨-, rfl⟩
          exact ⟨serial, attended.present, nofun⟩
      | stepPush =>
          rcases Option.map_eq_some_iff.mp taken with ⟨jobs, moved, rfl⟩
          have serial := attended.serial.step moved
          rcases JobState.step_stepPush moved with ⟨point, -, rfl⟩
          constructor
          · exact serial
          · intro isOn
            rw [JobHub.stepPush_isOn] at isOn
            exact attended.present isOn
          · intro _ _ noPush noNotify
            -- A push that is done still owes its notification.
            dsimp only at noPush noNotify
            rw [noPush] at noNotify
            cases noNotify
      | turnOff =>
          rcases Option.map_eq_some_iff.mp taken with ⟨jobs, moved, rfl⟩
          have serial := attended.serial.step moved
          rw [JobState.step_turnOff moved] at serial ⊢
          exact ⟨serial, nofun, nofun⟩

end Attended

/-- Every state behind notifications that are heard has somebody alert. -/
theorem attended_of_reaches
    (someThread : 1 ≤ jobThreadCount)
    {queueMaxSize : Nat} {manager : Manager}
    {outputs : Fin jobThreadCount → JobOutput}
    {state : WakeupState jobThreadCount Manager}
    (reached :
      (wakeupSystem callbacks builder).Reaches WakeupState.Heard
        (.start queueMaxSize manager outputs) state) :
    Attended callbacks builder state :=
  reached.invariant (start_attended queueMaxSize manager outputs)
    fun _ _ _ attended heard taken => attended.step someThread heard taken

/-- Nobody is stranded where somebody is alert. -/
theorem Attended.not_stranded
    {state : WakeupState jobThreadCount Manager}
    (attended : Attended callbacks builder state) :
    ¬ state.Stranded := by
  intro stranded
  rcases
    attended.alert stranded.isOn stranded.nonempty stranded.noPush
      stranded.noNotify with
    ⟨thread, alert⟩
  cases alert.symm.trans (stranded.asleep thread)

end Attended

/-! ## One job thread -/

section Overslept

variable {Manager : Type}
variable (callbacks : JobCallbacks Manager) (builder : ResponseBuilder)
variable (room : Nat) (manager : Manager) (outputs : Fin 1 → JobOutput)

/--
The only job thread has loaded the input index when a job is pushed and
notified; it still finds the queue empty, and blocks.
-/
def oversleep : List (WakeupEvent 1) :=
  List.replicate 3 (.jobs (.work ⟨0, Nat.one_pos⟩)) ++
    .jobs (.beginPush (.requestLobbyInfo 5)) ::
      List.replicate 3 (.jobs .stepPush) ++
    .notifyOne none :: List.replicate 3 (.jobs (.work ⟨0, Nat.one_pos⟩))

theorem oversleep_complete :
    ((wakeupSystem callbacks builder).run
      (.start (room + 1) manager outputs) oversleep).isSome = true :=
  rfl

/-- The state in which the thread sleeps on the job. -/
def overslept : WakeupState 1 Manager :=
  ((wakeupSystem callbacks builder).run
    (.start (room + 1) manager outputs) oversleep).get
      (oversleep_complete callbacks builder room manager outputs)

theorem overslept_reachable :
    (wakeupSystem callbacks builder).Reachable
      (.start (room + 1) manager outputs)
      (overslept callbacks builder room manager outputs) :=
  TransitionSystem.reachable_of_run
    (Option.some_get
      (oversleep_complete callbacks builder room manager outputs)).symm

theorem overslept_stranded :
    (overslept callbacks builder room manager outputs).Stranded where
  isOn := rfl
  nonempty := rfl
  asleep := by
    intro thread
    rw [Subsingleton.elim thread 0]
    rfl
  noPush := rfl
  noNotify := rfl

end Overslept

/-! ## No lost wakeup -/

section NoLostWakeup

variable {jobThreadCount : Nat} {Manager : Type}
variable {callbacks : JobCallbacks Manager} {builder : ResponseBuilder}

/-- With two job threads every notification is heard. -/
theorem WakeupState.heard_of_two
    (two : 2 ≤ jobThreadCount)
    (state : WakeupState jobThreadCount Manager)
    (event : WakeupEvent jobThreadCount) :
    state.Heard event := by
  cases event with
  | jobs event => trivial
  | skip => trivial
  | notifyOne woken => exact .inl two

/--
Whatever the number of job threads and the order of the steps, no job is
stranded as long as every notification is heard.  A queue that holds a job is
never stranded in any run exactly if there are two job threads.
-/
theorem no_lost_wakeup
    (someThread : 1 ≤ jobThreadCount)
    (queueMaxSize : Nat) (manager : Manager)
    (outputs : Fin jobThreadCount → JobOutput) :
    (∀ state : WakeupState jobThreadCount Manager,
      (wakeupSystem callbacks builder).Reaches WakeupState.Heard
          (.start queueMaxSize manager outputs) state →
        ¬ state.Stranded) ∧
      (1 ≤ queueMaxSize →
        ((∀ state : WakeupState jobThreadCount Manager,
          (wakeupSystem callbacks builder).Reachable
              (.start queueMaxSize manager outputs) state →
            ¬ state.Stranded) ↔
          2 ≤ jobThreadCount)) := by
  have attended (state : WakeupState jobThreadCount Manager)
      (reached :
        (wakeupSystem callbacks builder).Reaches WakeupState.Heard
          (.start queueMaxSize manager outputs) state) :
      ¬ state.Stranded :=
    (attended_of_reaches someThread reached).not_stranded
  refine ⟨attended, ?_⟩
  intro someRoom
  constructor
  · intro never
    by_contra few
    obtain rfl : jobThreadCount = 1 := by omega
    rcases Nat.exists_eq_add_of_le' someRoom with ⟨room, rfl⟩
    exact
      never _ (overslept_reachable callbacks builder room manager outputs)
        (overslept_stranded callbacks builder room manager outputs)
  · intro two state reached
    apply attended state
    exact
      reached.mono fun before event _ =>
        WakeupState.heard_of_two two before event

/--
A second thread is blocked while the first misses the job and its
notification.
-/
def wakeAnother : List (WakeupEvent 2) :=
  List.replicate 6 (.jobs (.work ⟨1, Nat.one_lt_two⟩)) ++
    List.replicate 3 (.jobs (.work ⟨0, Nat.two_pos⟩)) ++
    .jobs (.beginPush (.requestLobbyInfo 5)) ::
      List.replicate 3 (.jobs .stepPush) ++
    .notifyOne (some ⟨1, Nat.one_lt_two⟩) ::
      List.replicate 3 (.jobs (.work ⟨0, Nat.two_pos⟩))

theorem wakeAnother_complete :
    ((wakeupSystem noLobbies noLobbyBuilder).run
      (.start 4 () fun _ => staleOutput) wakeAnother).isSome = true := by
  decide

theorem no_lost_wakeup_wakeAnother :
    ¬ (((wakeupSystem noLobbies noLobbyBuilder).run
      (.start 4 () fun _ => staleOutput) wakeAnother).get
        wakeAnother_complete).Stranded :=
  ((no_lost_wakeup (by decide) 4 () fun _ => staleOutput).2
    (by decide)).mpr (by decide) _
      (TransitionSystem.reachable_of_run
        (Option.some_get wakeAnother_complete).symm)

/-- One job thread sleeps on a job that was pushed and notified. -/
theorem lost_wakeup :
    (wakeupSystem noLobbies noLobbyBuilder).Reachable
        (.start 4 () fun _ => staleOutput)
        (overslept noLobbies noLobbyBuilder 3 () fun _ => staleOutput) ∧
      (overslept noLobbies noLobbyBuilder 3 () fun _ =>
        staleOutput).Stranded :=
  ⟨overslept_reachable .., overslept_stranded ..⟩

end NoLostWakeup

end IocpServer.ControlServer
