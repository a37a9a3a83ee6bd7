import IocpServer.ControlServer.JobThread

/-!
# The job threads execute one job at a time

Whatever the interleaving, the thread that holds the lock is the only
consumer of the queue.  The invariant speaks about that one thread: the pop
it is in, the job in its hand and the message it still has to send.
-/

namespace IocpServer.ControlServer

open IocpServer.Library
open IocpServer.Protocol
open IocpServer.Utility

/-- What the thread that holds the lock is doing, if there is one. -/
abbrev Inside := Option (LockedPoint × JobOutput)

namespace Inside

/-- The pop it is in. -/
def popping : Inside → Option (PopPoint (SharedPointer Job))
  | some (.popping point, _) => some point
  | _ => none

/-- The job it has taken and not executed yet. -/
def inHand : Inside → List Job
  | some (.executing job, _) => pointees job
  | _ => []

/-- The message of the job it executed last, while that is not sent. -/
def pending : Inside → List SendCall
  | some (.checkSend, output) => output.message.toList
  | some (.sending, output) => [output.sendCall]
  | _ => []

/-- What its own loads have established about the queue. -/
def Sound (queue : LockFreeCircleQueue (SharedPointer Job)) : Inside → Prop
  | some (.drainOutput inputIndex, _) =>
      inputIndex ≠ queue.outputIndex → queue.outputIndex ≠ queue.inputIndex
  | some (.beginPop, _) => queue.outputIndex ≠ queue.inputIndex
  | some (.popping _, _) => queue.outputIndex ≠ queue.inputIndex
  | some (.executing job, _) => job ≠ .null
  | _ => True

/-- The established facts survive what a push does. -/
theorem Sound.mono
    {queue after : LockFreeCircleQueue (SharedPointer Job)} {inside : Inside}
    (sound : inside.Sound queue)
    (sameOutput : after.outputIndex = queue.outputIndex)
    (nonempty :
      queue.outputIndex ≠ queue.inputIndex →
        after.outputIndex ≠ after.inputIndex) :
    inside.Sound after := by
  rcases inside with _ | ⟨point, output⟩
  · trivial
  · cases point with
    | drainOutput inputIndex =>
        intro loaded
        apply nonempty
        apply sound
        rw [← sameOutput]
        exact loaded
    | beginPop => exact nonempty sound
    | popping point => exact nonempty sound
    | executing job => exact sound
    | predicateInput => trivial
    | predicateOutput inputIndex => trivial
    | predicateOn => trivial
    | wait => trivial
    | checkOn => trivial
    | drainInput => trivial
    | checkSend => trivial
    | sending => trivial

end Inside

/-- What a step under the lock leaves inside. -/
def Outcome.inside : Outcome → Inside
  | .stays point output => some (point, output)
  | .leaves _ _ => none

variable {Manager : Type}
variable {callbacks : JobCallbacks Manager} {builder : ResponseBuilder}

/-- The message an executed job is answered with. -/
def Executed.answer
    (callbacks : JobCallbacks Manager) (builder : ResponseBuilder)
    (done : Executed Manager) : Option SendCall :=
  done.job.answer callbacks builder done.manager

/--
The shared state and the thread that holds the lock.  The jobs pushed are
those executed, the one in hand and those in the queue, in this order; the
messages sent, and the pending one, are those of the executed jobs.
-/
structure Consistent
    (callbacks : JobCallbacks Manager) (builder : ResponseBuilder)
    (hub : JobHub Manager) (inside : Inside) : Prop where
  coherent : hub.jobQueue.Coherent hub.pushing inside.popping
  queued :
    ∃ queued : List Job,
      hub.jobQueue.elements inside.popping = queued.map .to ∧
        hub.pushed = hub.executed.map Executed.job ++ inside.inHand ++ queued
  pushing : ∀ point, hub.pushing = some point → ∃ job, point.data = .to job
  sends :
    hub.sends ++ inside.pending =
      hub.executed.filterMap (Executed.answer callbacks builder)
  sound : inside.Sound hub.jobQueue
  notNull : hub.terminated ≠ some .nullJob

namespace Consistent

variable {hub : JobHub Manager} {inside after : Inside}

/-- A step that only moves the thread. -/
theorem move
    (consistent : Consistent callbacks builder hub inside)
    (samePop : after.popping = inside.popping)
    (sameHand : after.inHand = inside.inHand)
    (samePending : after.pending = inside.pending)
    (sound : after.Sound hub.jobQueue) :
    Consistent callbacks builder hub after where
  coherent := samePop ▸ consistent.coherent
  queued := by
    rw [samePop, sameHand]
    exact consistent.queued
  pushing := consistent.pushing
  sends := samePending ▸ consistent.sends
  sound := sound
  notNull := consistent.notNull

/-- `pop` begins. -/
theorem beginPop {output : JobOutput}
    (consistent :
      Consistent callbacks builder hub (some (.beginPop, output))) :
    Consistent callbacks builder hub
      (some (.popping hub.jobQueue.beginPop, output)) := by
  rcases consistent.coherent.beginPop with ⟨coherent, sameElements⟩
  exact
    { coherent := coherent
      queued := by
        rcases consistent.queued with ⟨queued, held, ordered⟩
        exact ⟨queued, sameElements.trans held, ordered⟩
      pushing := consistent.pushing
      sends := consistent.sends
      sound := consistent.sound
      notNull := consistent.notNull }

/--
One access of the pop.  It ends with a job in hand, the first in the queue;
it never finds the queue empty.
-/
theorem stepPop
    {output : JobOutput} {point : PopPoint (SharedPointer Job)}
    {progress : Progress (PopPoint (SharedPointer Job)) (SharedPointer Job)}
    {queue : LockFreeCircleQueue (SharedPointer Job)}
    (consistent :
      Consistent callbacks builder hub (some (.popping point, output)))
    (taken : hub.jobQueue.stepPop point = (progress, queue)) :
    (∃ next,
      progress = .running next ∧
        Consistent callbacks builder { hub with jobQueue := queue }
          (some (.popping next, output))) ∨
      ∃ job,
        progress = .returned (.to job) ∧
          Consistent callbacks builder { hub with jobQueue := queue }
            (some (.executing (.to job), output)) := by
  rcases consistent.queued with ⟨queued, held, ordered⟩
  rcases consistent.coherent.stepPop_nonempty consistent.sound held taken with
    ⟨next, rfl, coherent, nonempty, sameElements⟩ |
      ⟨job, rest, rfl, rfl, coherent, restHeld⟩
  · left
    refine ⟨next, rfl, ?_⟩
    exact
      { coherent := coherent
        queued := ⟨queued, sameElements, ordered⟩
        pushing := consistent.pushing
        sends := consistent.sends
        sound := nonempty
        notNull := consistent.notNull }
  · right
    refine ⟨job, rfl, ?_⟩
    exact
      { coherent := coherent
        queued := by
          refine ⟨rest, restHeld, ?_⟩
          rw [ordered]
          simp [Inside.inHand, pointees]
        pushing := consistent.pushing
        sends := consistent.sends
        sound := nofun
        notNull := consistent.notNull }

/-- `Execute` of the job in hand. -/
theorem execute
    {output : JobOutput} {job : SharedPointer Job}
    (consistent :
      Consistent callbacks builder hub (some (.executing job, output))) :
    Consistent callbacks builder
      (hub.execute callbacks builder output job).1
      (hub.execute callbacks builder output job).2.inside := by
  rcases job with _ | job
  · exact absurd rfl consistent.sound
  · unfold JobHub.execute
    cases returned :
        job.execute callbacks builder hub.manager output with
    | error exception =>
        simp only [returned]
        exact
          { coherent := consistent.coherent
            queued := consistent.queued
            pushing := consistent.pushing
            sends := consistent.sends
            sound := consistent.sound
            notNull := nofun }
    | ok result =>
        rcases result with ⟨manager, written⟩
        simp only [returned]
        have message := Job.message_of_execute returned
        rcases consistent.queued with ⟨queued, held, ordered⟩
        exact
          { coherent := consistent.coherent
            queued := by
              refine ⟨queued, held, ?_⟩
              rw [ordered]
              simp [Outcome.inside, Inside.inHand, pointees]
            pushing := consistent.pushing
            sends := by
              have before := consistent.sends
              simp only [Inside.pending, List.append_nil] at before
              rw [List.filterMap_append, ← before]
              simp only [Outcome.inside, Inside.pending, message]
              rw [List.filterMap_cons, List.filterMap_nil, Executed.answer]
              cases job.answer callbacks builder hub.manager <;> rfl
            sound := trivial
            notNull := consistent.notNull }

/-- The send of the pending message. -/
theorem send {output : JobOutput}
    (consistent :
      Consistent callbacks builder hub (some (.sending, output))) :
    Consistent callbacks builder
      { hub with sends := hub.sends ++ [output.sendCall] }
      (some (.drainInput, output)) where
  coherent := consistent.coherent
  queued := consistent.queued
  pushing := consistent.pushing
  sends := by
    have before := consistent.sends
    simp only [Inside.pending] at before ⊢
    rw [List.append_nil]
    exact before
  sound := trivial
  notNull := consistent.notNull

/-- Every step under the lock keeps the invariant. -/
theorem lockedStep
    {output : JobOutput} {point : LockedPoint}
    (consistent : Consistent callbacks builder hub (some (point, output))) :
    Consistent callbacks builder
      (hub.lockedStep callbacks builder output point).1
      (hub.lockedStep callbacks builder output point).2.inside := by
  cases point with
  | predicateInput => exact consistent.move rfl rfl rfl trivial
  | predicateOutput inputIndex =>
      simp only [JobHub.lockedStep]
      split_ifs
      · exact consistent.move rfl rfl rfl trivial
      · exact consistent.move rfl rfl rfl trivial
  | predicateOn =>
      simp only [JobHub.lockedStep]
      split_ifs
      · exact consistent.move rfl rfl rfl trivial
      · exact consistent.move rfl rfl rfl trivial
  | wait => exact consistent.move rfl rfl rfl trivial
  | checkOn =>
      simp only [JobHub.lockedStep]
      split_ifs
      · exact consistent.move rfl rfl rfl trivial
      · exact consistent.move rfl rfl rfl trivial
  | drainInput => exact consistent.move rfl rfl rfl Ne.symm
  | drainOutput inputIndex =>
      simp only [JobHub.lockedStep]
      split_ifs with nothing
      · exact consistent.move rfl rfl rfl trivial
      · exact consistent.move rfl rfl rfl (consistent.sound nothing)
  | beginPop => exact consistent.beginPop
  | popping point =>
      simp only [JobHub.lockedStep]
      cases taken : hub.jobQueue.stepPop point with
      | mk progress queue =>
          rcases consistent.stepPop taken with
            ⟨next, rfl, kept⟩ | ⟨job, rfl, kept⟩
          · exact kept
          · exact kept
  | executing job => exact consistent.execute
  | checkSend =>
      simp only [JobHub.lockedStep]
      split_ifs with send
      · refine consistent.move rfl rfl ?_ trivial
        simp [Outcome.inside, Inside.pending, JobOutput.message, send]
      · refine consistent.move rfl rfl ?_ trivial
        simp [Outcome.inside, Inside.pending, JobOutput.message, send]
  | sending => exact consistent.send

/-- `push` begins. -/
theorem beginPush
    (consistent : Consistent callbacks builder hub inside)
    (idle : hub.pushing = none) (job : Job) :
    Consistent callbacks builder
      { hub with pushing := some (hub.jobQueue.beginPush (.to job)) }
      inside where
  coherent := by
    have coherent := consistent.coherent
    rw [idle] at coherent
    exact coherent.beginPush (.to job)
  queued := consistent.queued
  pushing := by
    intro point pushed
    cases pushed
    exact ⟨job, rfl⟩
  sends := consistent.sends
  sound := consistent.sound
  notNull := consistent.notNull

/-- One access of a push, whatever the job threads are doing. -/
theorem stepPush {point : PushPoint (SharedPointer Job)}
    (consistent : Consistent callbacks builder hub inside)
    (running : hub.pushing = some point) :
    Consistent callbacks builder (hub.stepPush point) inside := by
  rcases consistent.pushing point running with ⟨job, pushes⟩
  rcases consistent.queued with ⟨queued, held, ordered⟩
  have before := consistent.coherent
  rw [running] at before
  unfold JobHub.stepPush
  cases taken : hub.jobQueue.stepPush point with
  | mk progress queue =>
      have sound : inside.Sound queue :=
        consistent.sound.mono
          (LockFreeCircleQueue.outputIndex_stepPush taken)
          (before.nonempty_stepPush taken)
      rcases before.stepPush taken with
        ⟨next, rfl, sameData, coherent, sameElements⟩ |
          ⟨rfl, coherent, appended⟩ | ⟨rfl, rfl, coherent, -⟩
      · exact
          { coherent := coherent
            queued := ⟨queued, sameElements.trans held, ordered⟩
            pushing := by
              intro later stays
              cases stays
              exact ⟨job, sameData.trans pushes⟩
            sends := consistent.sends
            sound := sound
            notNull := consistent.notNull }
      · exact
          { coherent := coherent
            queued := by
              refine ⟨queued ++ [job], ?_, ?_⟩
              · rw [appended, held, pushes, List.map_append]
                rfl
              · change hub.pushed ++ pointees point.data = _
                rw [pushes, ordered, List.append_assoc]
                rfl
            pushing := nofun
            sends := consistent.sends
            sound := sound
            notNull := consistent.notNull }
      · exact
          { coherent := coherent
            queued := ⟨queued, held, ordered⟩
            pushing := nofun
            sends := consistent.sends
            sound := consistent.sound
            notNull := consistent.notNull }

end Consistent

/-! ## The lock -/

section Lock

variable {Thread : Type}

/-- What the thread that holds the lock is doing. -/
def JobState.inside (state : JobState Thread Manager) : Inside :=
  match state.lockJobThread with
  | none => none
  | some thread =>
      match (state.workers thread).point with
      | .free _ => none
      | .locked point => some (point, (state.workers thread).output)

/--
The lock is held by the one thread that is at a point under it, and that
thread is consistent with what the threads share.
-/
structure Serial
    (callbacks : JobCallbacks Manager) (builder : ResponseBuilder)
    (state : JobState Thread Manager) : Prop where
  exclusive :
    ∀ thread point,
      (state.workers thread).point = .locked point →
        state.lockJobThread = some thread
  held :
    ∀ thread,
      state.lockJobThread = some thread →
        ∃ point, (state.workers thread).point = .locked point
  consistent : Consistent callbacks builder state.hub state.inside

theorem JobState.inside_of_locked
    {state : JobState Thread Manager} {thread : Thread} {point : LockedPoint}
    (held : state.lockJobThread = some thread)
    (locked : (state.workers thread).point = .locked point) :
    state.inside = some (point, (state.workers thread).output) := by
  simp [JobState.inside, held, locked]

/-- A change of what the threads share leaves the threads where they are. -/
theorem Serial.share
    {state : JobState Thread Manager}
    (serial : Serial callbacks builder state) {hub : JobHub Manager}
    (consistent : Consistent callbacks builder hub state.inside) :
    Serial callbacks builder { state with hub := hub } where
  exclusive := serial.exclusive
  held := serial.held
  consistent := consistent

/-- The invariant holds at the start, whatever the outputs hold. -/
theorem start_serial
    (queueMaxSize : Nat) (manager : Manager)
    (outputs : Thread → JobOutput) :
    Serial callbacks builder
      (JobState.start queueMaxSize manager outputs) where
  exclusive := nofun
  held := nofun
  consistent :=
    { coherent := LockFreeCircleQueue.coherent_idle _
      queued := ⟨[], rfl, rfl⟩
      pushing := nofun
      sends := rfl
      sound := trivial
      notNull := nofun }

variable [DecidableEq Thread]

@[simp]
theorem JobState.setWorker_self
    (state : JobState Thread Manager) (thread : Thread)
    (point : WorkerPoint) (output : JobOutput) :
    (state.setWorker thread point output).workers thread =
      ⟨point, output⟩ :=
  Function.update_self ..

theorem JobState.setWorker_other
    (state : JobState Thread Manager) {thread other : Thread}
    (different : other ≠ thread) (point : WorkerPoint) (output : JobOutput) :
    (state.setWorker thread point output).workers other =
      state.workers other :=
  Function.update_of_ne different ..

theorem JobState.inside_setWorker_self
    {state : JobState Thread Manager} {thread : Thread}
    (held : state.lockJobThread = some thread)
    (point : LockedPoint) (output : JobOutput) :
    (state.setWorker thread (.locked point) output).inside =
      some (point, output) := by
  unfold JobState.inside
  simp [JobState.setWorker, held]

theorem JobState.inside_setWorker_other
    {state : JobState Thread Manager} {thread : Thread}
    (elsewhere : state.lockJobThread ≠ some thread)
    (point : WorkerPoint) (output : JobOutput) :
    (state.setWorker thread point output).inside = state.inside := by
  unfold JobState.inside
  cases held : state.lockJobThread with
  | none => simp [JobState.setWorker, held]
  | some owner =>
      have different : owner ≠ thread := by
        intro same
        exact elsewhere (same ▸ held)
      simp only [JobState.setWorker, held, Function.update_of_ne different]

/-- A thread that does not hold the lock moves to another such point. -/
theorem Serial.moveFree
    {state : JobState Thread Manager}
    (serial : Serial callbacks builder state)
    {thread : Thread} {point : FreePoint}
    (free : (state.workers thread).point = .free point)
    (after : FreePoint) (output : JobOutput) :
    Serial callbacks builder
      (state.setWorker thread (.free after) output) where
  exclusive := by
    intro other locked atPoint
    by_cases same : other = thread
    · subst same
      simp at atPoint
    · rw [JobState.setWorker_other state same] at atPoint
      exact serial.exclusive other locked atPoint
  held := by
    intro other holds
    rcases serial.held other holds with ⟨locked, atPoint⟩
    have different : other ≠ thread := by
      intro same
      rw [same, free] at atPoint
      cases atPoint
    exact ⟨locked, by rw [JobState.setWorker_other state different, atPoint]⟩
  consistent := by
    have elsewhere : state.lockJobThread ≠ some thread := by
      intro holds
      rcases serial.held thread holds with ⟨locked, atPoint⟩
      rw [free] at atPoint
      cases atPoint
    rw [JobState.inside_setWorker_other elsewhere]
    exact serial.consistent

/-- A thread acquires the lock when nobody holds it. -/
theorem Serial.acquire
    {state : JobState Thread Manager}
    (serial : Serial callbacks builder state)
    (idle : state.lockJobThread = none)
    (thread : Thread) (output : JobOutput) :
    Serial callbacks builder
      ({ state with lockJobThread := some thread }.setWorker thread
        (.locked .predicateInput) output) where
  exclusive := by
    intro other locked atPoint
    by_cases same : other = thread
    · rw [same]
      rfl
    · rw [JobState.setWorker_other _ same] at atPoint
      have holds := serial.exclusive other locked atPoint
      rw [idle] at holds
      cases holds
  held := by
    intro other holds
    cases holds
    exact ⟨.predicateInput, by simp⟩
  consistent := by
    have nobody : state.inside = none := by
      simp [JobState.inside, idle]
    have before := serial.consistent
    rw [nobody] at before
    rw [JobState.inside_setWorker_self rfl]
    exact before.move rfl rfl rfl trivial

/-- A step under the lock. -/
theorem Serial.finishLocked
    {state : JobState Thread Manager}
    (serial : Serial callbacks builder state)
    {thread : Thread} (holds : state.lockJobThread = some thread)
    {result : JobHub Manager × Outcome}
    (consistent :
      Consistent callbacks builder result.1 result.2.inside) :
    Serial callbacks builder (state.finishLocked thread result) := by
  have others :
      ∀ other point,
        other ≠ thread → (state.workers other).point ≠ .locked point := by
    intro other point different atPoint
    have owner := serial.exclusive other point atPoint
    rw [holds] at owner
    exact different (Option.some.inj owner).symm
  rcases result with ⟨hub, point | point⟩
  · exact
      { exclusive := by
          intro other locked atPoint
          by_cases same : other = thread
          · rw [same]
            exact holds
          · rw [JobState.finishLocked,
              JobState.setWorker_other _ same] at atPoint
            exact absurd atPoint (others other locked same)
        held := by
          intro other owner
          have same : thread = other :=
            Option.some.inj (holds.symm.trans owner)
          rw [← same]
          exact ⟨point, by simp [JobState.finishLocked]⟩
        consistent := by
          rw [JobState.finishLocked, JobState.inside_setWorker_self]
          · exact consistent
          · exact holds }
  · exact
      { exclusive := by
          intro other locked atPoint
          by_cases same : other = thread
          · subst same
            simp [JobState.finishLocked] at atPoint
          · rw [JobState.finishLocked,
              JobState.setWorker_other _ same] at atPoint
            exact absurd atPoint (others other locked same)
        held := nofun
        consistent := consistent }

/-- Every step keeps the invariant. -/
theorem Serial.step
    {before after : JobState Thread Manager} {event : JobEvent Thread}
    (serial : Serial callbacks builder before)
    (taken : before.step callbacks builder event = some after) :
    Serial callbacks builder after := by
  cases event with
  | beginPush job =>
      rcases JobState.step_beginPush taken with ⟨idle, rfl⟩
      exact serial.share (serial.consistent.beginPush idle job)
  | stepPush =>
      rcases JobState.step_stepPush taken with ⟨point, running, rfl⟩
      exact serial.share (serial.consistent.stepPush running)
  | turnOff =>
      rw [JobState.step_turnOff taken]
      have consistent := serial.consistent
      exact
        serial.share
          { coherent := consistent.coherent
            queued := consistent.queued
            pushing := consistent.pushing
            sends := consistent.sends
            sound := consistent.sound
            notNull := consistent.notNull }
  | work thread =>
      rcases JobState.step_work taken with
        ⟨point, next, located, rfl⟩ | ⟨idle, rfl⟩ | ⟨point, located, rfl⟩
      · exact serial.moveFree located next _
      · exact serial.acquire idle thread _
      · have holds := serial.exclusive thread point located
        have consistent := serial.consistent
        rw [JobState.inside_of_locked holds located] at consistent
        exact serial.finishLocked holds consistent.lockedStep

/-- Every reachable state keeps the invariant. -/
theorem serial_of_reachable
    {queueMaxSize : Nat} {manager : Manager} {outputs : Thread → JobOutput}
    {state : JobState Thread Manager}
    (reached :
      (jobSystem callbacks builder).Reachable
        (JobState.start queueMaxSize manager outputs) state) :
    Serial callbacks builder state :=
  reached.invariant (start_serial queueMaxSize manager outputs)
    fun _ _ _ serial _ taken => serial.step taken

/--
In every reachable state, of any number of job threads and whatever their
outputs held: the jobs pushed successfully are those executed, the one in the
lock holder's hand and those in the queue, in this order, so that none is
executed twice or out of turn; one thread at most is under the lock, where
jobs are taken, executed and answered; the calls of `SendRequest` are the
messages of the executed jobs, but for the one the lock holder is about to
make; and every message is as long as it says.
-/
theorem job_threads_serialise
    {queueMaxSize : Nat} {manager : Manager} {outputs : Thread → JobOutput}
    {state : JobState Thread Manager}
    (reached :
      (jobSystem callbacks builder).Reachable
        (JobState.start queueMaxSize manager outputs) state) :
    (∃ queued : List Job,
      state.hub.jobQueue.elements state.inside.popping = queued.map .to ∧
        state.hub.pushed =
          state.hub.executed.map Executed.job ++ state.inside.inHand ++
            queued) ∧
      (∀ first second firstPoint secondPoint,
        (state.workers first).point = .locked firstPoint →
          (state.workers second).point = .locked secondPoint →
            first = second) ∧
      state.hub.sends ++ state.inside.pending =
        state.hub.executed.filterMap (Executed.answer callbacks builder) ∧
      (∀ call ∈ state.hub.sends,
        call.bodySize.toInt = call.stringBuffer.length) ∧
      state.hub.terminated ≠ some .nullJob := by
  have serial : Serial callbacks builder state := serial_of_reachable reached
  refine
    ⟨serial.consistent.queued, ?_, serial.consistent.sends, ?_,
      serial.consistent.notNull⟩
  · intro first second firstPoint secondPoint firstLocked secondLocked
    have firstHolds := serial.exclusive first firstPoint firstLocked
    have secondHolds := serial.exclusive second secondPoint secondLocked
    exact Option.some.inj (firstHolds.symm.trans secondHolds)
  · intro call sent
    have answered :
        call ∈
          state.hub.executed.filterMap
            (Executed.answer callbacks builder) := by
      rw [← serial.consistent.sends]
      exact List.mem_append_left _ sent
    rcases List.mem_filterMap.mp answered with ⟨done, -, answer⟩
    exact Job.bodySize_of_answer answer

end Lock

/-! ## A request and a registration -/

/-- Callbacks of a manager that finds no lobby. -/
def noLobbies : JobCallbacks Unit where
  requestLobbyInfo manager lobbyKey lobbyPort _ :=
    .ok (manager, lobbyKey, lobbyPort)
  saveLobbyInfo manager _ _ _ _ := .ok manager

/-- The response when no lobby is found, as its builder finishes it. -/
def noLobbyBuilder : ResponseBuilder where
  finish _ _ _ :=
    [12, 0, 0, 0, 8, 0, 8, 0, 0, 0, 4, 0, 8, 0, 0, 0, 4, 0, 0, 0,
      0, 0, 0, 0, 0, 0, 0, 0]
  bounded _ _ _ := by decide

/-- An output that says to send something. -/
def staleOutput : JobOutput where
  socketPtr := 9
  bodySize := -1
  contentsType := 7
  buffer := literal "stale"
  isSend := true

/--
A thread blocks; a request and a registration are pushed; the thread wakes
and executes both, while another thread waits for the lock.
-/
def requestThenReady : List (JobEvent (Fin 2)) :=
  List.replicate 6 (.work 0) ++
    .beginPush (.requestLobbyInfo 5) :: List.replicate 3 .stepPush ++
    .beginPush (.noticeLobbyReady 6 (literal "lobby") 7000 10 true) ::
      List.replicate 3 .stepPush ++
    .work 1 :: List.replicate 23 (.work 0)

theorem requestThenReady_complete :
    ((jobSystem noLobbies noLobbyBuilder).run
      (JobState.start 4 () fun _ => staleOutput)
      requestThenReady).isSome = true := by
  decide

/-- The state behind the request and the registration. -/
def behindRequestThenReady : JobState (Fin 2) Unit :=
  ((jobSystem noLobbies noLobbyBuilder).run
    (JobState.start 4 () fun _ => staleOutput)
    requestThenReady).get requestThenReady_complete

theorem job_threads_serialise_requestThenReady :
    behindRequestThenReady.hub.sends ++
        behindRequestThenReady.inside.pending =
      behindRequestThenReady.hub.executed.filterMap
        (Executed.answer noLobbies noLobbyBuilder) ∧
      behindRequestThenReady.hub.executed.map Executed.job =
        [.requestLobbyInfo 5,
          .noticeLobbyReady 6 (literal "lobby") 7000 10 true] ∧
      behindRequestThenReady.hub.sends.map SendCall.targetSocket = [5] := by
  have serialised :=
    job_threads_serialise
      (TransitionSystem.reachable_of_run
        (Option.some_get requestThenReady_complete).symm)
  exact ⟨serialised.2.2.1, by decide, by decide⟩

end IocpServer.ControlServer
