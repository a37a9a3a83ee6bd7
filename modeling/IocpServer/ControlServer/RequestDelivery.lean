import IocpServer.ControlServer.JobSerialisation
import IocpServer.ControlServer.ReceiveThread
import IocpServer.Protocol.FlatBuffers

/-!
# Requests on their way to an executed job

A packet whose message asks for a job passes through two bounded queues.
Neither the network thread nor the receive thread looks at the result of its
push, so a push that finds its queue full loses the request.  As long as no
push does, every request is executed once.
-/

namespace IocpServer.ControlServer

open IocpServer.Library
open IocpServer.Network
open IocpServer.Protocol
open IocpServer.Utility

variable {Thread Manager : Type}
variable {decoder : MessageDecoder}
variable {callbacks : JobCallbacks Manager} {builder : ResponseBuilder}

/-! ## What the queues must have -/

/-- A push that is about to compare the indices finds a free slot. -/
def HasRoom {T : Type}
    (queue : LockFreeCircleQueue T) : Option (PushPoint T) → Prop
  | some (.inputLoaded _ inputIndex) =>
      queue.nextIndex inputIndex ≠ queue.outputIndex
  | some (.notFull _ _) => True
  | some (.slotWritten _ _) => True
  | none => True

instance {T : Type}
    (queue : LockFreeCircleQueue T) (pushing : Option (PushPoint T)) :
    Decidable (HasRoom queue pushing) := by
  unfold HasRoom
  split <;> infer_instance

/-- The push whose access comes next does not find its queue full. -/
def PushHasRoom
    (state : HubState Thread Manager) : HubEvent Thread → Prop
  | .arrive => HasRoom state.packetQueue state.arriving
  | .read => HasRoom state.jobs.hub.jobQueue state.jobs.hub.pushing
  | .receive _ => True
  | .turnOff => True
  | .work _ => True

instance
    (state : HubState Thread Manager) (event : HubEvent Thread) :
    Decidable (PushHasRoom state event) := by
  unfold PushHasRoom
  split <;> infer_instance

/-- A push with room is not refused. -/
theorem stepPush_of_room {T : Type}
    {queue : LockFreeCircleQueue T} {point : PushPoint T}
    (room : HasRoom queue (some point)) :
    (queue.stepPush point).1 ≠ .returned false := by
  cases point with
  | inputLoaded data inputIndex =>
      rw [LockFreeCircleQueue.stepPush, if_neg room]
      intro refused
      cases refused
  | notFull data inputIndex =>
      intro refused
      cases refused
  | slotWritten data inputIndex =>
      intro refused
      cases refused

/-! ## What the job threads leave alone -/

section Producer

variable [DecidableEq Thread]

/-- The jobs of the push that is in progress. -/
def pushedNext (pushing : Option (PushPoint (SharedPointer Job))) :
    List Job :=
  match pushing with
  | none => []
  | some point => pointees point.data

/-- With room, an access of a push keeps its job or delivers it. -/
theorem JobState.stepPush_pushing
    {before after : JobState Thread Manager}
    (taken : before.step callbacks builder .stepPush = some after)
    (room : HasRoom before.hub.jobQueue before.hub.pushing) :
    after.hub.pushed ++ pushedNext after.hub.pushing =
      before.hub.pushed ++ pushedNext before.hub.pushing := by
  rcases JobState.step_stepPush taken with ⟨point, running, rfl⟩
  rw [running] at room ⊢
  simp only [JobHub.stepPush]
  cases point with
  | inputLoaded data inputIndex =>
      rw [LockFreeCircleQueue.stepPush, if_neg room]
      rfl
  | notFull data inputIndex => rfl
  | slotWritten data inputIndex =>
      simp [LockFreeCircleQueue.stepPush, pushedNext, PushPoint.data]

end Producer

/-! ## The receive thread -/

/-- The job a packet asks for. -/
def jobOf (decoder : MessageDecoder) (packet : Packet) : Option Job :=
  match dispatch decoder packet with
  | .job job => some job
  | .leftBehind _ => none
  | .nothing => none
  | .malformed => none

namespace ReceiverPoint

/-- The pop it is in. -/
def popInProgress :
    ReceiverPoint → Option (PopPoint (SharedPointer Packet))
  | .popping point => some point
  | _ => none

/-- The packet it has taken and not looked at yet. -/
def inHand : ReceiverPoint → List Packet
  | .dispatch packet => pointees packet
  | _ => []

/-- What its own loads have established about the queue. -/
def Sound (queue : LockFreeCircleQueue (SharedPointer Packet)) :
    ReceiverPoint → Prop
  | .emptyOutput inputIndex =>
      inputIndex ≠ queue.outputIndex → queue.outputIndex ≠ queue.inputIndex
  | .beginPop => queue.outputIndex ≠ queue.inputIndex
  | .popping _ => queue.outputIndex ≠ queue.inputIndex
  | .dispatch packet => packet ≠ .null
  | _ => True

/-- Whether it is in the push of a job. -/
def isPushing : ReceiverPoint → Bool
  | .pushing => true
  | _ => false

theorem Sound.mono
    {queue after : LockFreeCircleQueue (SharedPointer Packet)}
    {point : ReceiverPoint}
    (sound : point.Sound queue)
    (sameOutput : after.outputIndex = queue.outputIndex)
    (nonempty :
      queue.outputIndex ≠ queue.inputIndex →
        after.outputIndex ≠ after.inputIndex) :
    point.Sound after := by
  cases point with
  | emptyOutput inputIndex =>
      intro loaded
      apply nonempty
      apply sound
      rw [← sameOutput]
      exact loaded
  | beginPop => exact nonempty sound
  | popping point => exact nonempty sound
  | dispatch packet => exact sound
  | top => trivial
  | emptyInput => trivial
  | pushing => trivial
  | notify => trivial
  | exited => trivial

end ReceiverPoint

/-- The packet of the push the network thread is in. -/
def arrivingNext (arriving : Option (PushPoint (SharedPointer Packet))) :
    List Packet :=
  match arriving with
  | none => []
  | some point => pointees point.data

/--
The jobs the received packets ask for are those pushed, the one being pushed,
and those of the packets that are still on their way, in this order.
-/
structure Flowing
    (decoder : MessageDecoder) (state : HubState Thread Manager) : Prop where
  coherent :
    state.packetQueue.Coherent state.arriving state.receiver.popInProgress
  arriving :
    ∀ point, state.arriving = some point → ∃ packet, point.data = .to packet
  sound : state.receiver.Sound state.packetQueue
  pushing : state.jobs.hub.pushing.isSome = state.receiver.isPushing
  flow :
    ∃ queued : List Packet,
      state.packetQueue.elements state.receiver.popInProgress =
          queued.map .to ∧
        state.received.filterMap (jobOf decoder) =
          state.jobs.hub.pushed ++ pushedNext state.jobs.hub.pushing ++
            (state.receiver.inHand ++ queued ++
              arrivingNext state.arriving).filterMap (jobOf decoder)

namespace Flowing

variable {state : HubState Thread Manager}

/-- A step of the job threads. -/
theorem jobs
    (flowing : Flowing decoder state) {jobs : JobState Thread Manager}
    (frame :
      jobs.hub.pushed = state.jobs.hub.pushed ∧
        jobs.hub.pushing = state.jobs.hub.pushing) :
    Flowing decoder { state with jobs := jobs } where
  coherent := flowing.coherent
  arriving := flowing.arriving
  sound := flowing.sound
  pushing := by
    rw [frame.2]
    exact flowing.pushing
  flow := by
    dsimp only
    rw [frame.1, frame.2]
    exact flowing.flow

/-- The receive thread moves without touching a queue. -/
theorem move {before after : ReceiverPoint}
    (flowing : Flowing decoder state)
    (located : state.receiver = before)
    (samePop : after.popInProgress = before.popInProgress)
    (sameHand :
      after.inHand.filterMap (jobOf decoder) =
        before.inHand.filterMap (jobOf decoder))
    (samePushing : after.isPushing = before.isPushing)
    (sound : after.Sound state.packetQueue) :
    Flowing decoder { state with receiver := after } := by
  subst located
  exact
    { coherent := samePop ▸ flowing.coherent
      arriving := flowing.arriving
      sound := sound
      pushing := flowing.pushing.trans samePushing.symm
      flow := by
        rcases flowing.flow with ⟨queued, held, ordered⟩
        refine ⟨queued, samePop ▸ held, ?_⟩
        rw [ordered]
        simp only [List.filterMap_append, sameHand] }

/-- A receive finishes. -/
theorem receive
    (flowing : Flowing decoder state)
    (idle : state.arriving = none) (packet : Packet) :
    Flowing decoder
      { state with
        arriving := some (state.packetQueue.beginPush (.to packet))
        received := state.received ++ [packet] } where
  coherent := by
    have coherent := flowing.coherent
    rw [idle] at coherent
    exact coherent.beginPush (.to packet)
  arriving := by
    intro point arrives
    cases arrives
    exact ⟨packet, rfl⟩
  sound := flowing.sound
  pushing := flowing.pushing
  flow := by
    rcases flowing.flow with ⟨queued, held, ordered⟩
    refine ⟨queued, held, ?_⟩
    rw [idle] at ordered
    simp only [List.filterMap_append, ordered]
    simp [arrivingNext, pointees, LockFreeCircleQueue.beginPush,
      PushPoint.data]

/-- An access of the network thread's push, with room. -/
theorem arrive {point : PushPoint (SharedPointer Packet)}
    (flowing : Flowing decoder state)
    (running : state.arriving = some point)
    (room : HasRoom state.packetQueue state.arriving) :
    Flowing decoder (state.arrive point) := by
  rcases flowing.arriving point running with ⟨packet, pushes⟩
  rcases flowing.flow with ⟨queued, held, ordered⟩
  have before := flowing.coherent
  rw [running] at before room ordered
  have accepted := stepPush_of_room room
  unfold HubState.arrive
  cases taken : state.packetQueue.stepPush point with
  | mk progress queue =>
      have sound : state.receiver.Sound queue :=
        flowing.sound.mono
          (LockFreeCircleQueue.outputIndex_stepPush taken)
          (before.nonempty_stepPush taken)
      rcases before.stepPush taken with
        ⟨next, rfl, sameData, coherent, sameElements⟩ |
          ⟨rfl, coherent, appended⟩ | ⟨rfl, -, -, -⟩
      · exact
          { coherent := coherent
            arriving := by
              intro later stays
              cases stays
              exact ⟨packet, sameData.trans pushes⟩
            sound := sound
            pushing := flowing.pushing
            flow := by
              refine ⟨queued, sameElements.trans held, ?_⟩
              simp only [ordered, arrivingNext, sameData] }
      · exact
          { coherent := coherent
            arriving := nofun
            sound := sound
            pushing := flowing.pushing
            flow := by
              refine ⟨queued ++ [packet], ?_, ?_⟩
              · rw [appended, held, pushes, List.map_append]
                rfl
              · simp [ordered, arrivingNext, pushes, pointees] }
      · rw [taken] at accepted
        exact absurd rfl accepted

/-- The receive thread begins its pop. -/
theorem beginPop
    (flowing : Flowing decoder state)
    (located : state.receiver = .beginPop) :
    Flowing decoder
      { state with receiver := .popping state.packetQueue.beginPop } := by
  have coherent := flowing.coherent
  have sound := flowing.sound
  have idle := flowing.pushing
  rcases flowing.flow with ⟨queued, held, ordered⟩
  rw [located] at coherent sound idle held ordered
  rcases coherent.beginPop with ⟨begun, sameElements⟩
  exact
    { coherent := begun
      arriving := flowing.arriving
      sound := sound
      pushing := idle
      flow := ⟨queued, sameElements.trans held, ordered⟩ }

/-- An access of the receive thread's pop, with something in the queue. -/
theorem stepPop
    {point : PopPoint (SharedPointer Packet)}
    {progress :
      Progress (PopPoint (SharedPointer Packet)) (SharedPointer Packet)}
    {queue : LockFreeCircleQueue (SharedPointer Packet)}
    (flowing : Flowing decoder state)
    (popping : state.receiver = .popping point)
    (taken : state.packetQueue.stepPop point = (progress, queue)) :
    (∃ next,
      progress = .running next ∧
        Flowing decoder
          { state with packetQueue := queue, receiver := .popping next }) ∨
      ∃ packet,
        progress = .returned (.to packet) ∧
          Flowing decoder
            { state with
              packetQueue := queue
              receiver := .dispatch (.to packet) } := by
  have before := flowing.coherent
  have sound := flowing.sound
  have idle := flowing.pushing
  rcases flowing.flow with ⟨queued, held, ordered⟩
  rw [popping] at before sound idle held ordered
  rcases before.stepPop_nonempty sound held taken with
    ⟨next, rfl, coherent, nonempty, sameElements⟩ |
      ⟨packet, rest, rfl, rfl, coherent, restHeld⟩
  · left
    refine ⟨next, rfl, ?_⟩
    exact
      { coherent := coherent
        arriving := flowing.arriving
        sound := nonempty
        pushing := idle
        flow := ⟨queued, sameElements, ordered⟩ }
  · right
    refine ⟨packet, rfl, ?_⟩
    exact
      { coherent := coherent
        arriving := flowing.arriving
        sound := nofun
        pushing := idle
        flow := by
          refine ⟨rest, restHeld, ?_⟩
          rw [ordered]
          simp [ReceiverPoint.inHand, pointees] }

variable [DecidableEq Thread]

/-- The receive thread begins the push of the job its packet asks for. -/
theorem beginPush {packet : Packet} {job : Job}
    {jobs : JobState Thread Manager}
    (flowing : Flowing decoder state)
    (dispatching : state.receiver = .dispatch (.to packet))
    (asks : dispatch decoder packet = .job job)
    (taken :
      state.jobs.step callbacks builder (.beginPush job) = some jobs) :
    Flowing decoder { state with jobs := jobs, receiver := .pushing } := by
  rcases JobState.step_beginPush taken with ⟨idle, rfl⟩
  have coherent := flowing.coherent
  rcases flowing.flow with ⟨queued, held, ordered⟩
  rw [dispatching] at coherent held ordered
  have asked : jobOf decoder packet = some job := by
    rw [jobOf, asks]
  exact
    { coherent := coherent
      arriving := flowing.arriving
      sound := trivial
      pushing := rfl
      flow := by
        refine ⟨queued, held, ?_⟩
        rw [ordered, idle]
        simp [pushedNext, pointees, ReceiverPoint.inHand, asked,
          LockFreeCircleQueue.beginPush, PushPoint.data] }

/-- An access of the receive thread's push, with room. -/
theorem stepPush {jobs : JobState Thread Manager}
    (flowing : Flowing decoder state)
    (pushing : state.receiver = .pushing)
    (taken : state.jobs.step callbacks builder .stepPush = some jobs)
    (room : HasRoom state.jobs.hub.jobQueue state.jobs.hub.pushing) :
    Flowing decoder
      { state with
        jobs := jobs
        receiver := if jobs.hub.pushing.isSome then .pushing else .notify } := by
  have delivered := JobState.stepPush_pushing taken room
  have coherent := flowing.coherent
  rcases flowing.flow with ⟨queued, held, ordered⟩
  rw [pushing] at coherent held ordered
  cases running : jobs.hub.pushing with
  | none =>
      rw [running] at delivered
      exact
        { coherent := coherent
          arriving := flowing.arriving
          sound := trivial
          pushing := by
            dsimp only
            rw [running]
            rfl
          flow := by
            refine ⟨queued, held, ?_⟩
            rw [ordered, ← delivered]
            dsimp only
            rw [running]
            rfl }
  | some point =>
      rw [running] at delivered
      exact
        { coherent := coherent
          arriving := flowing.arriving
          sound := trivial
          pushing := by
            dsimp only
            rw [running]
            rfl
          flow := by
            refine ⟨queued, held, ?_⟩
            rw [ordered, ← delivered]
            dsimp only
            rw [running]
            rfl }

/-- The receive thread looks at the packet it has taken. -/
theorem dispatched {packet : Packet} {after : HubState Thread Manager}
    (flowing : Flowing decoder state)
    (located : state.receiver = .dispatch (.to packet))
    (taken :
      state.readStep decoder callbacks builder (.dispatch (.to packet)) =
        some after) :
    Flowing decoder after := by
  simp only [HubState.readStep] at taken
  cases asks : dispatch decoder packet with
  | job job =>
      rw [asks] at taken
      rcases Option.map_eq_some_iff.mp taken with ⟨jobs, pushes, rfl⟩
      exact flowing.beginPush located asks pushes
  | leftBehind notice =>
      rw [asks] at taken
      cases taken
      refine flowing.move located rfl ?_ rfl trivial
      simp [ReceiverPoint.inHand, pointees, jobOf, asks]
  | nothing =>
      rw [asks] at taken
      cases taken
      refine flowing.move located rfl ?_ rfl trivial
      simp [ReceiverPoint.inHand, pointees, jobOf, asks]
  | malformed =>
      rw [asks] at taken
      cases taken
      exact
        { coherent := flowing.coherent
          arriving := flowing.arriving
          sound := flowing.sound
          pushing := flowing.pushing
          flow := flowing.flow }

/-- Every access of the receive thread, with room for its push. -/
theorem readStep {after : HubState Thread Manager}
    (flowing : Flowing decoder state)
    (room : HasRoom state.jobs.hub.jobQueue state.jobs.hub.pushing)
    (taken :
      state.readStep decoder callbacks builder state.receiver =
        some after) :
    Flowing decoder after := by
  cases located : state.receiver with
  | top =>
      rw [located] at taken
      cases taken
      by_cases on : state.jobs.hub.isOn
      · rw [if_pos on]
        exact flowing.move located rfl rfl rfl trivial
      · rw [if_neg on]
        exact flowing.move located rfl rfl rfl trivial
  | emptyInput =>
      rw [located] at taken
      cases taken
      exact flowing.move located rfl rfl rfl Ne.symm
  | emptyOutput inputIndex =>
      have sound := flowing.sound
      rw [located] at taken sound
      by_cases nothing : inputIndex = state.packetQueue.outputIndex
      · rw [HubState.readStep, if_pos nothing] at taken
        cases taken
        exact flowing.move located rfl rfl rfl trivial
      · rw [HubState.readStep, if_neg nothing] at taken
        cases taken
        exact flowing.move located rfl rfl rfl (sound nothing)
  | beginPop =>
      rw [located] at taken
      cases taken
      exact flowing.beginPop located
  | popping point =>
      rw [located] at taken
      simp only [HubState.readStep] at taken
      cases popped : state.packetQueue.stepPop point with
      | mk progress queue =>
          rcases flowing.stepPop located popped with
            ⟨next, rfl, kept⟩ | ⟨packet, rfl, kept⟩
          · rw [popped] at taken
            cases taken
            exact kept
          · rw [popped] at taken
            cases taken
            exact kept
  | dispatch pointer =>
      have sound := flowing.sound
      rw [located] at taken sound
      rcases pointer with _ | packet
      · exact absurd rfl sound
      · exact flowing.dispatched located taken
  | pushing =>
      rw [located] at taken
      rcases Option.map_eq_some_iff.mp taken with ⟨_, stepped, rfl⟩
      rcases Option.map_eq_some_iff.mp stepped with ⟨jobs, pushes, rfl⟩
      exact flowing.stepPush located pushes room
  | notify =>
      rw [located] at taken
      cases taken
      exact flowing.move located rfl rfl rfl trivial
  | exited =>
      rw [located] at taken
      cases taken

/-- Every step whose push has room keeps the invariant. -/
theorem step {after : HubState Thread Manager} {event : HubEvent Thread}
    (flowing : Flowing decoder state)
    (room : PushHasRoom state event)
    (taken : state.step decoder callbacks builder event = some after) :
    Flowing decoder after := by
  unfold HubState.step at taken
  split_ifs at taken
  cases event with
  | receive packet =>
      cases idle : state.arriving with
      | some point =>
          rw [idle] at taken
          cases taken
      | none =>
          rw [idle] at taken
          cases taken
          exact flowing.receive idle packet
  | arrive =>
      cases running : state.arriving with
      | none =>
          rw [running] at taken
          cases taken
      | some point =>
          rw [running] at taken
          cases taken
          exact flowing.arrive running room
  | read => exact flowing.readStep room taken
  | turnOff =>
      rcases Option.map_eq_some_iff.mp taken with ⟨jobs, moved, rfl⟩
      rw [JobState.step_turnOff moved]
      exact flowing.jobs ⟨rfl, rfl⟩
  | work thread =>
      rcases Option.map_eq_some_iff.mp taken with ⟨jobs, moved, rfl⟩
      exact flowing.jobs (JobState.step_work_producer moved).2

end Flowing

theorem start_flowing
    (packetQueueCapacity overlappedQueueMax : Nat) (manager : Manager)
    (outputs : Thread → JobOutput) :
    Flowing decoder
      (HubState.start packetQueueCapacity overlappedQueueMax manager
        outputs) where
  coherent := LockFreeCircleQueue.coherent_idle _
  arriving := nofun
  sound := trivial
  pushing := rfl
  flow := ⟨[], rfl, rfl⟩

/-! ## The job threads of the hub -/

section Projection

variable [DecidableEq Thread]

/-- A step of the hub is at most one step of its job threads. -/
theorem HubState.step_jobs
    {before after : HubState Thread Manager} {event : HubEvent Thread}
    (taken : before.step decoder callbacks builder event = some after) :
    after.jobs = before.jobs ∨
      ∃ jobEvent,
        before.jobs.step callbacks builder jobEvent = some after.jobs := by
  cases (HubState.step_move taken).2 with
  | quiet _ sameJobs => exact .inl sameJobs
  | skip sameJobs => exact .inl sameJobs
  | notify sameJobs => exact .inl sameJobs
  | beginPush moved => exact .inr ⟨_, moved⟩
  | stepPush moved => exact .inr ⟨_, moved⟩
  | turnOff moved => exact .inr ⟨_, moved⟩
  | work moved => exact .inr ⟨_, moved⟩

/-- A run of the hub is a run of its job threads. -/
theorem jobs_reachable
    {allowed : HubState Thread Manager → HubEvent Thread → Prop}
    {start finish : HubState Thread Manager}
    (reached :
      (hubSystem decoder callbacks builder).Reaches allowed start finish) :
    (jobSystem callbacks builder).Reachable start.jobs finish.jobs := by
  refine reached.project HubState.jobs ?_
  intro before event after _ taken
  rcases HubState.step_jobs taken with same | ⟨jobEvent, moved⟩
  · rw [same]
    exact .refl
  · exact .step .refl trivial moved

end Projection

/-! ## When nothing is on its way -/

/-- The receive thread is not in the middle of a packet. -/
def ReceiverPoint.atRest : ReceiverPoint → Bool
  | .beginPop => false
  | .popping _ => false
  | .dispatch _ => false
  | .pushing => false
  | .top => true
  | .emptyInput => true
  | .emptyOutput _ => true
  | .notify => true
  | .exited => true

/-- The job thread is not in the middle of a job. -/
def WorkerPoint.atRest : WorkerPoint → Bool
  | .locked .beginPop => false
  | .locked (.popping _) => false
  | .locked (.executing _) => false
  | .locked .checkSend => false
  | .locked .sending => false
  | .locked _ => true
  | .free _ => true

/-- Both queues are empty and no thread is in the middle of an item. -/
structure Quiescent (state : HubState Thread Manager) : Prop where
  packetQueue : state.packetQueue.empty = true
  jobQueue : state.jobs.hub.jobQueue.empty = true
  network : state.arriving.isNone = true
  receiver : state.receiver.atRest = true
  workers : ∀ thread, (state.jobs.workers thread).point.atRest = true

/--
Every receive whose packet asks for a job is accounted for by a job executed
for it: the jobs asked for are among those executed, as often as they were
asked for.
-/
def Accounted
    (decoder : MessageDecoder) (state : HubState Thread Manager) : Prop :=
  ∀ job,
    (state.received.filterMap (jobOf decoder)).count job ≤
      (state.jobs.hub.executed.map Executed.job).count job

/-- No job thread in the middle of a job has none in its hand. -/
theorem JobState.inside_atRest
    {jobs : JobState Thread Manager}
    (atRest : ∀ thread, (jobs.workers thread).point.atRest = true) :
    jobs.inside.popping = none ∧ jobs.inside.inHand = [] := by
  unfold JobState.inside
  split
  · exact ⟨rfl, rfl⟩
  · next thread holds =>
      have rest := atRest thread
      split
      · exact ⟨rfl, rfl⟩
      · next point located =>
          rw [located] at rest
          cases point with
          | popping point => cases rest
          | executing job => cases rest
          | beginPop => cases rest
          | checkSend => cases rest
          | sending => cases rest
          | predicateInput => exact ⟨rfl, rfl⟩
          | predicateOutput inputIndex => exact ⟨rfl, rfl⟩
          | predicateOn => exact ⟨rfl, rfl⟩
          | wait => exact ⟨rfl, rfl⟩
          | checkOn => exact ⟨rfl, rfl⟩
          | drainInput => exact ⟨rfl, rfl⟩
          | drainOutput inputIndex => exact ⟨rfl, rfl⟩

theorem ReceiverPoint.of_atRest
    {point : ReceiverPoint} (rest : point.atRest = true) :
    point.popInProgress = none ∧ point.inHand = [] ∧
      point.isPushing = false := by
  cases point with
  | beginPop => cases rest
  | popping point => cases rest
  | dispatch packet => cases rest
  | pushing => cases rest
  | top => exact ⟨rfl, rfl, rfl⟩
  | emptyInput => exact ⟨rfl, rfl, rfl⟩
  | emptyOutput inputIndex => exact ⟨rfl, rfl, rfl⟩
  | notify => exact ⟨rfl, rfl, rfl⟩
  | exited => exact ⟨rfl, rfl, rfl⟩

/-- In a quiescent state the jobs pushed are those executed. -/
theorem executed_of_quiescent
    {state : HubState Thread Manager}
    (consistent :
      Consistent callbacks builder state.jobs.hub state.jobs.inside)
    (quiescent : Quiescent state) :
    state.jobs.hub.pushed = state.jobs.hub.executed.map Executed.job := by
  rcases JobState.inside_atRest quiescent.workers with ⟨noPop, noHand⟩
  rcases consistent.queued with ⟨queued, held, ordered⟩
  have empty := (state.jobs.hub.jobQueue.empty_iff).mp quiescent.jobQueue
  rw [noPop, LockFreeCircleQueue.elements_none, empty] at held
  have nothing : queued = [] := List.map_eq_nil_iff.mp held.symm
  rw [ordered, noHand, nothing, List.append_nil, List.append_nil]

/-- In a quiescent state the jobs asked for are those pushed. -/
theorem Flowing.received_of_quiescent
    {state : HubState Thread Manager}
    (flowing : Flowing decoder state) (quiescent : Quiescent state) :
    state.received.filterMap (jobOf decoder) = state.jobs.hub.pushed := by
  rcases ReceiverPoint.of_atRest quiescent.receiver with
    ⟨noPop, noHand, noPush⟩
  rcases flowing.flow with ⟨queued, held, ordered⟩
  have empty := (state.packetQueue.empty_iff).mp quiescent.packetQueue
  rw [noPop, LockFreeCircleQueue.elements_none, empty] at held
  have nothing : queued = [] := List.map_eq_nil_iff.mp held.symm
  have idle : state.jobs.hub.pushing = none := by
    have pushing := flowing.pushing
    rw [noPush] at pushing
    exact Option.not_isSome_iff_eq_none.mp (by simp [pushing])
  have arrived : state.arriving = none :=
    Option.isNone_iff_eq_none.mp quiescent.network
  rw [ordered, noHand, nothing, idle, arrived]
  simp [pushedNext, arrivingNext]

variable [DecidableEq Thread]

/--
As long as no push finds its queue full, nothing that was received is lost:
whenever both queues are empty and no thread is in the middle of an item,
every receive that asks for a job has had it executed.
-/
theorem requests_executed
    {packetQueueCapacity overlappedQueueMax : Nat} {manager : Manager}
    {outputs : Thread → JobOutput} {state : HubState Thread Manager}
    (reached :
      (hubSystem decoder callbacks builder).Reaches PushHasRoom
        (HubState.start packetQueueCapacity overlappedQueueMax manager
          outputs) state) :
    Quiescent state → Accounted decoder state := by
  intro quiescent job
  have flowing : Flowing decoder state :=
    reached.invariant
      (start_flowing packetQueueCapacity overlappedQueueMax manager outputs)
      fun _ _ _ before room taken => before.step room taken
  have serial : Serial callbacks builder state.jobs :=
    serial_of_reachable (jobs_reachable reached)
  rw [flowing.received_of_quiescent quiescent,
    executed_of_quiescent serial.consistent quiescent]

/-! ## Two requests -/

/-- A request for a lobby, on the connection of a key. -/
def lobbyRequest (completionKey : CompletionKey) : Packet where
  senderType := 4
  completionKey := completionKey
  contentsType := 1
  buffer := [8, 0, 0, 0, 4, 0, 4, 0, 4, 0, 0, 0]

/-- A hub with one job thread and room for one element in each queue. -/
def smallHub : HubState (Fin 1) Unit :=
  HubState.start 1 1 () fun _ => staleOutput

/-- One packet from its arrival to the end of its job. -/
def drained : List (HubEvent (Fin 1)) :=
  List.replicate 12 .read ++ List.replicate 16 (.work ⟨0, Nat.one_pos⟩)

/-- The second request arrives behind the answer to the first. -/
def spacedRequests : List (HubEvent (Fin 1)) :=
  .receive (lobbyRequest 5) :: List.replicate 3 .arrive ++ drained ++
    .receive (lobbyRequest 6) :: List.replicate 3 .arrive ++ drained

theorem spacedRequests_complete :
    ((hubSystem flatBuffers noLobbies noLobbyBuilder).runAllowed PushHasRoom
      smallHub spacedRequests).isSome = true := by
  decide

/-- The state behind both answers. -/
def behindSpacedRequests : HubState (Fin 1) Unit :=
  ((hubSystem flatBuffers noLobbies noLobbyBuilder).runAllowed PushHasRoom
    smallHub spacedRequests).get spacedRequests_complete

theorem behindSpacedRequests_quiescent : Quiescent behindSpacedRequests where
  packetQueue := by decide
  jobQueue := by decide
  network := by decide
  receiver := by decide
  workers := by decide

theorem requests_executed_spaced :
    behindSpacedRequests.received = [lobbyRequest 5, lobbyRequest 6] ∧
      Accounted flatBuffers behindSpacedRequests := by
  constructor
  · decide
  · exact
      requests_executed
        (TransitionSystem.reaches_get spacedRequests_complete)
        behindSpacedRequests_quiescent

/-- The second request arrives before the first is taken. -/
def crowdedRequests : List (HubEvent (Fin 1)) :=
  .receive (lobbyRequest 5) :: List.replicate 3 .arrive ++
    .receive (lobbyRequest 6) :: .arrive :: drained

theorem crowdedRequests_complete :
    ((hubSystem flatBuffers noLobbies noLobbyBuilder).run
      smallHub crowdedRequests).isSome = true := by
  decide

/-- The state behind the one answer. -/
def behindCrowdedRequests : HubState (Fin 1) Unit :=
  ((hubSystem flatBuffers noLobbies noLobbyBuilder).run
    smallHub crowdedRequests).get crowdedRequests_complete

/-- The second request was received, nothing is on its way, and no job. -/
theorem request_lost :
    (hubSystem flatBuffers noLobbies noLobbyBuilder).Reachable smallHub
        behindCrowdedRequests ∧
      Quiescent behindCrowdedRequests ∧
        ¬ Accounted flatBuffers behindCrowdedRequests := by
  refine ⟨?_, ?_, ?_⟩
  · exact
      TransitionSystem.reachable_of_run
        (Option.some_get crowdedRequests_complete).symm
  · exact
      { packetQueue := by decide
        jobQueue := by decide
        network := by decide
        receiver := by decide
        workers := by decide }
  · intro accounted
    exact absurd (accounted (.requestLobbyInfo 6)) (by decide)

end IocpServer.ControlServer
