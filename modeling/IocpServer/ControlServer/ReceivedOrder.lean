import IocpServer.ControlServer.RequestDelivery
import Mathlib.Data.List.Basic

/-!
# The order of the executed jobs

A push that finds its queue full drops what it was given, and changes nothing
else: the run goes on as if the packet had not been received.  So whatever the
queues hold, the executed jobs are, in their order, among those the received
packets ask for, and no packet has two.
-/

namespace IocpServer.ControlServer

open IocpServer.Library
open IocpServer.Network
open IocpServer.Protocol
open IocpServer.Utility

variable {Thread Manager : Type}
variable {decoder : MessageDecoder}
variable {callbacks : JobCallbacks Manager} {builder : ResponseBuilder}

/-- The state of a hub that has received other packets before. -/
def HubState.withReceived
    (state : HubState Thread Manager) (received : List Packet) :
    HubState Thread Manager :=
  { state with received := received }

/-- The packet an event hands to the hub. -/
def HubEvent.packets : HubEvent Thread → List Packet
  | .receive packet => [packet]
  | .arrive => []
  | .read => []
  | .turnOff => []
  | .work _ => []

section Received

variable [DecidableEq Thread]

/-- The receive thread does not look at the record of the receives. -/
theorem HubState.readStep_withReceived
    (state : HubState Thread Manager) (received : List Packet)
    (point : ReceiverPoint) :
    (state.withReceived received).readStep decoder callbacks builder point =
      (state.readStep decoder callbacks builder point).map fun after =>
        after.withReceived received := by
  cases point with
  | top => rfl
  | emptyInput => rfl
  | emptyOutput inputIndex =>
      rw [HubState.readStep, HubState.readStep]
      by_cases nothing : inputIndex = state.packetQueue.outputIndex
      · rw [if_pos (by exact nothing), if_pos nothing]
        rfl
      · rw [if_neg (by exact nothing), if_neg nothing]
        rfl
  | beginPop => rfl
  | popping point =>
      simp only [HubState.readStep, HubState.withReceived]
      split <;> rfl
  | dispatch pointer =>
      rcases pointer with _ | packet
      · rfl
      · simp only [HubState.readStep, HubState.stepJobs,
          HubState.withReceived]
        split
        · rw [Option.map_map]
          rfl
        · rfl
        · rfl
        · rfl
  | pushing =>
      simp only [HubState.readStep, HubState.stepJobs, HubState.withReceived,
        Option.map_map]
      rfl
  | notify => rfl
  | exited => rfl

/-- Nor does any other step; it adds the packet it is handed. -/
theorem HubState.step_withReceived
    (state : HubState Thread Manager) (received : List Packet)
    (event : HubEvent Thread) :
    (state.withReceived received).step decoder callbacks builder event =
      (state.step decoder callbacks builder event).map fun after =>
        after.withReceived (received ++ event.packets) := by
  have stepJobs :
      ∀ jobEvent : JobEvent Thread,
        (state.withReceived received).stepJobs callbacks builder jobEvent =
          (state.stepJobs callbacks builder jobEvent).map fun after =>
            after.withReceived (received ++ []) := by
    intro jobEvent
    rw [List.append_nil, HubState.stepJobs, HubState.stepJobs, Option.map_map]
    rfl
  unfold HubState.step
  dsimp only
  by_cases ended : state.failed.isSome ∨ state.jobs.hub.terminated.isSome
  · rw [if_pos ended, if_pos (by exact ended)]
    rfl
  · rw [if_neg ended, if_neg (by exact ended)]
    cases event with
    | receive packet =>
        dsimp only [HubState.withReceived]
        split <;> rfl
    | arrive =>
        rw [HubEvent.packets, List.append_nil]
        dsimp only [HubState.withReceived]
        split
        · rfl
        · unfold HubState.arrive
          dsimp only
          split <;> rfl
    | read =>
        rw [HubEvent.packets, List.append_nil]
        exact state.readStep_withReceived received state.receiver
    | turnOff => exact stepJobs .turnOff
    | work thread => exact stepJobs (.work thread)

/-- What a step adds to the record of the receives. -/
theorem HubState.received_step
    {state after : HubState Thread Manager} {event : HubEvent Thread}
    (taken : state.step decoder callbacks builder event = some after) :
    after.received = state.received ++ event.packets := by
  have same :
      state.step decoder callbacks builder event =
        (state.step decoder callbacks builder event).map fun after =>
          after.withReceived (state.received ++ event.packets) :=
    state.step_withReceived state.received event
  rw [taken] at same
  exact congrArg HubState.received (Option.some.inj same)

end Received

/-! ## Pushes that are refused -/

/--
The run is one in which only some of the packets were received, and every push
had room.
-/
def FlowsFrom
    (decoder : MessageDecoder) (state : HubState Thread Manager) : Prop :=
  ∃ kept, kept.Sublist state.received ∧
    Flowing decoder (state.withReceived kept)

/-- Packets can be left out until only some of the jobs are asked for. -/
theorem exists_kept {received kept : List Packet} {jobs : List Job}
    (among : kept.Sublist received)
    (fewer : jobs.Sublist (kept.filterMap (jobOf decoder))) :
    ∃ rest : List Packet,
      rest.Sublist received ∧ rest.filterMap (jobOf decoder) = jobs := by
  rcases List.sublist_filterMap_iff.mp fewer with ⟨rest, shorter, same⟩
  exact ⟨rest, shorter.trans among, same.symm⟩

/-- A push that has no room is at its comparison, and returns `false`. -/
theorem stepPush_refused {T : Type}
    {queue : LockFreeCircleQueue T} {point : PushPoint T}
    (full : ¬HasRoom queue (some point)) :
    queue.stepPush point = (.returned false, queue) := by
  cases point with
  | inputLoaded data inputIndex =>
      exact if_pos (not_not.mp full)
  | notFull data inputIndex => exact absurd trivial full
  | slotWritten data inputIndex => exact absurd trivial full

section Refused

variable {state : HubState Thread Manager} {kept : List Packet}

/-- The network thread drops its packet. -/
theorem Flowing.refuseArrival {point : PushPoint (SharedPointer Packet)}
    (flowing : Flowing decoder (state.withReceived kept))
    (among : kept.Sublist state.received)
    (running : state.arriving = some point)
    (full : ¬HasRoom state.packetQueue state.arriving) :
    FlowsFrom decoder (state.arrive point) := by
  rw [running] at full
  have refused := stepPush_refused full
  have arrived : state.arrive point = { state with arriving := none } := by
    rw [HubState.arrive, refused]
  have coherent := flowing.coherent
  rcases flowing.flow with ⟨queued, held, ordered⟩
  simp only [HubState.withReceived, running] at coherent held ordered
  have fewer :
      (state.jobs.hub.pushed ++ pushedNext state.jobs.hub.pushing ++
          (state.receiver.inHand ++ queued).filterMap (jobOf decoder)).Sublist
        (kept.filterMap (jobOf decoder)) := by
    rw [ordered]
    exact
      (List.sublist_append_left (state.receiver.inHand ++ queued) _).filterMap _
        |>.append_left _
  rcases exists_kept among fewer with ⟨rest, shorter, same⟩
  rw [arrived]
  rcases coherent.stepPush refused with
    ⟨next, more, -⟩ | ⟨more, -⟩ | ⟨-, -, idle, -⟩
  · cases more
  · cases more
  · refine ⟨rest, shorter, ?_⟩
    exact
      { coherent := idle
        arriving := nofun
        sound := flowing.sound
        pushing := flowing.pushing
        flow := by
          refine ⟨queued, held, ?_⟩
          change
            _ = _ ++ (state.receiver.inHand ++ queued ++ []).filterMap _
          rw [List.append_nil]
          exact same }

/-- The receive thread drops the job of its packet. -/
theorem Flowing.refuseJob {jobs : JobState Thread Manager}
    [DecidableEq Thread]
    (flowing : Flowing decoder (state.withReceived kept))
    (among : kept.Sublist state.received)
    (pushing : state.receiver = .pushing)
    (taken : state.jobs.step callbacks builder .stepPush = some jobs)
    (full : ¬HasRoom state.jobs.hub.jobQueue state.jobs.hub.pushing) :
    FlowsFrom decoder
      { state with
        jobs := jobs
        receiver := if jobs.hub.pushing.isSome then .pushing else .notify } := by
  rcases JobState.step_stepPush taken with ⟨point, running, rfl⟩
  rw [running] at full
  have refused := stepPush_refused full
  have coherent := flowing.coherent
  rcases flowing.flow with ⟨queued, held, ordered⟩
  simp only [HubState.withReceived, pushing] at coherent held ordered
  have fewer :
      (state.jobs.hub.pushed ++
          (queued ++ arrivingNext state.arriving).filterMap
            (jobOf decoder)).Sublist
        (kept.filterMap (jobOf decoder)) := by
    rw [ordered]
    exact (List.sublist_append_left _ _).append_right _
  rcases exists_kept among fewer with ⟨rest, shorter, same⟩
  refine ⟨rest, shorter, ?_⟩
  simp only [JobHub.stepPush, refused]
  exact
    { coherent := coherent
      arriving := flowing.arriving
      sound := trivial
      pushing := rfl
      flow := by
        refine ⟨queued, held, same.trans ?_⟩
        simp [pushedNext, ReceiverPoint.inHand, HubState.withReceived] }

end Refused

section Runs

variable [DecidableEq Thread] {state after : HubState Thread Manager}

/-- Whatever the queues hold, a step keeps the invariant. -/
theorem FlowsFrom.step {event : HubEvent Thread}
    (flows : FlowsFrom decoder state)
    (taken : state.step decoder callbacks builder event = some after) :
    FlowsFrom decoder after := by
  rcases flows with ⟨kept, among, flowing⟩
  by_cases room : PushHasRoom state event
  · have moved :
        (state.withReceived kept).step decoder callbacks builder event =
          some (after.withReceived (kept ++ event.packets)) := by
      rw [state.step_withReceived, taken]
      rfl
    refine ⟨kept ++ event.packets, ?_, flowing.step room moved⟩
    rw [HubState.received_step taken]
    exact among.append_right _
  · unfold HubState.step at taken
    split_ifs at taken
    cases event with
    | receive packet => exact absurd trivial room
    | arrive =>
        cases running : state.arriving with
        | none =>
            rw [running] at taken
            cases taken
        | some point =>
            rw [running] at taken
            cases taken
            exact flowing.refuseArrival among running room
    | read =>
        -- only in the push of a job can the read be one without room
        have pushing : state.receiver = .pushing := by
          have isPushing : state.jobs.hub.pushing.isSome =
              state.receiver.isPushing := flowing.pushing
          cases located : state.receiver with
          | pushing => rfl
          | _ =>
              rw [located] at isPushing
              have none := Option.not_isSome_iff_eq_none.mp
                (Bool.eq_false_iff.mp isPushing)
              refine absurd ?_ room
              rw [PushHasRoom, none]
              trivial
        rw [pushing] at taken
        rcases Option.map_eq_some_iff.mp taken with ⟨_, stepped, rfl⟩
        rcases Option.map_eq_some_iff.mp stepped with ⟨jobs, moved, rfl⟩
        exact flowing.refuseJob among pushing moved room
    | turnOff => exact absurd trivial room
    | work thread => exact absurd trivial room

theorem flowsFrom_of_reachable
    {packetQueueCapacity overlappedQueueMax : Nat} {manager : Manager}
    {outputs : Thread → JobOutput}
    (reached :
      (hubSystem decoder callbacks builder).Reachable
        (HubState.start packetQueueCapacity overlappedQueueMax manager
          outputs) state) :
    FlowsFrom decoder state := by
  apply reached.invariant
  · exact
      ⟨[], .refl _,
        start_flowing packetQueueCapacity overlappedQueueMax manager outputs⟩
  · intro _ _ _ flows _ taken
    exact flows.step taken

/-- What is executed was asked for, in this order and once. -/
theorem executed_sublist
    {packetQueueCapacity overlappedQueueMax : Nat} {manager : Manager}
    {outputs : Thread → JobOutput}
    (reached :
      (hubSystem decoder callbacks builder).Reachable
        (HubState.start packetQueueCapacity overlappedQueueMax manager
          outputs) state) :
    (state.jobs.hub.executed.map Executed.job).Sublist
      (state.received.filterMap (jobOf decoder)) := by
  rcases flowsFrom_of_reachable reached with ⟨kept, among, flowing⟩
  rcases flowing.flow with ⟨queued, -, ordered⟩
  have serial : Serial callbacks builder state.jobs :=
    serial_of_reachable (jobs_reachable reached)
  rcases serial.consistent.queued with ⟨waiting, -, pushed⟩
  have executed :
      (state.jobs.hub.executed.map Executed.job).Sublist
        state.jobs.hub.pushed := by
    rw [pushed, List.append_assoc]
    exact List.sublist_append_left _ _
  have asked :
      state.jobs.hub.pushed.Sublist (kept.filterMap (jobOf decoder)) := by
    change kept.filterMap (jobOf decoder) = _ at ordered
    rw [ordered, List.append_assoc]
    exact List.sublist_append_left _ _
  exact (executed.trans asked).trans (among.filterMap _)

end Runs

/-! ## The jobs of one connection -/

/-- A job is that of the connection its packet came from. -/
theorem jobOf_socketPtr {packet : Packet} {job : Job}
    (asked : jobOf decoder packet = some job) :
    job.socketPtr = packet.completionKey := by
  unfold jobOf dispatch at asked
  split at asked
  · next same =>
      split at same
      · cases same
        cases asked
        rfl
      · cases same
      · split at same
        · cases same
        · cases same
          cases asked
          rfl
      · split at same <;> cases same
      · cases same
      · cases same
      · cases same
  · cases asked
  · cases asked
  · cases asked

/-- The packets of a connection ask for its jobs. -/
theorem filter_jobs (packets : List Packet) (completionKey : CompletionKey) :
    (packets.filterMap (jobOf decoder)).filter
        (fun job => job.socketPtr = completionKey) =
      (packets.filter fun packet =>
        packet.completionKey = completionKey).filterMap (jobOf decoder) := by
  rw [List.filter_filterMap, List.filterMap_filter]
  apply List.filterMap_congr
  intro packet _
  cases asked : jobOf decoder packet with
  | none =>
      split_ifs <;> rfl
  | some job =>
      rw [Option.filter_some, jobOf_socketPtr asked]

/-- An answer goes to the connection that asked for it. -/
theorem request_of_answer {manager : Manager} {job : Job} {call : SendCall}
    (answered : job.answer callbacks builder manager = some call) :
    job = .requestLobbyInfo call.targetSocket := by
  cases job with
  | requestLobbyInfo socketPtr =>
      rw [Job.answer] at answered
      split at answered
      · cases answered
      · cases answered
        rfl
  | noticeLobbyReady socketPtr lobbyKey port capacity active => cases answered

/-- A connection is sent no more messages than it has had requests executed. -/
theorem count_answers_le (executed : List (Executed Manager))
    (completionKey : CompletionKey) :
    ((executed.filterMap (Executed.answer callbacks builder)).map
          SendCall.targetSocket).count completionKey ≤
      (executed.map Executed.job).count (.requestLobbyInfo completionKey) := by
  induction executed with
  | nil => exact le_refl _
  | cons done executed recursive =>
      rw [List.map_cons, List.count_cons]
      cases answered : done.answer callbacks builder with
      | none =>
          rw [List.filterMap_cons_none answered]
          exact recursive.trans (Nat.le_add_right _ _)
      | some call =>
          have job := request_of_answer answered
          rw [List.filterMap_cons_some answered, List.map_cons,
            List.count_cons, job]
          apply Nat.add_le_add recursive
          split_ifs <;> simp_all

variable [DecidableEq Thread]

/--
In every run, full queues included, the executed jobs are in order among
those that were asked for; so are the jobs of each connection among those that
its own packets ask for; and no connection is sent more messages than it has
sent requests.
-/
theorem jobs_executed_in_order
    {packetQueueCapacity overlappedQueueMax : Nat} {manager : Manager}
    {outputs : Thread → JobOutput} {state : HubState Thread Manager}
    (reached :
      (hubSystem decoder callbacks builder).Reachable
        (HubState.start packetQueueCapacity overlappedQueueMax manager
          outputs) state) :
    (state.jobs.hub.executed.map Executed.job).Sublist
        (state.received.filterMap (jobOf decoder)) ∧
      ∀ completionKey,
        ((state.jobs.hub.executed.map Executed.job).filter
            fun job => job.socketPtr = completionKey).Sublist
          ((state.received.filter fun packet =>
            packet.completionKey = completionKey).filterMap
              (jobOf decoder)) ∧
          (state.jobs.hub.sends.map SendCall.targetSocket).count
              completionKey ≤
            (state.received.filterMap (jobOf decoder)).count
              (.requestLobbyInfo completionKey) := by
  have executed := executed_sublist reached
  refine ⟨executed, fun completionKey => ⟨?_, ?_⟩⟩
  · rw [← filter_jobs]
    exact executed.filter _
  · have serial : Serial callbacks builder state.jobs :=
      serial_of_reachable (jobs_reachable reached)
    have sent :
        state.jobs.hub.sends.Sublist
          (state.jobs.hub.executed.filterMap
            (Executed.answer callbacks builder)) := by
      rw [← serial.consistent.sends]
      exact List.sublist_append_left _ _
    calc
      (state.jobs.hub.sends.map SendCall.targetSocket).count completionKey ≤
          ((state.jobs.hub.executed.filterMap
            (Executed.answer callbacks builder)).map
              SendCall.targetSocket).count completionKey :=
        (sent.map _).count_le _
      _ ≤ (state.jobs.hub.executed.map Executed.job).count
            (.requestLobbyInfo completionKey) :=
        count_answers_le _ completionKey
      _ ≤ (state.received.filterMap (jobOf decoder)).count
            (.requestLobbyInfo completionKey) :=
        executed.count_le _

/-- Behind a full queue the first of two requests is executed and answered. -/
theorem jobs_executed_in_order_crowded :
    behindCrowdedRequests.received.length = 2 ∧
      behindCrowdedRequests.jobs.hub.executed.length = 1 ∧
        (behindCrowdedRequests.jobs.hub.executed.map Executed.job).Sublist
          (behindCrowdedRequests.received.filterMap (jobOf flatBuffers)) := by
  refine ⟨by decide, by decide, ?_⟩
  exact
    (jobs_executed_in_order
      (TransitionSystem.reachable_of_run
        (Option.some_get crowdedRequests_complete).symm)).1

end IocpServer.ControlServer
