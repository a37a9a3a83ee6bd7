import IocpServer.ControlServer.JobThread

/-!
# The control hub's threads

The network thread pushes the packets of finished receives; the receive
thread turns them into jobs; the job threads execute these.  The steps of the
job threads are those of `IocpServer.ControlServer.JobThread`, whose producer
here is the receive thread.

`notify_one` has no step of its own: a blocked thread may wake at any time.
-/

namespace IocpServer.ControlServer

open IocpServer.Library
open IocpServer.Network
open IocpServer.Protocol
open IocpServer.Utility

/-- Where the receive thread is. -/
inductive ReceiverPoint where
  /-- About to read `isOn`. -/
  | top
  | emptyInput
  | emptyOutput (inputIndex : Nat)
  | beginPop
  | popping (point : PopPoint (SharedPointer Packet))
  /-- About to look at the packet. -/
  | dispatch (packet : SharedPointer Packet)
  /-- In the push of the job it made. -/
  | pushing
  | notify
  | exited

/-- Why the receive thread ends the process. -/
inductive ReceiverFault where
  | nullPacket
  | malformedMessage
deriving DecidableEq, Repr

/-- What the switch over the message types does with a packet. -/
inductive Dispatched where
  /-- A job to push. -/
  | job (job : Job)
  /-- A `NOTICE_LOBBYINFO` job, made and left behind. -/
  | leftBehind (notice : LobbyInfoNotice)
  | nothing
  | malformed
deriving DecidableEq, Repr

/-- The switch of `ReceiveThread`. -/
def dispatch (decoder : MessageDecoder) (packet : Packet) : Dispatched :=
  match MessageType.ofContentsType packet.contentsType with
  | some .requestLobbyInfo => .job (.requestLobbyInfo packet.completionKey)
  | some .responseLobbyInfo => .nothing
  | some .noticeLobbyReady =>
      match decoder.noticeLobbyReady packet.buffer with
      | none => .malformed
      | some notice =>
          .job
            (.noticeLobbyReady packet.completionKey notice.lobbyKey
              notice.port notice.capacity notice.active)
  | some .noticeLobbyInfo =>
      match decoder.noticeLobbyInfo packet.buffer with
      | none => .malformed
      | some notice => .leftBehind notice
  | some .noticeSecretKey => .nothing
  | some .noticeResponseSpeed => .nothing
  | none => .nothing

/--
The threads of the hub, with a record of the packets of all finished
receives.
-/
structure HubState (Thread Manager : Type) where
  packetQueue : LockFreeCircleQueue (SharedPointer Packet)
  arriving : Option (PushPoint (SharedPointer Packet))
  receiver : ReceiverPoint
  jobs : JobState Thread Manager
  failed : Option ReceiverFault
  received : List Packet

inductive HubEvent (Thread : Type) where
  /-- A receive finishes; the network thread pushes its packet. -/
  | receive (packet : Packet)
  /-- The network thread's next access. -/
  | arrive
  /-- The receive thread's next access. -/
  | read
  /-- `isOn` becomes false. -/
  | turnOff
  /-- A job thread's next access. -/
  | work (thread : Thread)

namespace HubState

variable {Thread Manager : Type} [DecidableEq Thread]
variable (decoder : MessageDecoder)
variable (callbacks : JobCallbacks Manager) (builder : ResponseBuilder)

/-- The network thread's next access; the result of the push is dropped. -/
def arrive
    (state : HubState Thread Manager)
    (point : PushPoint (SharedPointer Packet)) : HubState Thread Manager :=
  match state.packetQueue.stepPush point with
  | (.running next, queue) =>
      { state with packetQueue := queue, arriving := some next }
  | (.returned _, queue) =>
      { state with packetQueue := queue, arriving := none }

/-- A step of the job threads or of their producer. -/
def stepJobs
    (state : HubState Thread Manager) (event : JobEvent Thread) :
    Option (HubState Thread Manager) :=
  (state.jobs.step callbacks builder event).map fun jobs =>
    { state with jobs := jobs }

/-- The receive thread's next access. -/
def readStep
    (state : HubState Thread Manager) :
    ReceiverPoint → Option (HubState Thread Manager)
  | .top =>
      some
        { state with
          receiver := if state.jobs.hub.isOn then .emptyInput else .exited }
  | .emptyInput =>
      some
        { state with receiver := .emptyOutput state.packetQueue.inputIndex }
  | .emptyOutput inputIndex =>
      if inputIndex = state.packetQueue.outputIndex then
        some { state with receiver := .top }
      else
        some { state with receiver := .beginPop }
  | .beginPop =>
      some { state with receiver := .popping state.packetQueue.beginPop }
  | .popping point =>
      match state.packetQueue.stepPop point with
      | (.running next, queue) =>
          some
            { state with packetQueue := queue, receiver := .popping next }
      | (.returned packet, queue) =>
          some
            { state with packetQueue := queue, receiver := .dispatch packet }
  | .dispatch .null => some { state with failed := some .nullPacket }
  | .dispatch (.to packet) =>
      match dispatch decoder packet with
      | .job job =>
          { state with receiver := .pushing }.stepJobs callbacks builder
            (.beginPush job)
      | .leftBehind _ => some { state with receiver := .notify }
      | .nothing => some { state with receiver := .notify }
      | .malformed => some { state with failed := some .malformedMessage }
  | .pushing =>
      (state.stepJobs callbacks builder .stepPush).map fun after =>
        { after with
          receiver :=
            if after.jobs.hub.pushing.isSome then .pushing else .notify }
  | .notify => some { state with receiver := .top }
  | .exited => none

/-- One step; nothing moves after the process has ended. -/
def step
    (state : HubState Thread Manager) :
    HubEvent Thread → Option (HubState Thread Manager)
  | event =>
      if state.failed.isSome ∨ state.jobs.hub.terminated.isSome then
        none
      else
        match event with
        | .receive packet =>
            match state.arriving with
            | some _ => none
            | none =>
                some
                  { state with
                    arriving := some (state.packetQueue.beginPush (.to packet))
                    received := state.received ++ [packet] }
        | .arrive =>
            match state.arriving with
            | none => none
            | some point => some (state.arrive point)
        | .read => state.readStep decoder callbacks builder state.receiver
        | .turnOff => state.stepJobs callbacks builder .turnOff
        | .work thread => state.stepJobs callbacks builder (.work thread)

/-- The hub after `Construct`, its threads just created. -/
def start
    (packetQueueCapacity overlappedQueueMax : Nat) (manager : Manager)
    (outputs : Thread → JobOutput) : HubState Thread Manager where
  packetQueue := LockFreeCircleQueue.construct packetQueueCapacity
  arriving := none
  receiver := .top
  jobs := JobState.start overlappedQueueMax manager outputs
  failed := none
  received := []

end HubState

/-- The hub's threads as a transition system. -/
def hubSystem {Thread Manager : Type} [DecidableEq Thread]
    (decoder : MessageDecoder)
    (callbacks : JobCallbacks Manager) (builder : ResponseBuilder) :
    TransitionSystem (HubState Thread Manager) (HubEvent Thread) where
  step := HubState.step decoder callbacks builder

/-- What the receive thread still owes the job threads. -/
inductive Duty where
  | free
  | push
  | notify
deriving DecidableEq, Repr

def ReceiverPoint.duty : ReceiverPoint → Duty
  | .pushing => .push
  | .notify => .notify
  | _ => .free

/-! ## What a step of the hub is to the job threads -/

section Moves

variable {Thread Manager : Type} [DecidableEq Thread]
variable {decoder : MessageDecoder}
variable {callbacks : JobCallbacks Manager} {builder : ResponseBuilder}
variable {before after : HubState Thread Manager}

/-- A step of the hub, as its job threads and their producer see it. -/
inductive HubMove
    (callbacks : JobCallbacks Manager) (builder : ResponseBuilder)
    (before after : HubState Thread Manager) : HubEvent Thread → Prop where
  /-- Neither a job thread nor a push nor a notification. -/
  | quiet {event : HubEvent Thread}
      (noWork : ∀ thread, event ≠ .work thread)
      (sameJobs : after.jobs = before.jobs)
      (sameDuty : after.receiver.duty = before.receiver.duty) :
      HubMove callbacks builder before after event
  /-- The packet asks for no job. -/
  | skip
      (sameJobs : after.jobs = before.jobs)
      (idle : before.receiver.duty = .free)
      (behind : after.receiver.duty = .notify) :
      HubMove callbacks builder before after .read
  | beginPush {job : Job}
      (moved :
        before.jobs.step callbacks builder (.beginPush job) =
          some after.jobs)
      (idle : before.receiver.duty = .free)
      (behind : after.receiver.duty = .push) :
      HubMove callbacks builder before after .read
  | stepPush
      (moved :
        before.jobs.step callbacks builder .stepPush = some after.jobs)
      (behind :
        after.receiver.duty =
          if after.jobs.hub.pushing.isSome then .push else .notify) :
      HubMove callbacks builder before after .read
  | notify
      (sameJobs : after.jobs = before.jobs)
      (owed : before.receiver.duty = .notify)
      (behind : after.receiver.duty = .free) :
      HubMove callbacks builder before after .read
  | turnOff
      (moved :
        before.jobs.step callbacks builder .turnOff = some after.jobs)
      (sameDuty : after.receiver.duty = before.receiver.duty) :
      HubMove callbacks builder before after .turnOff
  | work {thread : Thread}
      (moved :
        before.jobs.step callbacks builder (.work thread) =
          some after.jobs)
      (sameDuty : after.receiver.duty = before.receiver.duty) :
      HubMove callbacks builder before after (.work thread)

/-- The moves of the receive thread. -/
theorem HubState.readStep_move
    (taken :
      before.readStep decoder callbacks builder before.receiver =
        some after) :
    HubMove callbacks builder before after .read := by
  obtain ⟨packetQueue, arriving, receiver, jobs, failed, received⟩ := before
  cases receiver with
  | top =>
      cases taken
      refine .quiet nofun rfl ?_
      dsimp only
      split <;> rfl
  | emptyInput =>
      cases taken
      exact .quiet nofun rfl rfl
  | emptyOutput inputIndex =>
      simp only [HubState.readStep] at taken
      split_ifs at taken
      · cases taken
        exact .quiet nofun rfl rfl
      · cases taken
        exact .quiet nofun rfl rfl
  | beginPop =>
      cases taken
      exact .quiet nofun rfl rfl
  | popping point =>
      simp only [HubState.readStep] at taken
      split at taken
      · cases taken
        exact .quiet nofun rfl rfl
      · cases taken
        exact .quiet nofun rfl rfl
  | dispatch pointer =>
      rcases pointer with _ | packet
      · cases taken
        exact .quiet nofun rfl rfl
      · simp only [HubState.readStep] at taken
        split at taken
        · rcases Option.map_eq_some_iff.mp taken with ⟨jobs, moved, rfl⟩
          exact .beginPush moved rfl rfl
        · cases taken
          exact .skip rfl rfl rfl
        · cases taken
          exact .skip rfl rfl rfl
        · cases taken
          exact .quiet nofun rfl rfl
  | pushing =>
      rcases Option.map_eq_some_iff.mp taken with ⟨_, stepped, rfl⟩
      rcases Option.map_eq_some_iff.mp stepped with ⟨jobs, moved, rfl⟩
      refine .stepPush moved ?_
      dsimp only
      split <;> rfl
  | notify =>
      cases taken
      exact .notify rfl rfl rfl
  | exited => cases taken

/-- Every step of the hub is one of the moves, of a process that goes on. -/
theorem HubState.step_move {event : HubEvent Thread}
    (taken : before.step decoder callbacks builder event = some after) :
    before.jobs.hub.terminated = none ∧
      HubMove callbacks builder before after event := by
  unfold HubState.step at taken
  split_ifs at taken with ended
  have running : before.jobs.hub.terminated = none := by
    rw [← Option.not_isSome_iff_eq_none]
    exact fun terminated => ended (.inr terminated)
  refine ⟨running, ?_⟩
  cases event with
  | receive packet =>
      dsimp only at taken
      split at taken
      · cases taken
      · cases taken
        exact .quiet nofun rfl rfl
  | arrive =>
      dsimp only at taken
      split at taken
      · cases taken
      · cases taken
        unfold HubState.arrive
        split <;> exact .quiet nofun rfl rfl
  | read => exact HubState.readStep_move taken
  | turnOff =>
      rcases Option.map_eq_some_iff.mp taken with ⟨jobs, moved, rfl⟩
      exact .turnOff moved rfl
  | work thread =>
      rcases Option.map_eq_some_iff.mp taken with ⟨jobs, moved, rfl⟩
      exact .work moved rfl

end Moves

end IocpServer.ControlServer
