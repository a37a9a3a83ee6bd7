import IocpServer.ControlServer.JobWakeup
import IocpServer.ControlServer.RequestDelivery

/-!
# The receive thread as the producer

In each of its iterations the receive thread pushes one job or none and then
calls `notify_one`.  With the notifications as steps of their own a run of the
hub's threads is one of `wakeupSystem`, and what holds there holds of the hub.
-/

namespace IocpServer.ControlServer

open IocpServer.Library
open IocpServer.Protocol

/-- The hub's threads with the notifications of its condition variable. -/
structure NotifyingHub (jobThreadCount : Nat) (Manager : Type) where
  hub : HubState (Fin jobThreadCount) Manager
  notified : Fin jobThreadCount → Bool

inductive NotifyingEvent (jobThreadCount : Nat) where
  /-- A step of the hub other than a notification. -/
  | hub (event : HubEvent (Fin jobThreadCount))
  /-- `notify_one` of the receive thread. -/
  | notifyOne (woken : Option (Fin jobThreadCount))

/-- The receive thread's next access. -/
def HubEvent.isRead {Thread : Type} : HubEvent Thread → Bool
  | .read => true
  | _ => false

/-- A thread that moves has no notification on its way to it. -/
def HubEvent.wake {Thread : Type} [DecidableEq Thread]
    (event : HubEvent Thread) (notified : Thread → Bool) : Thread → Bool :=
  match event with
  | .work thread => Function.update notified thread false
  | _ => notified

namespace NotifyingHub

variable {jobThreadCount : Nat} {Manager : Type}

/-- What the job threads see of the hub. -/
def wakeup
    (state : NotifyingHub jobThreadCount Manager) :
    WakeupState jobThreadCount Manager where
  jobs := state.hub.jobs
  notified := state.notified
  notifyOwed := state.hub.receiver.duty == .notify

/-- One step; `notify_one` is the receive thread's step at that point. -/
def step
    (decoder : MessageDecoder)
    (callbacks : JobCallbacks Manager) (builder : ResponseBuilder)
    (state : NotifyingHub jobThreadCount Manager) :
    NotifyingEvent jobThreadCount →
      Option (NotifyingHub jobThreadCount Manager)
  | .hub event =>
      if event.isRead = true ∧ state.hub.receiver.duty = .notify then
        none
      else
        (state.hub.step decoder callbacks builder event).map fun hub =>
          { hub := hub, notified := event.wake state.notified }
  | .notifyOne woken =>
      if state.hub.receiver.duty = .notify then
        (state.wakeup.notifyOne woken).bind fun wakeup =>
          (state.hub.step decoder callbacks builder .read).map fun hub =>
            { hub := hub, notified := wakeup.notified }
      else
        none

/-- The notifications are heard. -/
def Heard
    (state : NotifyingHub jobThreadCount Manager) :
    NotifyingEvent jobThreadCount → Prop
  | .hub _ => True
  | .notifyOne woken => state.wakeup.Heard (.notifyOne woken)

/-- Right after `InitializeSubThread`. -/
def start
    (packetQueueCapacity overlappedQueueMax : Nat) (manager : Manager)
    (outputs : Fin jobThreadCount → JobOutput) :
    NotifyingHub jobThreadCount Manager where
  hub :=
    HubState.start packetQueueCapacity overlappedQueueMax manager outputs
  notified _ := false

end NotifyingHub

/-- The hub with its notifications as a transition system. -/
def notifyingSystem {jobThreadCount : Nat} {Manager : Type}
    (decoder : MessageDecoder)
    (callbacks : JobCallbacks Manager) (builder : ResponseBuilder) :
    TransitionSystem (NotifyingHub jobThreadCount Manager)
      (NotifyingEvent jobThreadCount) where
  step := NotifyingHub.step decoder callbacks builder

/-! ## The hub as a run of its job threads and their notifications -/

section Projection

variable {jobThreadCount : Nat} {Manager : Type}
variable {decoder : MessageDecoder}
variable {callbacks : JobCallbacks Manager} {builder : ResponseBuilder}

theorem ReceiverPoint.eq_notify {point : ReceiverPoint}
    (owed : point.duty = .notify) :
    point = .notify := by
  cases point with
  | notify => rfl
  | _ => cases owed

/-- The receive thread's `notify_one` ends its iteration. -/
theorem HubState.step_notify
    {before after : HubState (Fin jobThreadCount) Manager}
    (owed : before.receiver.duty = .notify)
    (taken : before.step decoder callbacks builder .read = some after) :
    before.jobs.hub.terminated = none ∧
      after.jobs = before.jobs ∧ after.receiver.duty = .free := by
  refine ⟨(HubState.step_move taken).1, ?_⟩
  unfold HubState.step at taken
  split_ifs at taken
  dsimp only at taken
  rw [ReceiverPoint.eq_notify owed] at taken
  cases taken
  exact ⟨rfl, rfl⟩

/-- `notify_one` changes what is owed and who is notified. -/
theorem WakeupState.notifyOne_eq
    {before after : WakeupState jobThreadCount Manager}
    {woken : Option (Fin jobThreadCount)}
    (taken : before.notifyOne woken = some after) :
    after =
      { jobs := before.jobs
        notified := after.notified
        notifyOwed := false } := by
  cases woken with
  | some thread =>
      simp only [WakeupState.notifyOne] at taken
      split_ifs at taken
      cases taken
      rfl
  | none =>
      simp only [WakeupState.notifyOne] at taken
      split_ifs at taken
      cases taken
      rfl

/-- No push is in progress outside the receive thread's. -/
theorem HubMove.idle
    {before after : HubState (Fin jobThreadCount) Manager}
    {event : HubEvent (Fin jobThreadCount)}
    (moves : HubMove callbacks builder before after event)
    (idle : before.receiver.duty ≠ .push → before.jobs.hub.pushing = none) :
    after.receiver.duty ≠ .push → after.jobs.hub.pushing = none := by
  cases moves with
  | quiet noWork sameJobs sameDuty =>
      rw [sameJobs, sameDuty]
      exact idle
  | skip sameJobs free behind =>
      intro _
      rw [sameJobs]
      exact idle (by rw [free]; nofun)
  | beginPush moved free behind =>
      intro noPush
      exact absurd behind noPush
  | stepPush moved behind =>
      intro noPush
      rw [behind] at noPush
      cases running : after.jobs.hub.pushing with
      | none => rfl
      | some point => simp [running] at noPush
  | notify sameJobs owed behind =>
      intro _
      rw [sameJobs]
      exact idle (by rw [owed]; nofun)
  | turnOff moved sameDuty =>
      rw [sameDuty, JobState.step_turnOff moved]
      exact idle
  | work moved sameDuty =>
      rw [sameDuty, (JobState.step_work_producer moved).2.2]
      exact idle

/-- To its job threads a step of the hub is one of their steps, or none. -/
theorem HubMove.wakeup
    {before after : NotifyingHub jobThreadCount Manager}
    {event : HubEvent (Fin jobThreadCount)}
    (moves : HubMove callbacks builder before.hub after.hub event)
    (running : before.hub.jobs.hub.terminated = none)
    (idle :
      before.hub.receiver.duty ≠ .push →
        before.hub.jobs.hub.pushing = none)
    (other : ¬ (event.isRead = true ∧ before.hub.receiver.duty = .notify))
    (woken : after.notified = event.wake before.notified) :
    after.wakeup = before.wakeup ∨
      ∃ event,
        before.wakeup.Heard event ∧
          (wakeupSystem callbacks builder).step before.wakeup event =
            some after.wakeup := by
  cases moves with
  | quiet noWork sameJobs sameDuty =>
      left
      have sameNotified : after.notified = before.notified := by
        rw [woken]
        cases event with
        | work thread => exact absurd rfl (noWork thread)
        | _ => rfl
      rw [NotifyingHub.wakeup, sameJobs, sameDuty, sameNotified]
      rfl
  | skip sameJobs free behind =>
      have noPush := idle (by rw [free]; nofun)
      refine .inr ⟨.skip, trivial, ?_⟩
      simp [wakeupSystem, WakeupState.step, NotifyingHub.wakeup, running,
        noPush, free, behind, sameJobs, woken, HubEvent.wake]
  | @beginPush job moved free behind =>
      refine .inr ⟨.jobs (.beginPush job), trivial, ?_⟩
      simp [wakeupSystem, WakeupState.step, WakeupState.stepJobs,
        NotifyingHub.wakeup, moved, free, behind, woken, HubEvent.wake]
  | stepPush moved behind =>
      refine .inr ⟨.jobs .stepPush, trivial, ?_⟩
      cases pushing : after.hub.jobs.hub.pushing with
      | none =>
          simp [wakeupSystem, WakeupState.step, WakeupState.stepJobs,
            NotifyingHub.wakeup, moved, behind, pushing, woken,
            HubEvent.wake]
      | some point =>
          simp [wakeupSystem, WakeupState.step, WakeupState.stepJobs,
            NotifyingHub.wakeup, moved, behind, pushing, woken,
            HubEvent.wake]
  | notify sameJobs owed behind => exact absurd ⟨rfl, owed⟩ other
  | turnOff moved sameDuty =>
      refine .inr ⟨.jobs .turnOff, trivial, ?_⟩
      simp [wakeupSystem, WakeupState.step, WakeupState.stepJobs,
        NotifyingHub.wakeup, moved, sameDuty, woken, HubEvent.wake]
  | @work thread moved sameDuty =>
      refine .inr ⟨.jobs (.work thread), trivial, ?_⟩
      simp [wakeupSystem, WakeupState.step, WakeupState.stepJobs,
        NotifyingHub.wakeup, moved, sameDuty, woken, HubEvent.wake]

/-- The job threads have come where the hub is; a push is its own. -/
structure Notifying
    (callbacks : JobCallbacks Manager) (builder : ResponseBuilder)
    (start : WakeupState jobThreadCount Manager)
    (state : NotifyingHub jobThreadCount Manager) : Prop where
  reached :
    (wakeupSystem callbacks builder).Reaches WakeupState.Heard start
      state.wakeup
  idle :
    state.hub.receiver.duty ≠ .push → state.hub.jobs.hub.pushing = none

namespace Notifying

variable {start : WakeupState jobThreadCount Manager}
variable {before after : NotifyingHub jobThreadCount Manager}

/-- A step of the hub that is no notification. -/
theorem move {event : HubEvent (Fin jobThreadCount)}
    (notifying : Notifying callbacks builder start before)
    (running : before.hub.jobs.hub.terminated = none)
    (other : ¬ (event.isRead = true ∧ before.hub.receiver.duty = .notify))
    (moves : HubMove callbacks builder before.hub after.hub event)
    (woken : after.notified = event.wake before.notified) :
    Notifying callbacks builder start after where
  reached := by
    rcases moves.wakeup running notifying.idle other woken with
      same | ⟨event, heard, taken⟩
    · rw [same]
      exact notifying.reached
    · exact .step notifying.reached heard taken
  idle := moves.idle notifying.idle

/-- `notify_one` of the receive thread. -/
theorem notifyOne {woken : Option (Fin jobThreadCount)}
    (notifying : Notifying callbacks builder start before)
    (heard : before.Heard (.notifyOne woken))
    (taken :
      before.step decoder callbacks builder (.notifyOne woken) =
        some after) :
    Notifying callbacks builder start after := by
  simp only [NotifyingHub.step] at taken
  split_ifs at taken with owed
  rcases Option.bind_eq_some_iff.mp taken with ⟨wakeup, wakes, rest⟩
  rcases Option.map_eq_some_iff.mp rest with ⟨hub, moved, rfl⟩
  rcases HubState.step_notify owed moved with ⟨running, sameJobs, behind⟩
  have notifies :
      (wakeupSystem callbacks builder).step before.wakeup
          (.notifyOne woken) =
        some wakeup := by
    simp only [wakeupSystem, WakeupState.step]
    rw [if_neg]
    · exact wakes
    · simp [NotifyingHub.wakeup, running, owed]
  have arrived :
      wakeup =
        NotifyingHub.wakeup { hub := hub, notified := wakeup.notified } := by
    rw [NotifyingHub.wakeup, sameJobs, behind]
    exact WakeupState.notifyOne_eq wakes
  constructor
  · rw [← arrived]
    refine .step notifying.reached ?_ notifies
    exact heard
  · intro noPush
    rw [sameJobs]
    apply notifying.idle
    rw [owed]
    intro pushing
    cases pushing

/-- Every step keeps the hub a run of its job threads. -/
theorem step {event : NotifyingEvent jobThreadCount}
    (notifying : Notifying callbacks builder start before)
    (heard : before.Heard event)
    (taken : before.step decoder callbacks builder event = some after) :
    Notifying callbacks builder start after := by
  cases event with
  | notifyOne woken => exact notifying.notifyOne heard taken
  | hub event =>
      simp only [NotifyingHub.step] at taken
      split_ifs at taken with other
      rcases Option.map_eq_some_iff.mp taken with ⟨hub, moved, rfl⟩
      rcases HubState.step_move moved with ⟨running, moves⟩
      exact notifying.move running other moves rfl

end Notifying

/-- A run of the hub is a run of its job threads and their notifications. -/
theorem notifying_of_reaches
    {packetQueueCapacity overlappedQueueMax : Nat} {manager : Manager}
    {outputs : Fin jobThreadCount → JobOutput}
    {state : NotifyingHub jobThreadCount Manager}
    (reached :
      (notifyingSystem decoder callbacks builder).Reaches
        NotifyingHub.Heard
          (.start packetQueueCapacity overlappedQueueMax manager outputs)
          state) :
    Notifying callbacks builder
      (.start overlappedQueueMax manager outputs) state :=
  reached.invariant ⟨.refl, fun _ => rfl⟩
    fun _ _ _ notifying heard taken => notifying.step heard taken

/--
In the hub, too, no job is stranded while every notification of the receive
thread is heard.
-/
theorem hub_not_stranded
    (someThread : 1 ≤ jobThreadCount)
    {packetQueueCapacity overlappedQueueMax : Nat} {manager : Manager}
    {outputs : Fin jobThreadCount → JobOutput}
    {state : NotifyingHub jobThreadCount Manager}
    (reached :
      (notifyingSystem decoder callbacks builder).Reaches
        NotifyingHub.Heard
          (.start packetQueueCapacity overlappedQueueMax manager outputs)
          state) :
    ¬ state.wakeup.Stranded :=
  (attended_of_reaches someThread
    (notifying_of_reaches reached).reached).not_stranded

/-- With two job threads no run of the hub strands a job. -/
theorem hub_never_stranded
    (two : 2 ≤ jobThreadCount)
    {packetQueueCapacity overlappedQueueMax : Nat} {manager : Manager}
    {outputs : Fin jobThreadCount → JobOutput}
    {state : NotifyingHub jobThreadCount Manager}
    (reached :
      (notifyingSystem decoder callbacks builder).Reachable
        (.start packetQueueCapacity overlappedQueueMax manager outputs)
        state) :
    ¬ state.wakeup.Stranded := by
  have heard :
      (notifyingSystem decoder callbacks builder).Reaches
        NotifyingHub.Heard
          (.start packetQueueCapacity overlappedQueueMax manager outputs)
          state := by
    refine reached.mono ?_
    intro before event _
    cases event with
    | hub event => trivial
    | notifyOne woken =>
        exact WakeupState.heard_of_two two before.wakeup (.notifyOne woken)
  exact hub_not_stranded (by omega) heard

end Projection

end IocpServer.ControlServer
