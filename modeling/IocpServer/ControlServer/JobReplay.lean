import IocpServer.ControlServer.JobSerialisation

/-!
# The manager behind the executed jobs

The job threads change the manager only by executing jobs.  The record of
executed jobs, each with the manager it met, is a run of their effects.
-/

namespace IocpServer.ControlServer

open IocpServer.Library
open IocpServer.Protocol

variable {Thread Manager : Type}
variable {callbacks : JobCallbacks Manager} {builder : ResponseBuilder}

/-- The jobs lead, one effect after another, from one manager to another. -/
def Replays (callbacks : JobCallbacks Manager) :
    Manager → List (Executed Manager) → Manager → Prop
  | start, [], finish => start = finish
  | start, done :: rest, finish =>
      done.manager = start ∧
        ∃ next,
          done.job.effect callbacks start = .ok next ∧
            Replays callbacks next rest finish

theorem replays_append
    {start finish : Manager} {first second : List (Executed Manager)} :
    Replays callbacks start (first ++ second) finish ↔
      ∃ middle,
        Replays callbacks start first middle ∧
          Replays callbacks middle second finish := by
  induction first generalizing start with
  | nil => simp [Replays]
  | cons done rest recursive =>
      simp only [List.cons_append, Replays, recursive]
      constructor
      · rintro ⟨met, next, effect, middle, toMiddle, fromMiddle⟩
        exact ⟨middle, ⟨met, next, effect, toMiddle⟩, fromMiddle⟩
      · rintro ⟨middle, ⟨met, next, effect, toMiddle⟩, fromMiddle⟩
        exact ⟨met, next, effect, middle, toMiddle, fromMiddle⟩

/-- The record of executed jobs leads from a manager to the one there is. -/
def Logged
    (callbacks : JobCallbacks Manager) (manager : Manager)
    (state : JobState Thread Manager) : Prop :=
  Replays callbacks manager state.hub.executed state.hub.manager

variable [DecidableEq Thread]

/-- A step that leaves the record and the manager, or executes one job. -/
theorem JobState.step_log
    {before after : JobState Thread Manager} {event : JobEvent Thread}
    (taken : before.step callbacks builder event = some after) :
    (after.hub.executed = before.hub.executed ∧
        after.hub.manager = before.hub.manager) ∨
      ∃ job,
        after.hub.executed =
            before.hub.executed ++ [⟨job, before.hub.manager⟩] ∧
          job.effect callbacks before.hub.manager =
            .ok after.hub.manager := by
  cases event with
  | beginPush job =>
      rcases JobState.step_beginPush taken with ⟨-, rfl⟩
      exact .inl ⟨rfl, rfl⟩
  | stepPush =>
      rcases JobState.step_stepPush taken with ⟨point, -, rfl⟩
      left
      simp only [JobHub.stepPush]
      split <;> exact ⟨rfl, rfl⟩
  | turnOff =>
      rw [JobState.step_turnOff taken]
      exact .inl ⟨rfl, rfl⟩
  | work thread =>
      rcases JobState.step_work taken with
        ⟨_, _, -, rfl⟩ | ⟨-, rfl⟩ | ⟨point, -, rfl⟩
      · exact .inl ⟨rfl, rfl⟩
      · exact .inl ⟨rfl, rfl⟩
      · rw [JobState.finishLocked_hub]
        rcases
          before.hub.lockedStep_hub callbacks builder
            (before.workers thread).output point with
          ⟨queue, same⟩ | ⟨termination, same⟩ |
            ⟨job, manager, effect, same⟩ | ⟨call, same⟩
        · rw [same]
          exact .inl ⟨rfl, rfl⟩
        · rw [same]
          exact .inl ⟨rfl, rfl⟩
        · rw [same]
          exact .inr ⟨job, rfl, effect⟩
        · rw [same]
          exact .inl ⟨rfl, rfl⟩

/-- Every step extends the record by what it does. -/
theorem Logged.step
    {manager : Manager} {before after : JobState Thread Manager}
    {event : JobEvent Thread}
    (logged : Logged callbacks manager before)
    (taken : before.step callbacks builder event = some after) :
    Logged callbacks manager after := by
  unfold Logged
  rcases JobState.step_log taken with
    ⟨sameLog, sameManager⟩ | ⟨job, grown, effect⟩
  · rw [sameLog, sameManager]
    exact logged
  · rw [grown]
    exact replays_append.mpr ⟨_, logged, rfl, _, effect, rfl⟩

/-- In every reachable state the executed jobs lead to the manager. -/
theorem logged_of_reachable
    {queueMaxSize : Nat} {manager : Manager} {outputs : Thread → JobOutput}
    {state : JobState Thread Manager}
    (reached :
      (jobSystem callbacks builder).Reachable
        (JobState.start queueMaxSize manager outputs) state) :
    Logged callbacks manager state :=
  reached.invariant rfl fun _ _ _ logged _ taken => logged.step taken

end IocpServer.ControlServer
