import Mathlib.Tactic.Common

/-!
# Guarded transition systems

A system is an executable step function.  `step state event` is the next
state when `event` is enabled in `state`, and `none` when it is not.  A
schedule is a list of events; `run` replays one, so a concrete interleaving
can be evaluated, and `Reaches` collects the ends of all schedules whose
steps satisfy a condition on the state before the step.

The two rules used by every development over this file are
`Reaches.invariant`, which turns a step lemma into a statement about all
reachable states, and `always_congr`, which exchanges two step properties
along a run under an invariant.
-/

namespace IocpServer.Library

universe u v w

/-- An executable transition system; `none` marks a disabled event. -/
structure TransitionSystem (State : Type u) (Event : Type v) where
  step : State → Event → Option State

namespace TransitionSystem

variable {State : Type u} {Event : Type v}
variable (system : TransitionSystem State Event)

/-- Replay a schedule; `none` when one of its events is disabled. -/
def run (start : State) : List Event → Option State
  | [] => some start
  | event :: rest =>
      match system.step start event with
      | none => none
      | some next => run next rest

/-- The states reached by schedules all of whose steps are `allowed`. -/
inductive Reaches
    (allowed : State → Event → Prop)
    (start : State) : State → Prop where
  | refl : Reaches allowed start start
  | step {before after : State} {event : Event}
      (reached : Reaches allowed start before)
      (permitted : allowed before event)
      (taken : system.step before event = some after) :
      Reaches allowed start after

/-- Every schedule is allowed. -/
abbrev Reachable (start : State) : State → Prop :=
  system.Reaches (fun _ _ => True) start

/-- `property` holds in front of every step of the schedule that is taken. -/
def Always
    (property : State → Event → Prop) :
    State → List Event → Prop
  | _, [] => True
  | start, event :: rest =>
      property start event ∧
        ∀ next, system.step start event = some next →
          Always property next rest

variable {system}

/-- A property preserved by every allowed step holds wherever a run leads. -/
theorem Reaches.invariant
    {allowed : State → Event → Prop}
    {property : State → Prop}
    {start finish : State}
    (reached : system.Reaches allowed start finish)
    (base : property start)
    (preserved :
      ∀ before event after,
        property before →
          allowed before event →
            system.step before event = some after →
              property after) :
    property finish := by
  induction reached with
  | refl => exact base
  | step _ permitted taken induction =>
      exact preserved _ _ _ induction permitted taken

/-- A run under a condition is a run under every weaker one. -/
theorem Reaches.mono
    {allowed weaker : State → Event → Prop}
    {start finish : State}
    (reached : system.Reaches allowed start finish)
    (weakens : ∀ state event, allowed state event → weaker state event) :
    system.Reaches weaker start finish := by
  induction reached with
  | refl => exact .refl
  | step _ permitted taken induction =>
      exact .step induction (weakens _ _ permitted) taken

/-- Runs compose. -/
theorem Reaches.trans
    {allowed : State → Event → Prop}
    {start middle finish : State}
    (first : system.Reaches allowed start middle)
    (second : system.Reaches allowed middle finish) :
    system.Reaches allowed start finish := by
  induction second with
  | refl => exact first
  | step _ permitted taken induction =>
      exact .step induction permitted taken

/--
A projection which turns every allowed step into a run of another system
turns every reached state into a reached state there.
-/
theorem Reaches.project
    {OtherState : Type w} {OtherEvent : Type*}
    {other : TransitionSystem OtherState OtherEvent}
    {allowed : State → Event → Prop}
    {otherAllowed : OtherState → OtherEvent → Prop}
    {start finish : State}
    (view : State → OtherState)
    (follows :
      ∀ before event after,
        allowed before event →
          system.step before event = some after →
            other.Reaches otherAllowed (view before) (view after))
    (reached : system.Reaches allowed start finish) :
    other.Reaches otherAllowed (view start) (view finish) := by
  induction reached with
  | refl => exact .refl
  | step _ permitted taken induction =>
      exact induction.trans (follows _ _ _ permitted taken)

@[simp]
theorem run_nil (start : State) :
    system.run start [] = some start :=
  rfl

/-- A replayed schedule starts with a step and continues with its rest. -/
theorem run_cons_eq_some
    {start finish : State} {event : Event} {rest : List Event} :
    system.run start (event :: rest) = some finish ↔
      ∃ next,
        system.step start event = some next ∧
          system.run next rest = some finish := by
  cases taken : system.step start event with
  | none => simp [run, taken]
  | some next => simp [run, taken]

/-- Replaying a schedule from a reached state reaches its end. -/
theorem Reaches.run
    {start middle finish : State} {schedule : List Event}
    (reached : system.Reachable start middle)
    (replayed : system.run middle schedule = some finish) :
    system.Reachable start finish := by
  induction schedule generalizing middle with
  | nil =>
      simp only [run_nil, Option.some.injEq] at replayed
      exact replayed ▸ reached
  | cons event rest induction =>
      rcases run_cons_eq_some.mp replayed with ⟨next, taken, continued⟩
      exact induction (.step reached trivial taken) continued

/-- The end of a replayed schedule is reachable. -/
theorem reachable_of_run
    {start finish : State} {schedule : List Event}
    (replayed : system.run start schedule = some finish) :
    system.Reachable start finish :=
  Reaches.run .refl replayed

/-- Replay a schedule as long as its steps are `allowed`. -/
def runAllowed
    (system : TransitionSystem State Event)
    (allowed : State → Event → Prop)
    [∀ state event, Decidable (allowed state event)]
    (start : State) : List Event → Option State
  | [] => some start
  | event :: rest =>
      if allowed start event then
        match system.step start event with
        | none => none
        | some next => runAllowed system allowed next rest
      else
        none

/-- A schedule replayed under a condition is a run under that condition. -/
theorem Reaches.runAllowed
    {allowed : State → Event → Prop}
    [∀ state event, Decidable (allowed state event)]
    {start middle finish : State} {schedule : List Event}
    (reached : system.Reaches allowed start middle)
    (replayed :
      system.runAllowed allowed middle schedule = some finish) :
    system.Reaches allowed start finish := by
  induction schedule generalizing middle with
  | nil =>
      simp only [TransitionSystem.runAllowed,
        Option.some.injEq] at replayed
      exact replayed ▸ reached
  | cons event rest induction =>
      rw [TransitionSystem.runAllowed] at replayed
      split at replayed
      · next permitted =>
          cases taken : system.step middle event with
          | none => simp [taken] at replayed
          | some next =>
              rw [taken] at replayed
              exact induction (.step reached permitted taken) replayed
      · cases replayed

/-- The end of a schedule replayed under a condition. -/
theorem reaches_get
    {allowed : State → Event → Prop}
    [∀ state event, Decidable (allowed state event)]
    {start : State} {schedule : List Event}
    (complete :
      (system.runAllowed allowed start schedule).isSome = true) :
    system.Reaches allowed start
      ((system.runAllowed allowed start schedule).get complete) :=
  Reaches.runAllowed .refl (Option.some_get complete).symm

/-- A condition holds along a schedule that is replayed under it. -/
theorem always_of_runAllowed
    {allowed : State → Event → Prop}
    [∀ state event, Decidable (allowed state event)]
    {start : State} {schedule : List Event}
    (complete :
      (system.runAllowed allowed start schedule).isSome = true) :
    system.Always allowed start schedule := by
  induction schedule generalizing start with
  | nil => trivial
  | cons event rest induction =>
      rw [TransitionSystem.runAllowed] at complete
      split at complete
      · next permitted =>
          refine ⟨permitted, ?_⟩
          intro next taken
          rw [taken] at complete
          exact induction complete
      · cases complete

/-- A property of events alone holds along a schedule of such events. -/
theorem always_of_events
    {property : Event → Prop} {start : State} {schedule : List Event}
    (holds : ∀ event ∈ schedule, property event) :
    system.Always (fun _ event => property event) start schedule := by
  induction schedule generalizing start with
  | nil => trivial
  | cons event rest induction =>
      refine ⟨holds event List.mem_cons_self, ?_⟩
      intro next _
      exact
        induction fun later member =>
          holds later (List.mem_cons_of_mem event member)

/-- What holds in front of every step holds behind a replayed part. -/
theorem Always.behind
    {property : State → Event → Prop}
    {start middle : State} {schedule rest : List Event}
    (always : system.Always property start (schedule ++ rest))
    (replayed : system.run start schedule = some middle) :
    system.Always property middle rest := by
  induction schedule generalizing start with
  | nil =>
      simp only [run_nil, Option.some.injEq] at replayed
      exact replayed ▸ always
  | cons event _ induction =>
      rcases run_cons_eq_some.mp replayed with ⟨next, taken, continued⟩
      exact induction (always.2 next taken) continued

/--
Two step properties which agree under an invariant agree along every
schedule started under that invariant.
-/
theorem always_congr
    {invariant : State → Prop}
    {scope left right : State → Event → Prop}
    (preserved :
      ∀ before event after,
        invariant before →
          scope before event →
            system.step before event = some after →
              invariant after)
    (agree :
      ∀ state event,
        invariant state →
          scope state event → (left state event ↔ right state event))
    {start : State} {schedule : List Event}
    (base : invariant start)
    (inScope : system.Always scope start schedule) :
    system.Always left start schedule ↔
      system.Always right start schedule := by
  induction schedule generalizing start with
  | nil => exact Iff.rfl
  | cons event rest induction =>
      rcases inScope with ⟨scopeHead, scopeRest⟩
      simp only [Always]
      constructor
      · rintro ⟨head, tail⟩
        refine ⟨(agree start event base scopeHead).mp head, ?_⟩
        intro next taken
        exact
          (induction
            (preserved start event next base scopeHead taken)
            (scopeRest next taken)).mp (tail next taken)
      · rintro ⟨head, tail⟩
        refine ⟨(agree start event base scopeHead).mpr head, ?_⟩
        intro next taken
        exact
          (induction
            (preserved start event next base scopeHead taken)
            (scopeRest next taken)).mpr (tail next taken)

end TransitionSystem

end IocpServer.Library
