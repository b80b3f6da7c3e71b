import Mathlib.Data.List.Basic
import Mathlib.Data.List.Induction

/-!
# Finite runs of a deterministic step

`run step state events` takes one step for each event.  The rules here carry an invariant from one
step to a whole run.  A recorded run keeps every step it took, so that an invariant can speak about
what happened since.
-/

namespace Execution

variable {State Event : Type*}

/-- Take one step for each event, in order. -/
def run (step : State → Event → State) (state : State) (events : List Event) : State :=
  events.foldl step state

@[simp] theorem run_nil (step : State → Event → State) (state : State) :
    run step state [] = state := rfl

@[simp] theorem run_cons (step : State → Event → State) (state : State) (event : Event)
    (events : List Event) :
    run step state (event :: events) = run step (step state event) events := rfl

@[simp] theorem run_concat (step : State → Event → State) (state : State) (events : List Event)
    (event : Event) : run step state (events ++ [event]) = step (run step state events) event := by
  simp [run]

theorem run_append (step : State → Event → State) (state : State) (first second : List Event) :
    run step state (first ++ second) = run step (run step state first) second :=
  List.foldl_append

/-- What every permitted step preserves, a run of permitted steps preserves. -/
theorem run_invariant_of_permitted {step : State → Event → State} (invariant : State → Prop)
    (permitted : Event → Prop) (preserved : ∀ state event, invariant state → permitted event →
      invariant (step state event)) {state : State} (initially : invariant state)
    {events : List Event} (allowed : ∀ event ∈ events, permitted event) :
    invariant (run step state events) := by
  induction events generalizing state with
  | nil => exact initially
  | cons event events induction =>
      have first := preserved state event initially (allowed event List.mem_cons_self)
      exact induction first fun later member => allowed later (List.mem_cons_of_mem event member)

/-- What every step preserves, every run preserves. -/
theorem run_invariant {step : State → Event → State} (invariant : State → Prop)
    (preserved : ∀ state event, invariant state → invariant (step state event)) {state : State}
    (initially : invariant state) (events : List Event) : invariant (run step state events) :=
  run_invariant_of_permitted invariant (fun _ => True)
    (fun state event holds _ => preserved state event holds) initially (fun _ _ => trivial)

/-- Steps that keep two systems related keep them related over a whole run. -/
theorem run_simulation {State' : Type*} {step : State → Event → State}
    {step' : State' → Event → State'} (Related : State → State' → Prop)
    (simulates : ∀ state state' event, Related state state' →
      Related (step state event) (step' state' event)) {state : State} {state' : State'}
    (related : Related state state') (events : List Event) :
    Related (run step state events) (run step' state' events) := by
  induction events generalizing state state' with
  | nil => exact related
  | cons event events induction => exact induction (simulates _ _ event related)

/-- What does not hold at first and holds in the end begins to hold at some event. -/
theorem exists_first {step : State → Event → State} (holds : State → Prop) {state : State}
    {events : List Event} (initially : ¬ holds state) (lastly : holds (run step state events)) :
    ∃ earlier event later, events = earlier ++ event :: later ∧
      ¬ holds (run step state earlier) ∧ holds (run step state (earlier ++ [event])) := by
  induction events using List.reverseRecOn with
  | nil => exact (initially lastly).elim
  | append_singleton events event induction =>
      by_cases before : holds (run step state events)
      · obtain ⟨earlier, first, later, rfl, unheld, held⟩ := induction before
        refine ⟨earlier, first, later ++ [event], ?_, unheld, held⟩
        rw [List.append_assoc, List.cons_append]
      · exact ⟨events, event, [], rfl, before, lastly⟩

/-- A recorded step: an event with the state that it met. -/
abbrev Recorded (State Event : Type*) := State × Event

/-- The states that allowed events lead to, each with the steps that led there. -/
inductive Reaches (allows : State → Event → Prop) (step : State → Event → State) (start : State) :
    List (Recorded State Event) → State → Prop
  | start : Reaches allows step start [] start
  | next {past : List (Recorded State Event)} {state : State} {event : Event} :
      Reaches allows step start past state → allows state event →
      Reaches allows step start (past ++ [(state, event)]) (step state event)

/-- What holds at the start and is kept by every allowed step holds wherever a run leads. -/
theorem Reaches.invariant {allows : State → Event → Prop} {step : State → Event → State}
    {start : State} (invariant : List (Recorded State Event) → State → Prop)
    (initially : invariant [] start)
    (preserved : ∀ past state event, invariant past state → allows state event →
      invariant (past ++ [(state, event)]) (step state event))
    {past : List (Recorded State Event)} {state : State}
    (reached : Reaches allows step start past state) : invariant past state := by
  induction reached with
  | start => exact initially
  | next _ allowed induction => exact preserved _ _ _ induction allowed

/-- The steps of a run. -/
def recorded (step : State → Event → State) (state : State) :
    List Event → List (Recorded State Event)
  | [] => []
  | event :: events => (state, event) :: recorded step (step state event) events

/-- Every event of the list is allowed where it comes. -/
def AllAllowed (allows : State → Event → Prop) (step : State → Event → State) :
    State → List Event → Prop
  | _, [] => True
  | state, event :: events => allows state event ∧ AllAllowed allows step (step state event) events

theorem Reaches.run_of_allAllowed {allows : State → Event → Prop} {step : State → Event → State}
    {start state : State} {past : List (Recorded State Event)}
    (reached : Reaches allows step start past state) {events : List Event}
    (allowed : AllAllowed allows step state events) :
    Reaches allows step start (past ++ recorded step state events) (run step state events) := by
  induction events generalizing past state with
  | nil => simpa [recorded] using reached
  | cons event events induction =>
      rw [recorded, run_cons, List.append_cons]
      exact induction (reached.next allowed.1) allowed.2

theorem allAllowed_of_forall {allows : State → Event → Prop} {step : State → Event → State}
    {events : List Event} (allowed : ∀ event ∈ events, ∀ state, allows state event)
    (state : State) : AllAllowed allows step state events := by
  induction events generalizing state with
  | nil => trivial
  | cons event events induction =>
      exact ⟨allowed event List.mem_cons_self state,
        induction (fun later member => allowed later (List.mem_cons_of_mem event member)) _⟩

/-- Events that every state allows can be run one after another. -/
theorem Reaches.run {allows : State → Event → Prop} {step : State → Event → State}
    {start state : State} {past : List (Recorded State Event)}
    (reached : Reaches allows step start past state) (events : List Event)
    (allowed : ∀ event ∈ events, ∀ state, allows state event) :
    Reaches allows step start (past ++ recorded step state events) (run step state events) :=
  reached.run_of_allAllowed (allAllowed_of_forall allowed state)

/-- Some step of the past opened, and every step since was quiet. -/
def Since {Step : Type*} (opens : List Step → Step → Prop) (quiet : Step → Prop)
    (past : List Step) : Prop :=
  ∃ before first since, past = before ++ first :: since ∧ opens before first ∧
    ∀ step ∈ since, quiet step

section Since

variable {Step : Type*} {opens : List Step → Step → Prop} {quiet : Step → Prop}

theorem Since.opened {past : List Step} {step : Step} (opening : opens past step) :
    Since opens quiet (past ++ [step]) :=
  ⟨past, step, [], rfl, opening, by simp⟩

theorem Since.continued {past : List Step} {step : Step} (open_since : Since opens quiet past)
    (quiet_step : quiet step) : Since opens quiet (past ++ [step]) := by
  obtain ⟨before, first, since, rfl, opening, quiet_since⟩ := open_since
  refine ⟨before, first, since ++ [step], by simp, opening, ?_⟩
  intro later member
  rcases List.mem_append.mp member with known | last
  · exact quiet_since later known
  · rw [List.mem_singleton.mp last]
    exact quiet_step

end Since

end Execution
