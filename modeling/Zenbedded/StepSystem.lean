import Mathlib.Data.List.Induction
import Mathlib.Tactic.Common

/-!
# Labelled step systems

States, labelled steps and the runs they form.  A property that holds at the
start and survives every step holds in every reachable state; a run can be followed
by one that skips some of its labels; and a system can be restricted to the steps that
meet a condition.
-/

universe u v

/-- A step relation whose labels say what happens in a step. -/
structure StepSystem (State : Type u) (Label : Type v) where
  start : State → Prop
  step : State → Label → State → Prop

namespace StepSystem

variable {State : Type u} {Label : Type v} {system : StepSystem State Label}

/-- A state at the end of some run from a start state. -/
inductive Reachable (system : StepSystem State Label) : State → Prop
  | start {state : State} (starts : system.start state) : Reachable system state
  | step {before after : State} {label : Label} (reached : Reachable system before)
      (steps : system.step before label after) : Reachable system after

/-- A run between two states, with the labels of its steps in order. -/
inductive Run (system : StepSystem State Label) : State → List Label → State → Prop
  | nil (state : State) : Run system state [] state
  | cons {before middle after : State} {label : Label} {labels : List Label}
      (steps : system.step before label middle) (rest : Run system middle labels after) :
      Run system before (label :: labels) after

/-- Holds at the start and survives every step. -/
structure Invariant (system : StepSystem State Label) (property : State → Prop) : Prop where
  start : ∀ state, system.start state → property state
  step : ∀ before label after, property before → system.step before label after →
    property after

theorem Invariant.reachable {property : State → Prop} (invariant : Invariant system property)
    {state : State} (reached : Reachable system state) : property state := by
  induction reached with
  | start starts => exact invariant.start _ starts
  | step _ steps ih => exact invariant.step _ _ _ ih steps

/-- A property that is shown together with one already known to be invariant. -/
theorem Invariant.strengthen {known property : State → Prop}
    (invariant : Invariant system known)
    (starts : ∀ state, system.start state → property state)
    (survives : ∀ before label after, known before → property before →
      system.step before label after → property after) :
    Invariant system (fun state => known state ∧ property state) where
  start state starting := ⟨invariant.start state starting, starts state starting⟩
  step before label after holds steps :=
    ⟨invariant.step before label after holds.1 steps,
      survives before label after holds.1 holds.2 steps⟩

theorem Reachable.run {before after : State} {labels : List Label}
    (reached : Reachable system before) (run : Run system before labels after) :
    Reachable system after := by
  induction run with
  | nil => exact reached
  | cons steps _ ih => exact ih (reached.step steps)

theorem Run.single {before after : State} {label : Label}
    (steps : system.step before label after) : Run system before [label] after :=
  .cons steps (.nil after)

theorem Run.append {first middle last : State} {front back : List Label}
    (before : Run system first front middle) (after : Run system middle back last) :
    Run system first (front ++ back) last := by
  induction before with
  | nil => exact after
  | cons steps _ ih => exact .cons steps (ih after)

/-- A run whose steps a function computes. -/
theorem Run.of_foldlM {next : State → Label → Option State}
    (computes : ∀ before label after, next before label = some after →
      system.step before label after)
    {before after : State} {labels : List Label}
    (runs : labels.foldlM next before = some after) : Run system before labels after := by
  induction labels generalizing before with
  | nil =>
      cases runs
      exact .nil _
  | cons label labels ih =>
      rw [List.foldlM_cons] at runs
      obtain ⟨middle, steps, rest⟩ := Option.bind_eq_some_iff.mp runs
      exact .cons (computes before label middle steps) (ih rest)

theorem Run.of_append {first last : State} {front back : List Label}
    (run : Run system first (front ++ back) last) :
    ∃ middle, Run system first front middle ∧ Run system middle back last := by
  induction front generalizing first with
  | nil => exact ⟨first, .nil first, run⟩
  | cons label front ih =>
      cases run with
      | cons steps rest =>
          obtain ⟨middle, before, after⟩ := ih rest
          exact ⟨middle, .cons steps before, after⟩

/-- A run through a part that begins and ends with given labels. -/
theorem Run.of_call {first last : State} {front middle back : List Label} {begins ends : Label}
    (run : Run system first (front ++ begins :: (middle ++ ends :: back)) last) :
    ∃ found left, Run system first front found ∧
      Run system found (begins :: (middle ++ [ends])) left ∧ Run system left back last := by
  have split : front ++ begins :: (middle ++ ends :: back) =
      front ++ (begins :: (middle ++ [ends]) ++ back) := by simp
  rw [split] at run
  obtain ⟨found, before, rest⟩ := run.of_append
  obtain ⟨left, call, after⟩ := rest.of_append
  exact ⟨found, left, before, call, after⟩

/-- Induction over the steps of a run in their order, along with the labels so far. -/
theorem Run.inductionOnEnd {first : State} {motive : List Label → State → Prop}
    (nil : motive [] first)
    (snoc : ∀ labels before label after, Run system first labels before →
      motive labels before → system.step before label after → motive (labels ++ [label]) after)
    {labels : List Label} {last : State} (run : Run system first labels last) :
    motive labels last := by
  induction labels using List.reverseRecOn generalizing last with
  | nil =>
      cases run
      exact nil
  | append_singleton labels label ih =>
      obtain ⟨middle, before, after⟩ := run.of_append
      cases after with
      | cons steps rest =>
          cases rest
          exact snoc labels middle label _ before (ih before) steps

/-- What survives every step that carries an admitted label survives a run of them. -/
theorem Run.preserves {property : State → Prop} {admitted : Label → Prop}
    (survives : ∀ before label after, admitted label → property before →
      system.step before label after → property after)
    {before after : State} {labels : List Label} (run : Run system before labels after)
    (all : ∀ label ∈ labels, admitted label) (holds : property before) : property after := by
  induction run with
  | nil => exact holds
  | cons steps _ ih =>
      exact ih (fun label member => all label (List.mem_cons_of_mem _ member))
        (survives _ _ _ (all _ List.mem_cons_self) holds steps)

/-- A run next to one that skips some labels: a relation between the two that survives
both kinds of steps holds at their ends. -/
theorem Run.skip (relation : State → State → Prop) {admitted : Label → Prop}
    {keeps : Label → Bool}
    (kept : ∀ before other after label, admitted label → keeps label = true →
      relation before other → system.step before label after →
      ∃ next, system.step other label next ∧ relation after next)
    (skipped : ∀ before other after label, admitted label → keeps label = false →
      relation before other → system.step before label after → relation after other)
    {before other after : State} {labels : List Label} (run : Run system before labels after)
    (all : ∀ label ∈ labels, admitted label) (related : relation before other) :
    ∃ last, Run system other (labels.filter keeps) last ∧ relation after last := by
  induction run generalizing other with
  | nil state => exact ⟨other, .nil other, related⟩
  | @cons before middle after label labels steps _ ih =>
      have here := all label List.mem_cons_self
      have rest := fun later member => all later (List.mem_cons_of_mem _ member)
      cases kind : keeps label with
      | true =>
          obtain ⟨next, otherSteps, relatedNext⟩ := kept _ _ _ _ here kind related steps
          obtain ⟨last, lastRun, relatedLast⟩ := ih rest relatedNext
          rw [List.filter_cons_of_pos kind]
          exact ⟨last, .cons otherSteps lastRun, relatedLast⟩
      | false =>
          rw [List.filter_cons_of_neg (by simp [kind])]
          exact ih rest (skipped _ _ _ _ here kind related steps)

/-- A system each step of which another one takes as well, or does not notice, reaches what the
other one reaches. -/
theorem Reachable.simulated {Other OtherLabel : Type*} {other : StepSystem Other OtherLabel}
    {known : State → Prop} (invariant : Invariant system known) (told : State → Other)
    (starts : ∀ state, system.start state → other.start (told state))
    (steps : ∀ before label after, known before → system.step before label after →
      told after = told before ∨ ∃ otherLabel, other.step (told before) otherLabel (told after))
    {state : State} (reached : Reachable system state) : Reachable other (told state) := by
  induction reached with
  | start starting => exact .start (starts _ starting)
  | step reachedBefore stepping ih =>
      rcases steps _ _ _ (invariant.reachable reachedBefore) stepping with same | ⟨_, otherSteps⟩
      · exact same ▸ ih
      · exact ih.step otherSteps

/-- The system whose steps all meet a condition on the state before and the label. -/
def restrict (system : StepSystem State Label) (meets : State → Label → Prop) :
    StepSystem State Label where
  start := system.start
  step before label after := meets before label ∧ system.step before label after

theorem Reachable.of_restrict {meets : State → Label → Prop} {state : State}
    (reached : Reachable (system.restrict meets) state) : Reachable system state := by
  induction reached with
  | start starts => exact .start starts
  | step _ steps ih => exact ih.step steps.2

theorem Run.of_restrict {meets : State → Label → Prop} {before after : State}
    {labels : List Label} (run : Run (system.restrict meets) before labels after) :
    Run system before labels after := by
  induction run with
  | nil => exact .nil _
  | cons steps _ ih => exact .cons steps.2 ih

theorem Invariant.restrict {property : State → Prop} (invariant : Invariant system property)
    (meets : State → Label → Prop) : Invariant (system.restrict meets) property where
  start := invariant.start
  step before label after holds steps := invariant.step before label after holds steps.2

end StepSystem
