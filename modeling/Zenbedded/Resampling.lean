import Mathlib.Data.List.Basic
import Mathlib.Tactic.Common

/-!
# Resampled lists

A list that takes values of another one in their order, each any number of times.  This is
what a reader sees of a register that is written at its own pace.  Resampling composes, so
it describes registers and lossy channels one behind the other.
-/

universe u v

/-- A list takes values of a source in their order, each any number of times. -/
inductive Resamples {α : Type u} : List α → List α → Prop
  | nil (source : List α) : Resamples source []
  | skip (value : α) {source taken : List α} (rest : Resamples source taken) :
      Resamples (value :: source) taken
  | take {value : α} {source taken : List α} (rest : Resamples (value :: source) taken) :
      Resamples (value :: source) (value :: taken)

namespace Resamples

variable {α : Type u} {β : Type v} {source middle taken : List α} {value : α}

theorem eq_nil_of_nil (resamples : Resamples [] taken) : taken = [] := by
  cases resamples
  rfl

theorem cons (value : α) (resamples : Resamples source taken) :
    Resamples (value :: source) (value :: taken) :=
  .take (.skip value resamples)

theorem trans (first : Resamples source middle) (second : Resamples middle taken) :
    Resamples source taken := by
  induction first generalizing taken with
  | nil =>
      obtain rfl := second.eq_nil_of_nil
      exact .nil _
  | skip value _ ih => exact .skip value (ih second)
  | @take value source rest _ ih =>
      -- The values taken while the source stays at its first one are taken from it.
      generalize whole : value :: rest = list at second
      induction second with
      | nil => exact .nil _
      | skip =>
          cases whole
          exact ih ‹_›
      | take _ again =>
          cases whole
          exact .take (again rfl)

/-- A channel that keeps the order and may lose values. -/
theorem of_sublist (sublist : taken.Sublist source) : Resamples source taken := by
  induction sublist with
  | slnil => exact .nil []
  | cons value _ ih => exact .skip value ih
  | cons_cons value _ ih => exact ih.cons value

theorem map (f : α → β) (resamples : Resamples source taken) :
    Resamples (source.map f) (taken.map f) := by
  induction resamples with
  | nil => exact .nil _
  | skip value _ ih => exact .skip (f value) ih
  | take _ ih => exact .take ih

theorem subset (resamples : Resamples source taken) : taken ⊆ source := by
  induction resamples with
  | nil => exact List.nil_subset _
  | skip value _ ih => exact fun _ member => List.mem_cons_of_mem _ (ih member)
  | take _ ih => exact List.cons_subset.mpr ⟨List.mem_cons_self, ih⟩

theorem append (resamples : Resamples source taken) (later : List α) :
    Resamples (source ++ later) taken := by
  induction resamples with
  | nil => exact .nil _
  | skip value _ ih => exact .skip value ih
  | take _ ih => exact .take ih

theorem snoc (resamples : Resamples source taken) (last : source.getLast? = some value) :
    Resamples source (taken ++ [value]) := by
  induction resamples with
  | nil source =>
      obtain ⟨front, rfl⟩ := List.getLast?_eq_some_iff.mp last
      exact of_sublist (List.sublist_append_right front [value])
  | @skip first source taken rest ih =>
      cases source with
      | nil =>
          obtain rfl := rest.eq_nil_of_nil
          obtain rfl : first = value := by simpa using last
          exact .take (.nil _)
      | cons second source => exact .skip first (ih (by simpa using last))
  | take _ ih => exact .take (ih last)

end Resamples

/-! ## Channels -/

/-- What a channel has handed over, in the order of what was put and up to a place. -/
structure Carried {α : Type u} (put : List α) (place : Nat) (handed : List α) : Prop where
  inside : place ≤ put.length
  sublist : handed.Sublist (put.take place)

namespace Carried

variable {α : Type u} {put later handed : List α} {place next : Nat} {value : α}

theorem start (put : List α) : Carried put 0 [] :=
  ⟨Nat.zero_le _, List.nil_sublist _⟩

theorem resamples (carried : Carried put place handed) : Resamples put handed :=
  .of_sublist (carried.sublist.trans (List.take_sublist _ _))

theorem extend (carried : Carried put place handed) (extends_ : put <+: later) :
    Carried later place handed := by
  obtain ⟨rest, rfl⟩ := extends_
  refine ⟨Nat.le_trans carried.inside (by simp), ?_⟩
  rw [List.take_append_of_le_length carried.inside]
  exact carried.sublist

/-- A value behind the place is handed over; those before it are lost. -/
theorem hand (carried : Carried put place handed) (behind : place ≤ next)
    (found : put[next]? = some value) : Carried put (next + 1) (handed ++ [value]) := by
  obtain ⟨below, -⟩ := List.getElem?_eq_some_iff.mp found
  refine ⟨below, ?_⟩
  rw [List.take_add_one, found]
  exact (carried.sublist.trans (List.take_sublist_take_left behind)).append (.refl _)

theorem lose (carried : Carried put place handed) (behind : place ≤ next)
    (found : put[next]? = some value) : Carried put (next + 1) handed :=
  let handed := carried.hand behind found
  ⟨handed.inside, (List.sublist_append_left _ _).trans handed.sublist⟩

end Carried
