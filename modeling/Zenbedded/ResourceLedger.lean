import Mathlib.Data.Finset.Basic
import Mathlib.Data.Finset.Filter
import Mathlib.Logic.Function.Basic
import Mathlib.Tactic.Common

/-!
# Ledgers of resources

A ledger is the set of live resources, each a serial number with the owner it was
handed to.  Serial numbers are never reused, so a serial number has one owner.
The owners' own view is a partial map to serial numbers; the ledger and that map
say the same.
-/

namespace ResourceLedger

variable {Owner : Type*}

abbrev Ledger (Owner : Type*) := Finset (Nat × Owner)

/-- End a live resource; ending anything else is a misuse. -/
def release (ledger : Ledger Owner) (serial : Nat) : Option (Ledger Owner) :=
  if ∃ entry ∈ ledger, entry.1 = serial then
    some (ledger.filter fun entry => entry.1 ≠ serial)
  else
    none

/-- Serial numbers are below the next one, and each has one owner. -/
structure Serial (next : Nat) (ledger : Ledger Owner) : Prop where
  below : ∀ entry ∈ ledger, entry.1 < next
  unique : ∀ {serial : Nat} {owner other : Owner},
    (serial, owner) ∈ ledger → (serial, other) ∈ ledger → owner = other

/-- The ledger lists exactly what the owners hold. -/
def Lists (ledger : Ledger Owner) (held : Owner → Option Nat) : Prop :=
  ∀ serial owner, (serial, owner) ∈ ledger ↔ held owner = some serial

variable {ledger : Ledger Owner} {held : Owner → Option Nat} {next serial : Nat}
  {owner : Owner}

theorem Serial.mono {later : Nat} (serials : Serial next ledger) (le : next ≤ later) :
    Serial later ledger where
  below entry member := Nat.lt_of_lt_of_le (serials.below entry member) le
  unique := serials.unique

theorem serial_empty (next : Nat) : Serial next (∅ : Ledger Owner) where
  below := by simp
  unique := by simp

theorem lists_empty : Lists (∅ : Ledger Owner) fun _ => none := by
  simp [Lists]

theorem Serial.insert [DecidableEq Owner] (serials : Serial next ledger) (owner : Owner) :
    Serial (next + 1) (insert (next, owner) ledger) where
  below entry member := by
    rcases Finset.mem_insert.mp member with rfl | old
    · exact Nat.lt_succ_self next
    · exact Nat.lt_succ_of_lt (serials.below entry old)
  unique first second := by
    rcases Finset.mem_insert.mp first with firstNew | firstOld <;>
      rcases Finset.mem_insert.mp second with secondNew | secondOld
    · exact (Prod.mk.inj firstNew).2.trans (Prod.mk.inj secondNew).2.symm
    · exact absurd (serials.below _ secondOld) (by simp [(Prod.mk.inj firstNew).1])
    · exact absurd (serials.below _ firstOld) (by simp [(Prod.mk.inj secondNew).1])
    · exact serials.unique firstOld secondOld

theorem Lists.insert [DecidableEq Owner] (lists : Lists ledger held) (free : held owner = none) :
    Lists (insert (next, owner) ledger) (Function.update held owner (some next)) := by
  intro serial other
  rcases eq_or_ne other owner with rfl | different
  · have absent : (serial, other) ∉ ledger := by simp [lists serial other, free]
    simp [absent, eq_comm]
  · simp [different, lists serial other]

theorem Lists.release [DecidableEq Owner] (lists : Lists ledger held)
    (serials : Serial next ledger) (holds : held owner = some serial) :
    ∃ rest, release ledger serial = some rest ∧ Serial next rest ∧
      Lists rest (Function.update held owner none) := by
  have live : (serial, owner) ∈ ledger := (lists serial owner).mpr holds
  refine ⟨_, if_pos ⟨_, live, rfl⟩, ⟨?below, ?unique⟩, ?lists⟩
  case below => exact fun entry member => serials.below entry (Finset.mem_filter.mp member).1
  case unique =>
    intro _ _ _ first second
    exact serials.unique (Finset.mem_filter.mp first).1 (Finset.mem_filter.mp second).1
  case lists =>
    intro other holder
    rw [Finset.mem_filter]
    rcases eq_or_ne holder owner with rfl | different
    · simp [lists other holder, holds, eq_comm]
    · simp only [Function.update_of_ne different, lists other holder]
      refine ⟨And.left, fun otherHolds => ⟨otherHolds, ?_⟩⟩
      rintro rfl
      exact different (serials.unique ((lists _ holder).mpr otherHolds) live)

/-- A resource that is gone after an ending is the one that was ended. -/
theorem eq_of_release {rest : Ledger Owner} {entry : Nat × Owner}
    (released : ResourceLedger.release ledger serial = some rest) (live : entry ∈ ledger)
    (gone : entry ∉ rest) : entry.1 = serial := by
  unfold ResourceLedger.release at released
  split at released
  · cases released
    by_contra different
    exact gone (Finset.mem_filter.mpr ⟨live, different⟩)
  · cases released

theorem Lists.eq_empty (lists : Lists ledger held) (none : ∀ owner, held owner = none) :
    ledger = ∅ := by
  ext ⟨serial, owner⟩
  simp [lists serial owner, none owner]

/-- An owner holds a resource exactly when one live resource is its. -/
theorem Lists.existsUnique_iff (lists : Lists ledger held) (owner : Owner) :
    (∃! serial, (serial, owner) ∈ ledger) ↔ (held owner).isSome := by
  simp only [lists _ owner]
  cases held owner with
  | none => simp
  | some serial => exact ⟨fun _ => rfl, fun _ => ⟨serial, rfl, fun _ same =>
      (Option.some.inj same).symm⟩⟩

end ResourceLedger
