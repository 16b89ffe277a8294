import Mathlib.Algebra.GroupWithZero.Nat
import Zenbedded.BlockRegions

/-!
# Packed records

A record whose fields follow one another without gaps.  A field is found behind the
widths of the fields before it; writing all fields in order leaves no other bytes.
-/

namespace PackedRecord

open ByteBlock

/-! ## Loops over indices -/

/-- A loop over the first indices that may leave its memory. -/
def forEach {State : Type*} (count : Nat) (body : Nat → State → Option State) (state : State) :
    Option State :=
  (List.range count).foldlM (fun state index => body index state) state

theorem forEach_succ {State : Type*} (count : Nat) (body : Nat → State → Option State)
    (state : State) :
    forEach (count + 1) body state = (forEach count body state).bind (body count) := by
  rw [forEach, List.range_succ, List.foldlM_append]
  simp [forEach]

/-- A loop that carries an invariant from each index to the next one ends with it. -/
theorem forEach_invariant {State : Type*} {count : Nat} {body : Nat → State → Option State}
    {state : State} (invariant : Nat → State → Prop) (start : invariant 0 state)
    (step : ∀ index < count, ∀ state, invariant index state →
      ∃ next, body index state = some next ∧ invariant (index + 1) next) :
    ∃ final, forEach count body state = some final ∧ invariant count final := by
  induction count with
  | zero => exact ⟨state, rfl, start⟩
  | succ count ih =>
      obtain ⟨middle, reached, holds⟩ := ih fun index below => step index (by omega)
      obtain ⟨final, stepped, finalHolds⟩ := step count (by omega) middle holds
      exact ⟨final, by rw [forEach_succ, reached]; exact stepped, finalHolds⟩

theorem forEach_congr {State : Type*} {count : Nat} {body other : Nat → State → Option State}
    (same : ∀ index < count, ∀ state, body index state = other index state) (state : State) :
    forEach count body state = forEach count other state := by
  induction count with
  | zero => rfl
  | succ count ih =>
      have last : body count = other count := funext (same count (by omega))
      rw [forEach_succ, forEach_succ, ih fun index below => same index (by omega), last]

theorem forEach_preserves {State : Type*} {count : Nat} {body : Nat → State → Option State}
    {state final : State} (property : State → Prop)
    (step : ∀ index state next, body index state = some next → property state → property next)
    (looped : forEach count body state = some final) (holds : property state) :
    property final := by
  induction count generalizing final with
  | zero =>
      cases looped
      exact holds
  | succ count ih =>
      rw [forEach_succ] at looped
      obtain ⟨middle, before, last⟩ := Option.bind_eq_some_iff.mp looped
      exact step count middle final last (ih before)

/-! ## Fields -/

def offset (widths : List Nat) (index : Nat) : Nat :=
  (widths.take index).sum

variable {widths : List Nat}

@[simp]
theorem offset_zero (widths : List Nat) : offset widths 0 = 0 := by
  simp [offset]

theorem offset_succ {index width : Nat} (found : widths[index]? = some width) :
    offset widths (index + 1) = offset widths index + width := by
  rw [offset, offset, List.take_add_one, found]
  simp

theorem offset_le_sum (widths : List Nat) (index : Nat) : offset widths index ≤ widths.sum := by
  conv_rhs => rw [← List.take_append_drop index widths, List.sum_append]
  exact Nat.le_add_right _ _

theorem offset_add_le_sum {index width : Nat} (found : widths[index]? = some width) :
    offset widths index + width ≤ widths.sum :=
  offset_succ found ▸ offset_le_sum widths (index + 1)

def region (widths : List Nat) (index width : Nat) : Region where
  offset := offset widths index
  length := width

theorem offset_mono (widths : List Nat) {index later : Nat} (le : index ≤ later) :
    offset widths index ≤ offset widths later := by
  have front : (widths.take later).take index = widths.take index := by
    rw [List.take_take, Nat.min_eq_left le]
  have bound := offset_le_sum (widths.take later) index
  rwa [offset, front] at bound

theorem apart_region {index other width otherWidth : Nat} (found : widths[index]? = some width)
    (otherFound : widths[other]? = some otherWidth) (different : index ≠ other) :
    (region widths index width).Apart (region widths other otherWidth) := by
  rcases Nat.lt_or_gt_of_ne different with before | behind
  · left
    have := offset_mono widths (show index + 1 ≤ other by omega)
    rwa [offset_succ found] at this
  · right
    have := offset_mono widths (show other + 1 ≤ index by omega)
    rwa [offset_succ otherFound] at this

theorem exists_covering {place : Nat} (inside : place < widths.sum) :
    ∃ index width, widths[index]? = some width ∧ (region widths index width).Covers place := by
  induction widths generalizing place with
  | nil => simp at inside
  | cons width widths ih =>
      rcases Nat.lt_or_ge place width with first | later
      · exact ⟨0, width, rfl, by simp [Region.Covers, region, first]⟩
      · rw [List.sum_cons] at inside
        obtain ⟨index, other, found, fromStart, beforeEnd⟩ :=
          ih (show place - width < widths.sum by omega)
        refine ⟨index + 1, other, found, ?_⟩
        simp only [Region.Covers, region, offset, List.take_succ_cons, List.sum_cons] at *
        omega

variable {α : Type*} {size : Nat}

/-- The fields before an index hold their data. -/
def HoldsUpTo (widths : List Nat) (data : Nat → List α) (index : Nat) (block : Block α size) :
    Prop :=
  ∀ place < index, ∀ width, widths[place]? = some width →
    (region widths place width).contents block = data place

theorem holdsUpTo_zero (data : Nat → List α) (block : Block α size) :
    HoldsUpTo widths data 0 block :=
  fun _ below => absurd below (Nat.not_lt_zero _)

/-- Storing the data of the next field keeps the fields before it. -/
theorem HoldsUpTo.store {data : Nat → List α} {index width : Nat} {block stored : Block α size}
    (holds : HoldsUpTo widths data index block) (found : widths[index]? = some width)
    (fits : (data index).length = width)
    (storeEq : block.store (offset widths index) (data index) = some stored) :
    HoldsUpTo widths data (index + 1) stored := by
  intro place below placeWidth placeFound
  rcases eq_or_ne place index with rfl | different
  · obtain rfl := Option.some.inj (placeFound.symm.trans found)
    exact Region.contents_store storeEq fits
  · rw [Region.contents_store_of_apart (apart_region placeFound found different) storeEq fits]
    exact holds place (by omega) placeWidth placeFound

/-- Storing all fields in order. -/
theorem forEach_store {data : Nat → List α}
    (fits : ∀ index width, widths[index]? = some width → (data index).length = width)
    (inside : widths.sum ≤ size) (block : Block α size) :
    ∃ final,
      forEach widths.length (fun index block => block.store (offset widths index) (data index))
        block = some final ∧ HoldsUpTo widths data widths.length final := by
  refine forEach_invariant (HoldsUpTo widths data) (holdsUpTo_zero data block)
    fun index below block holds => ?_
  obtain ⟨width, found⟩ : ∃ width, widths[index]? = some width :=
    ⟨_, List.getElem?_eq_getElem below⟩
  have fitsWidth := fits index width found
  have ends := offset_add_le_sum found
  obtain ⟨stored, storeEq⟩ := block.exists_store (offset widths index) (data index) (by omega)
  exact ⟨stored, storeEq, holds.store found fitsWidth storeEq⟩

end PackedRecord
