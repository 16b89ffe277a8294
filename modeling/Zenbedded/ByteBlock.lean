import Mathlib.Data.List.Basic
import Mathlib.Tactic.Common

/-!
# Checked memory blocks

A block is a memory object of fixed size.  Stores and loads are checked: they
answer `none` exactly when the addressed range leaves the block, which is how a
program reading or writing outside its objects shows up in a shallow embedding.

The content lemmas come in two forms: a store rewrites one segment of a block
that is known as a concatenation, and a store extends the written prefix of a
block whose remainder still holds its fill value.
-/

namespace ByteBlock

universe u

/-- A memory object of exactly `size` cells. -/
@[ext]
structure Block (α : Type*) (size : Nat) where
  bytes : List α
  length_bytes : bytes.length = size
  deriving DecidableEq

namespace Block

variable {α : Type*} {size : Nat}

attribute [simp] length_bytes

def filled (size : Nat) (fill : α) : Block α size :=
  ⟨List.replicate size fill, List.length_replicate⟩

@[simp]
theorem bytes_filled (size : Nat) (fill : α) :
    (filled size fill).bytes = List.replicate size fill :=
  rfl

/-- Overwrite the cells from `offset` on with `data`. -/
def store (block : Block α size) (offset : Nat) (data : List α) :
    Option (Block α size) :=
  if inside : offset + data.length ≤ size then
    some ⟨block.bytes.take offset ++ data ++ block.bytes.drop (offset + data.length), by
      simp; omega⟩
  else
    none

/-- Read `count` cells from `offset` on. -/
def load (block : Block α size) (offset count : Nat) : Option (List α) :=
  if offset + count ≤ size then
    some ((block.bytes.drop offset).take count)
  else
    none

theorem store_eq_none_iff {block : Block α size} {offset : Nat} {data : List α} :
    block.store offset data = none ↔ size < offset + data.length := by
  unfold store
  split <;> simp <;> omega

theorem isSome_store_iff {block : Block α size} {offset : Nat} {data : List α} :
    (block.store offset data).isSome ↔ offset + data.length ≤ size := by
  unfold store
  split <;> simp <;> omega

theorem store_eq_some_iff {block stored : Block α size} {offset : Nat} {data : List α} :
    block.store offset data = some stored ↔
      offset + data.length ≤ size ∧
        stored.bytes =
          block.bytes.take offset ++ data ++ block.bytes.drop (offset + data.length) := by
  unfold store
  split
  case isTrue inside =>
    simp only [Option.some.injEq, Block.ext_iff, inside, true_and]
    exact eq_comm
  case isFalse outside => simp [outside]

theorem exists_store (block : Block α size) (offset : Nat) (data : List α)
    (inside : offset + data.length ≤ size) :
    ∃ stored, block.store offset data = some stored :=
  Option.isSome_iff_exists.mp (isSome_store_iff.mpr inside)

/-- Storing over the middle segment of a block known as a concatenation. -/
theorem store_segment {block : Block α size} {before old after : List α} (data : List α)
    (contents : block.bytes = before ++ old ++ after)
    (sameLength : data.length = old.length) :
    ∃ stored, block.store before.length data = some stored ∧
      stored.bytes = before ++ data ++ after := by
  have total := block.length_bytes
  simp only [contents, List.length_append] at total
  obtain ⟨stored, storeEq⟩ := exists_store block before.length data (by omega)
  refine ⟨stored, storeEq, ?_⟩
  rw [(store_eq_some_iff.mp storeEq).2, contents, sameLength]
  simp [List.drop_append]

/-- Loading the middle segment of a block known as a concatenation. -/
theorem load_segment {block : Block α size} {before middle after : List α}
    (contents : block.bytes = before ++ middle ++ after) :
    block.load before.length middle.length = some middle := by
  have total := block.length_bytes
  simp only [contents, List.length_append] at total
  rw [load, if_pos (by omega), contents]
  simp

theorem load_eq_some_iff {block : Block α size} {offset count : Nat} {data : List α} :
    block.load offset count = some data ↔
      offset + count ≤ size ∧ data = (block.bytes.drop offset).take count := by
  unfold load
  split
  case isTrue inside => simp [inside, eq_comm]
  case isFalse outside => simp [outside]

theorem getElem?_store_of_outside {block stored : Block α size} {offset index : Nat}
    {data : List α} (storeEq : block.store offset data = some stored)
    (outside : index < offset ∨ offset + data.length ≤ index) :
    stored.bytes[index]? = block.bytes[index]? := by
  obtain ⟨inside, contents⟩ := store_eq_some_iff.mp storeEq
  have offsetLe : offset ≤ block.bytes.length := by simp; omega
  rw [contents, List.append_assoc]
  rcases outside with before | after
  · rw [List.getElem?_append_left (by simp only [List.length_take]; omega),
      List.getElem?_take_of_lt before]
  · rw [List.getElem?_append_right (by simp only [List.length_take]; omega),
      List.getElem?_append_right (by simp only [List.length_take]; omega), List.getElem?_drop]
    congr 1
    simp only [List.length_take, Nat.min_eq_left offsetLe]
    omega

theorem getElem?_store_of_inside {block stored : Block α size} {offset index : Nat}
    {data : List α} (storeEq : block.store offset data = some stored)
    (inside : index < data.length) :
    stored.bytes[offset + index]? = data[index]? := by
  obtain ⟨fits, contents⟩ := store_eq_some_iff.mp storeEq
  have offsetLe : offset ≤ block.bytes.length := by simp; omega
  rw [contents, List.append_assoc,
    List.getElem?_append_right (by simp only [List.length_take]; omega)]
  simp only [List.length_take, Nat.min_eq_left offsetLe, Nat.add_sub_cancel_left]
  exact List.getElem?_append_left inside

theorem bytes_store_singleton {block stored : Block α size} {offset : Nat} {cell : α}
    (storeEq : block.store offset [cell] = some stored) :
    stored.bytes = block.bytes.set offset cell := by
  obtain ⟨inside, contents⟩ := store_eq_some_iff.mp storeEq
  rw [contents, List.set_eq_take_append_cons_drop, if_pos (by simp at inside ⊢; omega)]
  simp

/-- The first `written.length` cells hold `written`, the rest still `fill`. -/
def Prefixed (fill : α) (written : List α) (block : Block α size) : Prop :=
  written.length ≤ size ∧
    block.bytes = written ++ List.replicate (size - written.length) fill

theorem prefixed_filled (fill : α) : Prefixed fill [] (filled size fill) :=
  ⟨Nat.zero_le _, rfl⟩

theorem Prefixed.store {fill : α} {written data : List α} {block : Block α size}
    (holds : Prefixed fill written block)
    (fits : (written ++ data).length ≤ size) :
    ∃ stored, block.store written.length data = some stored ∧
      Prefixed fill (written ++ data) stored := by
  rw [List.length_append] at fits
  obtain ⟨stored, storeEq⟩ := exists_store block _ _ fits
  refine ⟨stored, storeEq, by simpa using fits, ?_⟩
  rw [(store_eq_some_iff.mp storeEq).2, holds.2]
  simp [List.drop_append, Nat.sub_add_eq]

theorem Prefixed.skip {fill : α} {written : List α} {block : Block α size}
    (holds : Prefixed fill written block) (count : Nat)
    (fits : written.length + count ≤ size) :
    Prefixed fill (written ++ List.replicate count fill) block := by
  refine ⟨by simpa using fits, ?_⟩
  rw [holds.2, List.append_assoc, List.replicate_append_replicate]
  congr 2
  simp
  omega

end Block

/-- A checked computation that succeeds exactly in blocks of at least `need`
cells, and then meets its postcondition. -/
structure Needs {γ : Type*} (size need : Nat) (result : Option γ) (post : γ → Prop) :
    Prop where
  fits : need ≤ size → ∃ value, result = some value ∧ post value
  overflows : size < need → result = none

namespace Needs

variable {γ δ : Type u} {size need : Nat} {result : Option γ} {post : γ → Prop}

theorem isSome_iff (needs : Needs size need result post) :
    result.isSome ↔ need ≤ size := by
  constructor
  · intro isSome
    by_contra tooSmall
    simp [needs.overflows (by omega)] at isSome
  · intro enough
    obtain ⟨value, valueEq, _⟩ := needs.fits enough
    simp [valueEq]

theorem post_of_eq_some (needs : Needs size need result post) {value : γ}
    (valueEq : result = some value) : post value := by
  have enough : need ≤ size := needs.isSome_iff.mp (by simp [valueEq])
  obtain ⟨other, otherEq, holds⟩ := needs.fits enough
  rw [valueEq] at otherEq
  exact Option.some.inj otherEq ▸ holds

theorem withRoom (needs : Needs size need result post) :
    Needs size need result (fun value => post value ∧ need ≤ size) where
  fits enough := by
    obtain ⟨value, valueEq, holds⟩ := needs.fits enough
    exact ⟨value, valueEq, holds, enough⟩
  overflows := needs.overflows

/-- Sequencing: the later part needs at least what the earlier part needs. -/
theorem bind {later : Nat} {next : γ → Option δ} {finalPost : δ → Prop}
    (first : Needs size need result post)
    (second : ∀ value, post value → Needs size later (next value) finalPost)
    (grows : need ≤ later) :
    Needs size later (result >>= next) finalPost where
  fits enough := by
    obtain ⟨value, rfl, holds⟩ := first.fits (Nat.le_trans grows enough)
    exact (second value holds).fits enough
  overflows tooSmall := by
    by_cases enough : need ≤ size
    · obtain ⟨value, rfl, holds⟩ := first.fits enough
      exact (second value holds).overflows tooSmall
    · rw [first.overflows (by omega)]
      rfl

theorem bind_some {next : γ → δ} {finalPost : δ → Prop}
    (first : Needs size need result post)
    (implies : ∀ value, post value → finalPost (next value)) :
    Needs size need (result >>= fun value => some (next value)) finalPost where
  fits enough := by
    obtain ⟨value, rfl, holds⟩ := first.fits enough
    exact ⟨next value, rfl, implies value holds⟩
  overflows tooSmall := by
    rw [first.overflows tooSmall]
    rfl

end Needs

end ByteBlock
