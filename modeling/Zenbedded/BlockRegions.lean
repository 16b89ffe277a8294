import Mathlib.Logic.Pairwise
import Zenbedded.ByteBlock

/-!
# Regions of a block

A block with named regions that do not overlap.  A patch replaces the contents of some
of the regions, one after another; a sequence of patches leaves in each region what was
last given for it, and leaves everything else alone.
-/

namespace ByteBlock

variable {α : Type*} {size : Nat}

/-- Some cells of a block, from an offset on. -/
structure Region where
  offset : Nat
  length : Nat
  deriving DecidableEq

namespace Region

def Covers (region : Region) (index : Nat) : Prop :=
  region.offset ≤ index ∧ index < region.offset + region.length

instance (region : Region) (index : Nat) : Decidable (region.Covers index) :=
  inferInstanceAs (Decidable (_ ∧ _))

/-- One of two regions ends before the other begins. -/
def Apart (region other : Region) : Prop :=
  region.offset + region.length ≤ other.offset ∨ other.offset + other.length ≤ region.offset

def contents (region : Region) (block : Block α size) : List α :=
  (block.bytes.drop region.offset).take region.length

variable {region other : Region} {block stored : Block α size}

theorem getElem?_contents (region : Region) (block : Block α size) (index : Nat) :
    (region.contents block)[index]? =
      if index < region.length then block.bytes[region.offset + index]? else none := by
  rw [contents, List.getElem?_take, List.getElem?_drop]

theorem contents_congr {otherSize : Nat} {otherBlock : Block α otherSize}
    (agree : ∀ index, region.Covers index → otherBlock.bytes[index]? = block.bytes[index]?) :
    region.contents otherBlock = region.contents block := by
  ext1 index
  simp only [getElem?_contents]
  split
  case isTrue covered => exact agree _ ⟨by omega, by omega⟩
  case isFalse => rfl

theorem getElem?_of_contents_eq {other : Block α size}
    (same : region.contents other = region.contents block) {index : Nat}
    (covered : region.Covers index) : other.bytes[index]? = block.bytes[index]? := by
  obtain ⟨fromStart, beforeEnd⟩ := covered
  have cell := congrArg (·[index - region.offset]?) same
  simpa only [getElem?_contents, if_pos (show index - region.offset < region.length by omega),
    Nat.add_sub_cancel' fromStart] using cell

theorem contents_store {data : List α} (storeEq : block.store region.offset data = some stored)
    (sameLength : data.length = region.length) : region.contents stored = data := by
  ext1 index
  rw [getElem?_contents]
  split
  case isTrue covered =>
    exact Block.getElem?_store_of_inside storeEq (by omega)
  case isFalse beyond =>
    exact (List.getElem?_eq_none (by omega)).symm

/-- The contents of a region in a block that is known as a concatenation around it. -/
theorem contents_of_segment {before middle after : List α}
    (bytes : block.bytes = before ++ middle ++ after) (starts : region.offset = before.length)
    (sameLength : region.length = middle.length) : region.contents block = middle := by
  rw [contents, bytes, starts, sameLength, List.append_assoc, List.drop_left, List.take_left]

theorem load_region (block : Block α size)
    (inside : region.offset + region.length ≤ size) :
    block.load region.offset region.length = some (region.contents block) :=
  if_pos inside

theorem contents_store_of_apart {data : List α} (apart : region.Apart other)
    (storeEq : block.store other.offset data = some stored)
    (sameLength : data.length = other.length) :
    region.contents stored = region.contents block := by
  refine contents_congr fun index ⟨fromStart, beforeEnd⟩ => ?_
  refine Block.getElem?_store_of_outside storeEq ?_
  rcases apart with before | behind <;> omega

end Region

/-! ## The front of a block -/

namespace Block

def front (block : Block α size) (count : Nat) (fits : count ≤ size) : Block α count :=
  ⟨block.bytes.take count, by simp [fits]⟩

theorem getElem?_front (block : Block α size) {count : Nat} (fits : count ≤ size) {index : Nat}
    (inside : index < count) : (block.front count fits).bytes[index]? = block.bytes[index]? :=
  List.getElem?_take_of_lt inside

theorem contents_front (block : Block α size) {count : Nat} (fits : count ≤ size)
    {region : Region} (inside : region.offset + region.length ≤ count) :
    region.contents (block.front count fits) = region.contents block :=
  Region.contents_congr fun _ covered => block.getElem?_front fits (by
    have := covered.2
    omega)

end Block

/-! ## Patches -/

variable {Field : Type*} {regions : Field → Region}

def Block.storeGiven (block : Block α size) (offset : Nat) :
    Option (List α) → Option (Block α size)
  | none => some block
  | some data => block.store offset data

/-- Replace the contents of the regions for which there is data. -/
def patch (regions : Field → Region) (order : List Field) (call : Field → Option (List α))
    (block : Block α size) : Option (Block α size) :=
  order.foldlM (fun block field => block.storeGiven (regions field).offset (call field)) block

def patchAll (regions : Field → Region) (order : List Field)
    (calls : List (Field → Option (List α))) (block : Block α size) : Option (Block α size) :=
  calls.foldlM (fun block call => patch regions order call block) block

/-- What was last given for a region. -/
def lastGiven {Call Data : Type*} (given : Call → Option Data) (calls : List Call) :
    Option Data :=
  (calls.filterMap given).getLast?

/-- The cells that no region covers are the same in two blocks. -/
def AgreeOutside (regions : Field → Region) (block other : Block α size) : Prop :=
  ∀ index, (∀ field, ¬(regions field).Covers index) →
    other.bytes[index]? = block.bytes[index]?

/-- Regions that do not overlap and lie in a block of some size. -/
structure Separate (regions : Field → Region) (size : Nat) : Prop where
  apart : Pairwise fun field other => (regions field).Apart (regions other)
  inside : ∀ field, (regions field).offset + (regions field).length ≤ size

/-- The data of a patch has the size of its regions. -/
def FitsRegions (regions : Field → Region) (call : Field → Option (List α)) : Prop :=
  ∀ field data, call field = some data → data.length = (regions field).length

@[simp]
theorem lastGiven_nil {Call Data : Type*} (given : Call → Option Data) :
    lastGiven given [] = none :=
  rfl

theorem lastGiven_cons {Call Data : Type*} (given : Call → Option Data) (call : Call)
    (calls : List Call) :
    lastGiven given (call :: calls) = (lastGiven given calls).or (given call) := by
  cases givenEq : given call with
  | none => simp [lastGiven, givenEq]
  | some data =>
      simp only [lastGiven, List.filterMap_cons, givenEq, List.getLast?_cons]
      cases (calls.filterMap given).getLast? <;> rfl

theorem lastGiven_map {Call Other Data : Type*} (given : Other → Option Data)
    (through : Call → Other) (calls : List Call) :
    lastGiven given (calls.map through) = lastGiven (fun call => given (through call)) calls := by
  simp only [lastGiven, List.filterMap_map, Function.comp_def]

theorem lastGiven_optionMap {Call Data Other : Type*} (given : Call → Option Data)
    (through : Data → Other) (calls : List Call) :
    lastGiven (fun call => (given call).map through) calls =
      (lastGiven given calls).map through := by
  induction calls with
  | nil => rfl
  | cons call calls ih => rw [lastGiven_cons, lastGiven_cons, ih, Option.map_or]

theorem lastGiven_some {Call Data : Type*} (given : Call → Data) (calls : List Call) :
    lastGiven (fun call => some (given call)) calls = calls.getLast?.map given := by
  simp [lastGiven, List.getLast?_map]

theorem AgreeOutside.refl (regions : Field → Region) (block : Block α size) :
    AgreeOutside regions block block :=
  fun _ _ => rfl

theorem AgreeOutside.symm {block other : Block α size}
    (agree : AgreeOutside regions block other) : AgreeOutside regions other block :=
  fun index uncovered => (agree index uncovered).symm

theorem AgreeOutside.trans {block middle other : Block α size}
    (first : AgreeOutside regions block middle) (second : AgreeOutside regions middle other) :
    AgreeOutside regions block other :=
  fun index uncovered => (second index uncovered).trans (first index uncovered)

/-- Blocks are equal if their regions and everything else are. -/
theorem AgreeOutside.eq_of_contents {block other : Block α size}
    (agree : AgreeOutside regions block other)
    (same : ∀ field, (regions field).contents other = (regions field).contents block) :
    other = block := by
  ext1
  ext1 index
  by_cases covered : ∃ field, (regions field).Covers index
  · obtain ⟨field, covers⟩ := covered
    exact Region.getElem?_of_contents_eq (same field) covers
  · exact agree index (not_exists.mp covered)

/-- Calls that are patches form a sequence of patches. -/
theorem foldlM_eq_patchAll {Call : Type*} {order : List Field}
    {write : Call → Block α size → Option (Block α size)}
    {given : Call → Field → Option (List α)} {calls : List Call}
    (patches : ∀ call ∈ calls, ∀ block, write call block = patch regions order (given call) block)
    (block : Block α size) :
    calls.foldlM (fun block call => write call block) block =
      patchAll regions order (calls.map given) block := by
  induction calls generalizing block with
  | nil => rfl
  | cons call calls ih =>
      rw [patchAll, List.map_cons, List.foldlM_cons, List.foldlM_cons,
        patches call List.mem_cons_self]
      congr 1
      funext patched
      exact ih (fun call member => patches call (List.mem_cons_of_mem _ member)) patched

section Spec

variable {call : Field → Option (List α)} (separate : Separate regions size)

include separate

theorem store_spec (fits : FitsRegions regions call) (block : Block α size) (field : Field) :
    ∃ stored, block.storeGiven (regions field).offset (call field) = some stored ∧
      (regions field).contents stored =
        (call field).getD ((regions field).contents block) ∧
      (∀ other, other ≠ field →
        (regions other).contents stored = (regions other).contents block) ∧
      AgreeOutside regions block stored := by
  cases callEq : call field with
  | none => exact ⟨block, rfl, rfl, fun _ _ => rfl, .refl regions block⟩
  | some data =>
      have sameLength := fits field data callEq
      have inside := separate.inside field
      obtain ⟨stored, storeEq⟩ :=
        Block.exists_store block (regions field).offset data (by omega)
      refine ⟨stored, storeEq, Region.contents_store storeEq sameLength, ?_, ?_⟩
      · intro other different
        exact Region.contents_store_of_apart (separate.apart different) storeEq sameLength
      · intro index uncovered
        refine Block.getElem?_store_of_outside storeEq ?_
        have outside := uncovered field
        simp only [Region.Covers] at outside
        omega

/-- A patch leaves what it was given in the regions of its fields. -/
theorem patch_spec (fits : FitsRegions regions call) {order : List Field} (nodup : order.Nodup)
    (block : Block α size) :
    ∃ patched, patch regions order call block = some patched ∧
      (∀ field ∈ order, (regions field).contents patched =
        (call field).getD ((regions field).contents block)) ∧
      (∀ field, field ∉ order →
        (regions field).contents patched = (regions field).contents block) ∧
      AgreeOutside regions block patched := by
  induction order generalizing block with
  | nil => exact ⟨block, rfl, by simp, fun _ _ => rfl, .refl regions block⟩
  | cons field order ih =>
      obtain ⟨notMember, nodup⟩ := List.nodup_cons.mp nodup
      obtain ⟨stored, storeEq, here, elsewhere, agreeStored⟩ :=
        store_spec separate fits block field
      obtain ⟨patched, patchEq, given, kept, agree⟩ := ih nodup stored
      refine ⟨patched, ?_, ?_, ?_, agreeStored.trans agree⟩
      · rw [patch, List.foldlM_cons, storeEq]
        exact patchEq
      · intro other member
        rcases List.mem_cons.mp member with rfl | member
        · rw [kept other notMember, here]
        · have different : other ≠ field := fun same => notMember (same ▸ member)
          rw [given other member, elsewhere other different]
      · intro other notMember
        simp only [List.mem_cons, not_or] at notMember
        rw [kept other notMember.2, elsewhere other notMember.1]

/-- A sequence of patches leaves in each region what was last given for it. -/
theorem patchAll_spec {order : List Field} (nodup : order.Nodup)
    (complete : ∀ field, field ∈ order) (calls : List (Field → Option (List α)))
    (fits : ∀ call ∈ calls, FitsRegions regions call) (block : Block α size) :
    ∃ patched, patchAll regions order calls block = some patched ∧
      (∀ field, (regions field).contents patched =
        (lastGiven (· field) calls).getD ((regions field).contents block)) ∧
      AgreeOutside regions block patched := by
  induction calls generalizing block with
  | nil => exact ⟨block, rfl, fun _ => rfl, .refl regions block⟩
  | cons call calls ih =>
      obtain ⟨first, firstEq, given, -, agreeFirst⟩ :=
        patch_spec separate (fits call List.mem_cons_self) nodup block
      obtain ⟨patched, patchEq, last, agree⟩ :=
        ih (fun call member => fits call (List.mem_cons_of_mem _ member)) first
      refine ⟨patched, ?_, fun field => ?_, agreeFirst.trans agree⟩
      · rw [patchAll, List.foldlM_cons, firstEq]
        exact patchEq
      · rw [last field, given field (complete field), lastGiven_cons]
        cases lastGiven (· field) calls <;> rfl

end Spec

/-- Patches of regions in the front of a block do not depend on what is behind. -/
theorem patchAll_front {count : Nat} (separate : Separate regions count) {order : List Field}
    (nodup : order.Nodup) (complete : ∀ field, field ∈ order)
    {calls : List (Field → Option (List α))} (fits : ∀ call ∈ calls, FitsRegions regions call)
    {block patched : Block α size} (holds : count ≤ size)
    (patchEq : patchAll regions order calls block = some patched) :
    patchAll regions order calls (block.front count holds) =
      some (patched.front count holds) := by
  have separateAll : Separate regions size :=
    ⟨separate.apart, fun field => Nat.le_trans (separate.inside field) holds⟩
  obtain ⟨whole, wholeEq, contents, agree⟩ :=
    patchAll_spec separateAll nodup complete calls fits block
  cases patchEq.symm.trans wholeEq
  obtain ⟨short, shortEq, shortContents, shortAgree⟩ :=
    patchAll_spec separate nodup complete calls fits (block.front count holds)
  rw [shortEq]
  congr 1
  have agreeFront : AgreeOutside regions (patched.front count holds) short := by
    intro index uncovered
    rcases Nat.lt_or_ge index count with inside | beyond
    · rw [shortAgree index uncovered, Block.getElem?_front _ _ inside,
        Block.getElem?_front _ _ inside, agree index uncovered]
    · rw [List.getElem?_eq_none (by simpa using beyond),
        List.getElem?_eq_none (by simpa using beyond)]
  refine agreeFront.eq_of_contents fun field => ?_
  have inside := separate.inside field
  rw [shortContents field, Block.contents_front _ _ inside, Block.contents_front _ _ inside,
    contents field]

/-- Calls that patch regions in the front of a block: what they leave there, and that they
do the same without what is behind. -/
theorem foldlM_patch_spec {count : Nat} (separate : Separate regions count) {order : List Field}
    (nodup : order.Nodup) (complete : ∀ field, field ∈ order) (holds : count ≤ size)
    {Call : Type*} {write : ∀ {size : Nat}, Call → Block α size → Option (Block α size)}
    {given : Call → Field → Option (List α)} {calls : List Call}
    (patches : ∀ call ∈ calls, ∀ (size : Nat) (block : Block α size),
      write call block = patch regions order (given call) block)
    (fits : ∀ call ∈ calls, FitsRegions regions (given call)) (block : Block α size) :
    ∃ written, calls.foldlM (fun block call => write call block) block = some written ∧
      calls.foldlM (fun block call => write call block) (block.front count holds) =
        some (written.front count holds) ∧
      (∀ field, (regions field).contents written =
        (lastGiven (fun call => given call field) calls).getD
          ((regions field).contents block)) ∧
      AgreeOutside regions block written := by
  have separateAll : Separate regions size :=
    ⟨separate.apart, fun field => Nat.le_trans (separate.inside field) holds⟩
  have fitsAll : ∀ call ∈ calls.map given, FitsRegions regions call := by
    intro call member
    obtain ⟨source, sourceMember, rfl⟩ := List.mem_map.mp member
    exact fits source sourceMember
  obtain ⟨written, writtenEq, contents, agree⟩ :=
    patchAll_spec separateAll nodup complete _ fitsAll block
  refine ⟨written, ?_, ?_, fun field => ?_, agree⟩
  · rw [foldlM_eq_patchAll (fun call member => patches call member size) block, writtenEq]
  · rw [foldlM_eq_patchAll (fun call member => patches call member count) _,
      patchAll_front separate nodup complete fitsAll holds writtenEq]
  · rw [contents field, lastGiven_map]

end ByteBlock
