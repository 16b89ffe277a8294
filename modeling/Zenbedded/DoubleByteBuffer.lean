import Mathlib.Algebra.GroupWithZero.Nat
import Zenbedded.Serialization

/-!
# The double byte buffer

A translation of `DoubleByteBuffer`, one call at a time.  Readers take the active
slot; a writer fills the other slot and then makes it the active one.
-/

namespace Zenbedded

open ByteBlock

/-- What lets the slots be numbered `0` and `1`. -/
instance slotsNeZero : NeZero 2 :=
  ⟨Nat.succ_ne_zero 1⟩

/-- `DoubleByteBuffer<Capacity>` -/
structure DoubleByteBuffer (capacity : Nat) where
  buffer : Fin 2 → Block UInt8 capacity
  activeIdx : Fin 2

namespace DoubleByteBuffer

variable {capacity : Nat}

def reset : DoubleByteBuffer capacity where
  buffer := fun _ => Block.filled capacity 0
  activeIdx := 0

/-- The slot that `prepare_write` answers, `active_idx_ ^ 1`. -/
def prepareWrite (state : DoubleByteBuffer capacity) : Fin 2 :=
  state.activeIdx + 1

/-- What a caller does to a slot through its pointer. -/
def setSlot (state : DoubleByteBuffer capacity) (idx : Fin 2) (block : Block UInt8 capacity) :
    DoubleByteBuffer capacity :=
  { state with buffer := Function.update state.buffer idx block }

def commitWrite (state : DoubleByteBuffer capacity) (writeIdx : Fin 2) :
    DoubleByteBuffer capacity :=
  { state with activeIdx := writeIdx }

def latest (state : DoubleByteBuffer capacity) : Block UInt8 capacity :=
  state.buffer state.activeIdx

/-- `write`; a null pointer is `none`. -/
def write (state : DoubleByteBuffer capacity) (data : Option (List UInt8)) (size : Nat) :
    Option (Bool × DoubleByteBuffer capacity) :=
  match data with
  | none => some (false, state)
  | some data =>
      if capacity < size then
        some (false, state)
      else do
        let writeIdx := state.prepareWrite
        let slot ← memcpy (state.buffer writeIdx) 0 data size
        some (true, (state.setSlot writeIdx slot).commitWrite writeIdx)

/-- `read_latest`; a null pointer is `none`. -/
def readLatest (state : DoubleByteBuffer capacity) {outSize : Nat}
    (out : Option (Block UInt8 outSize)) (size : Nat) :
    Option (Bool × Option (Block UInt8 outSize)) :=
  match out with
  | none => some (false, none)
  | some out =>
      if capacity < size then
        some (false, some out)
      else do
        let out ← memcpy out 0 state.latest.bytes size
        some (true, some out)

@[simp]
theorem prepareWrite_ne_activeIdx (state : DoubleByteBuffer capacity) :
    state.prepareWrite ≠ state.activeIdx := by
  have other : ∀ idx : Fin 2, idx + 1 ≠ idx := by decide
  exact other state.activeIdx

@[simp]
theorem latest_setSlot_prepareWrite (state : DoubleByteBuffer capacity)
    (block : Block UInt8 capacity) :
    (state.setSlot state.prepareWrite block).latest = state.latest :=
  Function.update_of_ne state.prepareWrite_ne_activeIdx.symm _ _

@[simp]
theorem latest_commitWrite_setSlot (state : DoubleByteBuffer capacity) (writeIdx : Fin 2)
    (block : Block UInt8 capacity) :
    ((state.setSlot writeIdx block).commitWrite writeIdx).latest = block := by
  simp [latest, commitWrite, setSlot]

@[simp]
theorem buffer_setSlot (state : DoubleByteBuffer capacity) (writeIdx : Fin 2)
    (block : Block UInt8 capacity) : (state.setSlot writeIdx block).buffer writeIdx = block := by
  simp [setSlot]

@[simp]
theorem setSlot_buffer (state : DoubleByteBuffer capacity) (writeIdx : Fin 2) :
    state.setSlot writeIdx (state.buffer writeIdx) = state := by
  simp [setSlot]

theorem prepareWrite_commitWrite_prepareWrite (state : DoubleByteBuffer capacity) :
    (state.commitWrite state.prepareWrite).prepareWrite = state.activeIdx := by
  have back : ∀ idx : Fin 2, idx + 1 + 1 = idx := by decide
  exact back state.activeIdx

/-- What was shown before a commit is in the slot that is written next. -/
theorem buffer_prepareWrite_commitWrite_setSlot (state : DoubleByteBuffer capacity)
    (block : Block UInt8 capacity) :
    let after := (state.setSlot state.prepareWrite block).commitWrite state.prepareWrite
    after.buffer after.prepareWrite = state.latest := by
  intro after
  have writeIdx : after.prepareWrite = state.activeIdx :=
    state.prepareWrite_commitWrite_prepareWrite
  rw [writeIdx]
  exact Function.update_of_ne state.prepareWrite_ne_activeIdx.symm _ _

theorem write_spec (state : DoubleByteBuffer capacity) {data : List UInt8} {size : Nat}
    (fits : size ≤ capacity) (enough : size ≤ data.length) :
    ∃ written, state.write (some data) size = some (true, written) ∧
      written.latest.bytes.take size = data.take size := by
  have dataLength : (data.take size).length = size := by simpa using enough
  obtain ⟨slot, slotEq⟩ := Block.exists_store (state.buffer state.prepareWrite) 0
    (data.take size) (by omega)
  refine ⟨_, by simp [write, Nat.not_lt.mpr fits, memcpy, enough, slotEq]; rfl, ?_⟩
  rw [latest_commitWrite_setSlot, (Block.store_eq_some_iff.mp slotEq).2, dataLength]
  simp [dataLength]

theorem latest_of_write {state written : DoubleByteBuffer capacity} {data : List UInt8}
    {size : Nat} (fits : size ≤ capacity)
    (writes : state.write (some data) size = some (true, written)) :
    written.latest.bytes.take size = data.take size := by
  by_cases enough : size ≤ data.length
  · obtain ⟨same, sameEq, contents⟩ := state.write_spec fits enough
    cases sameEq.symm.trans writes
    exact contents
  · simp [write, Nat.not_lt.mpr fits, memcpy, enough] at writes

theorem readLatest_spec (state : DoubleByteBuffer capacity) {outSize size : Nat}
    (out : Block UInt8 outSize) (fits : size ≤ capacity) (room : size ≤ outSize) :
    ∃ read, state.readLatest (some out) size = some (true, some read) ∧
      read.bytes.take size = state.latest.bytes.take size := by
  have dataLength : (state.latest.bytes.take size).length = size := by simpa using fits
  obtain ⟨read, readEq⟩ := Block.exists_store out 0 (state.latest.bytes.take size)
    (by omega)
  refine ⟨read, by simp [readLatest, Nat.not_lt.mpr fits, memcpy, fits, readEq], ?_⟩
  rw [(Block.store_eq_some_iff.mp readEq).2, dataLength]
  simp [dataLength]

end DoubleByteBuffer

end Zenbedded
