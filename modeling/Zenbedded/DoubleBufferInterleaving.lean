import Mathlib.Data.Finset.Erase
import Mathlib.Data.Finset.Range
import Zenbedded.DoubleByteBuffer
import Zenbedded.StepSystem

/-!
# One writer and many readers of a double buffer

Every section under the lock is one step; outside the lock the writer stores one byte
at a time.  The writer either fills a slot through the pointer that `prepare_write`
answered, or it copies the bytes of a `write` call, in any order.
-/

namespace Zenbedded

open ByteBlock

/-- Where the writer is; outside its calls it is idle. -/
inductive BufferWriter
  | idle
  | prepared (writeIdx : Fin 2)
  | copying (writeIdx : Fin 2) (data : List UInt8) (pending : Finset Nat)

def BufferWriter.held : BufferWriter → Option (Fin 2)
  | .idle => none
  | .prepared writeIdx => some writeIdx
  | .copying writeIdx _ _ => some writeIdx

/-- A double buffer in use, and what its slots held when they were committed. -/
structure BufferWorld (capacity : Nat) where
  buffer : DoubleByteBuffer capacity
  writer : BufferWriter
  commits : List (Block UInt8 capacity)

inductive BufferAction (Reader : Type)
  | prepareWrite
  | storeByte (offset : Nat) (byte : UInt8)
  | commitWrite
  | write (data : Option (List UInt8)) (size : Nat)
  | copyByte (offset : Nat)
  | commitCopy
  | readLatest (reader : Reader) (size : Nat) (result : Option (List UInt8))

namespace BufferWorld

variable {capacity : Nat} {Reader : Type}

/-- The locked section of `commit_write`. -/
def commit (world : BufferWorld capacity) (writeIdx : Fin 2) : BufferWorld capacity where
  buffer := world.buffer.commitWrite writeIdx
  writer := .idle
  commits := world.commits ++ [world.buffer.buffer writeIdx]

/-- One step.  A `write` that is refused, and every read, leaves the world as it is. -/
def Step (before : BufferWorld capacity) : BufferAction Reader → BufferWorld capacity → Prop
  | .prepareWrite, after =>
      before.writer = .idle ∧
        after = { before with writer := .prepared before.buffer.prepareWrite }
  | .storeByte offset byte, after =>
      ∃ writeIdx slot, before.writer = .prepared writeIdx ∧
        (before.buffer.buffer writeIdx).store offset [byte] = some slot ∧
        after = { before with buffer := before.buffer.setSlot writeIdx slot }
  | .commitWrite, after =>
      ∃ writeIdx, before.writer = .prepared writeIdx ∧ after = before.commit writeIdx
  | .write none _, after =>
      before.writer = .idle ∧ after = before
  | .write (some data) size, after =>
      before.writer = .idle ∧
        if capacity < size then
          after = before
        else
          size ≤ data.length ∧
            after = { before with
              writer := .copying before.buffer.prepareWrite (data.take size)
                (Finset.range size) }
  | .copyByte offset, after =>
      ∃ writeIdx data pending byte slot, before.writer = .copying writeIdx data pending ∧
        offset ∈ pending ∧ data[offset]? = some byte ∧
        (before.buffer.buffer writeIdx).store offset [byte] = some slot ∧
        after = { before with
          buffer := before.buffer.setSlot writeIdx slot
          writer := .copying writeIdx data (pending.erase offset) }
  | .commitCopy, after =>
      ∃ writeIdx data, before.writer = .copying writeIdx data ∅ ∧
        after = before.commit writeIdx
  | .readLatest _ size result, after =>
      after = before ∧
        result =
          if capacity < size then none else some (before.buffer.latest.bytes.take size)

end BufferWorld

def doubleBufferUse (capacity : Nat) (Reader : Type) :
    StepSystem (BufferWorld capacity) (BufferAction Reader) where
  start world := world.writer = .idle ∧ world.commits = []
  step := BufferWorld.Step

namespace BufferWorld

variable {capacity : Nat} {Reader : Type} {initial : Block UInt8 capacity}

/-- The bytes of a `write` call that were copied so far. -/
structure Copied (world : BufferWorld capacity) (writeIdx : Fin 2) (data : List UInt8)
    (pending : Finset Nat) : Prop where
  fits : data.length ≤ capacity
  inside : ∀ offset ∈ pending, offset < data.length
  done : ∀ offset < data.length, offset ∉ pending →
    (world.buffer.buffer writeIdx).bytes[offset]? = data[offset]?

/-- The writer holds the slot that readers do not see, and readers see the last commit. -/
structure Sound (initial : Block UInt8 capacity) (world : BufferWorld capacity) : Prop where
  held : ∀ writeIdx, world.writer.held = some writeIdx → writeIdx = world.buffer.prepareWrite
  latest : (initial :: world.commits)[world.commits.length]? = some world.buffer.latest
  copied : ∀ writeIdx data pending, world.writer = .copying writeIdx data pending →
    world.Copied writeIdx data pending

theorem sound_of_start {world : BufferWorld capacity} (idle : world.writer = .idle)
    (none : world.commits = []) : world.Sound world.buffer.latest where
  held := by simp [idle, BufferWriter.held]
  latest := by simp [none]
  copied := by simp [idle]

variable {before after : BufferWorld capacity}

theorem sound_commit (before : BufferWorld capacity) (writeIdx : Fin 2) :
    (before.commit writeIdx).Sound initial where
  held := by simp [BufferWorld.commit, BufferWriter.held]
  latest := by
    simp [BufferWorld.commit, DoubleByteBuffer.latest, DoubleByteBuffer.commitWrite]
  copied := by simp [BufferWorld.commit]

theorem Sound.setSlot (sound : before.Sound initial) {writeIdx : Fin 2}
    (held : before.writer.held = some writeIdx) (slot : Block UInt8 capacity) :
    (initial :: before.commits)[before.commits.length]? =
      some (before.buffer.setSlot writeIdx slot).latest := by
  rw [sound.held writeIdx held, DoubleByteBuffer.latest_setSlot_prepareWrite]
  exact sound.latest

theorem Sound.copyByte (sound : before.Sound initial) {writeIdx : Fin 2} {data : List UInt8}
    {pending : Finset Nat} (copying : before.writer = .copying writeIdx data pending)
    {offset : Nat} (isPending : offset ∈ pending) {byte : UInt8}
    (byteEq : data[offset]? = some byte) {slot : Block UInt8 capacity}
    (stored : (before.buffer.buffer writeIdx).store offset [byte] = some slot) :
    Sound initial { before with
      buffer := before.buffer.setSlot writeIdx slot
      writer := .copying writeIdx data (pending.erase offset) } where
  held := by
    rintro other ⟨⟩
    exact sound.held writeIdx (by rw [copying]; rfl)
  latest := sound.setSlot (by rw [copying]; rfl) slot
  copied := by
    rintro _ _ _ ⟨⟩
    obtain ⟨fits, inside, done⟩ := sound.copied writeIdx data pending copying
    refine ⟨fits, fun other member => inside other (Finset.mem_of_mem_erase member),
      fun other otherLt copied => ?_⟩
    have slotEq : (before.buffer.setSlot writeIdx slot).buffer writeIdx = slot := by
      simp [DoubleByteBuffer.setSlot]
    rw [slotEq]
    rcases eq_or_ne other offset with rfl | different
    · have written := Block.getElem?_store_of_inside stored (show 0 < [byte].length by simp)
      rw [byteEq]
      simpa using written
    · have kept := Block.getElem?_store_of_outside stored
        (show other < offset ∨ offset + [byte].length ≤ other by simp; omega)
      rw [kept]
      exact done other otherLt fun member =>
        copied (Finset.mem_erase.mpr ⟨different, member⟩)

theorem Sound.step (sound : before.Sound initial) {action : BufferAction Reader}
    (steps : before.Step action after) : after.Sound initial := by
  cases action with
  | prepareWrite =>
      obtain ⟨idle, rfl⟩ := steps
      refine ⟨?_, sound.latest, by simp⟩
      rintro writeIdx ⟨⟩
      rfl
  | storeByte offset byte =>
      obtain ⟨writeIdx, slot, prepared, -, rfl⟩ := steps
      refine ⟨fun other held => ?_, sound.setSlot (by rw [prepared]; rfl) slot, ?_⟩
      · exact sound.held other held
      · simp [prepared]
  | commitWrite =>
      obtain ⟨writeIdx, -, rfl⟩ := steps
      exact sound_commit before writeIdx
  | write data size =>
      cases data with
      | none =>
          obtain ⟨-, rfl⟩ := steps
          exact sound
      | some data =>
          obtain ⟨idle, written⟩ := steps
          split at written
          case isTrue =>
            rw [written]
            exact sound
          case isFalse fits =>
            obtain ⟨enough, rfl⟩ := written
            refine ⟨?_, sound.latest, ?_⟩
            · rintro writeIdx ⟨⟩
              rfl
            · rintro _ _ _ ⟨⟩
              constructor <;> simp <;> omega
  | copyByte offset =>
      obtain ⟨writeIdx, data, pending, byte, slot, copying, isPending, byteEq, stored, rfl⟩ :=
        steps
      exact sound.copyByte copying isPending byteEq stored
  | commitCopy =>
      obtain ⟨writeIdx, data, -, rfl⟩ := steps
      exact sound_commit before writeIdx
  | readLatest reader size result =>
      obtain ⟨rfl, -⟩ := steps
      exact sound

theorem Sound.copied_all (sound : before.Sound initial) {writeIdx : Fin 2} {data : List UInt8}
    (finished : before.writer = .copying writeIdx data ∅) :
    (before.buffer.buffer writeIdx).bytes.take data.length = data := by
  obtain ⟨fits, -, done⟩ := sound.copied writeIdx data ∅ finished
  apply List.ext_getElem?
  intro offset
  by_cases inside : offset < data.length
  · rw [List.getElem?_take_of_lt inside, done offset inside (Finset.notMem_empty offset)]
  · rw [List.getElem?_eq_none (by simp; omega), List.getElem?_eq_none (by omega)]

end BufferWorld

/-! ## Runs -/

def BufferAction.commits {Reader : Type} : BufferAction Reader → Bool
  | .commitWrite => true
  | .commitCopy => true
  | _ => false

/-- What a store through the pointer of `prepare_write` makes of the bytes of a slot. -/
def BufferAction.stored {Reader : Type} (bytes : List UInt8) : BufferAction Reader → List UInt8
  | .storeByte offset byte => bytes.set offset byte
  | _ => bytes

variable {capacity : Nat} {Reader : Type} {before after : BufferWorld capacity}

def commitCount (actions : List (BufferAction Reader)) : Nat :=
  actions.countP BufferAction.commits

def storedBytes (actions : List (BufferAction Reader)) (bytes : List UInt8) : List UInt8 :=
  actions.foldl BufferAction.stored bytes

theorem commitCount_call {front middle : List (BufferAction Reader)}
    {begins ends : BufferAction Reader} (opens : begins.commits = false)
    (uncommitted : ∀ action ∈ middle, action.commits = false) (closes : ends.commits = true) :
    commitCount (front ++ begins :: (middle ++ [ends])) = commitCount front + 1 := by
  have noneOpen : middle.countP BufferAction.commits = 0 :=
    List.countP_eq_zero.mpr fun action member => by simp [uncommitted action member]
  simp [commitCount, List.countP_append, noneOpen, opens, closes]

theorem BufferWorld.Step.commits {action : BufferAction Reader}
    (steps : before.Step action after) :
    before.commits <+: after.commits ∧
      after.commits.length = before.commits.length + commitCount [action] := by
  cases action with
  | prepareWrite => obtain ⟨-, rfl⟩ := steps; simp [commitCount, BufferAction.commits]
  | storeByte offset byte =>
      obtain ⟨_, _, -, -, rfl⟩ := steps
      simp [commitCount, BufferAction.commits]
  | commitWrite =>
      obtain ⟨_, -, rfl⟩ := steps
      simp [commitCount, BufferAction.commits, commit]
  | write data size =>
      cases data with
      | none => obtain ⟨-, rfl⟩ := steps; simp [commitCount, BufferAction.commits]
      | some data =>
          obtain ⟨-, written⟩ := steps
          split at written
          case isTrue => rw [written]; simp [commitCount, BufferAction.commits]
          case isFalse =>
            obtain ⟨-, rfl⟩ := written
            simp [commitCount, BufferAction.commits]
  | copyByte offset =>
      obtain ⟨_, _, _, _, _, -, -, -, -, rfl⟩ := steps
      simp [commitCount, BufferAction.commits]
  | commitCopy =>
      obtain ⟨_, _, -, rfl⟩ := steps
      simp [commitCount, BufferAction.commits, commit]
  | readLatest => obtain ⟨rfl, -⟩ := steps; simp [commitCount, BufferAction.commits]

variable {actions : List (BufferAction Reader)}

theorem commits_of_run (run : (doubleBufferUse capacity Reader).Run before actions after) :
    before.commits <+: after.commits ∧
      after.commits.length = before.commits.length + commitCount actions := by
  induction run with
  | nil => exact ⟨List.prefix_rfl, rfl⟩
  | @cons first middle last action actions steps _ ih =>
      obtain ⟨firstPrefix, firstCount⟩ := BufferWorld.Step.commits steps
      obtain ⟨restPrefix, restCount⟩ := ih
      refine ⟨firstPrefix.trans restPrefix, ?_⟩
      have counted : commitCount (action :: actions) =
          commitCount [action] + commitCount actions := by
        rw [commitCount, ← List.singleton_append, List.countP_append]
        rfl
      omega

theorem sound_of_run {initial : Block UInt8 capacity} (sound : before.Sound initial)
    (run : (doubleBufferUse capacity Reader).Run before actions after) :
    after.Sound initial := by
  induction run with
  | nil => exact sound
  | cons steps _ ih => exact ih (sound.step steps)

/-- Until it commits, a writer goes on storing in the slot it prepared, and in no other. -/
theorem prepared_of_run {writeIdx : Fin 2} (prepared : before.writer = .prepared writeIdx)
    (run : (doubleBufferUse capacity Reader).Run before actions after)
    (uncommitted : ∀ action ∈ actions, action.commits = false) :
    after.writer = .prepared writeIdx ∧
      (after.buffer.buffer writeIdx).bytes =
        storedBytes actions (before.buffer.buffer writeIdx).bytes := by
  induction run with
  | nil => exact ⟨prepared, rfl⟩
  | @cons first middle last action actions steps _ ih =>
      have stores : middle.writer = .prepared writeIdx ∧ (middle.buffer.buffer writeIdx).bytes =
          action.stored (first.buffer.buffer writeIdx).bytes := by
        cases action with
        | prepareWrite => cases prepared.symm.trans steps.1
        | storeByte offset byte =>
            obtain ⟨_, slot, same, stored, rfl⟩ := steps
            cases prepared.symm.trans same
            refine ⟨prepared, ?_⟩
            rw [DoubleByteBuffer.buffer_setSlot, Block.bytes_store_singleton stored]
            rfl
        | commitWrite => cases uncommitted _ List.mem_cons_self
        | write data size =>
            cases data with
            | none => cases prepared.symm.trans steps.1
            | some data => cases prepared.symm.trans steps.1
        | copyByte offset =>
            obtain ⟨_, _, _, _, _, copying, -⟩ := steps
            cases prepared.symm.trans copying
        | commitCopy => cases uncommitted _ List.mem_cons_self
        | readLatest reader size result =>
            obtain ⟨rfl, -⟩ := steps
            exact ⟨prepared, rfl⟩
      obtain ⟨still, contents⟩ :=
        ih stores.1 fun other member => uncommitted other (List.mem_cons_of_mem _ member)
      exact ⟨still, contents.trans (congrArg (storedBytes actions) stores.2)⟩

/-- The writer copies data over the front of a slot of the buffer that it found. -/
def BufferWorld.CopiesOver (found : DoubleByteBuffer capacity) (writeIdx : Fin 2)
    (data : List UInt8) (world : BufferWorld capacity) : Prop :=
  ∃ pending slot, world.writer = .copying writeIdx data pending ∧
    world.buffer = found.setSlot writeIdx slot ∧
    ∀ offset, data.length ≤ offset →
      slot.bytes[offset]? = (found.buffer writeIdx).bytes[offset]?

theorem BufferWorld.Step.copiesOver {data : List UInt8} {size : Nat} (fits : size ≤ capacity)
    (writes : before.Step (.write (some data) size : BufferAction Reader) after) :
    size ≤ data.length ∧
      after.CopiesOver before.buffer before.buffer.prepareWrite (data.take size) := by
  obtain ⟨-, written⟩ := writes
  rw [if_neg (by omega)] at written
  obtain ⟨enough, rfl⟩ := written
  exact ⟨enough, _, _, rfl, (before.buffer.setSlot_buffer _).symm, fun _ _ => rfl⟩

theorem BufferWorld.CopiesOver.copyByte {found : DoubleByteBuffer capacity} {writeIdx : Fin 2}
    {data : List UInt8} (copies : before.CopiesOver found writeIdx data) {offset : Nat}
    (steps : before.Step (.copyByte offset : BufferAction Reader) after) :
    after.CopiesOver found writeIdx data := by
  obtain ⟨pending, slot, copying, buffer, beyond⟩ := copies
  obtain ⟨_, _, _, byte, copied, same, -, byteEq, stored, rfl⟩ := steps
  cases copying.symm.trans same
  obtain ⟨inside, -⟩ := List.getElem?_eq_some_iff.mp byteEq
  refine ⟨_, copied, rfl, ?_, fun other outside => ?_⟩
  · rw [buffer]
    simp [DoubleByteBuffer.setSlot]
  · rw [buffer, DoubleByteBuffer.buffer_setSlot] at stored
    rw [Block.getElem?_store_of_outside stored (.inr (by simp; omega))]
    exact beyond other outside

/-- Until it commits, a `write` call goes on copying the same data. -/
theorem copiesOver_of_run {found : DoubleByteBuffer capacity} {writeIdx : Fin 2}
    {data : List UInt8} (copies : before.CopiesOver found writeIdx data)
    (run : (doubleBufferUse capacity Reader).Run before actions after)
    (uncommitted : ∀ action ∈ actions, action.commits = false) :
    after.CopiesOver found writeIdx data := by
  refine run.preserves ?_ uncommitted copies
  intro before action after notCommit copies steps
  have ⟨pending, slot, copying, _, _⟩ := copies
  cases action with
  | prepareWrite => cases copying.symm.trans steps.1
  | storeByte offset byte =>
      obtain ⟨_, _, prepared, -⟩ := steps
      cases copying.symm.trans prepared
  | commitWrite => cases notCommit
  | write data size =>
      cases data with
      | none => cases copying.symm.trans steps.1
      | some data => cases copying.symm.trans steps.1
  | copyByte offset =>
      change before.Step (.copyByte offset : BufferAction Reader) after at steps
      exact copies.copyByte steps
  | commitCopy => cases notCommit
  | readLatest reader size result =>
      obtain ⟨rfl, -⟩ := steps
      exact copies

/-- An idle writer will prepare the slot that was shown before the last commit. -/
def BufferWorld.Alternates (other initial : Block UInt8 capacity) (world : BufferWorld capacity) :
    Prop :=
  world.writer = .idle →
    (other :: initial :: world.commits)[world.commits.length]? =
      some (world.buffer.buffer world.buffer.prepareWrite)

theorem BufferWorld.Sound.alternates_commit {other initial : Block UInt8 capacity}
    (sound : before.Sound initial) {writeIdx : Fin 2}
    (held : before.writer.held = some writeIdx) :
    (before.commit writeIdx).Alternates other initial := by
  intro _
  have next : (before.buffer.commitWrite writeIdx).prepareWrite = before.buffer.activeIdx := by
    rw [sound.held writeIdx held]
    exact before.buffer.prepareWrite_commitWrite_prepareWrite
  have latest := sound.latest
  simp only [BufferWorld.commit, List.length_append, List.length_singleton, next]
  rw [List.getElem?_cons_succ, ← List.cons_append,
    List.getElem?_append_left (by rw [List.length_cons]; omega)]
  exact latest

/-- Every step that lets the writer idle lets the slots take turns. -/
theorem BufferWorld.Alternates.step {other initial : Block UInt8 capacity}
    (alternates : before.Alternates other initial) (sound : before.Sound initial)
    {action : BufferAction Reader} (steps : before.Step action after) :
    after.Alternates other initial := by
  cases action with
  | prepareWrite => obtain ⟨-, rfl⟩ := steps; nofun
  | storeByte offset byte =>
      obtain ⟨_, _, prepared, -, rfl⟩ := steps
      exact fun idle => by cases prepared.symm.trans idle
  | commitWrite =>
      obtain ⟨writeIdx, prepared, rfl⟩ := steps
      exact sound.alternates_commit (by rw [prepared]; rfl)
  | write data size =>
      cases data with
      | none => obtain ⟨-, rfl⟩ := steps; exact alternates
      | some data =>
          obtain ⟨-, written⟩ := steps
          split at written
          case isTrue => rw [written]; exact alternates
          case isFalse => obtain ⟨-, rfl⟩ := written; nofun
  | copyByte offset =>
      obtain ⟨_, _, _, _, _, -, -, -, -, rfl⟩ := steps
      nofun
  | commitCopy =>
      obtain ⟨writeIdx, data, copying, rfl⟩ := steps
      exact sound.alternates_commit (by rw [copying]; rfl)
  | readLatest reader size result => obtain ⟨rfl, -⟩ := steps; exact alternates

theorem alternates_of_run {other initial : Block UInt8 capacity} (sound : before.Sound initial)
    (alternates : before.Alternates other initial)
    (run : (doubleBufferUse capacity Reader).Run before actions after) :
    after.Alternates other initial := by
  induction run with
  | nil => exact alternates
  | cons steps _ ih => exact ih (sound.step steps) (alternates.step sound steps)

/-! ## Calls among other steps -/

/-- A copy that is finished and committed leaves what `write` leaves. -/
theorem write_of_copiesOver {initial : Block UInt8 capacity} (sound : before.Sound initial)
    {found : DoubleByteBuffer capacity} {writeIdx : Fin 2} {data copied : List UInt8} {size : Nat}
    (fits : size ≤ capacity) (enough : size ≤ data.length)
    (copies : before.CopiesOver found found.prepareWrite (data.take size))
    (finished : before.writer = .copying writeIdx copied ∅) :
    found.write (some data) size = some (true, (before.commit writeIdx).buffer) := by
  obtain ⟨pending, slot, copying, buffer, beyond⟩ := copies
  cases copying.symm.trans finished
  have front := sound.copied_all finished
  have length : (data.take size).length = size := by simpa using enough
  rw [buffer, DoubleByteBuffer.buffer_setSlot, length] at front
  rw [length] at beyond
  have rest : slot.bytes.drop size = (found.buffer found.prepareWrite).bytes.drop size := by
    apply List.ext_getElem?
    intro index
    rw [List.getElem?_drop, List.getElem?_drop]
    exact beyond _ (Nat.le_add_right size index)
  have stored : memcpy (found.buffer found.prepareWrite) 0 data size = some slot := by
    rw [memcpy, if_pos enough, Block.store_eq_some_iff, length]
    refine ⟨by omega, ?_⟩
    rw [List.take_zero, List.nil_append, Nat.zero_add, ← front, ← rest, List.take_append_drop]
  simp [DoubleByteBuffer.write, Nat.not_lt.mpr fits, stored, BufferWorld.commit, buffer]

/-- A `write` call among other steps leaves what it leaves when it is taken at once. -/
theorem write_at_once {initial : Block UInt8 capacity} (sound : before.Sound initial)
    {data : List UInt8} {size : Nat} (fits : size ≤ capacity)
    (run : (doubleBufferUse capacity Reader).Run before
      (.write (some data) size :: (actions ++ [.commitCopy])) after)
    (uncommitted : ∀ action ∈ actions, action.commits = false) :
    before.buffer.write (some data) size = some (true, after.buffer) := by
  cases run with
  | @cons _ started _ _ _ steps rest =>
      have writes : before.Step (.write (some data) size : BufferAction Reader) started := steps
      have soundStarted := sound.step writes
      obtain ⟨enough, copies⟩ := writes.copiesOver fits
      obtain ⟨copied, copying, commits⟩ := rest.of_append
      cases commits with
      | cons commits rest =>
          cases rest
          obtain ⟨writeIdx, data, finished, rfl⟩ := commits
          exact write_of_copiesOver (sound_of_run soundStarted copying) fits enough
            (copiesOver_of_run copies copying uncommitted) finished

/-- A read is the call of `read_latest`, taken at once. -/
theorem readLatest_at_once {reader : Reader} {outSize size : Nat} (out : Block UInt8 outSize)
    (room : size ≤ outSize) {result : Option (List UInt8)}
    (steps : before.Step (.readLatest reader size result) after) :
    ∃ ok read, before.buffer.readLatest (some out) size = some (ok, some read) ∧
      result = if ok then some (read.bytes.take size) else none := by
  obtain ⟨-, rfl⟩ := steps
  by_cases small : capacity < size
  · exact ⟨false, out, by simp [DoubleByteBuffer.readLatest, small], by simp [small]⟩
  · obtain ⟨read, readEq, contents⟩ :=
      before.buffer.readLatest_spec out (Nat.le_of_not_lt small) room
    exact ⟨true, read, readEq, by simp [small, contents]⟩

/-! ## From the start on -/

section FromStart

variable {start last : BufferWorld capacity}
  (starts : (doubleBufferUse capacity Reader).start start)

include starts

theorem sound_from_start (run : (doubleBufferUse capacity Reader).Run start actions last) :
    last.Sound start.buffer.latest ∧ last.commits.length = commitCount actions := by
  refine ⟨sound_of_run (BufferWorld.sound_of_start starts.1 starts.2) run, ?_⟩
  have counted := (commits_of_run run).2
  rwa [starts.2, List.length_nil, Nat.zero_add] at counted

/-- A state in the middle of a run saw the version that its commits count. -/
theorem version_of_split {front back : List (BufferAction Reader)}
    {middle : BufferWorld capacity}
    (earlier : (doubleBufferUse capacity Reader).Run start front middle)
    (rest : (doubleBufferUse capacity Reader).Run middle back last) :
    (start.buffer.latest :: last.commits)[commitCount front]? = some middle.buffer.latest := by
  obtain ⟨sound, counted⟩ := sound_from_start starts earlier
  obtain ⟨more, grows⟩ := (commits_of_run rest).1
  have latest := sound.latest
  rw [counted] at latest
  rw [← grows, ← List.cons_append, List.getElem?_append_left (by simp [counted]), latest]

theorem slot_of_split {front back : List (BufferAction Reader)} {middle : BufferWorld capacity}
    (earlier : (doubleBufferUse capacity Reader).Run start front middle)
    (rest : (doubleBufferUse capacity Reader).Run middle back last)
    (idle : middle.writer = .idle) :
    (start.buffer.buffer start.buffer.prepareWrite :: start.buffer.latest ::
        last.commits)[commitCount front]? =
      some (middle.buffer.buffer middle.buffer.prepareWrite) := by
  have counted := (sound_from_start starts earlier).2
  have alternates : start.Alternates (start.buffer.buffer start.buffer.prepareWrite)
      start.buffer.latest := fun _ => by rw [starts.2]; rfl
  obtain ⟨more, grows⟩ := (commits_of_run rest).1
  rw [← alternates_of_run (BufferWorld.sound_of_start starts.1 starts.2) alternates earlier idle,
    ← grows, ← List.cons_append, ← List.cons_append, ← counted,
    List.getElem?_append_left (by simp only [List.length_cons]; omega)]

end FromStart

/-- Readers see whole commits, in their order: a read answers the contents of the slot at
the last commit before it, or the initial contents, and no reader goes back.  What a
`write` call commits are its data; what is committed behind `prepare_write` are the stores
in between, over the version before the last. -/
theorem read_latest_answers_last_commit {start last : BufferWorld capacity}
    (starts : (doubleBufferUse capacity Reader).start start)
    (run : (doubleBufferUse capacity Reader).Run start actions last) :
    let versions := start.buffer.latest :: last.commits
    let slots := start.buffer.buffer start.buffer.prepareWrite :: versions
    (∀ front back reader size result,
      actions = front ++ .readLatest reader size result :: back → size ≤ capacity →
      ∃ contents, versions[commitCount front]? = some contents ∧
        result = some (contents.bytes.take size)) ∧
    (∀ front middle back reader size later result laterResult,
      actions = front ++ .readLatest reader size result :: (middle ++
        .readLatest reader later laterResult :: back) →
      size ≤ capacity → later ≤ capacity →
      ∃ (older newer : Nat) (contents laterContents : Block UInt8 capacity), older ≤ newer ∧
        versions[older]? = some contents ∧ result = some (contents.bytes.take size) ∧
        versions[newer]? = some laterContents ∧
        laterResult = some (laterContents.bytes.take later)) ∧
    (∀ front middle back data size,
      actions = front ++ .write (some data) size :: (middle ++ .commitCopy :: back) →
      (∀ action ∈ middle, action.commits = false) → size ≤ capacity →
      ∃ contents, versions[commitCount front + 1]? = some contents ∧
        contents.bytes.take size = data.take size) ∧
    ∀ front middle back,
      actions = front ++ .prepareWrite :: (middle ++ .commitWrite :: back) →
      (∀ action ∈ middle, action.commits = false) →
      ∃ held contents, slots[commitCount front]? = some held ∧
        versions[commitCount front + 1]? = some contents ∧
        contents.bytes = storedBytes middle held.bytes := by
  intro versions slots
  have reads : ∀ front back reader size result,
      actions = front ++ .readLatest reader size result :: back → size ≤ capacity →
      ∃ contents, versions[commitCount front]? = some contents ∧
        result = some (contents.bytes.take size) := by
    intro front back reader size result split fits
    rw [split] at run
    obtain ⟨middle, earlier, rest⟩ := run.of_append
    refine ⟨middle.buffer.latest, version_of_split starts earlier rest, ?_⟩
    cases rest with
    | cons steps rest => rw [steps.2, if_neg (by omega)]
  refine ⟨reads, ?ordered, ?written, ?prepared⟩
  case ordered =>
    intro front middle back reader size later result laterResult split fits laterFits
    obtain ⟨contents, version, answered⟩ := reads front _ reader size result split fits
    obtain ⟨laterContents, laterVersion, laterAnswered⟩ :=
      reads (front ++ .readLatest reader size result :: middle) back reader later laterResult
        (by rw [split, List.append_assoc, List.cons_append]) laterFits
    exact ⟨_, _, contents, laterContents, by simp [commitCount, List.countP_append],
      version, answered, laterVersion, laterAnswered⟩
  case written =>
    intro front middle back data size split uncommitted fits
    rw [split] at run
    obtain ⟨found, committed, earlier, call, rest⟩ := run.of_call
    have version := version_of_split starts (earlier.append call) rest
    rw [commitCount_call rfl uncommitted rfl] at version
    have sound := (sound_from_start starts earlier).1
    exact ⟨_, version, DoubleByteBuffer.latest_of_write fits
      (write_at_once sound fits call uncommitted)⟩
  case prepared =>
    intro front middle back split uncommitted
    rw [split] at run
    obtain ⟨found, committed, earlier, call, rest⟩ := run.of_call
    have version := version_of_split starts (earlier.append call) rest
    rw [commitCount_call rfl uncommitted rfl] at version
    have slot := slot_of_split starts earlier (call.append rest)
    cases call with
    | cons prepares call =>
        obtain ⟨idle, rfl⟩ := prepares
        obtain ⟨filled, stores, commits⟩ := call.of_append
        obtain ⟨prepared, contents⟩ := prepared_of_run rfl stores uncommitted
        cases commits with
        | cons commits nothing =>
            cases nothing
            obtain ⟨writeIdx, same, rfl⟩ := commits
            cases prepared.symm.trans same
            exact ⟨_, _, slot idle, version, contents⟩

/-- A reader next to a writer that stores 5 and 6, then writes 7 and 8, then stores 9. -/
theorem exists_overlapping_run :
    ∃ last : BufferWorld 2, (doubleBufferUse 2 Unit).Run ⟨.reset, .idle, []⟩
      [.prepareWrite, .storeByte 0 5, .readLatest () 2 (some [0, 0]), .storeByte 1 6, .commitWrite,
        .write (some [7, 8]) 2, .copyByte 1, .readLatest () 2 (some [5, 6]), .copyByte 0,
        .commitCopy, .prepareWrite, .storeByte 0 9, .readLatest () 2 (some [7, 8]),
        .commitWrite, .readLatest () 2 (some [9, 6])] last := by
  let slot (first second : UInt8) : Block UInt8 2 := ⟨[first, second], rfl⟩
  let zeros : DoubleByteBuffer 2 := .reset
  let stored := (zeros.setSlot 1 (slot 5 0)).setSlot 1 (slot 5 6)
  let first : BufferWorld 2 := ⟨stored.commitWrite 1, .idle, [slot 5 6]⟩
  let copied := (first.buffer.setSlot 0 (slot 0 8)).setSlot 0 (slot 7 8)
  let second : BufferWorld 2 := ⟨copied.commitWrite 0, .idle, [slot 5 6, slot 7 8]⟩
  let patched := second.buffer.setSlot 1 (slot 9 6)
  let third : BufferWorld 2 :=
    ⟨patched.commitWrite 1, .idle, [slot 5 6, slot 7 8, slot 9 6]⟩
  have stores : (doubleBufferUse 2 Unit).Run ⟨zeros, .idle, []⟩ [.prepareWrite, .storeByte 0 5,
      .readLatest () 2 (some [0, 0]), .storeByte 1 6, .commitWrite] first :=
    .cons ⟨rfl, rfl⟩ (.cons ⟨1, slot 5 0, rfl, rfl, rfl⟩ (.cons ⟨rfl, rfl⟩
      (.cons ⟨1, slot 5 6, rfl, rfl, rfl⟩ (.single ⟨1, rfl, rfl⟩))))
  have begins : (doubleBufferUse 2 Unit).step first (.write (some [7, 8]) 2)
      { first with writer := .copying 0 [7, 8] (Finset.range 2) } := by
    refine ⟨rfl, ?_⟩
    have writeIdx : first.buffer.prepareWrite = 0 := by decide
    rw [if_neg (by decide), writeIdx]
    exact ⟨le_rfl, rfl⟩
  have writes : (doubleBufferUse 2 Unit).Run first [.write (some [7, 8]) 2, .copyByte 1,
      .readLatest () 2 (some [5, 6]), .copyByte 0, .commitCopy] second :=
    .cons begins (.cons ⟨0, [7, 8], Finset.range 2, 8, slot 0 8, rfl, by decide, rfl, rfl, rfl⟩
      (.cons ⟨rfl, rfl⟩
        (.cons ⟨0, [7, 8], {0}, 7, slot 7 8, rfl, by decide, rfl, rfl, rfl⟩
          (.single ⟨0, [7, 8], rfl, rfl⟩))))
  have patches : (doubleBufferUse 2 Unit).Run second [.prepareWrite, .storeByte 0 9,
      .readLatest () 2 (some [7, 8]), .commitWrite, .readLatest () 2 (some [9, 6])] third :=
    .cons ⟨rfl, rfl⟩ (.cons ⟨1, slot 9 6, rfl, rfl, rfl⟩ (.cons ⟨rfl, rfl⟩
      (.cons ⟨1, rfl, rfl⟩ (.single ⟨rfl, rfl⟩))))
  exact ⟨third, stores.append (writes.append patches)⟩

theorem read_latest_answers_last_commit_overlapping :
    ∃ last : BufferWorld 2,
      let start : BufferWorld 2 := ⟨.reset, .idle, []⟩
      let versions := start.buffer.latest :: last.commits
      (∃ contents, versions[1]? = some contents ∧ some [5, 6] = some (contents.bytes.take 2)) ∧
      (∃ (older newer : Nat) (contents laterContents : Block UInt8 2), older ≤ newer ∧
        versions[older]? = some contents ∧ some [5, 6] = some (contents.bytes.take 2) ∧
        versions[newer]? = some laterContents ∧
        some [7, 8] = some (laterContents.bytes.take 2)) ∧
      (∃ contents, versions[2]? = some contents ∧ contents.bytes.take 2 = [7, 8]) ∧
      ∃ held contents : Block UInt8 2, versions[1]? = some held ∧ versions[3]? = some contents ∧
        contents.bytes = held.bytes.set 0 9 := by
  obtain ⟨last, run⟩ := exists_overlapping_run
  obtain ⟨reads, ordered, written, prepared⟩ := read_latest_answers_last_commit ⟨rfl, rfl⟩ run
  let stores : List (BufferAction Unit) := [.prepareWrite, .storeByte 0 5,
    .readLatest () 2 (some [0, 0]), .storeByte 1 6, .commitWrite]
  let copying : List (BufferAction Unit) := [.write (some [7, 8]) 2, .copyByte 1]
  let copied : List (BufferAction Unit) := [.readLatest () 2 (some [5, 6]), .copyByte 0]
  have uncommitted : ∀ action ∈ [.copyByte 1] ++ copied, action.commits = false := by
    simp [copied, BufferAction.commits]
  refine ⟨last, reads (stores ++ copying) _ () 2 _ rfl le_rfl, ?_, ?_, ?_⟩
  · exact ordered (stores ++ copying) [.copyByte 0, .commitCopy, .prepareWrite, .storeByte 0 9] _
      () 2 2 _ _ rfl le_rfl le_rfl
  · exact written stores _ _ [7, 8] 2 rfl uncommitted le_rfl
  · refine prepared (stores ++ copying ++ copied ++ [.commitCopy])
      [.storeByte 0 9, .readLatest () 2 (some [7, 8])] _ rfl ?_
    simp [BufferAction.commits]

end Zenbedded
