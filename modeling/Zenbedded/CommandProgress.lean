import Mathlib.Data.Finset.Basic
import Zenbedded.CommandTimeoutRuns

/-!
# Progress of the control loops

Whatever happened before, a command that is delivered while the loop waits can be read in the
next cycle.
-/

namespace Zenbedded

open ByteBlock

/-- A counter that was seen is not run into by the next increment. -/
theorem next_ne_self (count : UInt32) : count + 1 ≠ count := by
  intro same
  have toNat := congrArg UInt32.toNat same
  rw [UInt32.toNat_add, UInt32.toNat_one] at toNat
  have bounded := count.toNat_lt
  omega

section Progress

variable {kconfig : Kconfig} {stateCodec : StateCodec} {commandCodec : CommandCodec}
  {client : ZenbeddedClient kconfig stateCodec commandCodec}
  {body : LoopBody commandCodec.Value} {initial : body.Motion → Prop}
  {before : TimedLoop kconfig body.Motion} {contents : Block UInt8 kconfig.maxCmdBufferSize}

theorem exists_copied {writeIdx : Fin 2} {data : List UInt8} {pending : Finset Nat}
    (sound : before.flow.cmd.Sound contents)
    (copying : before.flow.cmd.writer = .copying writeIdx data pending) :
    ∃ actions cmd,
      (timedLoop client body initial).Run before actions
        { before with flow := { before.flow with cmd } } ∧
      cmd.Sound contents ∧ cmd.writer = .copying writeIdx data ∅ ∧
      deliveredPayloads client.cmdPayloadSize actions = [] := by
  induction pending using Finset.induction generalizing before with
  | empty => exact ⟨[], before.flow.cmd, .nil before, sound, copying, rfl⟩
  | insert offset pending fresh ih =>
      obtain ⟨fits, inside, -⟩ := sound.copied writeIdx data _ copying
      have offsetLt := inside offset (Finset.mem_insert_self offset pending)
      obtain ⟨slot, stored⟩ := Block.exists_store (before.flow.cmd.buffer.buffer writeIdx)
        offset [data[offset]] (by simp; omega)
      let copied : BufferWorld kconfig.maxCmdBufferSize :=
        { before.flow.cmd with
          buffer := before.flow.cmd.buffer.setSlot writeIdx slot
          writer := .copying writeIdx data ((insert offset pending).erase offset) }
      have copies : before.flow.cmd.Step (.copyByte offset : BufferAction Unit) copied :=
        ⟨writeIdx, data, _, data[offset], slot, copying, Finset.mem_insert_self offset pending,
          List.getElem?_eq_getElem offsetLt, stored, rfl⟩
      have steps : (timedLoop client body initial).step before (.transport (.copyByte offset))
          { before with flow := { before.flow with cmd := copied } } :=
        ⟨trivial, _, ⟨copied, copies, rfl⟩, rfl⟩
      obtain ⟨actions, cmd, run, soundAfter, done, none⟩ :=
        @ih { before with flow := { before.flow with cmd := copied } } (sound.step copies)
          (by simp only [copied, Finset.erase_insert fresh])
      exact ⟨_, cmd, .cons steps run, soundAfter, done, none⟩

theorem exists_delivered (sound : before.flow.cmd.Sound contents)
    (idle : before.flow.cmd.writer = .idle) (allCounted : before.flow.mustCount = false)
    (fits : client.cmdPayloadSize ≤ kconfig.maxCmdBufferSize) {payload : List UInt8}
    (size : payload.length = client.cmdPayloadSize) :
    ∃ actions cmd,
      (timedLoop client body initial).Run before actions
        { before with
          flow := { before.flow with
            cmd, cmdAcceptedCount := before.flow.cmdAcceptedCount + 1 } } ∧
      cmd.buffer.latest.bytes.take client.cmdPayloadSize = payload ∧
      deliveredPayloads client.cmdPayloadSize actions = [payload] := by
  have small : ¬ kconfig.maxCmdBufferSize < payload.length := by omega
  let writeIdx := before.flow.cmd.buffer.prepareWrite
  let started : BufferWorld kconfig.maxCmdBufferSize :=
    { before.flow.cmd with
      writer := .copying writeIdx (payload.take payload.length) (Finset.range payload.length) }
  have writes : before.flow.cmd.Step
      (.write (some payload) payload.length : BufferAction Unit) started := by
    refine ⟨idle, ?_⟩
    rw [if_neg small]
    exact ⟨le_rfl, rfl⟩
  have delivers : (timedLoop client body initial).step before (.transport (.deliver payload))
      { before with flow := { before.flow with cmd := started } } := by
    refine ⟨trivial, { before.flow with cmd := started }, ⟨idle, allCounted, ?_⟩, rfl⟩
    rw [if_neg (not_not.mpr size)]
    refine ⟨started, writes, ?_⟩
    rw [decide_eq_false small, ← allCounted]
  obtain ⟨copies, copied, copiesRun, soundCopied, finished, none⟩ :=
    @exists_copied _ _ _ client body initial
      { before with flow := { before.flow with cmd := started } } contents _ _ _
      (sound.step writes) rfl
  have commits : (timedLoop client body initial).step
      { before with flow := { before.flow with cmd := copied } } (.transport .commit)
      { before with
        flow := { before.flow with cmd := copied.commit writeIdx, mustCount := true } } :=
    ⟨trivial, _, ⟨_, ⟨writeIdx, _, finished, rfl⟩, rfl⟩, rfl⟩
  have counts : (timedLoop client body initial).step
      { before with
        flow := { before.flow with cmd := copied.commit writeIdx, mustCount := true } }
      (.transport .count)
      { before with
        flow := { before.flow with
          cmd := copied.commit writeIdx
          cmdAcceptedCount := before.flow.cmdAcceptedCount + 1 } } := by
    refine ⟨trivial, _, ⟨rfl, rfl⟩, ?_⟩
    simp only [allCounted]
  refine ⟨.transport (.deliver payload) :: (copies ++ [.transport .commit, .transport .count]),
    copied.commit writeIdx,
    .cons delivers (copiesRun.append (.cons commits (.single counts))), ?_, ?_⟩
  · have contents := soundCopied.copied_all finished
    rw [List.take_length] at contents
    rw [← size]
    simpa [BufferWorld.commit, DoubleByteBuffer.latest, DoubleByteBuffer.commitWrite]
      using contents
  · have brings : (LoopAction.transport (.deliver payload) : LoopAction body).brings
        client.cmdPayloadSize = [payload] := if_pos size
    have split := none
    simp only [deliveredPayloads, List.flatMap_cons, List.flatMap_append, brings] at split ⊢
    rw [split]
    rfl

/-- A payload that decodes to a command is driven by the next cycle. -/
theorem exists_driven (sound : before.flow.cmd.Sound contents)
    (idle : before.flow.cmd.writer = .idle) (allCounted : before.flow.mustCount = false)
    (fits : client.cmdPayloadSize ≤ kconfig.maxCmdBufferSize) (entered : before.entered = true)
    (waiting : before.flow.loop = .waiting)
    (unseen : before.flow.cmdAcceptedCount + 1 ≠ before.flow.lastCommandCount)
    {payload : List UInt8} (size : payload.length = client.cmdPayloadSize)
    {out : commandCodec.Value} {good : commandCodec.Value → Prop}
    (decodes : ∀ received : Block UInt8 kconfig.maxCmdBufferSize,
      received.bytes.take client.cmdPayloadSize = payload →
      ∃ value, commandCodec.read client.cmdCtx received client.cmdPayloadSize out =
        some (true, value) ∧ good value)
    (sensors : body.Sensors) (answers : body.Answers)
    (commands : ∀ value motion, good value → ∃ next, body.command value motion = some next) :
    ∃ delivery state count value motion after,
      good value ∧
      body.command value (body.sense sensors before.motion).2 = some motion ∧
      deliveredPayloads client.cmdPayloadSize delivery = [payload] ∧
      (timedLoop client body initial).Run before
        (delivery ++ [.look sensors state count, .readCommand out (true, value),
          .drive answers (body.drive answers motion).1]) after ∧
      after.entered = true ∧ after.flow.loop = .waiting ∧
      after.flow.cmdAcceptedCount = after.flow.lastCommandCount := by
  obtain ⟨delivery, cmd, delivered, latest, brings⟩ :=
    @exists_delivered _ _ _ client body initial before contents sound idle allCounted fits
      payload size
  obtain ⟨value, readEq, isGood⟩ := decodes cmd.buffer.latest latest
  obtain ⟨state, sensed⟩ : ∃ state, (body.sense sensors before.motion).1 = state := ⟨_, rfl⟩
  obtain ⟨motion, commandEq⟩ := commands value (body.sense sensors before.motion).2 isGood
  let flow : CommandFlow kconfig :=
    { before.flow with cmd, cmdAcceptedCount := before.flow.cmdAcceptedCount + 1 }
  let reading : TimedLoop kconfig body.Motion :=
    { before with
      flow := { flow with loop := .reading, lastCommandCount := flow.cmdAcceptedCount }
      cyclesSinceCommand := 0
      motion := (body.sense sensors before.motion).2 }
  have looks : (timedLoop client body initial).step { before with flow }
      (.look sensors state flow.cmdAcceptedCount) reading := by
    refine ⟨entered, reading.flow, reading.motion, ⟨waiting, rfl, ?_⟩, Prod.ext sensed rfl, ?_⟩
    · rw [if_neg unseen]
    · rw [if_pos unseen]
  have reads : (timedLoop client body initial).step reading (.readCommand out (true, value))
      { reading with flow := { reading.flow with loop := .done }, motion } :=
    ⟨_, motion, ⟨rfl, ⟨cmd.buffer.latest, rfl, readEq⟩, rfl⟩, commandEq, rfl⟩
  have drives : (timedLoop client body initial).step
      { reading with flow := { reading.flow with loop := .done }, motion }
      (.drive answers (body.drive answers motion).1)
      { reading with
        flow := { reading.flow with loop := .waiting }
        motion := (body.drive answers motion).2 } :=
    ⟨_, _, ⟨rfl, rfl⟩, rfl, rfl⟩
  exact ⟨delivery, state, _, value, motion, _, isGood, commandEq, brings,
    delivered.append (.cons looks (.cons reads (.single drives))), entered, rfl, rfl⟩

theorem exists_idle_cycle (entered : before.entered = true)
    (waiting : before.flow.loop = .waiting)
    (seen : before.flow.cmdAcceptedCount = before.flow.lastCommandCount)
    (sensors : body.Sensors) (answers : body.Answers) :
    ∃ state count calls after,
      (timedLoop client body initial).Run before
        [.look sensors state count, .drive answers calls] after := by
  obtain ⟨state, sensed⟩ : ∃ state, (body.sense sensors before.motion).1 = state := ⟨_, rfl⟩
  obtain ⟨looked, looks, done⟩ : ∃ looked,
      (timedLoop client body initial).step before
        (.look sensors state before.flow.cmdAcceptedCount) looked ∧
        looked.flow.loop = .done := by
    refine ⟨_, ⟨entered, { before.flow with loop := .done }, _, ⟨waiting, rfl, (if_pos seen).symm⟩,
      Prod.ext sensed rfl, rfl⟩, ?_⟩
    rw [if_neg (not_not.mpr seen)]
    split <;> rfl
  have drives : (timedLoop client body initial).step looked
      (.drive answers (body.drive answers looked.motion).1)
      { looked with
        flow := { looked.flow with loop := .waiting }
        motion := (body.drive answers looked.motion).2 } :=
    ⟨_, _, ⟨done, rfl⟩, rfl, rfl⟩
  exact ⟨state, _, _, _, .cons looks (.single drives)⟩

end Progress

end Zenbedded
