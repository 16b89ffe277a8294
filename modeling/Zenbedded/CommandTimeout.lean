import Zenbedded.CommandFreshness

/-!
# Control loops that time their commands out

The firmware of the pendulum looks at the counter of accepted commands once in a cycle.  It
reads a command when the counter moved, and gives the last one up after 20 further cycles.
The rest of its cycle is a parameter.
-/

namespace Zenbedded

def kControlPeriodMs : UInt32 := 10
def kCommandTimeoutMs : UInt32 := 200
def kCommandTimeoutCycles : UInt32 := kCommandTimeoutMs / kControlPeriodMs

/-- What a control loop does in a cycle, apart from the look at the counter. -/
structure LoopBody (Value : Type) where
  /-- The variables of the loop. -/
  Motion : Type
  /-- What the sensors and the clocks answer in a cycle. -/
  Sensors : Type
  /-- The published state. -/
  State : Type
  /-- What the drivers answer in a cycle. -/
  Answers : Type
  /-- A call of a driver. -/
  Call : Type
  sense : Sensors → Motion → State × Motion
  command : Value → Motion → Option Motion
  timeOut : Motion → Motion
  drive : Answers → Motion → List Call × Motion

variable {kconfig : Kconfig} {stateCodec : StateCodec} {commandCodec : CommandCodec}

structure TimedLoop (kconfig : Kconfig) (Motion : Type) where
  flow : CommandFlow kconfig
  /-- The loop has started. -/
  entered : Bool
  cyclesSinceCommand : UInt32
  motion : Motion

inductive LoopAction {Value : Type} (body : LoopBody Value)
  | transport (action : FlowAction Value)
  | enter
  | look (sensors : body.Sensors) (state : body.State) (count : UInt32)
  | readCommand (out : Value) (answer : Bool × Value)
  | drive (answers : body.Answers) (calls : List body.Call)

/-- One step.  The part of a cycle before the look touches nothing that deliveries touch. -/
def TimedLoop.Step (client : ZenbeddedClient kconfig stateCodec commandCodec)
    (body : LoopBody commandCodec.Value) (before : TimedLoop kconfig body.Motion) :
    LoopAction body → TimedLoop kconfig body.Motion → Prop
  | .transport action, after =>
      action.delivers ∧
        ∃ flow, before.flow.Step client action flow ∧ after = { before with flow }
  | .enter, after =>
      before.entered = false ∧
        after = { before with
          entered := true
          flow := { before.flow with lastCommandCount := before.flow.cmdAcceptedCount } }
  | .look sensors state count, after =>
      before.entered = true ∧
        ∃ flow motion, before.flow.Step client (.observe count) flow ∧
          body.sense sensors before.motion = (state, motion) ∧
          after =
            if count ≠ before.flow.lastCommandCount then
              { before with flow, motion, cyclesSinceCommand := 0 }
            else if before.cyclesSinceCommand < kCommandTimeoutCycles then
              { before with flow, motion, cyclesSinceCommand := before.cyclesSinceCommand + 1 }
            else
              { before with flow, motion := body.timeOut motion }
  | .readCommand out answer, after =>
      ∃ flow motion, before.flow.Step client (.readCommand out answer) flow ∧
        (if answer.1 then body.command answer.2 before.motion else some before.motion) =
          some motion ∧
        after = { before with flow, motion }
  | .drive answers calls, after =>
      ∃ flow motion, before.flow.Step client .finish flow ∧
        body.drive answers before.motion = (calls, motion) ∧
        after = { before with flow, motion }

def timedLoop (client : ZenbeddedClient kconfig stateCodec commandCodec)
    (body : LoopBody commandCodec.Value) (initial : body.Motion → Prop) :
    StepSystem (TimedLoop kconfig body.Motion) (LoopAction body) where
  start world := (commandFlow client).start world.flow ∧ world.entered = false ∧
    world.cyclesSinceCommand = 0 ∧ initial world.motion
  step := TimedLoop.Step client body

/-! ## What happened in a run -/

variable {Value : Type} {body : LoopBody Value}

/-- The payload of the expected size that a step brings. -/
def FlowAction.brings (size : Nat) : FlowAction Value → List (List UInt8)
  | .deliver payload => if payload.length = size then [payload] else []
  | _ => []

namespace LoopAction

def brings (size : Nat) : LoopAction body → List (List UInt8)
  | .transport action => action.brings size
  | _ => []

def reads : LoopAction body → Option Value
  | .readCommand _ (true, value) => some value
  | _ => none

def shows : LoopAction body → Option body.State
  | .look _ state _ => some state
  | _ => none

/-- The looks at the counter behind its last increment. -/
def looksAfterCount (looks : Nat) : LoopAction body → Nat
  | .transport .count => 0
  | .look .. => looks + 1
  | _ => looks

/-- The looks at the counter behind the last command that was read. -/
def looksAfterRead (looks : Nat) : LoopAction body → Nat
  | .readCommand _ (true, _) => 0
  | .look .. => looks + 1
  | _ => looks

end LoopAction

def deliveredPayloads (size : Nat) (actions : List (LoopAction body)) : List (List UInt8) :=
  actions.flatMap (LoopAction.brings size)

def lastRead (actions : List (LoopAction body)) : Option Value :=
  (actions.filterMap LoopAction.reads).getLast?

def lastShown (actions : List (LoopAction body)) : Option body.State :=
  (actions.filterMap LoopAction.shows).getLast?

def looksSinceCount (actions : List (LoopAction body)) : Nat :=
  actions.foldl LoopAction.looksAfterCount 0

def looksSinceRead (actions : List (LoopAction body)) : Nat :=
  actions.foldl LoopAction.looksAfterRead 0

theorem deliveredPayloads_concat (size : Nat) (actions : List (LoopAction body))
    (action : LoopAction body) :
    deliveredPayloads size (actions ++ [action]) =
      deliveredPayloads size actions ++ action.brings size := by
  simp [deliveredPayloads]

theorem looksSinceCount_concat (actions : List (LoopAction body)) (action : LoopAction body) :
    looksSinceCount (actions ++ [action]) = action.looksAfterCount (looksSinceCount actions) :=
  List.foldl_concat ..

theorem looksSinceRead_concat (actions : List (LoopAction body)) (action : LoopAction body) :
    looksSinceRead (actions ++ [action]) = action.looksAfterRead (looksSinceRead actions) :=
  List.foldl_concat ..

theorem getLast?_filterMap_concat {α β : Type} (keeps : α → Option β) (items : List α) (item : α) :
    ((items ++ [item]).filterMap keeps).getLast? =
      (keeps item).or (items.filterMap keeps).getLast? := by
  rw [List.filterMap_append]
  cases kept : keeps item with
  | none => simp [kept]
  | some value => simp [kept]

theorem lastRead_concat (actions : List (LoopAction body)) (action : LoopAction body) :
    lastRead (actions ++ [action]) = action.reads.or (lastRead actions) :=
  getLast?_filterMap_concat ..

theorem lastShown_concat (actions : List (LoopAction body)) (action : LoopAction body) :
    lastShown (actions ++ [action]) = action.shows.or (lastShown actions) :=
  getLast?_filterMap_concat ..

/-! ## What the loop reads -/

section Reading

variable {client : ZenbeddedClient kconfig stateCodec commandCodec}
  {body : LoopBody commandCodec.Value} {initial : body.Motion → Prop}
  {payloads : List (List UInt8)} {before after : CommandFlow kconfig}

/-- The command buffer holds payloads that came; before the first one the loop reads nothing. -/
structure Supplied (client : ZenbeddedClient kconfig stateCodec commandCodec)
    (payloads : List (List UInt8)) (flow : CommandFlow kconfig) : Prop where
  sound : flow.cmd.Sound client.cmdBuffer.latest
  shown : ∀ slot ∈ flow.cmd.commits, slot.bytes.take client.cmdPayloadSize ∈ payloads
  copying : ∀ writeIdx data pending, flow.cmd.writer = .copying writeIdx data pending →
    data ∈ payloads ∧ data.length = client.cmdPayloadSize
  unseen : flow.cmd.commits = [] → flow.mustCount = false ∧ flow.cmdAcceptedCount = 0 ∧
    flow.lastCommandCount = 0 ∧ flow.loop ≠ .reading

theorem Supplied.mono (supplied : Supplied client payloads before)
    {more : List (List UInt8)} (grows : payloads ⊆ more) : Supplied client more before where
  sound := supplied.sound
  shown slot isShown := grows (supplied.shown slot isShown)
  copying writeIdx data pending isCopying :=
    ⟨grows (supplied.copying writeIdx data pending isCopying).1,
      (supplied.copying writeIdx data pending isCopying).2⟩
  unseen := supplied.unseen

theorem supplied_start (zero : client.cmdAcceptedCount = 0)
    (starts : (commandFlow client).start before) : Supplied client [] before := by
  cases starts
  constructor
  case sound => exact @BufferWorld.sound_of_start _ ⟨client.cmdBuffer, .idle, []⟩ rfl rfl
  case shown => simp
  case copying => simp
  case unseen => exact fun _ => ⟨rfl, zero, rfl, by simp⟩

theorem Supplied.deliver (supplied : Supplied client payloads before)
    (fits : client.cmdPayloadSize ≤ kconfig.maxCmdBufferSize) {payload : List UInt8}
    (steps : before.Step client (.deliver payload) after) :
    Supplied client
      (payloads ++ if payload.length = client.cmdPayloadSize then [payload] else []) after := by
  obtain ⟨idle, notCounted, delivered⟩ := steps
  split at delivered
  case isTrue misfit =>
    rw [if_neg misfit, List.append_nil, delivered]
    exact supplied
  case isFalse same =>
    have same : payload.length = client.cmdPayloadSize := not_not.mp same
    rw [if_pos same]
    obtain ⟨cmd, writes, rfl⟩ := delivered
    have sound := supplied.sound.step writes
    have small : ¬ kconfig.maxCmdBufferSize < payload.length := by omega
    obtain ⟨-, written⟩ := writes
    rw [if_neg small] at written
    obtain ⟨-, rfl⟩ := written
    refine ⟨sound, fun slot isShown => ?_, ?_, fun none => ?_⟩
    · exact List.mem_append_left _ (supplied.shown slot isShown)
    · rintro _ _ _ ⟨⟩
      rw [List.take_length]
      exact ⟨List.mem_append_right _ (List.mem_singleton_self _), same⟩
    · obtain ⟨-, rest⟩ := supplied.unseen none
      exact ⟨decide_eq_false small, rest⟩

theorem Supplied.step (supplied : Supplied client payloads before)
    (fits : client.cmdPayloadSize ≤ kconfig.maxCmdBufferSize)
    {action : FlowAction commandCodec.Value} (steps : before.Step client action after) :
    Supplied client (payloads ++ action.brings client.cmdPayloadSize) after := by
  cases action with
  | deliver payload => exact supplied.deliver fits steps
  | copyByte offset =>
      change Supplied client (payloads ++ []) _
      rw [List.append_nil]
      obtain ⟨cmd, copies, rfl⟩ := steps
      have sound := supplied.sound.step copies
      obtain ⟨writeIdx, data, pending, byte, slot, isCopying, -, -, -, rfl⟩ := copies
      refine ⟨sound, supplied.shown, ?_, supplied.unseen⟩
      rintro _ _ _ ⟨⟩
      exact supplied.copying writeIdx data pending isCopying
  | commit =>
      change Supplied client (payloads ++ []) _
      rw [List.append_nil]
      obtain ⟨cmd, commits, rfl⟩ := steps
      have sound := supplied.sound.step commits
      obtain ⟨writeIdx, data, isCopying, rfl⟩ := commits
      obtain ⟨came, length⟩ := supplied.copying writeIdx data ∅ isCopying
      refine ⟨sound, fun slot isShown => ?_, ?_, ?_⟩
      · rcases List.mem_append.mp isShown with earlier | isLast
        · exact supplied.shown slot earlier
        · rw [List.mem_singleton.mp isLast, ← length, supplied.sound.copied_all isCopying]
          exact came
      · rintro _ _ _ ⟨⟩
      · intro none
        simp [BufferWorld.commit] at none
  | count =>
      change Supplied client (payloads ++ []) _
      rw [List.append_nil]
      obtain ⟨mustCount, rfl⟩ := steps
      refine ⟨supplied.sound, supplied.shown, supplied.copying, fun none => ?_⟩
      cases mustCount.symm.trans (supplied.unseen none).1
  | observe count =>
      change Supplied client (payloads ++ []) _
      rw [List.append_nil]
      obtain ⟨-, countEq, rfl⟩ := steps
      split
      case isTrue =>
        refine ⟨supplied.sound, supplied.shown, supplied.copying, fun none => ?_⟩
        obtain ⟨notCounted, accepted, seen, -⟩ := supplied.unseen none
        exact ⟨notCounted, accepted, seen, by simp⟩
      case isFalse moved =>
        refine ⟨supplied.sound, supplied.shown, supplied.copying, fun none => ?_⟩
        obtain ⟨-, accepted, seen, -⟩ := supplied.unseen none
        rw [countEq, accepted, seen] at moved
        exact absurd rfl moved
  | readCommand out answer =>
      change Supplied client (payloads ++ []) _
      rw [List.append_nil]
      obtain ⟨-, -, rfl⟩ := steps
      refine ⟨supplied.sound, supplied.shown, supplied.copying, fun none => ?_⟩
      obtain ⟨notCounted, accepted, seen, -⟩ := supplied.unseen none
      exact ⟨notCounted, accepted, seen, by simp⟩
  | finish =>
      change Supplied client (payloads ++ []) _
      rw [List.append_nil]
      obtain ⟨-, rfl⟩ := steps
      refine ⟨supplied.sound, supplied.shown, supplied.copying, fun none => ?_⟩
      obtain ⟨notCounted, accepted, seen, -⟩ := supplied.unseen none
      exact ⟨notCounted, accepted, seen, by simp⟩

theorem Supplied.read (supplied : Supplied client payloads before) {out : commandCodec.Value}
    {answer : Bool × commandCodec.Value}
    (steps : before.Step client (.readCommand out answer) after) :
    ∃ payload ∈ payloads, Decodes client payload out answer := by
  obtain ⟨reading, decodes, -⟩ := steps
  refine ⟨_, ?_, decodes⟩
  have latest := supplied.sound.latest
  rcases List.eq_nil_or_concat before.cmd.commits with none | ⟨earlier, slot, commits⟩
  · exact absurd reading (supplied.unseen none).2.2.2
  · have isLast : before.cmd.buffer.latest = slot := by
      rw [commits] at latest
      simpa using latest.symm
    rw [isLast]
    exact supplied.shown slot (by simp [commits])

end Reading

end Zenbedded
