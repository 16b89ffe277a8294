import Zenbedded.ClientInitialization
import Zenbedded.DoubleBufferInterleaving

/-!
# Fresh commands

The transport delivers payloads to a client while a control loop watches the counter of
accepted commands and reads a command whenever the counter moved.  The deliveries run
one after another, in steps that interleave with those of the loop: the section of
`prepare_write`, the copied bytes, the section of `commit_write`, the increment.
-/

namespace Zenbedded

open ByteBlock

/-- Where the control loop is in its cycle. -/
inductive ControlLoop
  | waiting
  | reading
  | done
  deriving DecidableEq

/-- The part of a client that deliveries and the control loop share, and both of them. -/
structure CommandFlow (kconfig : Kconfig) where
  cmd : BufferWorld kconfig.maxCmdBufferSize
  /-- A delivery has written its payload and has not counted it yet. -/
  mustCount : Bool
  cmdAcceptedCount : UInt32
  loop : ControlLoop
  /-- The count that the loop saw last. -/
  lastCommandCount : UInt32

inductive FlowAction (Value : Type)
  | deliver (payload : List UInt8)
  | copyByte (offset : Nat)
  | commit
  | count
  | observe (count : UInt32)
  | readCommand (out : Value) (answer : Bool × Value)
  | finish

variable {kconfig : Kconfig} {stateCodec : StateCodec} {commandCodec : CommandCodec}

/-- What `read_command` answers when the command buffer holds a payload. -/
def Decodes (client : ZenbeddedClient kconfig stateCodec commandCodec) (payload : List UInt8)
    (out : commandCodec.Value) (answer : Bool × commandCodec.Value) : Prop :=
  ∃ received : Block UInt8 kconfig.maxCmdBufferSize,
    received.bytes.take client.cmdPayloadSize = payload ∧
    commandCodec.read client.cmdCtx received client.cmdPayloadSize out = some answer

/-- One step.  A delivery of another size ends at once; a loop that sees the count it saw
before does not read. -/
def CommandFlow.Step (client : ZenbeddedClient kconfig stateCodec commandCodec)
    (before : CommandFlow kconfig) :
    FlowAction commandCodec.Value → CommandFlow kconfig → Prop
  | .deliver payload, after =>
      before.cmd.writer = .idle ∧ before.mustCount = false ∧
        if payload.length ≠ client.cmdPayloadSize then
          after = before
        else
          ∃ cmd, before.cmd.Step (.write (some payload) payload.length :
              BufferAction Unit) cmd ∧
            after = { before with
              cmd, mustCount := decide (kconfig.maxCmdBufferSize < payload.length) }
  | .copyByte offset, after =>
      ∃ cmd, before.cmd.Step (.copyByte offset : BufferAction Unit) cmd ∧
        after = { before with cmd }
  | .commit, after =>
      ∃ cmd, before.cmd.Step (.commitCopy : BufferAction Unit) cmd ∧
        after = { before with cmd, mustCount := true }
  | .count, after =>
      before.mustCount = true ∧
        after = { before with
          mustCount := false, cmdAcceptedCount := before.cmdAcceptedCount + 1 }
  | .observe count, after =>
      before.loop = .waiting ∧ count = before.cmdAcceptedCount ∧
        after = if count = before.lastCommandCount then
            { before with loop := .done }
          else
            { before with loop := .reading, lastCommandCount := count }
  | .readCommand out answer, after =>
      before.loop = .reading ∧
        Decodes client (before.cmd.buffer.latest.bytes.take client.cmdPayloadSize) out answer ∧
        after = { before with loop := .done }
  | .finish, after =>
      before.loop = .done ∧ after = { before with loop := .waiting }

/-- The use of a client's commands from its initialization on. -/
def commandFlow (client : ZenbeddedClient kconfig stateCodec commandCodec) :
    StepSystem (CommandFlow kconfig) (FlowAction commandCodec.Value) where
  start flow := flow =
    { cmd := ⟨client.cmdBuffer, .idle, []⟩
      mustCount := false
      cmdAcceptedCount := client.cmdAcceptedCount
      loop := .waiting
      lastCommandCount := 0 }
  step := CommandFlow.Step client

/-! ## What happened in a run -/

structure FlowHistory (Value : Type) where
  /-- The delivered payloads of the expected size, oldest first. -/
  accepted : List (List UInt8)
  /-- The increments of the counter before the loop looked at it last. -/
  observed : Nat
  /-- The increments since then. -/
  since : Nat
  /-- The argument and the answer of the last `read_command`. -/
  lastRead : Option (Value × Bool × Value)

namespace FlowHistory

variable {Value : Type}

def record (size : Nat) (history : FlowHistory Value) : FlowAction Value → FlowHistory Value
  | .deliver payload =>
      if payload.length = size then
        { history with accepted := history.accepted ++ [payload] }
      else
        history
  | .count => { history with since := history.since + 1 }
  | .observe _ => { history with observed := history.observed + history.since, since := 0 }
  | .readCommand out answer => { history with lastRead := some (out, answer) }
  | _ => history

def recordAll (size : Nat) (history : FlowHistory Value) (actions : List (FlowAction Value)) :
    FlowHistory Value :=
  actions.foldl (record size) history

def ofRun (size : Nat) (actions : List (FlowAction Value)) : FlowHistory Value :=
  recordAll size ⟨[], 0, 0, none⟩ actions

def counted (history : FlowHistory Value) : Nat :=
  history.observed + history.since

/-- Every accepted payload was counted, so that none is being delivered. -/
def Quiet (history : FlowHistory Value) : Prop :=
  history.counted = history.accepted.length

end FlowHistory

def FlowAction.delivers {Value : Type} : FlowAction Value → Prop
  | .deliver _ => True
  | .copyByte _ => True
  | .commit => True
  | .count => True
  | _ => False

/-- Fewer increments than the counter can tell apart, between any two looks at it. -/
def FewBetweenCycles {Value : Type} (size : Nat) (actions : List (FlowAction Value)) : Prop :=
  ∀ front, front <+: actions → (FlowHistory.ofRun size front).since < 2 ^ 32

section History

variable {Value : Type} {size : Nat} {history : FlowHistory Value}
  {actions more : List (FlowAction Value)}

theorem ofRun_append : FlowHistory.ofRun size (actions ++ more) =
    (FlowHistory.ofRun size actions).recordAll size more :=
  List.foldl_append

theorem ofRun_concat (action : FlowAction Value) :
    FlowHistory.ofRun size (actions ++ [action]) =
      (FlowHistory.ofRun size actions).record size action :=
  List.foldl_concat ..

variable (size history) in
theorem counted_le_record (action : FlowAction Value) :
    history.counted ≤ (history.record size action).counted ∧
      history.observed ≤ (history.record size action).observed := by
  cases action with
  | deliver payload => simp only [FlowHistory.record]; split <;> exact ⟨le_rfl, le_rfl⟩
  | _ => simp [FlowHistory.record, FlowHistory.counted]

variable (size history actions) in
theorem counted_le_recordAll :
    history.counted ≤ (history.recordAll size actions).counted ∧
      history.observed ≤ (history.recordAll size actions).observed := by
  induction actions generalizing history with
  | nil => exact ⟨le_rfl, le_rfl⟩
  | cons action actions ih =>
      have first := counted_le_record size history action
      have rest := ih (history.record size action)
      exact ⟨first.1.trans rest.1, first.2.trans rest.2⟩

theorem accepted_recordAll_of_loop (onlyLoop : ∀ action ∈ actions, ¬ action.delivers) :
    (history.recordAll size actions).accepted = history.accepted := by
  induction actions generalizing history with
  | nil => rfl
  | cons action actions ih =>
      refine (ih fun other member => onlyLoop other (List.mem_cons_of_mem _ member)).trans ?_
      cases action with
      | deliver payload => exact absurd trivial (onlyLoop _ List.mem_cons_self)
      | _ => rfl

end History

/-! ## What a run keeps track of -/

variable {client : ZenbeddedClient kconfig stateCodec commandCodec}

def committedPayloads (client : ZenbeddedClient kconfig stateCodec commandCodec)
    (flow : CommandFlow kconfig) : List (List UInt8) :=
  flow.cmd.commits.map fun slot => slot.bytes.take client.cmdPayloadSize

/-- The last command read is one of the accepted payloads and none that the loop had
already seen superseded. -/
def ReadUpToDate (client : ZenbeddedClient kconfig stateCodec commandCodec)
    (history : FlowHistory commandCodec.Value) : Prop :=
  history.observed = 0 ∧ history.lastRead = none ∨
    ∃ index payload out answer, history.observed ≤ index + 1 ∧
      history.accepted[index]? = some payload ∧ history.lastRead = some (out, answer) ∧
      Decodes client payload out answer

/-- The state of the flow told by the history of the run. -/
structure FlowTracks (client : ZenbeddedClient kconfig stateCodec commandCodec)
    (history : FlowHistory commandCodec.Value) (flow : CommandFlow kconfig) : Prop where
  sound : flow.cmd.Sound client.cmdBuffer.latest
  accepted : flow.cmd.writer = .idle ∧ history.accepted = committedPayloads client flow ∨
    ∃ writeIdx payload pending, flow.cmd.writer = .copying writeIdx payload pending ∧
      flow.mustCount = false ∧ payload.length = client.cmdPayloadSize ∧
      history.accepted = committedPayloads client flow ++ [payload]
  commits : flow.cmd.commits.length = history.counted + if flow.mustCount then 1 else 0
  count : flow.cmdAcceptedCount = UInt32.ofNat history.counted
  seen : flow.lastCommandCount = UInt32.ofNat history.observed
  reading : flow.loop = .reading → 0 < history.observed
  read : flow.loop ≠ .reading → ReadUpToDate client history

variable {history : FlowHistory commandCodec.Value} {before after : CommandFlow kconfig}

theorem FlowTracks.latest (tracks : FlowTracks client history before)
    (committed : 0 < before.cmd.commits.length) :
    history.accepted[before.cmd.commits.length - 1]? =
      some (before.cmd.buffer.latest.bytes.take client.cmdPayloadSize) := by
  obtain ⟨index, lengthEq⟩ : ∃ index, before.cmd.commits.length = index + 1 :=
    ⟨_, (Nat.succ_pred_eq_of_pos committed).symm⟩
  have latest := tracks.sound.latest
  rw [lengthEq, List.getElem?_cons_succ] at latest
  have shown : (committedPayloads client before)[index]? =
      some (before.cmd.buffer.latest.bytes.take client.cmdPayloadSize) := by
    simp [committedPayloads, latest]
  have inside : index < (committedPayloads client before).length := by
    simp [committedPayloads, lengthEq]
  rw [lengthEq, Nat.add_sub_cancel]
  rcases tracks.accepted with ⟨-, accepted⟩ | ⟨_, _, _, -, -, -, accepted⟩
  · rw [accepted, shown]
  · rw [accepted, List.getElem?_append_left inside, shown]

theorem tracks_start {start : CommandFlow kconfig}
    (starts : (commandFlow client).start start) (zero : client.cmdAcceptedCount = 0) :
    FlowTracks client ⟨[], 0, 0, none⟩ start := by
  obtain rfl := starts
  exact {
    sound := BufferWorld.sound_of_start
      (show (BufferWorld.mk client.cmdBuffer .idle []).writer = .idle from rfl) rfl
    accepted := .inl ⟨rfl, rfl⟩
    commits := rfl
    count := zero
    seen := rfl
    reading := by simp
    read := fun _ => .inl ⟨rfl, rfl⟩ }

section Steps

variable (tracks : FlowTracks client history before)

include tracks

theorem FlowTracks.deliver (fits : client.cmdPayloadSize ≤ kconfig.maxCmdBufferSize)
    {payload : List UInt8} (steps : before.Step client (.deliver payload) after) :
    FlowTracks client (history.record client.cmdPayloadSize (.deliver payload)) after := by
  obtain ⟨idle, allCounted, delivery⟩ := steps
  have quiet : history.accepted = committedPayloads client before := by
    rcases tracks.accepted with ⟨-, accepted⟩ | ⟨_, _, _, copying, -⟩
    · exact accepted
    · cases idle.symm.trans copying
  split at delivery
  case isTrue otherSize =>
    rw [delivery, FlowHistory.record, if_neg otherSize]
    exact tracks
  case isFalse sameSize =>
    rw [not_not] at sameSize
    have roomy : ¬ kconfig.maxCmdBufferSize < payload.length := by omega
    obtain ⟨cmd, written, rfl⟩ := delivery
    have sound := tracks.sound.step written
    obtain ⟨-, started⟩ := written
    rw [if_neg roomy] at started
    obtain ⟨-, rfl⟩ := started
    rw [FlowHistory.record, if_pos sameSize]
    exact {
      sound
      accepted := .inr ⟨_, payload, _, by rw [List.take_length], by simp [roomy], sameSize,
        by rw [quiet]; rfl⟩
      commits := by
        simpa [allCounted, roomy, FlowHistory.counted] using tracks.commits
      count := tracks.count
      seen := tracks.seen
      reading := tracks.reading
      read := fun notReading => by
        rcases tracks.read notReading with none | ⟨index, older, out, answer, covers, olderEq,
          readEq, decodes⟩
        · exact .inl none
        · obtain ⟨inside, -⟩ := List.getElem?_eq_some_iff.mp olderEq
          exact .inr ⟨index, older, out, answer, covers,
            by rw [List.getElem?_append_left inside, olderEq], readEq, decodes⟩ }

theorem FlowTracks.copyByte {offset : Nat}
    (steps : before.Step client (.copyByte offset) after) :
    FlowTracks client history after := by
  obtain ⟨cmd, copied, rfl⟩ := steps
  have sound := tracks.sound.step copied
  obtain ⟨writeIdx, data, pending, byte, slot, copying, -, -, -, rfl⟩ := copied
  refine ⟨sound, ?_, tracks.commits, tracks.count, tracks.seen, tracks.reading, tracks.read⟩
  rcases tracks.accepted with ⟨idle, -⟩ | ⟨_, payload, _, still, notCounted, size, accepted⟩
  · cases idle.symm.trans copying
  · cases still.symm.trans copying
    exact .inr ⟨_, _, _, rfl, notCounted, size, accepted⟩

theorem FlowTracks.commit (steps : before.Step client .commit after) :
    FlowTracks client history after := by
  obtain ⟨cmd, committed, rfl⟩ := steps
  have sound := tracks.sound.step committed
  obtain ⟨writeIdx, data, finished, rfl⟩ := committed
  rcases tracks.accepted with ⟨idle, -⟩ | ⟨_, payload, _, still, notCounted, size, accepted⟩
  case inl => cases idle.symm.trans finished
  cases still.symm.trans finished
  have contents := tracks.sound.copied_all finished
  rw [size] at contents
  have commits := tracks.commits
  simp only [notCounted, Bool.false_eq_true, if_false] at commits
  refine ⟨sound, .inl ⟨rfl, accepted.trans ?_⟩, ?_, tracks.count, tracks.seen, tracks.reading,
    tracks.read⟩
  · simp [committedPayloads, BufferWorld.commit, contents]
  · simp [BufferWorld.commit, commits]

theorem FlowTracks.countStep (steps : before.Step client .count after) :
    FlowTracks client (history.record client.cmdPayloadSize .count) after := by
  obtain ⟨mustCount, rfl⟩ := steps
  have commits := tracks.commits
  simp only [mustCount, if_true, FlowHistory.counted] at commits
  refine ⟨tracks.sound, ?_, ?_, ?_, tracks.seen, tracks.reading, tracks.read⟩
  · rcases tracks.accepted with quiet | ⟨_, _, _, -, notCounted, -⟩
    · exact .inl quiet
    · cases mustCount.symm.trans notCounted
  · simp only [FlowHistory.record, FlowHistory.counted, Bool.false_eq_true, if_false]
    omega
  · rw [tracks.count]
    simp [FlowHistory.record, FlowHistory.counted, ← Nat.add_assoc]

/-- The counter tells apart what the loop saw and what it sees, if few increments lie in
between. -/
theorem FlowTracks.observe (few : history.since < 2 ^ 32) {count : UInt32}
    (steps : before.Step client (.observe count) after) :
    FlowTracks client (history.record client.cmdPayloadSize (.observe count)) after := by
  obtain ⟨waiting, countEq, afterEq⟩ := steps
  rw [tracks.count] at countEq
  have counted : (history.record client.cmdPayloadSize (.observe count)).counted =
      history.counted := by
    simp [FlowHistory.record, FlowHistory.counted]
  split at afterEq
  case isTrue same =>
    have none : history.since = 0 := by
      rw [countEq, tracks.seen, FlowHistory.counted] at same
      have sameNat := congrArg UInt32.toNat same
      simp only [UInt32.toNat_ofNat'] at sameNat
      omega
    have recordSame : history.record client.cmdPayloadSize (.observe count) = history := by
      obtain ⟨accepted, observed, since, lastRead⟩ := history
      obtain rfl : since = 0 := none
      rfl
    rw [recordSame, afterEq]
    exact { tracks with
      reading := by simp
      read := fun _ => tracks.read (by simp [waiting]) }
  case isFalse different =>
    have moved : 0 < history.counted := by
      rw [Nat.pos_iff_ne_zero]
      intro zero
      apply different
      rw [countEq, tracks.seen]
      simp only [FlowHistory.counted] at zero ⊢
      congr 1
      omega
    rw [afterEq]
    exact {
      sound := tracks.sound
      accepted := tracks.accepted
      commits := by rw [counted]; exact tracks.commits
      count := by rw [counted]; exact tracks.count
      seen := countEq
      reading := fun _ => moved
      read := fun notReading => absurd rfl notReading }

/-- Reading shows the last committed payload, which the loop has not seen superseded. -/
theorem FlowTracks.readCommand {out : commandCodec.Value}
    {answer : Bool × commandCodec.Value}
    (steps : before.Step client (.readCommand out answer) after) :
    FlowTracks client (history.record client.cmdPayloadSize (.readCommand out answer)) after ∧
      ∃ index payload, history.counted ≤ index + 1 ∧
        history.accepted[index]? = some payload ∧ Decodes client payload out answer := by
  obtain ⟨reading, decodes, rfl⟩ := steps
  have observed := tracks.reading reading
  have commits := tracks.commits
  have counted : history.observed ≤ history.counted := Nat.le_add_right _ _
  have latest := tracks.latest (by omega)
  refine ⟨{ tracks with
    reading := by simp
    read := fun _ => .inr ⟨_, _, out, answer, ?_, latest, rfl, decodes⟩ },
    _, _, ?_, latest, decodes⟩
  · simp only [FlowHistory.record]
    omega
  · omega

theorem FlowTracks.finish (steps : before.Step client .finish after) :
    FlowTracks client history after := by
  obtain ⟨done, rfl⟩ := steps
  exact { tracks with
    reading := by simp
    read := fun _ => tracks.read (by simp [done]) }

theorem FlowTracks.step (fits : client.cmdPayloadSize ≤ kconfig.maxCmdBufferSize)
    (few : history.since < 2 ^ 32) {action : FlowAction commandCodec.Value}
    (steps : before.Step client action after) :
    FlowTracks client (history.record client.cmdPayloadSize action) after := by
  cases action with
  | deliver payload => exact tracks.deliver fits steps
  | copyByte offset => exact tracks.copyByte steps
  | commit => exact tracks.commit steps
  | count => exact tracks.countStep steps
  | observe count => exact tracks.observe few steps
  | readCommand out answer => exact (tracks.readCommand steps).1
  | finish => exact tracks.finish steps

end Steps

/-! ## Runs -/

section Runs

variable {start last : CommandFlow kconfig}
  (starts : (commandFlow client).start start) (zero : client.cmdAcceptedCount = 0)
  (fits : client.cmdPayloadSize ≤ kconfig.maxCmdBufferSize)
  {actions : List (FlowAction commandCodec.Value)}

include starts zero fits

theorem tracks_of_run (run : (commandFlow client).Run start actions last)
    (few : FewBetweenCycles client.cmdPayloadSize actions) :
    FlowTracks client (.ofRun client.cmdPayloadSize actions) last := by
  refine StepSystem.Run.inductionOnEnd
    (motive := fun labels flow => FewBetweenCycles client.cmdPayloadSize labels →
      FlowTracks client (.ofRun client.cmdPayloadSize labels) flow)
    (fun _ => tracks_start starts zero) ?_ run few
  intro labels before label after _ ih steps few
  have fewBefore : FewBetweenCycles client.cmdPayloadSize labels := fun front isPrefix =>
    few front (isPrefix.trans (List.prefix_append _ _))
  rw [ofRun_concat]
  exact (ih fewBefore).step fits (few labels (List.prefix_append _ _)) steps

/-- The loop reads what the count promised, or something newer. -/
theorem read_covers_count (few : FewBetweenCycles client.cmdPayloadSize actions)
    (run : (commandFlow client).Run start actions last)
    {front middle back : List (FlowAction commandCodec.Value)} {count : UInt32}
    {out : commandCodec.Value} {answer : Bool × commandCodec.Value}
    (split : actions = front ++ .observe count :: (middle ++ .readCommand out answer :: back)) :
    count = UInt32.ofNat (FlowHistory.ofRun client.cmdPayloadSize front).counted ∧
      ∃ index payload,
        (FlowHistory.ofRun client.cmdPayloadSize front).counted ≤ index + 1 ∧
        (FlowHistory.ofRun client.cmdPayloadSize
          (front ++ .observe count :: middle)).accepted[index]? = some payload ∧
        Decodes client payload out answer := by
  have resplit : actions = (front ++ .observe count :: middle) ++
      .readCommand out answer :: back := by
    rw [split, List.append_assoc, List.cons_append]
  have fewFront : FewBetweenCycles client.cmdPayloadSize front := fun other isPrefix =>
    few other (isPrefix.trans (split ▸ List.prefix_append _ _))
  have fewMiddle : FewBetweenCycles client.cmdPayloadSize (front ++ .observe count :: middle) :=
    fun other isPrefix => few other (isPrefix.trans (resplit ▸ List.prefix_append _ _))
  rw [resplit] at run
  obtain ⟨reads, upToRead, rest⟩ := run.of_append
  have tracks := tracks_of_run starts zero fits upToRead fewMiddle
  obtain ⟨looks, upToLook, observing⟩ := upToRead.of_append
  have tracksFront := tracks_of_run starts zero fits upToLook fewFront
  cases observing with
  | cons looking _ =>
      cases rest with
      | cons reading _ =>
          refine ⟨looking.2.1.trans tracksFront.count, ?_⟩
          obtain ⟨-, index, payload, covers, payloadEq, decodes⟩ := tracks.readCommand reading
          refine ⟨index, payload, le_trans ?_ covers, payloadEq, decodes⟩
          rw [ofRun_append]
          exact (counted_le_recordAll _ _ _).1

/-- After a cycle that no delivery overlapped, the loop has read the last payload. -/
theorem cycle_reads_last (few : FewBetweenCycles client.cmdPayloadSize actions)
    (run : (commandFlow client).Run start actions last)
    {front cycle back : List (FlowAction commandCodec.Value)} {count : UInt32}
    (split : actions = front ++ .observe count :: (cycle ++ .finish :: back))
    (quiet : (FlowHistory.ofRun client.cmdPayloadSize front).Quiet)
    (onlyLoop : ∀ action ∈ cycle, ¬ action.delivers) :
    let after := FlowHistory.ofRun client.cmdPayloadSize
      (front ++ .observe count :: (cycle ++ [.finish]))
    after.accepted = [] ∧ after.lastRead = none ∨
      ∃ payload out answer, after.accepted.getLast? = some payload ∧
        after.lastRead = some (out, answer) ∧ Decodes client payload out answer := by
  intro after
  have resplit : actions = (front ++ .observe count :: (cycle ++ [.finish])) ++ back := by
    simp [split]
  have fewCycle : FewBetweenCycles client.cmdPayloadSize
      (front ++ .observe count :: (cycle ++ [.finish])) :=
    fun other isPrefix => few other (isPrefix.trans (resplit ▸ List.prefix_append _ _))
  rw [resplit] at run
  obtain ⟨ends, upToEnd, _⟩ := run.of_append
  have tracks := tracks_of_run starts zero fits upToEnd fewCycle
  have waiting : ends.loop = .waiting := by
    have lastStep : front ++ FlowAction.observe count :: (cycle ++ [.finish]) =
        (front ++ .observe count :: cycle) ++ [.finish] := by simp
    rw [lastStep] at upToEnd
    obtain ⟨before, -, finishing⟩ := upToEnd.of_append
    cases finishing with
    | cons steps rest =>
        cases rest
        rw [steps.2]
  have accepted : after.accepted =
      (FlowHistory.ofRun client.cmdPayloadSize front).accepted := by
    change (FlowHistory.ofRun client.cmdPayloadSize _).accepted = _
    rw [ofRun_append]
    apply accepted_recordAll_of_loop
    intro action member
    rcases List.mem_cons.mp member with rfl | member
    · exact fun delivers => delivers
    rcases List.mem_append.mp member with inCycle | isFinish
    · exact onlyLoop action inCycle
    · rw [List.mem_singleton.mp isFinish]
      exact fun delivers => delivers
  have observed : (FlowHistory.ofRun client.cmdPayloadSize front).counted ≤ after.observed := by
    have cons : front ++ FlowAction.observe count :: (cycle ++ [.finish]) =
        (front ++ [.observe count]) ++ (cycle ++ [.finish]) := by simp
    change _ ≤ (FlowHistory.ofRun client.cmdPayloadSize _).observed
    rw [cons, ofRun_append, ofRun_concat]
    exact (counted_le_recordAll client.cmdPayloadSize
      ((FlowHistory.ofRun client.cmdPayloadSize front).record client.cmdPayloadSize
        (.observe count)) (cycle ++ [.finish])).2
  rw [quiet, ← accepted] at observed
  rcases tracks.read (by simp [waiting]) with ⟨zeroObserved, noRead⟩ |
    ⟨index, payload, out, answer, covers, payloadEq, readEq, decodes⟩
  · have zeroAfter : after.observed = 0 := zeroObserved
    exact .inl ⟨List.length_eq_zero_iff.mp (by omega), noRead⟩
  · obtain ⟨inside, -⟩ := List.getElem?_eq_some_iff.mp payloadEq
    have coversAfter : after.observed ≤ index + 1 := covers
    have insideAfter : index < after.accepted.length := inside
    refine .inr ⟨payload, out, answer, ?_, readEq, decodes⟩
    rw [List.getLast?_eq_getElem?, ← payloadEq]
    congr 1
    omega

end Runs

/-- The counter of accepted commands is a sound freshness signal: it counts the payloads
of the expected size; what the loop reads after it saw a count is at least as new as that
count says; and after a cycle without deliveries the loop has read the last payload. -/
theorem accepted_command_count_is_fresh {UserData : Type} {self : UserData}
    {created client : ZenbeddedClient kconfig stateCodec commandCodec}
    {transport afterTransport : ZenohTransport kconfig RecvCb UserData} {controlFreq : UInt32}
    {stateParams : stateCodec.InitParams} {cmdParams : commandCodec.InitParams}
    {cmdLayoutScratch : Block UInt8 kconfig.maxCmdBufferSize} {outcome : ClientOutcome}
    {status : Int} (fresh : created.initialized = false)
    (initEq : created.init self transport controlFreq stateParams cmdParams cmdLayoutScratch
      outcome = some (status, client, afterTransport))
    (up : client.initialized = true)
    {start last : CommandFlow kconfig} {actions : List (FlowAction commandCodec.Value)}
    (starts : (commandFlow client).start start)
    (run : (commandFlow client).Run start actions last)
    (few : FewBetweenCycles client.cmdPayloadSize actions) :
    let history := FlowHistory.ofRun client.cmdPayloadSize
    (last.cmdAcceptedCount = UInt32.ofNat (history actions).counted ∧
      (last.cmd.writer = .idle ∧ last.mustCount = false ↔
        (history actions).counted = (history actions).accepted.length)) ∧
    (∀ front middle back count out answer,
      actions = front ++ .observe count :: (middle ++ .readCommand out answer :: back) →
      count = UInt32.ofNat (history front).counted ∧
        ∃ index payload, (history front).counted ≤ index + 1 ∧
          (history (front ++ .observe count :: middle)).accepted[index]? = some payload ∧
          Decodes client payload out answer) ∧
    ∀ front cycle back count,
      actions = front ++ .observe count :: (cycle ++ .finish :: back) →
      (history front).Quiet → (∀ action ∈ cycle, ¬ action.delivers) →
      let after := history (front ++ .observe count :: (cycle ++ [.finish]))
      after.accepted = [] ∧ after.lastRead = none ∨
        ∃ payload out answer, after.accepted.getLast? = some payload ∧
          after.lastRead = some (out, answer) ∧ Decodes client payload out answer := by
  intro history
  obtain ⟨_, _, _, _, _, _, _, _, _, _, fits, _, _, zero⟩ :=
    created.init_up self transport controlFreq outcome fresh initEq up
  have tracks := tracks_of_run starts zero fits run few
  refine ⟨⟨tracks.count, ?idle⟩, ?covers, ?cycles⟩
  case covers =>
    intro front middle back count out answer split
    exact read_covers_count starts zero fits few run split
  case cycles =>
    intro front cycle back count split quiet onlyLoop
    exact cycle_reads_last starts zero fits few run split quiet onlyLoop
  case idle =>
    have commits := tracks.commits
    have shown : (committedPayloads client last).length = last.cmd.commits.length := by
      simp [committedPayloads]
    rcases tracks.accepted with ⟨idle, accepted⟩ | ⟨_, _, _, copying, notCounted, -, accepted⟩
    · simp only [idle, true_and, accepted, shown, history, commits]
      cases last.mustCount <;> simp
    · simp only [copying, reduceCtorEq, false_and, false_iff, history, accepted,
        List.length_append, shown, commits, notCounted]
      simp

/-- A client to which the command 7 is delivered while its loop looks at the counter, and the
cycle that reads it. -/
theorem exists_byte_flow :
    let created : ZenbeddedClient (Kconfig.default .tier2) (RawCodec.state 1)
      (RawCodec.command 1) := .construct
    let seven : (RawCodec.command 1).Value := (⟨[7], rfl⟩ : Block UInt8 1)
    ∃ status client afterTransport start last,
      created.init () .zero 1000 () () (Block.filled _ 0)
          ⟨⟨true, true, true, true, []⟩, ⟨true, true, [], []⟩, ⟨true, true, [], []⟩⟩ =
        some (status, client, afterTransport) ∧
      client.initialized = true ∧ client.cmdPayloadSize = 1 ∧
      (commandFlow client).start start ∧
      (commandFlow client).Run start [.observe 0, .deliver [7], .finish, .copyByte 0, .commit,
        .count, .observe 1, .readCommand (Block.filled 1 0) (true, seven), .finish] last := by
  intro created seven
  have runs : (created.init () .zero 1000 () () (Block.filled _ 0)
      ⟨⟨true, true, true, true, []⟩, ⟨true, true, [], []⟩, ⟨true, true, [], []⟩⟩).map
        (fun result =>
          (result.2.1.initialized, result.2.1.cmdPayloadSize, result.2.1.cmdAcceptedCount)) =
      some (true, 1, 0) := by
    decide +kernel
  obtain ⟨⟨status, client, afterTransport⟩, initEq, facts⟩ := Option.map_eq_some_iff.mp runs
  obtain ⟨up, sizes⟩ := Prod.mk.inj facts
  obtain ⟨size, zero⟩ := Prod.mk.inj sizes
  simp only at up size zero
  obtain ⟨slot, stored⟩ := Block.exists_store
    (client.cmdBuffer.buffer client.cmdBuffer.prepareWrite) 0 [7] (by decide)
  let writeIdx := client.cmdBuffer.prepareWrite
  let idle : BufferWorld (Kconfig.default .tier2).maxCmdBufferSize :=
    ⟨client.cmdBuffer, .idle, []⟩
  let copying := { idle with writer := .copying writeIdx [7] (Finset.range 1) }
  let copied : BufferWorld (Kconfig.default .tier2).maxCmdBufferSize :=
    ⟨client.cmdBuffer.setSlot writeIdx slot, .copying writeIdx [7] ∅, []⟩
  let shown := copied.commit writeIdx
  have looks : (commandFlow client).step ⟨idle, false, 0, .waiting, 0⟩ (.observe 0)
      ⟨idle, false, 0, .done, 0⟩ := ⟨rfl, rfl, rfl⟩
  have delivers : (commandFlow client).step ⟨idle, false, 0, .done, 0⟩ (.deliver [7])
      ⟨copying, false, 0, .done, 0⟩ := by
    refine ⟨rfl, rfl, ?_⟩
    rw [if_neg (by simp [size])]
    refine ⟨copying, ⟨rfl, ?_⟩, rfl⟩
    rw [if_neg (by decide)]
    exact ⟨le_rfl, rfl⟩
  have finishes : (commandFlow client).step ⟨copying, false, 0, .done, 0⟩ .finish
      ⟨copying, false, 0, .waiting, 0⟩ := ⟨rfl, rfl⟩
  have copies : (commandFlow client).step ⟨copying, false, 0, .waiting, 0⟩ (.copyByte 0)
      ⟨copied, false, 0, .waiting, 0⟩ :=
    ⟨copied, ⟨writeIdx, [7], Finset.range 1, 7, slot, rfl, by decide, rfl, stored, rfl⟩, rfl⟩
  have commits : (commandFlow client).step ⟨copied, false, 0, .waiting, 0⟩ .commit
      ⟨shown, true, 0, .waiting, 0⟩ := ⟨shown, ⟨writeIdx, [7], rfl, rfl⟩, rfl⟩
  have counts : (commandFlow client).step ⟨shown, true, 0, .waiting, 0⟩ .count
      ⟨shown, false, 1, .waiting, 0⟩ := ⟨rfl, rfl⟩
  have looksAgain : (commandFlow client).step ⟨shown, false, 1, .waiting, 0⟩ (.observe 1)
      ⟨shown, false, 1, .reading, 1⟩ := ⟨rfl, rfl, rfl⟩
  have latest : shown.buffer.latest = slot := DoubleByteBuffer.latest_commitWrite_setSlot ..
  have contents : slot.bytes.take 1 = [7] := by
    rw [(Block.store_eq_some_iff.mp stored).2]
    rfl
  have decodes : Decodes client (shown.buffer.latest.bytes.take client.cmdPayloadSize)
      (Block.filled 1 0) (true, seven) := by
    refine ⟨slot, by rw [latest], ?_⟩
    rw [size]
    exact rawCodec_read client.cmdCtx (by decide) contents (Block.filled 1 0)
  have reads : (commandFlow client).step ⟨shown, false, 1, .reading, 1⟩
      (.readCommand (Block.filled 1 0) (true, seven)) ⟨shown, false, 1, .done, 1⟩ :=
    ⟨rfl, decodes, rfl⟩
  refine ⟨status, client, afterTransport, ⟨idle, false, 0, .waiting, 0⟩,
    ⟨shown, false, 1, .waiting, 1⟩, initEq, up, size, ?_, ?_⟩
  · exact congrArg (CommandFlow.mk idle false · .waiting 0) zero.symm
  · exact .cons looks (.cons delivers (.cons finishes (.cons copies (.cons commits (.cons counts
      (.cons looksAgain (.cons reads (.single ⟨rfl, rfl⟩))))))))

theorem accepted_command_count_is_fresh_byte :
    let seven : (RawCodec.command 1).Value := (⟨[7], rfl⟩ : Block UInt8 1)
    ∃ (client : ZenbeddedClient (Kconfig.default .tier2) (RawCodec.state 1) (RawCodec.command 1))
      (start last : CommandFlow (Kconfig.default .tier2)),
      (commandFlow client).Run start [.observe 0, .deliver [7], .finish, .copyByte 0, .commit,
        .count, .observe 1, .readCommand (Block.filled 1 0) (true, seven), .finish] last ∧
      last.cmdAcceptedCount = 1 ∧
      (∃ (index : Nat) (payload : List UInt8), 1 ≤ index + 1 ∧ [[7]][index]? = some payload ∧
        Decodes client payload (Block.filled 1 0) (true, seven)) ∧
      ∃ payload, [[7]].getLast? = some payload ∧
        Decodes client payload (Block.filled 1 0) (true, seven) := by
  intro seven
  obtain ⟨status, client, afterTransport, start, last, initEq, up, size, starts, run⟩ :=
    exists_byte_flow
  let delivery : List (FlowAction (RawCodec.command 1).Value) :=
    [.observe 0, .deliver [7], .finish, .copyByte 0, .commit, .count]
  let cycle : List (FlowAction (RawCodec.command 1).Value) :=
    [.readCommand (Block.filled 1 0) (true, seven)]
  let actions := delivery ++ .observe 1 :: (cycle ++ [.finish])
  have few : FewBetweenCycles client.cmdPayloadSize actions := by
    rintro front ⟨rest, restEq⟩
    rw [size]
    have counted := (counted_le_recordAll 1 (FlowHistory.ofRun 1 front) rest).1
    rw [← ofRun_append, restEq] at counted
    have total : (FlowHistory.ofRun 1 actions).counted = 1 := rfl
    rw [total] at counted
    simp only [FlowHistory.counted] at counted
    omega
  obtain ⟨⟨counted, -⟩, covers, cycles⟩ :=
    accepted_command_count_is_fresh rfl initEq up starts run few
  rw [size] at counted covers cycles
  obtain ⟨-, covered⟩ := covers delivery [] [.finish] 1 _ _ rfl
  have onlyLoop : ∀ action ∈ cycle, ¬ action.delivers := by
    simp [cycle, FlowAction.delivers]
  refine ⟨client, start, last, run, counted, covered, ?_⟩
  rcases cycles delivery cycle [] 1 rfl rfl onlyLoop with ⟨none, -⟩ | lastRead
  · cases none
  · obtain ⟨payload, out, answer, isLast, readEq, decodes⟩ := lastRead
    cases readEq
    exact ⟨payload, isLast, decodes⟩

end Zenbedded
