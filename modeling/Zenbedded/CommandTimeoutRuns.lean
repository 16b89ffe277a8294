import Zenbedded.CommandTimeoutSteps

/-!
# Runs of control loops with a timeout

What the steps preserve told of whole runs, by what was delivered, looked at and read in them.
-/

namespace Zenbedded

variable {kconfig : Kconfig} {stateCodec : StateCodec} {commandCodec : CommandCodec}

section Runs

variable {client : ZenbeddedClient kconfig stateCodec commandCodec}
  {body : LoopBody commandCodec.Value} {initial : body.Motion → Prop}

/-- What a command that was read makes of the motion, until another one is read. -/
structure LoopBody.Follows {Value : Type} (body : LoopBody Value) (initial : body.Motion → Prop)
    (follows : Option Value → body.Motion → Prop) : Prop where
  initial : ∀ motion, initial motion → follows none motion
  command : ∀ old value motion next, follows old motion →
    body.command value motion = some next → follows (some value) next
  timeOut : ∀ read motion, follows read motion → follows read (body.timeOut motion)
  sense : ∀ read sensors motion, follows read motion → follows read (body.sense sensors motion).2
  drive : ∀ read answers motion, follows read motion → follows read (body.drive answers motion).2

theorem follows_step {follows : Option commandCodec.Value → body.Motion → Prop}
    (laws : body.Follows initial follows) {read : Option commandCodec.Value}
    {before after : TimedLoop kconfig body.Motion} {action : LoopAction body}
    (holds : follows read before.motion) (steps : before.Step client body action after) :
    follows (action.reads.or read) after.motion := by
  cases action with
  | transport action =>
      obtain ⟨-, flow, -, rfl⟩ := steps
      exact holds
  | enter =>
      obtain ⟨-, rfl⟩ := steps
      exact holds
  | look sensors state count =>
      obtain ⟨-, flow, motion, -, senses, afterEq⟩ := steps
      have sensed := laws.sense read sensors before.motion holds
      rw [senses] at sensed
      rw [afterEq]
      split
      · exact sensed
      · split
        · exact sensed
        · exact laws.timeOut read motion sensed
  | readCommand out answer =>
      obtain ⟨flow, motion, -, commands, rfl⟩ := steps
      obtain ⟨accepted, value⟩ := answer
      cases accepted with
      | true => exact laws.command read value before.motion motion holds commands
      | false =>
          cases commands
          exact holds
  | drive answers calls =>
      obtain ⟨flow, motion, -, drives, rfl⟩ := steps
      have driven := laws.drive read answers before.motion holds
      rwa [drives] at driven

/-- What a cycle publishes tells of the motion until the next one. -/
structure LoopBody.Shows {Value : Type} (body : LoopBody Value)
    (shows : body.State → body.Motion → Prop) : Prop where
  sense : ∀ sensors motion, shows (body.sense sensors motion).1 (body.sense sensors motion).2
  timeOut : ∀ state motion, shows state motion → shows state (body.timeOut motion)
  command : ∀ state value motion next, shows state motion →
    body.command value motion = some next → shows state next
  drive : ∀ state answers motion, shows state motion → shows state (body.drive answers motion).2

theorem shows_step {shows : body.State → body.Motion → Prop} (laws : body.Shows shows)
    {shown : Option body.State} {before after : TimedLoop kconfig body.Motion}
    {action : LoopAction body} (holds : ∀ state, shown = some state → shows state before.motion)
    (steps : before.Step client body action after) :
    ∀ state, action.shows.or shown = some state → shows state after.motion := by
  cases action with
  | transport action =>
      obtain ⟨-, flow, -, rfl⟩ := steps
      exact holds
  | enter =>
      obtain ⟨-, rfl⟩ := steps
      exact holds
  | look sensors state count =>
      obtain ⟨-, flow, motion, -, senses, afterEq⟩ := steps
      rintro _ ⟨⟩
      have sensed := laws.sense sensors before.motion
      rw [senses] at sensed
      rw [afterEq]
      split
      · exact sensed
      · split
        · exact sensed
        · exact laws.timeOut state motion sensed
  | readCommand out answer =>
      obtain ⟨flow, motion, -, commands, rfl⟩ := steps
      obtain ⟨accepted, value⟩ := answer
      intro state isShown
      cases accepted with
      | true => exact laws.command state value before.motion motion (holds state isShown) commands
      | false =>
          cases commands
          exact holds state isShown
  | drive answers calls =>
      obtain ⟨flow, motion, -, drives, rfl⟩ := steps
      intro state isShown
      have driven := laws.drive state answers before.motion (holds state isShown)
      rwa [drives] at driven

structure LoopBody.Stays {Value : Type} (body : LoopBody Value) (admitted : Value → Prop)
    (stays : body.Motion → Prop) : Prop where
  sense : ∀ sensors motion, stays motion → stays (body.sense sensors motion).2
  timeOut : ∀ motion, stays motion → stays (body.timeOut motion)
  command : ∀ value motion next, admitted value → stays motion →
    body.command value motion = some next → stays next
  drive : ∀ answers motion, stays motion → stays (body.drive answers motion).2

theorem stays_of_run {admitted : commandCodec.Value → Prop} {stays : body.Motion → Prop}
    (laws : body.Stays admitted stays) {first last : TimedLoop kconfig body.Motion}
    {actions : List (LoopAction body)}
    (run : (timedLoop client body initial).Run first actions last)
    (all : ∀ action ∈ actions, ∀ value, action.reads = some value → admitted value)
    (holds : stays first.motion) : stays last.motion := by
  refine @StepSystem.Run.preserves _ _ _ (fun world => stays world.motion) _ ?_ _ _ _ run all holds
  intro before action after reads holds steps
  cases action with
  | transport action =>
      obtain ⟨-, flow, -, rfl⟩ := steps
      exact holds
  | enter =>
      obtain ⟨-, rfl⟩ := steps
      exact holds
  | look sensors state count =>
      obtain ⟨-, flow, motion, -, senses, afterEq⟩ := steps
      have sensed := laws.sense sensors before.motion holds
      rw [senses] at sensed
      rw [afterEq]
      split
      · exact sensed
      · split
        · exact sensed
        · exact laws.timeOut motion sensed
  | readCommand out answer =>
      obtain ⟨flow, motion, -, commands, rfl⟩ := steps
      obtain ⟨accepted, value⟩ := answer
      cases accepted with
      | true => exact laws.command value before.motion motion (reads value rfl) holds commands
      | false =>
          cases commands
          exact holds
  | drive answers calls =>
      obtain ⟨flow, motion, -, drives, rfl⟩ := steps
      have driven := laws.drive answers before.motion holds
      rwa [drives] at driven

/-- A condition that no command ends. -/
structure LoopBody.Latches {Value : Type} (body : LoopBody Value)
    (latched : body.Motion → Prop) : Prop where
  sense : ∀ sensors motion, latched motion → latched (body.sense sensors motion).2
  command : ∀ value motion next, latched motion → body.command value motion = some next →
    latched next
  drive : ∀ answers motion, latched motion → latched (body.drive answers motion).2

theorem latched_step {latched : body.Motion → Prop} (laws : body.Latches latched)
    {holds : commandCodec.Value → body.Motion → Prop} {read : Option commandCodec.Value}
    {looks : Nat} {before after : TimedLoop kconfig body.Motion}
    (kept : Kept holds read looks before) {value : commandCodec.Value} (isRead : read = some value)
    {action : LoopAction body} (inForce : action.looksAfterRead looks ≤ 20)
    (isLatched : latched before.motion) (steps : before.Step client body action after) :
    latched after.motion := by
  cases action with
  | transport action =>
      obtain ⟨-, flow, -, rfl⟩ := steps
      exact isLatched
  | enter =>
      obtain ⟨-, rfl⟩ := steps
      exact isLatched
  | look sensors state count =>
      obtain ⟨-, flow, motion, -, senses, afterEq⟩ := steps
      have sensed := laws.sense sensors before.motion isLatched
      rw [senses] at sensed
      have few : looks + 1 ≤ 20 := inForce
      obtain ⟨-, cycles⟩ := kept.kept value isRead (by omega)
      have early : before.cyclesSinceCommand < kCommandTimeoutCycles :=
        UInt32.lt_iff_toNat_lt.mpr (show _ < 20 by omega)
      rw [if_pos early] at afterEq
      rw [afterEq]
      split <;> exact sensed
  | readCommand out answer =>
      obtain ⟨flow, motion, -, commands, rfl⟩ := steps
      obtain ⟨accepted, value⟩ := answer
      cases accepted with
      | true => exact laws.command value before.motion motion isLatched commands
      | false =>
          cases commands
          exact isLatched
  | drive answers calls =>
      obtain ⟨flow, motion, -, drives, rfl⟩ := steps
      have driven := laws.drive answers before.motion isLatched
      rwa [drives] at driven

variable {start last : TimedLoop kconfig body.Motion}
  (starts : (timedLoop client body initial).start start) {actions : List (LoopAction body)}

include starts

theorem timed_of_run {resting : body.Motion → Prop} (rests : body.Rests resting)
    (run : (timedLoop client body initial).Run start actions last) :
    Timed resting (looksSinceCount actions) last := by
  refine run.inductionOnEnd (motive := fun actions world =>
    Timed resting (looksSinceCount actions) world) ?_ ?_
  · obtain ⟨-, -, zero, -⟩ := starts
    refine ⟨?_, by simp [looksSinceCount], by simp [looksSinceCount],
      by simp [looksSinceCount], by simp [looksSinceCount]⟩
    rw [zero]
    decide
  · intro actions before action after _ timed steps
    rw [looksSinceCount_concat]
    exact timed.step rests steps

theorem kept_of_run {holds : commandCodec.Value → body.Motion → Prop} (keeps : body.Keeps holds)
    (run : (timedLoop client body initial).Run start actions last) :
    Kept holds (lastRead actions) (looksSinceRead actions) last := by
  refine run.inductionOnEnd (motive := fun actions world =>
    Kept holds (lastRead actions) (looksSinceRead actions) world) ?_ ?_
  · obtain ⟨flow, -, zero, -⟩ := starts
    exact ⟨fun _ => zero, fun value isRead => by cases isRead⟩
  · intro actions before action after _ kept steps
    rw [lastRead_concat, looksSinceRead_concat]
    exact kept.step keeps steps

theorem latched_of_run {latched : body.Motion → Prop} (laws : body.Latches latched)
    {holds : commandCodec.Value → body.Motion → Prop} (keeps : body.Keeps holds)
    {front back : List (LoopAction body)} {middle : TimedLoop kconfig body.Motion}
    (earlier : (timedLoop client body initial).Run start front middle)
    (later : (timedLoop client body initial).Run middle back last)
    (hasRead : lastRead front ≠ none)
    (inForce : ∀ shorter, shorter <+: back → looksSinceRead (front ++ shorter) ≤ 20)
    (isLatched : latched middle.motion) : latched last.motion := by
  refine later.inductionOnEnd (motive := fun back world =>
    (∀ shorter, shorter <+: back → looksSinceRead (front ++ shorter) ≤ 20) →
      latched world.motion) (fun _ => isLatched) ?_ inForce
  intro actions before action after run ih steps inForce
  have kept := kept_of_run starts keeps (earlier.append run)
  obtain ⟨value, isRead⟩ : ∃ value, lastRead (front ++ actions) = some value := by
    rw [← Option.ne_none_iff_exists']
    simp only [lastRead, List.filterMap_append, ne_eq, List.getLast?_eq_none_iff,
      List.append_eq_nil_iff, not_and_or] at hasRead ⊢
    exact .inl hasRead
  have few := inForce (actions ++ [action]) List.prefix_rfl
  rw [← List.append_assoc, looksSinceRead_concat] at few
  refine latched_step laws kept isRead few (ih fun shorter isPrefix => ?_) steps
  exact inForce shorter (isPrefix.trans (List.prefix_append _ _))

theorem follows_of_run {follows : Option commandCodec.Value → body.Motion → Prop}
    (laws : body.Follows initial follows)
    (run : (timedLoop client body initial).Run start actions last) :
    follows (lastRead actions) last.motion := by
  refine run.inductionOnEnd (motive := fun actions world =>
    follows (lastRead actions) world.motion) (laws.initial _ starts.2.2.2) ?_
  intro actions before action after _ holds steps
  rw [lastRead_concat]
  exact follows_step laws holds steps

omit starts in
theorem shown_of_run {shows : body.State → body.Motion → Prop} (laws : body.Shows shows)
    (run : (timedLoop client body initial).Run start actions last) :
    ∀ state, lastShown actions = some state → shows state last.motion := by
  refine run.inductionOnEnd (motive := fun actions world =>
    ∀ state, lastShown actions = some state → shows state world.motion) ?_ ?_
  · rintro _ ⟨⟩
  · intro actions before action after _ holds steps
    rw [lastShown_concat]
    exact shows_step laws holds steps

theorem exists_shown_of_run (run : (timedLoop client body initial).Run start actions last) :
    last.flow.loop ≠ .waiting → ∃ state, lastShown actions = some state := by
  refine run.inductionOnEnd (motive := fun actions world =>
    world.flow.loop ≠ .waiting → ∃ state, lastShown actions = some state) ?_ ?_
  · intro looked
    obtain ⟨flow, -⟩ := starts
    exact absurd (congrArg CommandFlow.loop flow) looked
  · intro actions before action after _ holds steps
    rw [lastShown_concat]
    cases action with
    | transport action =>
        obtain ⟨delivers, flow, flowSteps, rfl⟩ := steps
        obtain ⟨loop, -, -⟩ := frame_of_delivers delivers flowSteps
        intro looked
        exact holds fun waiting => looked (loop.trans waiting)
    | enter =>
        obtain ⟨-, rfl⟩ := steps
        exact holds
    | look sensors state count => exact fun _ => ⟨state, rfl⟩
    | readCommand out answer =>
        obtain ⟨flow, motion, ⟨reading, -⟩, -⟩ := steps
        exact fun _ => holds (by simp [reading])
    | drive answers calls =>
        obtain ⟨flow, motion, ⟨-, rfl⟩, -, rfl⟩ := steps
        exact fun looked => absurd rfl looked

theorem supplied_of_run (zero : client.cmdAcceptedCount = 0)
    (fits : client.cmdPayloadSize ≤ kconfig.maxCmdBufferSize)
    (run : (timedLoop client body initial).Run start actions last) :
    Supplied client (deliveredPayloads client.cmdPayloadSize actions) last.flow := by
  refine run.inductionOnEnd (motive := fun actions world =>
    Supplied client (deliveredPayloads client.cmdPayloadSize actions) world.flow)
    (supplied_start zero starts.1) ?_
  intro actions before action after _ supplied steps
  rw [deliveredPayloads_concat]
  have keeps {flow : CommandFlow kconfig} {own : FlowAction commandCodec.Value}
      (silent : own.brings client.cmdPayloadSize = [])
      (flowSteps : before.flow.Step client own flow) :
      Supplied client (deliveredPayloads client.cmdPayloadSize actions ++ []) flow :=
    silent ▸ supplied.step fits flowSteps
  cases action with
  | transport action =>
      obtain ⟨-, flow, flowSteps, rfl⟩ := steps
      exact supplied.step fits flowSteps
  | enter =>
      obtain ⟨-, rfl⟩ := steps
      refine ⟨supplied.sound, ?_, ?_, fun none => ?_⟩
      · simpa [LoopAction.brings] using supplied.shown
      · simpa [LoopAction.brings] using supplied.copying
      · obtain ⟨notCounted, accepted, -, loop⟩ := supplied.unseen none
        exact ⟨notCounted, accepted, accepted, loop⟩
  | look sensors state count =>
      obtain ⟨-, flow, motion, flowSteps, -, afterEq⟩ := steps
      have flowEq : after.flow = flow := by
        rw [afterEq]
        split
        · rfl
        · split <;> rfl
      rw [flowEq]
      exact keeps rfl flowSteps
  | readCommand out answer =>
      obtain ⟨flow, motion, flowSteps, -, rfl⟩ := steps
      exact keeps rfl flowSteps
  | drive answers calls =>
      obtain ⟨flow, motion, flowSteps, -, rfl⟩ := steps
      exact keeps rfl flowSteps

/-- What the loop reads is a payload of the expected size that was delivered before. -/
theorem read_of_split (zero : client.cmdAcceptedCount = 0)
    (fits : client.cmdPayloadSize ≤ kconfig.maxCmdBufferSize)
    {front back : List (LoopAction body)} {out : commandCodec.Value}
    {answer : Bool × commandCodec.Value}
    (run : (timedLoop client body initial).Run start
      (front ++ .readCommand out answer :: back) last) :
    ∃ payload ∈ deliveredPayloads client.cmdPayloadSize front,
      Decodes client payload out answer := by
  obtain ⟨world, earlier, rest⟩ := run.of_append
  have supplied := supplied_of_run starts zero fits earlier
  cases rest with
  | cons steps rest =>
      obtain ⟨flow, motion, flowSteps, -⟩ := steps
      exact supplied.read flowSteps

end Runs

/-- A cycle that looked drives what the motion before it tells. -/
theorem drive_of_split {client : ZenbeddedClient kconfig stateCodec commandCodec}
    {body : LoopBody commandCodec.Value} {initial : body.Motion → Prop}
    {start last : TimedLoop kconfig body.Motion} {front back : List (LoopAction body)}
    {answers : body.Answers} {calls : List body.Call}
    (run : (timedLoop client body initial).Run start (front ++ .drive answers calls :: back) last) :
    ∃ world, (timedLoop client body initial).Run start front world ∧
      world.flow.loop = .done ∧ calls = (body.drive answers world.motion).1 ∧
      ∃ driven, (timedLoop client body initial).step world (.drive answers calls) driven ∧
        driven.motion = (body.drive answers world.motion).2 ∧
        (timedLoop client body initial).Run driven back last := by
  obtain ⟨world, earlier, rest⟩ := run.of_append
  cases rest with
  | cons steps rest =>
      have same := steps
      obtain ⟨flow, motion, ⟨looked, -⟩, drives, drivenEq⟩ := same
      exact ⟨world, earlier, looked, by rw [drives], _, steps, by rw [drives, drivenEq], rest⟩

/-- A read command is the last one at the end of a run, with the run up to it. -/
theorem split_of_lastRead {body : LoopBody commandCodec.Value} {actions : List (LoopAction body)}
    {value : commandCodec.Value} (last : lastRead actions = some value) :
    ∃ front out back, actions = front ++ .readCommand out (true, value) :: back ∧
      ∀ action ∈ back, action.reads = none := by
  induction actions using List.reverseRecOn with
  | nil => cases last
  | append_singleton actions action ih =>
      rw [lastRead_concat] at last
      cases reads : action.reads with
      | none =>
          rw [reads, Option.none_or] at last
          obtain ⟨front, out, back, rfl, rest⟩ := ih last
          refine ⟨front, out, back ++ [action], by simp, fun other member => ?_⟩
          rcases List.mem_append.mp member with earlier | isLast
          · exact rest other earlier
          · rw [List.mem_singleton.mp isLast, reads]
      | some read =>
          rw [reads, Option.some_or, Option.some.injEq] at last
          subst last
          cases action with
          | readCommand out answer =>
              obtain ⟨accepted, answered⟩ := answer
              cases accepted with
              | true =>
                  cases reads
                  exact ⟨actions, out, [], rfl, by simp⟩
              | false => cases reads
          | _ => cases reads

end Zenbedded
