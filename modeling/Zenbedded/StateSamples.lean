import Zenbedded.HardwareRuns

/-!
# The samples behind the state interfaces

The state buffer holds the last sample of the right size that the callback got, or zeros
before the first one.  Every read shows the states of that sample or changes nothing, and
samples of another size leave no trace.
-/

namespace Zenbedded

open ZenbeddedHardware

def HardwareWorld.latestSample (world : HardwareWorld) : List UInt8 :=
  let size := world.hardware.schema.stateBufferSize
  ((world.received.filter fun bytes => bytes.length == size).getLast?).getD
    (List.replicate size 0)

/-- Any event but a sample of another size. -/
def HardwareEvent.keeps (size : Nat) : HardwareEvent → Bool
  | .deliver bytes => bytes.length == size
  | _ => true

/-- Worlds that differ at most in the samples that were received. -/
structure AgreeBehindSamples (world other : HardwareWorld) : Prop where
  hardware : world.hardware = other.hardware
  lifecycle : world.lifecycle = other.lifecycle
  published : world.published = other.published

theorem AgreeBehindSamples.trans {first second third : HardwareWorld}
    (front : AgreeBehindSamples first second) (back : AgreeBehindSamples second third) :
    AgreeBehindSamples first third :=
  ⟨front.hardware.trans back.hardware, front.lifecycle.trans back.lifecycle,
    front.published.trans back.published⟩

section Samples

variable {casts : Casts} {yaml : YamlCpp} {files : String → Option String}
  {state command : List FieldSpec} {before after : HardwareWorld}

/-! ## The state buffer -/

theorem latestSample_of_same {world other : HardwareWorld}
    (schema : other.hardware.schema = world.hardware.schema)
    (received : other.received = world.received) : other.latestSample = world.latestSample := by
  simp only [HardwareWorld.latestSample, schema, received]

theorem latestSample_append_of_fits (world : HardwareWorld) {other : HardwareWorld}
    {bytes : List UInt8}
    (schema : other.hardware.schema = world.hardware.schema)
    (received : other.received = world.received ++ [bytes])
    (fits : bytes.length = world.hardware.schema.stateBufferSize) :
    other.latestSample = bytes := by
  simp [HardwareWorld.latestSample, schema, received, List.filter_append, fits]

theorem latestSample_append_of_misfits (world : HardwareWorld) {other : HardwareWorld}
    {bytes : List UInt8}
    (schema : other.hardware.schema = world.hardware.schema)
    (received : other.received = world.received ++ [bytes])
    (misfits : bytes.length ≠ world.hardware.schema.stateBufferSize) :
    other.latestSample = world.latestSample := by
  simp [HardwareWorld.latestSample, schema, received, List.filter_append, misfits]

/-- Every event leaves the latest sample in the state buffer. -/
theorem stateBuffer_tracks (allocated : Allocated state command before.hardware)
    (tracks : before.hardware.stateBuffer = before.latestSample) {event : HardwareEvent}
    (steps : before.next casts event = some after) :
    after.hardware.stateBuffer = after.latestSample := by
  have schema := (allocated.of_next steps).schema.trans allocated.schema.symm
  cases allocated.change steps with
  | onActivate id throws =>
      rw [stateBuffer_onActivate, tracks]
      exact (latestSample_of_same schema rfl).symm
  | onDeactivate => exact tracks.trans (latestSample_of_same schema rfl).symm
  | missed => exact tracks
  | read read =>
      rw [latestSample_of_same schema rfl, ← tracks]
      dsimp only
      rw [read.frame]
  | unpublished => exact tracks
  | published => exact tracks.trans (latestSample_of_same schema rfl).symm
  | unheard => exact tracks
  | dropped _ misfits =>
      exact tracks.trans (latestSample_append_of_misfits before schema rfl misfits).symm
  | stored _ fits => exact (latestSample_append_of_fits before schema rfl fits).symm
  | setCommand index value => exact tracks.trans (latestSample_of_same schema rfl).symm

theorem stateBuffer_eq_latestSample
    (reached : (hardwareSystem casts yaml files).Reachable before) :
    before.hardware.stateBuffer = before.latestSample := by
  induction reached with
  | start starts =>
      obtain ⟨base, parameters, hardware, initialized, rfl⟩ := starts
      obtain ⟨state, command, holds⟩ := onInit_initialized initialized
      rw [holds.stateZero, HardwareWorld.latestSample, holds.schema]
      rfl
  | step reached steps ih =>
      obtain ⟨state, command, allocated⟩ := exists_allocated reached
      exact stateBuffer_tracks allocated ih steps

/-! ## Samples of another size -/

theorem AgreeBehindSamples.next {world other : HardwareWorld}
    (agree : AgreeBehindSamples world other) {event : HardwareEvent}
    (steps : world.next casts event = some after) :
    ∃ next, other.next casts event = some next ∧ AgreeBehindSamples after next := by
  obtain ⟨hardware, lifecycle, received, published⟩ := world
  obtain ⟨otherHardware, otherLifecycle, otherReceived, otherPublished⟩ := other
  obtain ⟨rfl, rfl, rfl⟩ := agree
  cases event with
  | onActivate id throws =>
      cases steps
      exact ⟨_, rfl, rfl, rfl, rfl⟩
  | onDeactivate =>
      cases steps
      exact ⟨_, rfl, rfl, rfl, rfl⟩
  | read hit =>
      obtain ⟨read, readEq, afterEq⟩ := Option.bind_eq_some_iff.mp steps
      cases afterEq
      exact ⟨_, HardwareWorld.next_read readEq, rfl, rfl, rfl⟩
  | write =>
      obtain ⟨⟨written, payload⟩, writeEq, afterEq⟩ := Option.bind_eq_some_iff.mp steps
      cases afterEq
      exact ⟨_, HardwareWorld.next_write writeEq, rfl, rfl, rfl⟩
  | deliver bytes =>
      cases steps
      exact ⟨_, rfl, rfl, rfl, rfl⟩
  | setCommand index value =>
      cases steps
      exact ⟨_, rfl, rfl, rfl, rfl⟩

/-- A sample of another size changes nothing but what was received. -/
theorem agreeBehindSamples_of_misfit {bytes : List UInt8}
    (misfits : bytes.length ≠ before.hardware.schema.stateBufferSize)
    (steps : before.next casts (.deliver bytes) = some after) :
    AgreeBehindSamples after before := by
  cases steps
  refine ⟨?_, rfl, rfl⟩
  unfold deliver stateCallback
  split
  case h_1 => rfl
  case h_2 => exact if_pos misfits

/-- A run without its samples of another size ends in the same hardware. -/
theorem run_without_misfits (allocated : Allocated state command before.hardware)
    {events : List HardwareEvent} {last : HardwareWorld}
    (run : StepSystem.Run (hardwareSystem casts yaml files) before events last) :
    ∃ other, StepSystem.Run (hardwareSystem casts yaml files) before
        (events.filter (HardwareEvent.keeps before.hardware.schema.stateBufferSize)) other ∧
      AgreeBehindSamples last other := by
  have size : before.hardware.schema.stateBufferSize = specsByteSize state := by
    rw [allocated.schema]
    rfl
  rw [size]
  obtain ⟨other, otherRun, agree, -⟩ : ∃ other,
      StepSystem.Run (hardwareSystem casts yaml files) before
        (events.filter (HardwareEvent.keeps (specsByteSize state))) other ∧
      AgreeBehindSamples last other ∧ Allocated state command last.hardware := by
    refine run.skip
      (fun world other => AgreeBehindSamples world other ∧ Allocated state command world.hardware)
      (fun world other after event _ _ related steps => ?kept)
      (fun world other after event _ skips related steps => ?skipped) (fun _ _ => trivial)
      ⟨⟨rfl, rfl, rfl⟩, allocated⟩
    case kept =>
      obtain ⟨next, otherSteps, agree⟩ := related.1.next steps
      exact ⟨next, otherSteps, agree, related.2.of_next steps⟩
    case skipped =>
      refine ⟨?_, related.2.of_next steps⟩
      cases event with
      | deliver bytes =>
          have misfits : bytes.length ≠ world.hardware.schema.stateBufferSize := by
            rw [related.2.schema]
            simpa [HardwareEvent.keeps, InterfaceSchema.ofSpecs] using skips
          exact (agreeBehindSamples_of_misfit misfits steps).trans related.1
      | _ => cases skips
  exact ⟨other, otherRun, agree⟩

/-! ## Reads -/

/-- In every run a read shows the last sample of the right size or nothing new, whatever
samples of other sizes came before it. -/
theorem states_show_one_sample (reached : (hardwareSystem casts yaml files).Reachable before) :
    (∀ hit, ∃ after, before.next casts (.read hit) = some after ∧
      (hit = false → after.hardware = before.hardware) ∧
      (hit = true → after.hardware.ShowsPayload casts before.latestSample)) ∧
    ∀ events last, StepSystem.Run (hardwareSystem casts yaml files) before events last →
      ∃ other, StepSystem.Run (hardwareSystem casts yaml files) before
          (events.filter (HardwareEvent.keeps before.hardware.schema.stateBufferSize)) other ∧
        AgreeBehindSamples last other := by
  obtain ⟨state, command, allocated⟩ := exists_allocated reached
  refine ⟨fun hit => ?_, fun events last run => run_without_misfits allocated run⟩
  cases hit with
  | false =>
      exact ⟨_, HardwareWorld.next_read (read_miss casts _), fun _ => rfl,
        fun hit => absurd hit Bool.false_ne_true⟩
  | true =>
      obtain ⟨hardware, readEq, read⟩ := allocated.read_hit casts
      refine ⟨_, HardwareWorld.next_read readEq, fun miss => absurd miss (by decide), fun _ => ?_⟩
      rw [← stateBuffer_eq_latestSample reached]
      exact allocated.showsPayload_of_read read

end Samples

/-- An arm whose callback got the position 1.5 and then a shorter sample. -/
theorem states_show_one_sample_arm :
    let position : List UInt8 := [0, 0, 0, 0, 0, 0, 0xf8, 0x3f]
    ∃ sampled after,
      armStart.run .ieee [.onActivate 0 none, .deliver position, .deliver [6, 7]] =
          some sampled ∧
        sampled.next .ieee (.read true) = some after ∧
        after.hardware.ShowsPayload .ieee position := by
  intro position
  obtain ⟨sampled, ran, latest⟩ : ∃ sampled,
      armStart.run .ieee [.onActivate 0 none, .deliver position, .deliver [6, 7]] =
          some sampled ∧
        sampled.latestSample = position :=
    ⟨_, rfl, rfl⟩
  have reached : (hardwareSystem .ieee armYaml armFiles).Reachable sampled :=
    (StepSystem.Reachable.start (armStart_starts .ieee)).run (run_of_eq_some ran)
  obtain ⟨after, readEq, -, shown⟩ := (states_show_one_sample reached).1 true
  exact ⟨sampled, after, ran, readEq, latest ▸ shown rfl⟩

end Zenbedded
