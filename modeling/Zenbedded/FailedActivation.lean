import Zenbedded.HardwareRuns

/-!
# Failed activations

An activation that fails leaves the members that it had already assigned.  Before the
session is opened there are none; behind it the session stays, and with it, from the
second half on, a subscriber whose callback goes on filling the state buffer.
-/

namespace Zenbedded

open ZenbeddedHardware

def HardwareEvent.IsActivation : HardwareEvent → Prop
  | .onActivate _ _ => True
  | _ => False

def HardwareEvent.isDelivery : HardwareEvent → Bool
  | .deliver _ => true
  | _ => false

structure Disconnected (hw : ZenbeddedHardware) : Prop where
  session : hw.session = none
  stateSub : hw.stateSub = none
  commandPub : hw.commandPub = none

/-- A failed activation of a disconnected hardware leaves it so, and no later sample
makes a difference. -/
structure LeavesNothing (casts : Casts) (before after : HardwareWorld) : Prop where
  unconnected : Disconnected before.hardware
  disconnected : Disconnected after.hardware
  samples : ∀ (events : List HardwareEvent) (last : HardwareWorld),
    (∀ event ∈ events, ¬ event.IsActivation) → after.run casts events = some last →
      after.run casts (events.filter fun event => !event.isDelivery) = some last

/-- The steps up to the opening of the session. -/
def ActivationStep.OpensNothing : ActivationStep → Prop
  | .config | .session => True
  | .stateKeyexpr | .subscriber | .commandKeyexpr | .publisher => False

section Failures

variable {casts : Casts} {yaml : YamlCpp} {files : String → Option String}
  {state command : List FieldSpec} {before after : HardwareWorld}

theorem Disconnected.next (allocated : Allocated state command before.hardware)
    (disconnected : Disconnected before.hardware) {event : HardwareEvent}
    (noActivation : ¬ event.IsActivation) (steps : before.next casts event = some after) :
    Disconnected after.hardware := by
  cases allocated.change steps with
  | onActivate id throws => exact absurd trivial noActivation
  | onDeactivate => exact ⟨rfl, rfl, rfl⟩
  | missed => exact disconnected
  | read read =>
      rw [read.frame]
      exact ⟨disconnected.session, disconnected.stateSub, disconnected.commandPub⟩
  | unpublished => exact disconnected
  | published declared => exact absurd disconnected.commandPub declared
  | unheard => exact disconnected
  | dropped subscribed => exact absurd disconnected.stateSub subscribed
  | stored subscribed => exact absurd disconnected.stateSub subscribed
  | setCommand index value =>
      exact ⟨disconnected.session, disconnected.stateSub, disconnected.commandPub⟩

theorem Disconnected.deliver (allocated : Allocated state command before.hardware)
    (disconnected : Disconnected before.hardware) {bytes : List UInt8}
    (steps : before.next casts (.deliver bytes) = some after) : after = before := by
  cases allocated.change steps with
  | unheard => rfl
  | dropped subscribed => exact absurd disconnected.stateSub subscribed
  | stored subscribed => exact absurd disconnected.stateSub subscribed

/-- A disconnected hardware goes on as if there were no samples. -/
theorem Disconnected.run_without_samples (allocated : Allocated state command before.hardware)
    (disconnected : Disconnected before.hardware) {events : List HardwareEvent}
    (noActivation : ∀ event ∈ events, ¬ event.IsActivation)
    (run : StepSystem.Run (hardwareSystem casts yaml files) before events after) :
    StepSystem.Run (hardwareSystem casts yaml files) before
      (events.filter fun event => !event.isDelivery) after := by
  obtain ⟨last, lastRun, rfl, -⟩ : ∃ last,
      StepSystem.Run (hardwareSystem casts yaml files) before
        (events.filter fun event => !event.isDelivery) last ∧
      after = last ∧ Allocated state command after.hardware ∧ Disconnected after.hardware := by
    refine run.skip
      (fun world other => world = other ∧
        Allocated state command world.hardware ∧ Disconnected world.hardware)
      (fun world other next event noActivation _ related steps => ?kept)
      (fun world other next event noActivation skips related steps => ?skipped)
      noActivation ⟨rfl, allocated, disconnected⟩
    case kept =>
      obtain ⟨rfl, worldAllocated, worldDisconnected⟩ := related
      exact ⟨next, steps, rfl, worldAllocated.of_next steps,
        worldDisconnected.next worldAllocated noActivation steps⟩
    case skipped =>
      cases event with
      | deliver bytes =>
          obtain rfl := related.2.2.deliver related.2.1 steps
          exact related
      | _ => cases skips
  exact lastRun

theorem lifecycleAfter_ne_inactive (result : CallbackReturn) :
    HardwareWorld.lifecycleAfter result ≠ .inactive := by
  cases result <;> decide

theorem disconnected_of_inactive (reached : (managedSystem casts yaml files).Reachable before)
    (inactive : before.lifecycle = .inactive) : Disconnected before.hardware := by
  induction reached with
  | start starts =>
      obtain ⟨base, parameters, hardware, initialized, rfl⟩ := starts
      obtain ⟨state, command, holds⟩ := onInit_initialized initialized
      exact ⟨holds.session, holds.stateSub, holds.commandPub⟩
  | @step before after event reached steps ih =>
      obtain ⟨state, command, allocated⟩ := exists_allocated reached.of_restrict
      obtain ⟨-, stepEq⟩ := steps
      cases allocated.change stepEq with
      | onActivate id throws => exact absurd inactive (lifecycleAfter_ne_inactive _)
      | onDeactivate => exact ⟨rfl, rfl, rfl⟩
      | _ =>
          refine (ih inactive).next allocated ?_ stepEq
          exact not_false

/-- Behind the opening of the session a failure leaves the session. -/
theorem session_of_failure {step : ActivationStep} (opened : ¬ step.OpensNothing) (id : Nat)
    (hw : ZenbeddedHardware) : (hw.onActivate id (some step)).1.session ≠ none := by
  cases step with
  | config => exact absurd trivial opened
  | session => exact absurd trivial opened
  | stateKeyexpr => exact Option.some_ne_none _
  | subscriber => exact Option.some_ne_none _
  | commandKeyexpr => exact Option.some_ne_none _
  | publisher => exact Option.some_ne_none _

theorem onActivate_of_failure {step : ActivationStep} (id : Nat) (hw : ZenbeddedHardware) :
    (hw.onActivate id (some step)).2 = .error := by
  cases step <;> rfl

theorem onActivate_of_opensNothing {step : ActivationStep} (nothing : step.OpensNothing)
    (id : Nat) (hw : ZenbeddedHardware) : (hw.onActivate id (some step)).1 = hw := by
  cases step with
  | config => rfl
  | session => rfl
  | stateKeyexpr | subscriber | commandKeyexpr | publisher => cases nothing

/-- In every managed run an activation that answers with an error leaves nothing exactly if
no step behind the opening of the session throws. -/
theorem failed_activation_leaves_nothing_iff
    (reached : (managedSystem casts yaml files).Reachable before) {id : Nat}
    {throws : Option ActivationStep} (called : before.Calls (.onActivate id throws))
    (activates : before.next casts (.onActivate id throws) = some after) :
    ((before.hardware.onActivate id throws).2 = .error → LeavesNothing casts before after) ↔
      ∀ step, throws = some step → step.OpensNothing := by
  have disconnected := disconnected_of_inactive reached called
  obtain ⟨state, command, allocated⟩ := exists_allocated reached.of_restrict
  have afterAllocated := allocated.of_next activates
  cases activates
  constructor
  · rintro left step rfl
    by_contra opened
    exact session_of_failure opened id before.hardware
      (left (onActivate_of_failure id before.hardware)).disconnected.session
  · intro opensNothing failed
    cases throws with
    | none => cases failed
    | some step =>
        have same := onActivate_of_opensNothing (opensNothing step rfl) id before.hardware
        have still : Disconnected (before.hardware.onActivate id (some step)).1 :=
          same.symm ▸ disconnected
        refine ⟨disconnected, still, fun events last noActivation ran => ?_⟩
        exact run_eq_some_of_run (still.run_without_samples afterAllocated noActivation
          (run_of_eq_some ran : StepSystem.Run (hardwareSystem casts yaml files) _ _ _))

end Failures

theorem failed_activation_leaves_nothing_arm :
    ∃ after, armStart.next .ieee (.onActivate 0 (some .session)) = some after ∧
      LeavesNothing .ieee armStart after := by
  have reached : (managedSystem .ieee armYaml armFiles).Reachable armStart :=
    .start (armStart_starts .ieee)
  exact ⟨_, rfl, (failed_activation_leaves_nothing_iff reached rfl rfl).mpr
    (by rintro step ⟨⟩; trivial) rfl⟩

/-- An arm whose publisher cannot be declared: its subscriber stays, and a sample changes the
state buffer and what the next read shows. -/
theorem failed_activation_keeps_subscriber :
    let position : List UInt8 := [0, 0, 0, 0, 0, 0, 0xf8, 0x3f]
    ∃ failed unread read,
      armStart.lifecycle = .inactive ∧
        (armStart.hardware.onActivate 0 (some .publisher)).2 = .error ∧
        armStart.next .ieee (.onActivate 0 (some .publisher)) = some failed ∧
        failed.hardware.session ≠ none ∧ failed.hardware.stateSub ≠ none ∧
        failed.run .ieee [.read true] = some unread ∧ unread.hardware.hwStates = [0] ∧
        failed.run .ieee [.deliver position, .read true] = some read ∧
        read.hardware.stateBuffer = position ∧
        read.hardware.hwStates = [0x3ff8000000000000] := by
  refine ⟨_, _, _, rfl, rfl, rfl, Option.some_ne_none _, Option.some_ne_none _, rfl, ?_, rfl,
    ?_, ?_⟩
  all_goals decide +kernel

end Zenbedded
