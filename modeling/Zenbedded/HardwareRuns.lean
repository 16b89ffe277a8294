import Zenbedded.HardwareOperations
import Zenbedded.StepSystem

/-!
# Runs of the hardware

A hardware with its surroundings: the calls of the controller manager, samples on the
state topic and controllers that set commands, in any order.  A run starts behind a
successful `on_init`.
-/

namespace Zenbedded

open ZenbeddedHardware

/-- Where the controller manager has a hardware; `finalized` is behind a failed call. -/
inductive Lifecycle
  | inactive
  | active
  | finalized
  deriving DecidableEq

/-- A hardware, the samples that its callback got and the payloads that it put. -/
structure HardwareWorld where
  hardware : ZenbeddedHardware
  lifecycle : Lifecycle
  received : List (List UInt8)
  published : List (List UInt8)
  deriving DecidableEq

inductive HardwareEvent
  | onActivate (id : Nat) (throws : Option ActivationStep)
  | onDeactivate
  | read (hit : Bool)
  | write
  | deliver (bytes : List UInt8)
  | setCommand (index : Nat) (value : UInt64)
  deriving DecidableEq

namespace HardwareWorld

def lifecycleAfter : CallbackReturn → Lifecycle
  | .success => .active
  | .error => .finalized

/-- An event; `none` is an access outside a buffer or a vector. -/
def next (casts : Casts) (world : HardwareWorld) : HardwareEvent → Option HardwareWorld
  | .onActivate id throws =>
      let activated := world.hardware.onActivate id throws
      some { world with hardware := activated.1, lifecycle := lifecycleAfter activated.2 }
  | .onDeactivate =>
      some { world with hardware := world.hardware.onDeactivate, lifecycle := .inactive }
  | .read hit => do
      let hardware ← world.hardware.read casts hit
      some { world with hardware }
  | .write => do
      let (hardware, payload) ← world.hardware.write casts
      some { world with hardware, published := world.published ++ payload.toList }
  | .deliver bytes =>
      some { world with
        hardware := world.hardware.deliver bytes
        received := world.received ++ if world.hardware.stateSub.isSome then [bytes] else [] }
  | .setCommand index value =>
      some { world with hardware := world.hardware.setCommand index value }

theorem next_read {casts : Casts} {world : HardwareWorld} {hit : Bool}
    {hardware : ZenbeddedHardware} (readEq : world.hardware.read casts hit = some hardware) :
    world.next casts (.read hit) = some { world with hardware } := by
  simp only [next, readEq, Option.bind_eq_bind, Option.bind_some]

theorem next_write {casts : Casts} {world : HardwareWorld} {hardware : ZenbeddedHardware}
    {payload : Option (List UInt8)}
    (writeEq : world.hardware.write casts = some (hardware, payload)) :
    world.next casts .write =
      some { world with hardware, published := world.published ++ payload.toList } := by
  simp only [next, writeEq, Option.bind_eq_bind, Option.bind_some]

/-- What the controller manager calls where. -/
def Calls (world : HardwareWorld) : HardwareEvent → Prop
  | .onActivate _ _ => world.lifecycle = .inactive
  | .onDeactivate => world.lifecycle = .active
  | .read _ | .write => world.lifecycle ≠ .finalized
  | .deliver _ | .setCommand _ _ => True

end HardwareWorld

/-- A hardware behind a successful `on_init`, with all events in any order. -/
def hardwareSystem (casts : Casts) (yaml : YamlCpp) (files : String → Option String) :
    StepSystem HardwareWorld HardwareEvent where
  start world := ∃ base parameters hardware,
    constructed.onInit yaml files base parameters = (hardware, .success) ∧
      world = ⟨hardware, .inactive, [], []⟩
  step before event after := before.next casts event = some after

/-- The calls in the order that the controller manager keeps. -/
def managedSystem (casts : Casts) (yaml : YamlCpp) (files : String → Option String) :
    StepSystem HardwareWorld HardwareEvent :=
  (hardwareSystem casts yaml files).restrict HardwareWorld.Calls

def HardwareWorld.run (casts : Casts) (world : HardwareWorld) (events : List HardwareEvent) :
    Option HardwareWorld :=
  events.foldlM (fun (world : HardwareWorld) event => world.next casts event) world

section Runs

variable {casts : Casts} {yaml : YamlCpp} {files : String → Option String}
  {state command : List FieldSpec} {before after : HardwareWorld}

inductive HardwareChange (casts : Casts) (state : List FieldSpec) (before : HardwareWorld) :
    HardwareEvent → HardwareWorld → Prop
  | onActivate (id : Nat) (throws : Option ActivationStep) :
      HardwareChange casts state before (.onActivate id throws) { before with
        hardware := (before.hardware.onActivate id throws).1
        lifecycle := HardwareWorld.lifecycleAfter (before.hardware.onActivate id throws).2 }
  | onDeactivate : HardwareChange casts state before .onDeactivate
      { before with hardware := before.hardware.onDeactivate, lifecycle := .inactive }
  | missed : HardwareChange casts state before (.read false) before
  | read {hardware : ZenbeddedHardware}
      (read : ReadUpTo casts before.hardware.stateBuffer before.hardware state.length hardware) :
      HardwareChange casts state before (.read true) { before with hardware }
  | unpublished (undeclared : before.hardware.commandPub = none) :
      HardwareChange casts state before .write before
  | published {payload : List UInt8} (declared : before.hardware.commandPub ≠ none)
      (size : payload.length = before.hardware.schema.commandBufferSize)
      (encodes : EncodesCommands casts before.hardware.schema before.hardware.writtenCommands
        payload) :
      HardwareChange casts state before .write { before with
        hardware := { before.hardware with
          hwCommands := before.hardware.writtenCommands, commandBuffer := payload }
        published := before.published ++ [payload] }
  | unheard {bytes : List UInt8} (unsubscribed : before.hardware.stateSub = none) :
      HardwareChange casts state before (.deliver bytes) before
  | dropped {bytes : List UInt8} (subscribed : before.hardware.stateSub ≠ none)
      (misfits : bytes.length ≠ before.hardware.schema.stateBufferSize) :
      HardwareChange casts state before (.deliver bytes)
        { before with received := before.received ++ [bytes] }
  | stored {bytes : List UInt8} (subscribed : before.hardware.stateSub ≠ none)
      (fits : bytes.length = before.hardware.schema.stateBufferSize) :
      HardwareChange casts state before (.deliver bytes) { before with
        hardware := { before.hardware with stateBuffer := bytes }
        received := before.received ++ [bytes] }
  | setCommand (index : Nat) (value : UInt64) :
      HardwareChange casts state before (.setCommand index value)
        { before with hardware := before.hardware.setCommand index value }

theorem hardwareChange_deliver (casts : Casts) (state : List FieldSpec) (before : HardwareWorld)
    (bytes : List UInt8) : ∃ after, before.next casts (.deliver bytes) = some after ∧
      HardwareChange casts state before (.deliver bytes) after := by
  obtain ⟨hardware, lifecycle, received, published⟩ := before
  cases sub : hardware.stateSub with
  | none =>
      refine ⟨_, ?_, .unheard sub⟩
      simp [HardwareWorld.next, deliver, sub]
  | some stateSub =>
      have subscribed : hardware.stateSub ≠ none := by simp [sub]
      by_cases fits : bytes.length = hardware.schema.stateBufferSize
      · refine ⟨_, ?_, .stored subscribed fits⟩
        simp [HardwareWorld.next, deliver, stateCallback, sub, fits]
      · refine ⟨_, ?_, .dropped subscribed fits⟩
        simp [HardwareWorld.next, deliver, stateCallback, sub, fits]

namespace ZenbeddedHardware

theorem Allocated.exists_change (allocated : Allocated state command before.hardware)
    (casts : Casts) (event : HardwareEvent) : ∃ after, before.next casts event = some after ∧
      HardwareChange casts state before event after := by
  cases event with
  | onActivate id throws => exact ⟨_, rfl, .onActivate id throws⟩
  | onDeactivate => exact ⟨_, rfl, .onDeactivate⟩
  | read hit =>
      cases hit with
      | false => exact ⟨_, HardwareWorld.next_read (read_miss casts _), .missed⟩
      | true =>
          obtain ⟨hardware, readEq, read⟩ := allocated.read_hit casts
          exact ⟨_, HardwareWorld.next_read readEq, .read read⟩
  | write =>
      cases declared : before.hardware.commandPub with
      | none =>
          refine ⟨_, ?_, .unpublished declared⟩
          rw [HardwareWorld.next_write (write_of_no_publisher declared), Option.toList_none,
            List.append_nil]
      | some commandPub =>
          obtain ⟨payload, writeEq, size, encodes⟩ := allocated.write_published casts declared
          exact ⟨_, HardwareWorld.next_write writeEq, .published (by simp [declared]) size encodes⟩
  | deliver bytes => exact hardwareChange_deliver casts state before bytes
  | setCommand index value => exact ⟨_, rfl, .setCommand index value⟩

theorem Allocated.change (allocated : Allocated state command before.hardware)
    {event : HardwareEvent} (steps : before.next casts event = some after) :
    HardwareChange casts state before event after := by
  obtain ⟨_, nextEq, change⟩ := allocated.exists_change casts event
  cases nextEq.symm.trans steps
  exact change

theorem Allocated.of_next (allocated : Allocated state command before.hardware)
    {event : HardwareEvent} (steps : before.next casts event = some after) :
    Allocated state command after.hardware := by
  cases allocated.change steps with
  | onActivate id throws => exact allocated.onActivate id throws
  | onDeactivate => exact { allocated with }
  | missed => exact allocated
  | read read => exact allocated.of_readUpTo read
  | unpublished => exact allocated
  | published _ size =>
      exact { allocated with
        hwCommands := List.length_mapIdx.trans allocated.hwCommands
        commandBuffer := by rw [size, allocated.schema]; rfl }
  | unheard => exact allocated
  | dropped => exact allocated
  | stored _ fits => exact { allocated with stateBuffer := by rw [fits, allocated.schema]; rfl }
  | setCommand index value => exact allocated.setCommand index value

end ZenbeddedHardware

/-- In every run the vectors, buffers and interfaces fit the schema of the start. -/
theorem exists_allocated (reached : (hardwareSystem casts yaml files).Reachable before) :
    ∃ state command, Allocated state command before.hardware := by
  induction reached with
  | start starts =>
      obtain ⟨base, parameters, hardware, initialized, rfl⟩ := starts
      obtain ⟨state, command, holds⟩ := onInit_initialized initialized
      exact ⟨state, command, holds.toAllocated⟩
  | step _ steps ih =>
      obtain ⟨state, command, allocated⟩ := ih
      exact ⟨state, command, allocated.of_next steps⟩

theorem exists_next (reached : (hardwareSystem casts yaml files).Reachable before)
    (event : HardwareEvent) : ∃ after, before.next casts event = some after := by
  obtain ⟨state, command, allocated⟩ := exists_allocated reached
  obtain ⟨after, nextEq, -⟩ := allocated.exists_change casts event
  exact ⟨after, nextEq⟩

theorem run_of_eq_some {events : List HardwareEvent}
    (ran : before.run casts events = some after) :
    StepSystem.Run (hardwareSystem casts yaml files) before events after := by
  induction events generalizing before with
  | nil =>
      cases ran
      exact .nil _
  | cons event events ih =>
      obtain ⟨middle, steps, rest⟩ := Option.bind_eq_some_iff.mp ran
      exact .cons steps (ih rest)

theorem run_eq_some_of_run {events : List HardwareEvent}
    (run : StepSystem.Run (hardwareSystem casts yaml files) before events after) :
    before.run casts events = some after := by
  induction run with
  | nil => rfl
  | cons steps _ ih => exact Option.bind_eq_some_iff.mpr ⟨_, steps, ih⟩

end Runs

/-! ## An arm -/

def armYaml : YamlCpp where
  load _ := .ok (.mapping
    [("state_interfaces", .mapping [("arm", .mapping [("position", .scalar "double")])]),
      ("command_interfaces", .mapping [("arm", .mapping [("effort", .scalar "double")])])])
  what _ := ""

def armFiles (path : String) : Option String :=
  if path = "arm.yaml" then some "" else none

def armParameters : List (String × String) :=
  [("zenoh_endpoint", "tcp/127.0.0.1:7447"), ("state_topic", "arm/state"),
    ("command_topic", "arm/cmd"), ("schema_path", "arm.yaml")]

def armStart : HardwareWorld where
  hardware := (constructed.onInit armYaml armFiles .success armParameters).1
  lifecycle := .inactive
  received := []
  published := []

theorem armStart_starts (casts : Casts) :
    (hardwareSystem casts armYaml armFiles).start armStart :=
  ⟨.success, armParameters, _, rfl, rfl⟩

end Zenbedded
