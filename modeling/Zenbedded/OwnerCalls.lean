import Zenbedded.ControlThreadLifecycle

/-!
# The calls of the owner, taken at once

A call that interleaves with the control threads, statement by statement, leaves the
client as the call taken at once does.  At every place of the owner the rest of its call
can be taken at once, and no statement and no thread changes what comes of it.
-/

namespace Zenbedded

variable {kconfig : Kconfig} {UserData : Type}

/-- The status and the client that a call taken at once answers. -/
def OwnerCall.atOnce (self : UserData) (client : ZenbeddedClientBase kconfig)
    (transport : ZenohTransport kconfig RecvCb UserData) :
    OwnerCall → Int × ZenbeddedClientBase kconfig
  | .init controlFreq statePayloadSize cmdPayloadSize outcome =>
      let result := client.initBase self transport controlFreq statePayloadSize cmdPayloadSize
        outcome
      (result.1, result.2.1)
  | .startThread controlFreq => client.startThread controlFreq
  | .stopThread => (0, client.stopThread)
  | .destroy => (0, (client.destroy transport).1)

namespace ZenbeddedClientBase

theorem stopThread_of_unstarted (client : ZenbeddedClientBase kconfig)
    (unstarted : client.controlThreadStarted = false) : client.stopThread = client :=
  if_neg (by simp [unstarted])

theorem stopThread_of_started (client : ZenbeddedClientBase kconfig)
    (started : client.controlThreadStarted = true) :
    client.stopThread = { client with
      controlThreadRunning := false, controlThreadStarted := false, controlFreq := 0 } :=
  if_pos started

end ZenbeddedClientBase

namespace ControlWorld

/-! ## The rest of a call -/

section Rest

variable (self : UserData) (client : ZenbeddedClientBase kconfig)
  (transport : ZenohTransport kconfig RecvCb UserData) (controlFreq : UInt32)
  (outcome : ClientOutcome)

/-- `start_thread` once no thread is left. -/
def restOfStart : ZenbeddedClientBase kconfig :=
  { client with controlFreq, controlThreadRunning := true, controlThreadStarted := true }

/-- `destroy` once no thread is left. -/
def restOfDestroy : ZenbeddedClientBase kconfig :=
  { client with pub := none, sub := none, initialized := false }

def restOfCaller : StopReturn → ZenbeddedClientBase kconfig
  | .owner => client
  | .restart controlFreq => restOfStart client controlFreq
  | .destroy => restOfDestroy client

def restOfSub : Int × ZenbeddedClientBase kconfig :=
  let sub := (transport.declareSubscriber kconfig.rclSubTopic
    (ZenbeddedClientBase.cmdType kconfig) (some .onTransportCmdCb) (some self) outcome.sub).1
  let client := { client with sub }
  if sub.isNone then
    (-eio, client)
  else
    { client with initialized := true, controlFreq }.startThread controlFreq

def restOfPub : Int × ZenbeddedClientBase kconfig :=
  let (pub, transport) := transport.declarePublisher kconfig.rclPubTopic
    (ZenbeddedClientBase.stateType kconfig) outcome.pub
  let client := { client with pub }
  if pub.isNone then
    (-eio, client)
  else
    restOfSub self client transport controlFreq outcome

def restOfTransport : Int × ZenbeddedClientBase kconfig :=
  let (status, transport) := transport.init kconfig.domainId kconfig.nodeName
    kconfig.zenohMode (some kconfig.zenohIpPort) outcome.init
  if status ≠ 0 then
    (-eio, client)
  else
    restOfPub self client transport controlFreq outcome

def restOfCmdSize (cmdPayloadSize : Nat) : Int × ZenbeddedClientBase kconfig :=
  let client := { client with cmdPayloadSize }
  if kconfig.maxCmdBufferSize < cmdPayloadSize then
    (-enomem, client)
  else
    restOfTransport self client transport controlFreq outcome

/-- The rest of a call, taken at once. -/
def rest (status : Int) : OwnerPc → Int × ZenbeddedClientBase kconfig
  | .idle => (status, client)
  | .checkCmdSize controlFreq cmdPayloadSize outcome =>
      restOfCmdSize self client transport controlFreq outcome cmdPayloadSize
  | .initTransport controlFreq outcome =>
      restOfTransport self client transport controlFreq outcome
  | .declarePub controlFreq outcome => restOfPub self client transport controlFreq outcome
  | .declareSub controlFreq outcome => restOfSub self client transport controlFreq outcome
  | .unwindInit => (-eio, client)
  | .setInitialized controlFreq =>
      { client with initialized := true, controlFreq }.startThread controlFreq
  | .setInitFreq controlFreq => { client with controlFreq }.startThread controlFreq
  | .startThread controlFreq => client.startThread controlFreq
  | .setFreq controlFreq => (0, restOfStart client controlFreq)
  | .setRunning _ => (0, restOfStart client client.controlFreq)
  | .createThread _ | .setStarted => (0, { client with controlThreadStarted := true })
  | .stopThread caller => (0, restOfCaller client.stopThread caller)
  | .clearRunning caller =>
      (0, restOfCaller { client with
        controlThreadRunning := false, controlThreadStarted := false, controlFreq := 0 } caller)
  | .joinThread caller | .abortThread caller | .clearStarted caller =>
      (0, restOfCaller { client with controlThreadStarted := false, controlFreq := 0 } caller)
  | .clearFreq caller => (0, restOfCaller { client with controlFreq := 0 } caller)
  | .releaseTransport | .clearPub => (0, restOfDestroy client)
  | .clearSub => (0, { client with sub := none, initialized := false })
  | .clearInitialized => (0, { client with initialized := false })

end Rest

/-- What the call that a world is in comes to. -/
def result (self : UserData) (world : ControlWorld kconfig UserData) :
    Int × ZenbeddedClientBase kconfig :=
  rest self world.client world.transport world.status world.owner

variable {before after : ControlWorld kconfig UserData} {self : UserData}

theorem result_stopped (world : ControlWorld kconfig UserData) (caller : StopReturn) :
    (world.stopped caller).result self = (0, restOfCaller world.client caller) := by
  cases caller <;> rfl

/-- The transport that a branch leaves does not matter. -/
theorem answer_ite {State Transport : Type} (condition : Prop) [Decidable condition]
    (first second : Int × State × Transport) :
    ((if condition then first else second).1, (if condition then first else second).2.1) =
      if condition then (first.1, first.2.1) else (second.1, second.2.1) := by
  split <;> rfl

theorem answer_initBase {client : ZenbeddedClientBase kconfig}
    (uninitialized : ¬client.initialized = true) {statePayloadSize : Nat}
    (fits : ¬kconfig.maxStateBufferSize < statePayloadSize)
    (transport : ZenohTransport kconfig RecvCb UserData) (controlFreq : UInt32)
    (cmdPayloadSize : Nat) (outcome : ClientOutcome) :
    OwnerCall.atOnce self client transport
        (.init controlFreq statePayloadSize cmdPayloadSize outcome) =
      restOfCmdSize self { client with statePayloadSize } transport controlFreq outcome
        cmdPayloadSize := by
  simp only [OwnerCall.atOnce, ZenbeddedClientBase.initBase, if_neg uninitialized, if_neg fits,
    restOfCmdSize, restOfTransport, restOfPub, restOfSub, answer_ite]

theorem result_begin (call : OwnerCall) :
    (before.begin call).result self = call.atOnce self before.client before.transport := by
  cases call with
  | init controlFreq statePayloadSize cmdPayloadSize outcome =>
      rw [ControlWorld.begin]
      dsimp only
      split
      case isTrue initialized =>
        rw [OwnerCall.atOnce, ZenbeddedClientBase.initBase, if_pos initialized]
        rfl
      case isFalse uninitialized =>
        split
        case isTrue large =>
          rw [OwnerCall.atOnce, ZenbeddedClientBase.initBase, if_neg uninitialized]
          dsimp only
          rw [if_pos large]
          rfl
        case isFalse fits => exact (answer_initBase uninitialized fits _ _ _ _).symm
  | startThread controlFreq => rfl
  | stopThread => rfl
  | destroy =>
      rw [ControlWorld.begin, OwnerCall.atOnce, ZenbeddedClientBase.destroy]
      dsimp only
      split <;> rfl

/-- A statement of the owner does what the rest of its call does first. -/
theorem result_ownerNext {timedOut : Bool} (steps : before.ownerNext self timedOut = some after) :
    after.result self = before.result self := by
  rw [ControlWorld.ownerNext] at steps
  rw [result, result]
  generalize before.owner = place at steps ⊢
  cases place with
  | idle => cases steps
  | checkCmdSize controlFreq cmdPayloadSize outcome =>
      dsimp only at steps
      split at steps
      case isTrue large =>
        cases steps
        simp [rest, restOfCmdSize, large, returns]
      case isFalse fits =>
        cases steps
        simp [rest, restOfCmdSize, fits, goto]
  | initTransport controlFreq outcome =>
      dsimp only at steps
      split at steps
      case isTrue fails =>
        cases steps
        simp [rest, restOfTransport, fails, returns]
      case isFalse succeeds =>
        cases steps
        simp [rest, restOfTransport, succeeds, goto]
  | declarePub controlFreq outcome =>
      dsimp only at steps
      split at steps
      case isTrue null =>
        cases steps
        simp [rest, restOfPub, null, goto]
      case isFalse declared =>
        cases steps
        simp [rest, restOfPub, declared, goto]
  | declareSub controlFreq outcome =>
      dsimp only at steps
      split at steps
      case isTrue null =>
        cases steps
        simp [rest, restOfSub, null, goto]
      case isFalse declared =>
        cases steps
        simp [rest, restOfSub, declared, goto]
  | unwindInit =>
      cases steps
      rfl
  | setInitialized controlFreq =>
      cases steps
      rfl
  | setInitFreq controlFreq =>
      cases steps
      rfl
  | startThread controlFreq =>
      dsimp only at steps
      split at steps
      case isTrue uninitialized =>
        cases steps
        simp [rest, ZenbeddedClientBase.startThread, uninitialized, returns]
      case isFalse initialized =>
        split at steps
        case isTrue zero =>
          cases steps
          simp [rest, ZenbeddedClientBase.startThread, initialized, zero, returns]
        case isFalse nonzero =>
          split at steps
          case isTrue started =>
            cases steps
            simp [rest, ZenbeddedClientBase.startThread, initialized, nonzero, goto, restOfCaller,
              restOfStart]
          case isFalse unstarted =>
            cases steps
            simp [rest, ZenbeddedClientBase.startThread, initialized, nonzero, goto,
              before.client.stopThread_of_unstarted (by simpa using unstarted), restOfStart]
  | setFreq controlFreq =>
      cases steps
      rfl
  | setRunning controlFreq =>
      cases steps
      rfl
  | createThread controlFreq =>
      cases steps
      rfl
  | setStarted =>
      cases steps
      rfl
  | stopThread caller =>
      dsimp only at steps
      split at steps
      case isTrue unstarted =>
        cases steps
        rw [rest, before.client.stopThread_of_unstarted unstarted]
        exact result_stopped before caller
      case isFalse started =>
        cases steps
        rw [rest, before.client.stopThread_of_started (by simpa using started)]
        rfl
  | clearRunning caller =>
      cases steps
      rfl
  | joinThread caller =>
      dsimp only at steps
      split at steps
      · cases steps
        rfl
      · split at steps
        · cases steps
          rfl
        · cases steps
  | abortThread caller =>
      cases steps
      rfl
  | clearStarted caller =>
      cases steps
      rfl
  | clearFreq caller =>
      cases steps
      exact result_stopped _ caller
  | releaseTransport =>
      cases steps
      rfl
  | clearPub =>
      cases steps
      rfl
  | clearSub =>
      cases steps
      rfl
  | clearInitialized =>
      cases steps
      rfl

/-- Where the rest of a call looks at the transport, no thread is alive. -/
theorem result_threadStep (sound : before.ControlSound) {number : Nat}
    {thread : ControlThread kconfig} (alive : before.live number = some thread)
    (steps : before.ThreadStep number after) : after.result self = before.result self := by
  have asserts := sound.owner
  have unstopped : ¬before.Stopped := fun stopped => by
    cases (stopped.2.2 number).symm.trans alive
  rw [result, result, steps.client, steps.status, steps.owner]
  generalize before.owner = place at asserts ⊢
  cases place with
  | checkCmdSize | initTransport | declarePub | declareSub => exact absurd asserts.1 unstopped
  | _ => rfl

/-- The steps between the beginning of a call and its return. -/
def Within : ControlAction kconfig UserData → Prop
  | .owner _ | .thread .. => True
  | .call _ | .others .. => False

theorem ControlSound.result_run (sound : before.ControlSound)
    {actions : List (ControlAction kconfig UserData)}
    (run : (controlThreads kconfig self).Run before actions after)
    (within : ∀ action ∈ actions, Within action) : after.result self = before.result self := by
  induction run with
  | nil => rfl
  | @cons before middle after action actions steps _ ih =>
      have middleSound :=
        (controlSound_invariant kconfig self).step before action middle sound steps
      have restWithin := fun later member => within later (List.mem_cons_of_mem _ member)
      refine (ih middleSound restWithin).trans ?_
      have isWithin := within action List.mem_cons_self
      cases action with
      | owner timedOut => exact result_ownerNext steps
      | thread number input =>
          obtain ⟨thread, alive, moves⟩ := Option.bind_eq_some_iff.mp steps
          exact result_threadStep sound alive ((sound.threads number thread alive).next moves)
      | call => cases isWithin
      | others => cases isWithin

end ControlWorld

/-- A call of the owner that runs among the statements of the control threads returns what
it returns when it is taken at once. -/
theorem owner_call_at_once {self : UserData} {start world : ControlWorld kconfig UserData}
    (reached : (controlThreads kconfig self).Reachable start) {call : OwnerCall}
    {actions : List (ControlAction kconfig UserData)}
    (run : (controlThreads kconfig self).Run start (.call call :: actions) world)
    (within : ∀ action ∈ actions, ControlWorld.Within action) (returned : world.owner = .idle) :
    (world.status, world.client) = call.atOnce self start.client start.transport := by
  have sound := (ControlWorld.controlSound_invariant kconfig self).reachable reached
  cases run with
  | @cons _ middle _ _ _ begins rest =>
      obtain ⟨idle, rfl⟩ := ControlWorld.next_call begins
      have same := (sound.begin idle call).result_run rest within
      rw [← ControlWorld.result_begin, ← same, ControlWorld.result, returned]
      rfl

end Zenbedded
