import Zenbedded.ClientSlots

/-!
# How an initialization ends

An initialization that gets to its control thread leaves the client up, also when it
answers that there is no period for the thread.  In all other cases it either succeeds
with a running thread or undoes what it did.
-/

namespace Zenbedded

open ByteBlock

/-! ## The control thread -/

namespace ZenbeddedClientBase

variable {kconfig : Kconfig} {UserData : Type}

structure ThreadOwned (client : ZenbeddedClientBase kconfig) : Prop where
  running : client.controlThreadRunning = client.controlThreadStarted
  owned : client.controlThreadStarted = true → client.initialized = true

structure RunsAt (client : ZenbeddedClientBase kconfig) (controlFreq : UInt32) : Prop where
  started : client.controlThreadStarted = true
  running : client.controlThreadRunning = true
  controlFreq : client.controlFreq = controlFreq

structure NoThread (client : ZenbeddedClientBase kconfig) : Prop where
  started : client.controlThreadStarted = false
  running : client.controlThreadRunning = false

variable {client : ZenbeddedClientBase kconfig}

theorem ThreadOwned.noThread (owned : client.ThreadOwned) (down : client.initialized = false) :
    client.NoThread := by
  have started : client.controlThreadStarted = false := by
    by_contra isStarted
    simp [owned.owned (by simpa using isStarted)] at down
  exact ⟨started, owned.running.trans started⟩

theorem stopThread_noThread (owned : client.ThreadOwned) : client.stopThread.NoThread := by
  rw [stopThread]
  cases started : client.controlThreadStarted with
  | true => exact ⟨rfl, rfl⟩
  | false => exact ⟨started, owned.running.trans started⟩

theorem NoThread.threadOwned (none : client.NoThread) : client.ThreadOwned where
  running := none.running.trans none.started.symm
  owned started := by cases none.started.symm.trans started

theorem startThread_owned (owned : client.ThreadOwned) (controlFreq : UInt32) :
    let result := client.startThread controlFreq
    result.2.ThreadOwned ∧ (result.1 = 0 → result.2.RunsAt controlFreq) := by
  rw [startThread]
  split
  case isTrue => exact ⟨owned, by simp [enodev]⟩
  case isFalse isUp =>
    split
    case isTrue => exact ⟨owned, by simp [einval]⟩
    case isFalse =>
      have up : client.stopThread.initialized = true := by
        rw [client.stopThread_frame.1]
        simpa using isUp
      exact ⟨⟨rfl, fun _ => up⟩, fun _ => ⟨rfl, rfl, rfl⟩⟩

theorem destroy_noThread (owned : client.ThreadOwned)
    (transport : ZenohTransport kconfig RecvCb UserData) :
    (client.destroy transport).1.NoThread := by
  rw [destroy]
  split
  case isTrue down => exact owned.noThread down
  case isFalse =>
    obtain ⟨started, running⟩ := stopThread_noThread owned
    exact ⟨started, running⟩

/-- Only an initialization that answers zero has started a thread. -/
theorem initBase_owned (self : UserData) (transport : ZenohTransport kconfig RecvCb UserData)
    (controlFreq : UInt32) (statePayloadSize cmdPayloadSize : Nat) (outcome : ClientOutcome)
    (fresh : client.initialized = false) (owned : client.ThreadOwned) :
    let result := client.initBase self transport controlFreq statePayloadSize cmdPayloadSize
      outcome
    result.2.1.ThreadOwned ∧ (result.1 = 0 → result.2.1.RunsAt controlFreq) := by
  obtain ⟨started, running⟩ := owned.noThread fresh
  unfold initBase
  split
  case isTrue up => simp [fresh] at up
  split
  · exact ⟨NoThread.threadOwned ⟨started, running⟩, by simp [enomem]⟩
  split
  · exact ⟨NoThread.threadOwned ⟨started, running⟩, by simp [enomem]⟩
  dsimp only
  split
  · exact ⟨NoThread.threadOwned ⟨started, running⟩, by simp [eio]⟩
  split
  · exact ⟨NoThread.threadOwned ⟨started, running⟩, by simp [eio]⟩
  split
  · exact ⟨NoThread.threadOwned ⟨started, running⟩, by simp [eio]⟩
  · refine startThread_owned ?_ controlFreq
    exact NoThread.threadOwned ⟨started, running⟩

end ZenbeddedClientBase

section Calls

variable {kconfig : Kconfig} {stateCodec : StateCodec} {commandCodec : CommandCodec}
  {before after : ZenbeddedClient kconfig stateCodec commandCodec}

theorem ClientCall.apply_threadOwned {call : ClientCall stateCodec}
    (applied : call.apply before = some after) (owned : before.ThreadOwned) :
    after.ThreadOwned := by
  cases call with
  | startThread controlFreq =>
      cases applied
      exact (ZenbeddedClientBase.startThread_owned owned controlFreq).1
  | stopThread =>
      cases applied
      exact (ZenbeddedClientBase.stopThread_noThread owned).threadOwned
  | writeState value =>
      simp only [apply, ZenbeddedClient.writeState] at applied
      split at applied
      · cases applied
        exact owned
      · obtain ⟨buf, -, stored⟩ := Option.bind_eq_some_iff.mp applied
        cases stored
        exact ⟨owned.running, owned.owned⟩
  | onTransportCmdCb payload =>
      obtain ⟨base, called, stored⟩ := Option.bind_eq_some_iff.mp applied
      cases stored
      rw [ZenbeddedClientBase.onTransportCmdCb] at called
      split at called
      · cases called
        exact owned
      · obtain ⟨written, -, counted⟩ := Option.bind_eq_some_iff.mp called
        cases counted
        exact ⟨owned.running, owned.owned⟩

theorem ZenbeddedClient.init_owned {UserData : Type} (self : UserData)
    {transport afterTransport : ZenohTransport kconfig RecvCb UserData} {controlFreq : UInt32}
    {stateParams : stateCodec.InitParams} {cmdParams : commandCodec.InitParams}
    {cmdLayoutScratch : Block UInt8 kconfig.maxCmdBufferSize} {outcome : ClientOutcome}
    {status : Int} (fresh : before.initialized = false) (owned : before.ThreadOwned)
    (ended : before.init self transport controlFreq stateParams cmdParams cmdLayoutScratch
      outcome = some (status, after, afterTransport)) :
    after.ThreadOwned ∧ (status = 0 → after.RunsAt controlFreq) := by
  obtain ⟨_, first, stateCtx, second, cmdCtx, _, _, _, _, resultEq⟩ :=
    exists_of_init self transport controlFreq outcome fresh ended
  have base := ZenbeddedClientBase.initBase_owned self transport controlFreq
    (stateCodec.payloadSize stateCtx) (commandCodec.payloadSize cmdCtx) outcome
    (show (before.templated first second).initialized = false from fresh)
    ⟨owned.running, owned.owned⟩
  simp only [Prod.mk.injEq] at resultEq
  obtain ⟨rfl, rfl, -⟩ := resultEq
  exact base

end Calls

/-! ## Outcomes -/

namespace ClientWorldAction

variable {kconfig : Kconfig} {Id : Type} {stateCodec : Id → StateCodec}
  {commandCodec : Id → CommandCodec}

/-- A call after which a client is not to be called back. -/
def Stops (id : Id) : ClientWorldAction kconfig stateCodec commandCodec → Prop
  | .init other _ _ _ _ _ status => other = id ∧ status ≠ 0
  | .destroy other => other = id
  | _ => False

/-- An initialization that succeeds. -/
def Starts (id : Id) : ClientWorldAction kconfig stateCodec commandCodec → Prop
  | .init other _ _ _ _ _ status => other = id ∧ status = 0
  | _ => False

end ClientWorldAction

namespace ClientWorld

variable {kconfig : Kconfig} {Id : Type} [DecidableEq Id] {stateCodec : Id → StateCodec}
  {commandCodec : Id → CommandCodec}

/-- An initialization in which nothing fails before the control thread is started. -/
def ReachesThread (world : ClientWorld kconfig stateCodec commandCodec) :
    ClientWorldAction kconfig stateCodec commandCodec → Prop
  | .init id _ stateParams cmdParams cmdLayoutScratch outcome _ =>
      world.live id = false ∧
        (world.client id).PayloadsFit stateParams cmdParams cmdLayoutScratch ∧
        (world.transport.isInitialized = true ∨ outcome.init.opened = true) ∧
        ((∃ slot, world.pubUsed slot = false) ∧ outcome.pub.declared = true) ∧
        (∃ slot, world.subUsed slot = false) ∧ outcome.sub.declared = true
  | _ => False

/-- An initialization that gets to its thread has a period for it. -/
def StartsThread (world : ClientWorld kconfig stateCodec commandCodec) :
    ClientWorldAction kconfig stateCodec commandCodec → Prop
  | .init id controlFreq stateParams cmdParams cmdLayoutScratch outcome status =>
      world.ReachesThread
          (.init id controlFreq stateParams cmdParams cmdLayoutScratch outcome status) →
        controlFreq ≠ 0
  | _ => True

structure IsUp (before after : ClientWorld kconfig stateCodec commandCodec) (id : Id)
    (controlFreq : UInt32) : Prop where
  live : after.live id = true
  counts : after.transport.transportRefCount.toNat =
    before.transport.transportRefCount.toNat + 1
  thread : (after.client id).RunsAt controlFreq

structure IsUndone (before after : ClientWorld kconfig stateCodec commandCodec) (id : Id) :
    Prop where
  live : after.live id = false
  counts : after.transport.transportRefCount = before.transport.transportRefCount
  thread : (after.client id).NoThread

/-- An initialization either succeeds, or fails and leaves nothing behind. -/
def AllOrNothing (before after : ClientWorld kconfig stateCodec commandCodec) (id : Id)
    (controlFreq : UInt32) (status : Int) : Prop :=
  (status ≠ 0 → IsUndone before after id) ∧ (status = 0 → IsUp before after id controlFreq)

variable {before after : ClientWorld kconfig stateCodec commandCodec}
  {action : ClientWorldAction kconfig stateCodec commandCodec} {id : Id}

/-! ### Threads -/

def ThreadsOwned (world : ClientWorld kconfig stateCodec commandCodec) : Prop :=
  ∀ id, (world.client id).ThreadOwned

theorem ThreadsOwned.step (owned : before.ThreadsOwned) (steps : before.Step action after) :
    after.ThreadsOwned := by
  intro id
  cases clientChange steps id with
  | same clientEq => rw [clientEq]; exact owned id
  | called call applied => exact ClientCall.apply_threadOwned applied (owned id)
  | initialized wasDown _ _ _ _ _ _ _ _ initEq =>
      exact (ZenbeddedClient.init_owned id wasDown (owned id) initEq).1
  | destroyed _ clientEq =>
      rw [clientEq]
      exact (ZenbeddedClientBase.destroy_noThread (owned id) _).threadOwned

theorem threadsOwned_invariant :
    (clientWorlds kconfig stateCodec commandCodec).Invariant ThreadsOwned where
  start := by
    rintro _ rfl id
    exact ZenbeddedClientBase.NoThread.threadOwned ⟨rfl, rfl⟩
  step _ _ _ owned steps := owned.step steps

/-! ### One initialization -/

section Init

variable {controlFreq : UInt32} {stateParams : (stateCodec id).InitParams}
  {cmdParams : (commandCodec id).InitParams}
  {cmdLayoutScratch : Block UInt8 kconfig.maxCmdBufferSize} {outcome : ClientOutcome}
  {status : Int}

/-- What an initialization answers tells whether the client came up, but for its thread. -/
theorem init_status (wasDown : before.live id = false)
    (steps : before.Step (.init id controlFreq stateParams cmdParams cmdLayoutScratch outcome
      status) after) :
    after.live id = true ∧ status = (if controlFreq = 0 then -einval else 0) ∨
      after.live id = false ∧ status ≠ 0 := by
  obtain ⟨client, transport, initEq, rfl⟩ := steps
  obtain ⟨_, _, -, cases⟩ :=
    (before.client id).init_cases id before.transport controlFreq outcome wasDown initEq
  simpa [live] using cases.status_cases

theorem init_others (steps : before.Step (.init id controlFreq stateParams cmdParams
    cmdLayoutScratch outcome status) after) {other : Id} (different : other ≠ id) :
    after.live other = before.live other := by
  obtain ⟨client, transport, -, rfl⟩ := steps
  simp [live, different]

variable [Fintype Id]

/-- A client comes up exactly if nothing fails before its thread is started. -/
theorem Linked.init_live_iff (linked : before.Linked) (admitted : kconfig.Admitted)
    (wasDown : before.live id = false)
    (steps : before.Step (.init id controlFreq stateParams cmdParams cmdLayoutScratch outcome
      status) after) :
    after.live id = true ↔ before.ReachesThread
      (.init id controlFreq stateParams cmdParams cmdLayoutScratch outcome status) := by
  obtain ⟨client, transport, initEq, rfl⟩ := steps
  obtain ⟨stateSize, cmdSize, fits, cases⟩ :=
    (before.client id).init_cases id before.transport controlFreq outcome wasDown initEq
  have liveEq : ClientWorld.live { before.setClient id client with transport } id =
      client.initialized := by simp [live]
  rw [liveEq]
  have opening := before.transport.init_cases kconfig.domainId kconfig.nodeName
    kconfig.zenohMode (some kconfig.zenohIpPort) outcome.init
  simp only [ReachesThread, wasDown, true_and, ← fits]
  cases cases with
  | tooLarge exceeds _ down =>
      rw [show client.initialized = false from down]
      simp only [Bool.false_eq_true, false_iff]
      omega
  | notOpened _ _ fails _ down =>
      rw [show client.initialized = false from down]
      obtain ⟨-, -, ⟨opens, -⟩ | ⟨-, wasClosed, notOpened, -⟩⟩ := opening
      · exact absurd opens fails
      · simp [wasClosed, notOpened]
  | noPublisher _ _ opens fails _ down =>
      rw [show client.initialized = false from down]
      obtain ⟨-, -, -, -, declared, -⟩ := linked.published admitted opens
      simp [← declared, fails]
  | noSubscriber _ _ opens _ _ fails _ down =>
      rw [show client.initialized = false from down]
      obtain ⟨-, -, -, declared, -⟩ := linked.subscribed admitted opens
      have unavailable := mt declared.mpr (by rw [fails]; simp)
      exact iff_of_false (by simp) fun reaches => unavailable reaches.2.2.2
  | up stateFits cmdFits opens _ declaredPub _ declaredSub _ isUp =>
      obtain ⟨-, -, -, -, forPub, -⟩ := linked.published admitted opens
      have forSub : (ZenbeddedClientBase.subscriberDeclared id before.transport
          outcome).1.isSome ↔ _ := (linked.subscribed admitted opens).2.2.2.1
      obtain ⟨-, -, ⟨-, source, -⟩ | ⟨fails, -⟩⟩ := opening
      · refine iff_of_true isUp ⟨⟨stateFits, cmdFits⟩, source, forPub.mp ?_, forSub.mp ?_⟩
        · rw [declaredPub]; rfl
        · rw [declaredSub]; rfl
      · exact absurd opens fails

theorem Linked.failed_down (linked : before.Linked) (admitted : kconfig.Admitted)
    (starts : before.StartsThread
      (.init id controlFreq stateParams cmdParams cmdLayoutScratch outcome status))
    (steps : before.Step (.init id controlFreq stateParams cmdParams cmdLayoutScratch outcome
      status) after) (fails : status ≠ 0) : after.live id = false := by
  have wasDown : before.live id = false := by
    by_contra wasLive
    have up : (before.client id).initialized = true := by simpa [live] using wasLive
    obtain ⟨client, transport, initEq, -⟩ := steps
    rw [ZenbeddedClient.init, if_pos up] at initEq
    cases initEq
    exact fails rfl
  rcases init_status wasDown steps with ⟨isUp, answers⟩ | ⟨down, -⟩
  · have period := starts ((linked.init_live_iff admitted wasDown steps).mp isUp)
    exact absurd (answers.trans (if_neg period)) fails
  · exact down

theorem Linked.counts_of_up (linked : before.Linked) (linkedAfter : after.Linked)
    (wasDown : before.live id = false)
    (steps : before.Step (.init id controlFreq stateParams cmdParams cmdLayoutScratch outcome
      status) after) (isUp : after.live id = true) :
    after.transport.transportRefCount.toNat =
      before.transport.transportRefCount.toNat + 1 := by
  have clients : after.liveClients = insert id before.liveClients := by
    ext other
    rcases eq_or_ne other id with rfl | different
    · simp [liveClients, isUp]
    · simp [liveClients, different, init_others steps different]
  have new : id ∉ before.liveClients := by simp [liveClients, wasDown]
  rw [linkedAfter.counts, linked.counts, clients, Finset.card_insert_of_notMem new]

theorem Linked.counts_of_down (linked : before.Linked) (linkedAfter : after.Linked)
    (wasDown : before.live id = false)
    (steps : before.Step (.init id controlFreq stateParams cmdParams cmdLayoutScratch outcome
      status) after) (isDown : after.live id = false) :
    after.transport.transportRefCount = before.transport.transportRefCount := by
  have clients : after.liveClients = before.liveClients := by
    ext other
    rcases eq_or_ne other id with rfl | different
    · simp [liveClients, isDown, wasDown]
    · simp [liveClients, init_others steps different]
  exact UInt32.toNat_inj.mp (by rw [linkedAfter.counts, linked.counts, clients])

/-- An initialization is all or nothing unless it lacks the period for its thread. -/
theorem Linked.allOrNothing_iff (linked : before.Linked) (admitted : kconfig.Admitted)
    (owned : before.ThreadsOwned) (wasDown : before.live id = false)
    (steps : before.Step (.init id controlFreq stateParams cmdParams cmdLayoutScratch outcome
      status) after) :
    AllOrNothing before after id controlFreq status ↔ before.StartsThread
      (.init id controlFreq stateParams cmdParams cmdLayoutScratch outcome status) := by
  have linkedAfter := linked.step admitted steps
  have outcomes := init_status wasDown steps
  have upIff := linked.init_live_iff admitted wasDown steps
  constructor
  · rintro ⟨undone, -⟩ reaches zero
    have isUp := upIff.mpr reaches
    rcases outcomes with ⟨-, answers⟩ | ⟨down, -⟩
    · rw [if_pos zero] at answers
      cases isUp.symm.trans (undone (by rw [answers]; decide)).live
    · cases isUp.symm.trans down
  · intro starts
    constructor
    · intro fails
      have down := linked.failed_down admitted starts steps fails
      exact ⟨down, linked.counts_of_down linkedAfter wasDown steps down,
        ((owned.step steps) id).noThread down⟩
    · intro succeeds
      obtain ⟨isUp, -⟩ := outcomes.resolve_right fun fails => fails.2 succeeds
      refine ⟨isUp, linked.counts_of_up linkedAfter wasDown steps isUp, ?_⟩
      obtain ⟨client, transport, initEq, rfl⟩ := steps
      rw [client_setClient_self]
      exact (ZenbeddedClient.init_owned id wasDown (owned id) initEq).2 succeeds

end Init

/-! ### Retries -/

section Runs

variable [Fintype Id]

theorem Linked.stays_down (linked : before.Linked) (admitted : kconfig.Admitted)
    (starts : before.StartsThread action) (steps : before.Step action after)
    (wasDown : before.live id = false) (notStarted : ¬ action.Starts id) :
    after.live id = false := by
  cases clientChange steps id with
  | same clientEq => rw [live, clientEq]; exact wasDown
  | called call applied => exact (ClientCall.apply_sameSetup applied).initialized.trans wasDown
  | initialized _ controlFreq _ _ _ _ status cause =>
      subst cause
      exact linked.failed_down admitted starts steps
        fun succeeds => notStarted ⟨rfl, succeeds⟩
  | destroyed cause =>
      subst cause
      exact destroyed_down steps

theorem stays_down_run (admitted : kconfig.Admitted)
    {meets : ClientWorld kconfig stateCodec commandCodec →
      ClientWorldAction kconfig stateCodec commandCodec → Prop}
    (starts : ∀ world action, meets world action → world.StartsThread action)
    (linked : before.Linked) (wasDown : before.live id = false)
    {actions : List (ClientWorldAction kconfig stateCodec commandCodec)}
    (run : ((clientWorlds kconfig stateCodec commandCodec).restrict meets).Run before actions
      after)
    (notStarted : ∀ action ∈ actions, ¬ action.Starts id) : after.live id = false := by
  induction run with
  | nil => exact wasDown
  | cons steps _ ih =>
      have stillDown := linked.stays_down admitted (starts _ _ steps.1) steps.2 wasDown
        (notStarted _ List.mem_cons_self)
      exact ih (linked.step admitted steps.2) stillDown
        fun action member => notStarted action (List.mem_cons_of_mem _ member)

end Runs

end ClientWorld

open ClientWorld in
/-- An initialization of an uninitialized client is all or nothing if and only if it does
not get to its control thread without a period for it; and a caller that retries such
initializations until one succeeds ends with a running client. -/
theorem initialization_is_all_or_nothing_iff {kconfig : Kconfig} {Id : Type} [DecidableEq Id]
    [Fintype Id] {stateCodec : Id → StateCodec} {commandCodec : Id → CommandCodec}
    (admitted : kconfig.Admitted) {before : ClientWorld kconfig stateCodec commandCodec} {id : Id}
    (reached : (clientWorlds kconfig stateCodec commandCodec).Reachable before)
    (wasDown : before.live id = false) :
    (∀ controlFreq stateParams cmdParams cmdLayoutScratch outcome status after,
      (clientWorlds kconfig stateCodec commandCodec).step before
        (.init id controlFreq stateParams cmdParams cmdLayoutScratch outcome status) after →
      (AllOrNothing before after id controlFreq status ↔ before.StartsThread
        (.init id controlFreq stateParams cmdParams cmdLayoutScratch outcome status))) ∧
    ∀ retries middle controlFreq stateParams cmdParams cmdLayoutScratch outcome after,
      ((clientWorlds kconfig stateCodec commandCodec).restrict StartsThread).Run before retries
        middle →
      (∀ action ∈ retries, ¬ action.Starts id) →
      ((clientWorlds kconfig stateCodec commandCodec).restrict StartsThread).step middle
        (.init id controlFreq stateParams cmdParams cmdLayoutScratch outcome 0) after →
      IsUp middle after id controlFreq := by
  have linked := (linked_invariant admitted).reachable reached
  constructor
  · intro controlFreq stateParams cmdParams cmdLayoutScratch outcome status after steps
    exact linked.allOrNothing_iff admitted (threadsOwned_invariant.reachable reached) wasDown
      steps
  · intro retries middle controlFreq stateParams cmdParams cmdLayoutScratch outcome after run
      notStarted steps
    have reachedMiddle := reached.run run.of_restrict
    have linkedMiddle := (linked_invariant admitted).reachable reachedMiddle
    have ownedMiddle := threadsOwned_invariant.reachable reachedMiddle
    have stillDown := stays_down_run admitted (fun _ _ starts => starts) linked wasDown run
      notStarted
    have allOrNothing := (linkedMiddle.allOrNothing_iff admitted ownedMiddle stillDown
      steps.2).mpr steps.1
    exact allOrNothing.2 rfl

/-- An initialization without a period fails and leaves the client initialized, so that the
next one succeeds without a thread. -/
theorem failed_initialization_leaves_client_up :
    ∃ before failed retried : ClientWorld (Kconfig.default .tier2)
        (fun _ : Unit => RawCodec.state 1) (fun _ => RawCodec.command 1),
      (clientWorlds _ _ _).Reachable before ∧ before.live () = false ∧
      (∃ outcome, before.Step (.init () 0 () () (Block.filled _ 0) outcome (-einval)) failed ∧
        failed.Step (.init () 100 () () (Block.filled _ 0) outcome 0) retried) ∧
      failed.live () = true ∧ ¬(retried.client ()).RunsAt 100 := by
  let outcome : ClientOutcome :=
    ⟨⟨true, true, true, true, []⟩, ⟨true, true, [], []⟩, ⟨true, true, [], []⟩⟩
  obtain ⟨failed, inits, facts⟩ := ClientWorld.exists_first_init (Kconfig.default .tier2)
    (fun _ : Unit => RawCodec.state 1) (fun _ => RawCodec.command 1) () 0 () ()
    (Block.filled _ 0) outcome (-einval)
    (fun client => (client.initialized, client.controlThreadStarted)) (true, false)
    (by decide +kernel)
  obtain ⟨isUp, unstarted⟩ := Prod.mk.inj facts
  have again : (failed.client ()).init () failed.transport 100 () () (Block.filled _ 0)
      outcome = some (0, failed.client (), failed.transport) := if_pos isUp
  refine ⟨_, failed, _, .start rfl, rfl,
    ⟨outcome, inits, failed.client (), failed.transport, again, rfl⟩, isUp, ?_⟩
  intro runsAt
  cases unstarted.symm.trans runsAt.started

open ClientWorld in
/-- While one client is up, another one fails without its subscriber and then without its
publisher, and comes up in the third attempt. -/
theorem initialization_is_all_or_nothing_iff_retried :
    ∃ before failed refused after : ClientWorld (Kconfig.default .tier2)
        (fun _ : Bool => RawCodec.state 1) (fun _ => RawCodec.command 1),
      before.live false = true ∧ IsUndone before failed true ∧ IsUp refused after true 1000 := by
  let World := ClientWorld (Kconfig.default .tier2) (fun _ : Bool => RawCodec.state 1)
    (fun _ => RawCodec.command 1)
  let clients := clientWorlds (Kconfig.default .tier2) (fun _ : Bool => RawCodec.state 1)
    (fun _ => RawCodec.command 1)
  let outcome (pub sub : Bool) : ClientOutcome :=
    ⟨⟨true, true, true, true, []⟩, ⟨pub, true, [], []⟩, ⟨sub, true, [], []⟩⟩
  let init (world : World) (id pub sub : Bool) : Option (Int × World) :=
    world.initClient id 1000 () () (Block.filled _ 0) (outcome pub sub)
  have inits {world : World} {id pub sub : Bool} {status : Int}
      (completes : (init world id pub sub).isSome)
      (answers : ((init world id pub sub).get completes).1 = status) :
      (clients.restrict StartsThread).step world
        (.init id 1000 () () (Block.filled _ 0) (outcome pub sub) status)
        ((init world id pub sub).get completes).2 := by
    subst answers
    exact ⟨fun _ => by decide, step_initClient (Option.some_get completes).symm⟩
  let start : World := ⟨fun _ => .construct, .zero⟩
  let single := (init start false true true).get (by decide +kernel)
  let noSub := (init single.2 true true false).get (by decide +kernel)
  let noPub := (init noSub.2 true false true).get (by decide +kernel)
  let both := (init noPub.2 true true true).get (by decide +kernel)
  have comesUp : (clients.restrict StartsThread).step start _ single.2 := inits _ rfl
  have fails : (clients.restrict StartsThread).step single.2 _ noSub.2 := inits _ rfl
  have refuses : (clients.restrict StartsThread).step noSub.2 _ noPub.2 := inits _ rfl
  have succeeds : (clients.restrict StartsThread).step noPub.2 (.init true 1000 () () _ _ 0)
    both.2 := inits _ (by decide +kernel)
  have reached : clients.Reachable single.2 := .step (.start rfl) comesUp.2
  obtain ⟨allOrNothing, retried⟩ := initialization_is_all_or_nothing_iff
    (Kconfig.default_admitted .tier2) reached (show live _ true = false by decide +kernel)
  have undone := ((allOrNothing _ _ _ _ _ _ _ fails.2).mpr fails.1).1 (by decide +kernel)
  have isUp := retried _ _ _ _ _ _ _ _ (.cons fails (.single refuses))
    (by simp [ClientWorldAction.Starts]; decide +kernel) succeeds
  exact ⟨single.2, noSub.2, noPub.2, both.2, by decide +kernel, undone, isUp⟩
end Zenbedded
