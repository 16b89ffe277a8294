import Zenbedded.PublishedSamples

/-!
# Traffic among threads

A publish takes no lock, so that its look at a handle and its put are two steps among those of
other threads.  As long as no publish overlaps with the end of its handle, the threads do what
the operations and publishes do one after another.
-/

namespace Zenbedded

open ByteBlock

namespace ZenohTransport

variable {kconfig : Kconfig} {Callback UserData : Type}
  {transport after : ZenohTransport kconfig Callback UserData}

/-- A slot whose `in_use` is set and set back. -/
theorem setPub_back {slot : Fin kconfig.maxPublishers} {use : Bool}
    (same : (transport.pubPool slot).inUse = use) (meanwhile : Bool) :
    let other := transport.setPub slot { transport.pubPool slot with inUse := meanwhile }
    other.setPub slot { other.pubPool slot with inUse := use } = transport := by
  subst same
  simp [setPub]

theorem putAt_setPub {slot other : Fin kconfig.maxPublishers} (different : other ≠ slot)
    (pub : ZenbeddedPub) {size payloadSize : Nat} {payload : Block UInt8 size}
    {timestampNs : Int64} {ok : Bool} {status : Int}
    (puts : transport.putAt slot payload payloadSize timestampNs ok = some (status, after)) :
    after.pubPool other = transport.pubPool other ∧
      (transport.setPub other pub).putAt slot payload payloadSize timestampNs ok =
        some (status, after.setPub other pub) := by
  obtain ⟨bytes, loaded, put⟩ := Option.bind_eq_some_iff.mp puts
  unfold putAt
  rw [loaded, pubPool_setPub, Function.update_of_ne different.symm]
  cases tierEq : kconfig.tier with
  | tier1 =>
      simp only [tierEq] at put
      cases put
      refine ⟨by simp [different], ?_⟩
      simp only [Option.bind_eq_bind, Option.bind_some, setPub, call]
      rw [Function.update_comm different]
  | tier2 =>
      simp only [tierEq] at put
      cases put
      exact ⟨rfl, rfl⟩

theorem reservePublisher_eq_some_iff {slot : Fin kconfig.maxPublishers} :
    transport.reservePublisher = (some slot, after) ↔
      transport.isInitialized = true ∧
        firstFree (fun slot => (transport.pubPool slot).inUse) = some slot ∧
        after = transport.setPub slot { transport.pubPool slot with inUse := true } := by
  unfold reservePublisher
  split
  case isTrue closed => simp [closed]
  case isFalse opened =>
    have isOpen : transport.isInitialized = true := by simpa using opened
    cases firstFree fun slot => (transport.pubPool slot).inUse with
    | none => simp
    | some found =>
        simp only [Prod.mk.injEq, Option.some.injEq, isOpen, true_and]
        constructor
        · rintro ⟨rfl, rfl⟩
          exact ⟨rfl, rfl⟩
        · rintro ⟨rfl, rfl⟩
          exact ⟨rfl, rfl⟩

theorem reservePublisher_of_none (refused : transport.reservePublisher = (none, after)) :
    after = transport := by
  unfold reservePublisher at refused
  split at refused
  · cases refused
    rfl
  · split at refused
    · cases refused
      rfl
    · cases refused

/-- Only the destroy that closes the session ends declarations. -/
theorem pubPool_destroy (others : transport.transportRefCount ≠ 1) :
    transport.destroy.pubPool = transport.pubPool := by
  by_cases opened : transport.isInitialized = true
  · by_cases zero : transport.transportRefCount.toNat = 0
    · have same : transport.destroy = transport := if_pos (.inr (UInt32.toNat_inj.mp zero))
      rw [same]
    · rcases destroy_cases opened (by omega) with ⟨one, -⟩ | ⟨-, -, -, pubs, -⟩
      · exact absurd (UInt32.toNat_inj.mp one) others
      · exact pubs
  · rw [destroy_of_closed (by simpa using opened)]

theorem pubPool_undeclarePublisher {slot other : Fin kconfig.maxPublishers}
    (different : other ≠ slot) :
    (transport.undeclarePublisher (some slot)).2.pubPool other = transport.pubPool other := by
  unfold undeclarePublisher
  dsimp only
  split
  · rfl
  · simp [different]

theorem pubPool_undeclareSubscriber (sub : Option (Fin kconfig.maxSubscribers)) :
    (transport.undeclareSubscriber sub).2.pubPool = transport.pubPool := by
  cases sub with
  | none => rfl
  | some slot =>
      unfold undeclareSubscriber
      dsimp only
      split
      · rfl
      · simp

end ZenohTransport

namespace SharedTransport

variable {kconfig : Kconfig} {Callback UserData Thread : Type}

/-- What callers have to see to, since a publish takes no lock: one publish at a time goes
through a handle, none overlaps with the end of its handle, and none (through a stale handle)
with a declaration that takes its slot. -/
def Orderly (world : SharedTransport kconfig Callback UserData Thread) :
    TransportCall kconfig Callback UserData Thread → Prop
  | .publish _ (some slot) _ =>
      (∀ thread, world.publishing thread ≠ some slot) ∧
        ∀ declaration, world.declaring = some declaration → declaration.slot ≠ slot
  | .undeclarePublisher _ (some slot) _ => ∀ thread, world.publishing thread ≠ some slot
  | .destroy _ =>
      world.transport.transportRefCount = 1 → ∀ thread, world.publishing thread = none
  | _ => True

/-- The transport without the slot that a declaration has reserved. -/
def settled (world : SharedTransport kconfig Callback UserData Thread) :
    ZenohTransport kconfig Callback UserData :=
  match world.declaring with
  | none => world.transport
  | some declaration =>
      world.transport.setPub declaration.slot
        { world.transport.pubPool declaration.slot with inUse := false }

end SharedTransport

def TransportCall.outstanding {kconfig : Kconfig} {Callback UserData Thread : Type}
    (count : Nat) : TransportCall kconfig Callback UserData Thread → Nat
  | .init _ _ _ _ _ _ status => if status = 0 then count + 1 else count
  | .destroy _ => count - 1
  | _ => count

structure SharedLifecycle (kconfig : Kconfig) (Callback UserData Thread : Type) where
  shared : SharedTransport kconfig Callback UserData Thread
  outstanding : Nat

/-- Orderly calls of any number of threads, with fewer than 2^32 inits outstanding. -/
def sharedTraffic (kconfig : Kconfig) (Callback UserData Thread : Type) [DecidableEq Thread] :
    StepSystem (SharedLifecycle kconfig Callback UserData Thread)
      (TransportCall kconfig Callback UserData Thread) where
  start state :=
    (sharedTransport kconfig Callback UserData Thread).start state.shared ∧ state.outstanding = 0
  step before call after :=
    before.shared.Orderly call ∧
      (sharedTransport kconfig Callback UserData Thread).step before.shared call after.shared ∧
      after.outstanding = call.outstanding before.outstanding ∧ after.outstanding < 2 ^ 32

namespace SharedTransport

variable {kconfig : Kconfig} {Callback UserData Thread : Type}
  {before after world : SharedTransport kconfig Callback UserData Thread}

theorem log_settled (world : SharedTransport kconfig Callback UserData Thread) :
    world.settled.log = world.transport.log := by
  unfold settled
  split <;> rfl

theorem settled_of_unlocked (unlocked : world.declaring = none) :
    world.settled = world.transport := by
  rw [settled, unlocked]

theorem settled_of_declaring {declaration : PubDeclaration kconfig Thread}
    (declaring : world.declaring = some declaration) :
    world.settled = world.transport.setPub declaration.slot
      { world.transport.pubPool declaration.slot with inUse := false } := by
  rw [settled, declaring]

theorem pubPool_settled {slot : Fin kconfig.maxPublishers}
    (other : ∀ declaration, world.declaring = some declaration → declaration.slot ≠ slot) :
    world.settled.pubPool slot = world.transport.pubPool slot := by
  cases declaring : world.declaring with
  | none => rw [settled_of_unlocked declaring]
  | some declaration =>
      rw [settled_of_declaring declaring, ZenohTransport.pubPool_setPub,
        Function.update_of_ne (other declaration declaring).symm]

/-- The reserved slot is the one that the rest of the declaration expects, and what threads
publish through is declared. -/
structure Settles (world : SharedTransport kconfig Callback UserData Thread) : Prop where
  reserved : ∀ declaration, world.declaring = some declaration →
    world.settled.reservePublisher = (some declaration.slot, world.transport)
  publishing : ∀ thread slot, world.publishing thread = some slot →
    (world.settled.pubPool slot).inUse = true

theorem Settles.slot_ne (settles : world.Settles) {thread : Thread}
    {slot : Fin kconfig.maxPublishers} (publishing : world.publishing thread = some slot)
    (declaration : PubDeclaration kconfig Thread)
    (declaring : world.declaring = some declaration) : declaration.slot ≠ slot := by
  rintro rfl
  have used := settles.publishing thread _ publishing
  rw [settled_of_declaring declaring] at used
  simp at used

/-- A call under the lock that leaves the publishers in use that threads publish through. -/
theorem Settles.locked (settles : before.Settles) {thread : Thread}
    {transport : ZenohTransport kconfig Callback UserData}
    (locked : before.Locked thread transport after)
    (kept : ∀ thread slot, before.publishing thread = some slot →
      (before.transport.pubPool slot).inUse = true → (transport.pubPool slot).inUse = true) :
    after.Settles ∧ before.settled = before.transport ∧ after.settled = transport := by
  obtain ⟨-, unlocked, rfl⟩ := locked
  have settledEq := settled_of_unlocked unlocked
  have settledAfter : settled { before with transport } = transport :=
    settled_of_unlocked unlocked
  refine ⟨⟨fun declaration declaring => ?_, fun thread slot publishing => ?_⟩, settledEq,
    settledAfter⟩
  · cases unlocked.symm.trans declaring
  · rw [settledAfter]
    exact kept thread slot publishing (settledEq ▸ settles.publishing thread slot publishing)

/-- A thread that finds a handle in use publishes through a declared publisher. -/
theorem Settles.look [DecidableEq Thread] (settles : before.Settles) {thread : Thread}
    {slot : Fin kconfig.maxPublishers}
    (other : ∀ declaration, before.declaring = some declaration → declaration.slot ≠ slot)
    (used : before.transport.inUse (.pub slot) = true) :
    Settles { before with publishing := Function.update before.publishing thread (some slot) } := by
  refine ⟨settles.reserved, fun looking own publishing => ?_⟩
  change Function.update before.publishing thread (some slot) looking = some own at publishing
  rcases eq_or_ne looking thread with rfl | apart
  · simp only [Function.update_self, Option.some.injEq] at publishing
    subst publishing
    exact (congrArg ZenbeddedPub.inUse (pubPool_settled other)).trans used
  · rw [Function.update_of_ne apart] at publishing
    exact settles.publishing looking own publishing

/-- Reserving a slot settles nothing. -/
theorem Settles.reserve (settles : before.Settles) (unlocked : before.declaring = none)
    (thread : Thread) (topicName : CString) (typeName : Option CString) :
    let after : SharedTransport kconfig Callback UserData Thread := { before with
      transport := before.transport.reservePublisher.2
      declaring := before.transport.reservePublisher.1.map fun slot =>
        { thread, topicName, typeName, slot } }
    after.Settles ∧ after.settled = before.settled := by
  intro after
  have same : after.settled = before.settled ∧ ∀ declaration, after.declaring = some declaration →
      after.settled.reservePublisher = (some declaration.slot, after.transport) := by
    have settledEq := settled_of_unlocked unlocked
    cases reservedEq : before.transport.reservePublisher with
    | mk slot reserved =>
        cases slot with
        | none =>
            have none : after.declaring = none := by simp [after, reservedEq]
            have unchanged := ZenohTransport.reservePublisher_of_none reservedEq
            refine ⟨?_, by simp [none]⟩
            rw [settled_of_unlocked none, settledEq]
            simp only [after, reservedEq, unchanged]
        | some slot =>
            obtain ⟨-, found, setEq⟩ := ZenohTransport.reservePublisher_eq_some_iff.mp reservedEq
            have free : (before.transport.pubPool slot).inUse = false :=
              ZenohTransport.inUse_of_firstFree found
            have transportEq : after.transport = before.transport.setPub slot
                { before.transport.pubPool slot with inUse := true } := by
              simp only [after, reservedEq, setEq]
            have declaringAfter : after.declaring = some ⟨thread, topicName, typeName, slot⟩ := by
              simp only [after, reservedEq, Option.map_some]
            have restored : after.settled = before.settled := by
              rw [settledEq, settled_of_declaring declaringAfter, transportEq]
              exact ZenohTransport.setPub_back free true
            refine ⟨restored, fun declaration declaring => ?_⟩
            cases declaringAfter.symm.trans declaring
            rw [restored, settledEq, reservedEq, transportEq, setEq]
  refine ⟨⟨same.2, fun thread slot publishing => ?_⟩, same.1⟩
  rw [same.1]
  exact settles.publishing thread slot publishing

/-- The rest of a declaration is the declaration of what is settled. -/
theorem Settles.declare (settles : before.Settles)
    {declaration : PubDeclaration kconfig Thread}
    (declaring : before.declaring = some declaration) (outcome : DeclareOutcome) :
    let transport := (before.transport.declarePublisherAt declaration.slot
      declaration.topicName declaration.typeName outcome).2
    let after : SharedTransport kconfig Callback UserData Thread :=
      { before with transport, declaring := none }
    after.Settles ∧ after.settled = (before.settled.declarePublisher declaration.topicName
      declaration.typeName outcome).2 := by
  intro transport after
  have settledAfter : after.settled = transport := settled_of_unlocked rfl
  refine ⟨⟨nofun, fun thread slot publishing => ?_⟩, ?_⟩
  · have different := settles.slot_ne publishing
    obtain ⟨-, -, -, pub, pubs, -⟩ := before.transport.declarePublisherAt_frame
      declaration.topicName declaration.typeName outcome declaration.slot
    rw [settledAfter, pubs, Function.update_of_ne (different declaration declaring).symm,
      ← pubPool_settled different]
    exact settles.publishing thread slot publishing
  · rw [settledAfter, ZenohTransport.declarePublisher_eq_reserve,
      settles.reserved declaration declaring]

/-- The put of a thread is a publish of what is settled. -/
theorem Settles.put [DecidableEq Thread] (settles : before.Settles) {thread : Thread}
    {slot : Fin kconfig.maxPublishers} (publishing : before.publishing thread = some slot)
    {size payloadSize : Nat} {payload : Block UInt8 size} {timestampNs : Int64} {ok : Bool}
    {status : Int} {transport : ZenohTransport kconfig Callback UserData}
    (puts : before.transport.putAt slot payload payloadSize timestampNs ok =
      some (status, transport)) :
    let after : SharedTransport kconfig Callback UserData Thread := { before with
      transport, publishing := Function.update before.publishing thread none }
    after.Settles ∧ before.settled.publish (some slot) payload payloadSize timestampNs ok =
      some (status, after.settled) := by
  intro after
  have used := settles.publishing thread slot publishing
  have different := settles.slot_ne publishing
  have published : before.settled.publish (some slot) payload payloadSize timestampNs ok =
      some (status, after.settled) := by
    rw [ZenohTransport.publish_eq_putAt, if_neg (by simp [ZenohTransport.inUse, used])]
    cases declaring : before.declaring with
    | none =>
        have settledAfter : after.settled = transport := settled_of_unlocked declaring
        rw [settled_of_unlocked declaring, settledAfter]
        exact puts
    | some declaration =>
        obtain ⟨same, putsSettled⟩ := ZenohTransport.putAt_setPub (different declaration declaring)
          { before.transport.pubPool declaration.slot with inUse := false } puts
        have declaringAfter : after.declaring = some declaration := declaring
        rw [settled_of_declaring declaring, settled_of_declaring declaringAfter, same]
        exact putsSettled
  obtain ⟨opened, -, inUse, -⟩ := ZenohTransport.publish_frame published
  refine ⟨⟨fun declaration declaring => ?_, fun other own otherPublishing => ?_⟩, published⟩
  · obtain ⟨isOpen, found, setEq⟩ := ZenohTransport.reservePublisher_eq_some_iff.mp
      (settles.reserved declaration declaring)
    have reservedUse : (before.transport.pubPool declaration.slot).inUse = true := by
      rw [setEq]
      simp
    have untouched : transport.pubPool declaration.slot =
        before.transport.pubPool declaration.slot :=
      (ZenohTransport.putAt_setPub (different declaration declaring) .zero puts).1
    rw [ZenohTransport.reservePublisher_eq_some_iff]
    refine ⟨opened.trans isOpen, by simpa only [inUse] using found, ?_⟩
    rw [settled_of_declaring declaring]
    exact (ZenohTransport.setPub_back (untouched ▸ reservedUse) false).symm
  · rw [inUse]
    refine settles.publishing other own ?_
    simp only [after] at otherPublishing
    rcases eq_or_ne other thread with rfl | apart
    · simp at otherPublishing
    · rwa [Function.update_of_ne apart] at otherPublishing

end SharedTransport

/-! ## Threads and the traffic of one -/

namespace SharedLifecycle

variable {kconfig : Kconfig} {Callback UserData Thread : Type} [DecidableEq Thread]
  {before after : SharedLifecycle kconfig Callback UserData Thread}

/-- What the threads have done, one after another. -/
def told (state : SharedLifecycle kconfig Callback UserData Thread) :
    LifecycleState kconfig Callback UserData where
  transport := state.shared.settled
  outstanding := state.outstanding

omit [DecidableEq Thread] in
theorem op_told (op : TransportOp kconfig Callback UserData)
    (settledBefore : before.shared.settled = before.shared.transport)
    (settledAfter : after.shared.settled = op.apply before.shared.transport)
    (counts : after.outstanding = op.outstanding before.shared.transport before.outstanding)
    (few : after.outstanding < 2 ^ 32) :
    ∃ use, (transportTraffic kconfig Callback UserData).step before.told use after.told := by
  refine ⟨.op op, ?_, ?_, few⟩
  · rw [told, told, settledBefore]
    exact settledAfter
  · rw [told, told, settledBefore]
    exact counts

/-- A step of the threads is an operation, a publish, or settles nothing yet. -/
theorem step_told {call : TransportCall kconfig Callback UserData Thread}
    (settles : before.shared.Settles)
    (steps : (sharedTraffic kconfig Callback UserData Thread).step before call after) :
    after.shared.Settles ∧ (after.told = before.told ∨
      ∃ use, (transportTraffic kconfig Callback UserData).step before.told use after.told) := by
  obtain ⟨shared, outstanding⟩ := after
  obtain ⟨orderly, steps, counts, few⟩ := steps
  obtain rfl : outstanding = call.outstanding before.outstanding := counts
  cases call with
  | init thread domainId nodeName mode locator outcome status =>
      obtain ⟨statusEq, locked⟩ := steps
      have pubs := (before.shared.transport.init_cases domainId nodeName mode locator outcome).1
      obtain ⟨sound, settledBefore, settledAfter⟩ :=
        settles.locked locked fun _ slot _ used => by rw [pubs]; exact used
      refine ⟨sound, .inr (op_told (.init domainId nodeName mode locator outcome) settledBefore
        settledAfter ?_ few)⟩
      rw [TransportCall.outstanding, statusEq]
      rfl
  | destroy thread =>
      obtain ⟨sound, settledBefore, settledAfter⟩ :=
        settles.locked steps fun other slot publishing used => by
          by_cases last : before.shared.transport.transportRefCount = 1
          · cases (orderly last other).symm.trans publishing
          · rw [ZenohTransport.pubPool_destroy last]
            exact used
      exact ⟨sound, .inr (op_told .destroy settledBefore settledAfter rfl few)⟩
  | undeclarePublisher thread pub status =>
      obtain ⟨-, locked⟩ := steps
      obtain ⟨sound, settledBefore, settledAfter⟩ :=
        settles.locked locked fun other slot publishing used => by
          cases pub with
          | none => exact used
          | some own =>
              have different : slot ≠ own := fun same => orderly other (same ▸ publishing)
              rw [ZenohTransport.pubPool_undeclarePublisher different]
              exact used
      exact ⟨sound, .inr (op_told (.undeclarePublisher pub) settledBefore settledAfter rfl few)⟩
  | undeclareSubscriber thread sub status =>
      obtain ⟨-, locked⟩ := steps
      obtain ⟨sound, settledBefore, settledAfter⟩ :=
        settles.locked locked fun _ slot _ used => by
          rw [ZenohTransport.pubPool_undeclareSubscriber]
          exact used
      exact ⟨sound, .inr (op_told (.undeclareSubscriber sub) settledBefore settledAfter rfl few)⟩
  | declareSubscriber thread topicName typeName callback userData outcome sub =>
      obtain ⟨-, locked⟩ := steps
      have pubs := (before.shared.transport.declareSubscriber_frame topicName typeName callback
        userData outcome).2.2.1
      obtain ⟨sound, settledBefore, settledAfter⟩ :=
        settles.locked locked fun _ slot _ used => by rw [pubs]; exact used
      exact ⟨sound, .inr (op_told (.declareSubscriber topicName typeName callback userData outcome)
        settledBefore settledAfter rfl few)⟩
  | reservePublisher thread topicName typeName slot =>
      obtain ⟨rfl, -, unlocked, rfl⟩ := steps
      obtain ⟨sound, same⟩ := settles.reserve unlocked thread topicName typeName
      exact ⟨sound, .inl (congrArg (LifecycleState.mk · before.outstanding) same)⟩
  | declarePublisher thread outcome pub =>
      obtain ⟨declaration, declaring, -, -, rfl⟩ := steps
      obtain ⟨sound, settledAfter⟩ := settles.declare declaring outcome
      exact ⟨sound, .inr ⟨.op (.declarePublisher declaration.topicName declaration.typeName
        outcome), settledAfter, rfl, few⟩⟩
  | publish thread pub status =>
      cases pub with
      | none =>
          obtain ⟨-, -, rfl⟩ := steps
          exact ⟨settles, .inl rfl⟩
      | some slot =>
          obtain ⟨-, looks⟩ := steps
          split at looks
          case isTrue =>
            obtain ⟨-, rfl⟩ := looks
            exact ⟨settles, .inl rfl⟩
          case isFalse used =>
            obtain ⟨-, rfl⟩ := looks
            exact ⟨settles.look orderly.2 (by simpa using used), .inl rfl⟩
  | put thread payload payloadSize timestampNs ok status =>
      obtain ⟨slot, transport, publishing, puts, rfl⟩ := steps
      obtain ⟨sound, published⟩ := settles.put publishing puts
      exact ⟨sound, .inr ⟨.publish (some slot) payload payloadSize timestampNs ok status,
        published, rfl⟩⟩

theorem settles_invariant :
    (sharedTraffic kconfig Callback UserData Thread).Invariant
      fun state => state.shared.Settles where
  start state starts := by
    have startEq : state.shared = ⟨.zero, none, fun _ => none⟩ := starts.1
    rw [startEq]
    exact ⟨nofun, nofun⟩
  step _ _ _ settles steps := (step_told settles steps).1

/-- Whatever orderly threads do, operations and publishes do one after another. -/
theorem told_reachable {state : SharedLifecycle kconfig Callback UserData Thread}
    (reached : (sharedTraffic kconfig Callback UserData Thread).Reachable state) :
    (transportTraffic kconfig Callback UserData).Reachable state.told := by
  refine reached.simulated settles_invariant told (fun start starts => ?_)
    fun _ _ _ settles steps => (step_told settles steps).2
  obtain ⟨startEq, none⟩ := starts
  have sharedEq : start.shared = ⟨.zero, .none, fun _ => .none⟩ := startEq
  have toldEq : start.told = ⟨start.shared.settled, start.outstanding⟩ := rfl
  rw [toldEq, sharedEq, none]
  rfl

section Steps

variable {shared : SharedTransport kconfig Callback UserData Thread}
  {transport after : ZenohTransport kconfig Callback UserData}
  {declaring : Option (PubDeclaration kconfig Thread)}
  {publishing : Thread → Option (Fin kconfig.maxPublishers)} {outstanding : Nat}
  {slot : Fin kconfig.maxPublishers}

theorem reachable_call (call : TransportCall kconfig Callback UserData Thread)
    (reached : (sharedTraffic kconfig Callback UserData Thread).Reachable before)
    (orderly : before.shared.Orderly call)
    (steps : (sharedTransport kconfig Callback UserData Thread).step before.shared call shared)
    (few : call.outstanding before.outstanding < 2 ^ 32) :
    (sharedTraffic kconfig Callback UserData Thread).Reachable
      ⟨shared, call.outstanding before.outstanding⟩ :=
  reached.step ⟨orderly, steps, rfl, few⟩

theorem reachable_look (thread : Thread)
    (reached : (sharedTraffic kconfig Callback UserData Thread).Reachable
      ⟨⟨transport, declaring, publishing⟩, outstanding⟩)
    (few : outstanding < 2 ^ 32) (idle : publishing thread = none)
    (alone : ∀ other, publishing other ≠ some slot)
    (used : transport.inUse (.pub slot) = true)
    (declared : ∀ declaration, declaring = some declaration →
      declaration.thread ≠ thread ∧ declaration.slot ≠ slot) :
    (sharedTraffic kconfig Callback UserData Thread).Reachable
      ⟨⟨transport, declaring, Function.update publishing thread (some slot)⟩, outstanding⟩ := by
  refine reachable_call (.publish thread (some slot) none) reached
    ⟨alone, fun declaration is => (declared declaration is).2⟩
    ⟨⟨idle, fun declaration is => (declared declaration is).1⟩, ?_⟩ few
  rw [if_neg (by simp [used])]
  exact ⟨rfl, rfl⟩

theorem reachable_put (thread : Thread)
    (reached : (sharedTraffic kconfig Callback UserData Thread).Reachable
      ⟨⟨transport, declaring, publishing⟩, outstanding⟩)
    (few : outstanding < 2 ^ 32) (looked : publishing thread = some slot) {size payloadSize : Nat}
    {payload : Block UInt8 size} {timestampNs : Int64} {ok : Bool} {status : Int}
    (puts : transport.putAt slot payload payloadSize timestampNs ok = some (status, after)) :
    (sharedTraffic kconfig Callback UserData Thread).Reachable
      ⟨⟨after, declaring, Function.update publishing thread none⟩, outstanding⟩ :=
  reachable_call (.put thread payload payloadSize timestampNs ok status) reached trivial
    ⟨slot, after, looked, puts, rfl⟩ few

theorem reachable_reserve (thread : Thread) (topicName : CString) (typeName : Option CString)
    (reached : (sharedTraffic kconfig Callback UserData Thread).Reachable
      ⟨⟨transport, none, publishing⟩, outstanding⟩)
    (few : outstanding < 2 ^ 32) (idle : publishing thread = none)
    (free : transport.reservePublisher.1 = some slot) :
    (sharedTraffic kconfig Callback UserData Thread).Reachable
      ⟨⟨transport.reservePublisher.2, some ⟨thread, topicName, typeName, slot⟩, publishing⟩,
        outstanding⟩ :=
  reachable_call (.reservePublisher thread topicName typeName (some slot)) reached trivial
    ⟨free.symm, ⟨idle, nofun⟩, rfl, rfl⟩ few

theorem reachable_declare {thread : Thread} {topicName : CString} {typeName : Option CString}
    (outcome : DeclareOutcome)
    (reached : (sharedTraffic kconfig Callback UserData Thread).Reachable
      ⟨⟨transport, some ⟨thread, topicName, typeName, slot⟩, publishing⟩, outstanding⟩)
    (few : outstanding < 2 ^ 32) :
    (sharedTraffic kconfig Callback UserData Thread).Reachable
      ⟨⟨(transport.declarePublisherAt slot topicName typeName outcome).2, none, publishing⟩,
        outstanding⟩ :=
  reachable_call (.declarePublisher thread outcome
    (transport.declarePublisherAt slot topicName typeName outcome).1) reached trivial
    ⟨_, rfl, rfl, rfl, rfl⟩ few

end Steps

/-- One thread publishes while another one declares a publisher and publishes through it; then
the first handle is ended and its slot is declared again. -/
theorem exists_fourSamples :
    ∃ state, (sharedTraffic (Kconfig.default .tier1) Unit Unit Bool).Reachable state ∧
      state.shared.transport.puts.map ZenohPut.entity = [some 4, some 7, some 4, some 13] := by
  let Transport := ZenohTransport (Kconfig.default .tier1) Unit Unit
  let Slot := Fin (Kconfig.default .tier1).maxPublishers
  let first : Slot := ⟨0, by decide⟩
  let second : Slot := ⟨1, by decide⟩
  let type := some rclStateMsgTypeString
  let outcome : DeclareOutcome := ⟨true, true, [1, 2], [3]⟩
  let payload : Block UInt8 1 := ⟨[7], rfl⟩
  let opened : Transport := (ZenohTransport.zero.init 0 (.ofString "zenbedded_node")
    (.ofString "client") none ⟨true, true, true, true, [1, 2]⟩).2
  let sent (transport : Transport) (slot : Slot) : Transport :=
    ((transport.putAt slot payload 1 0 true).getD (0, transport)).2
  have puts (transport : Transport) (slot : Slot) :
      transport.putAt slot payload 1 0 true = some (0, sent transport slot) := rfl
  have one : 1 < 2 ^ 32 := by decide
  have starts : (sharedTraffic (Kconfig.default .tier1) Unit Unit Bool).Reachable
      ⟨⟨.zero, none, fun _ => none⟩, 0⟩ := .start ⟨rfl, rfl⟩
  have opens : (sharedTraffic (Kconfig.default .tier1) Unit Unit Bool).Reachable
      ⟨⟨opened, none, fun _ => none⟩, 1⟩ :=
    reachable_call (.init false 0 (.ofString "zenbedded_node") (.ofString "client")
      none ⟨true, true, true, true, [1, 2]⟩ 0) starts trivial ⟨rfl, ⟨rfl, nofun⟩, rfl, rfl⟩ one
  have declares := reachable_declare outcome (reachable_reserve false
    (.ofString "joint_states") type opens one rfl (by decide +kernel : _ = some first)) one
  -- The first publish has looked at its handle when the other thread reserves a slot.
  have looksOnce := reachable_look false declares one rfl
    (by decide : ∀ other, _ ≠ some first) (by decide +kernel) nofun
  have reservesOther := reachable_reserve true (.ofString "other") type looksOnce one rfl
    (by decide +kernel : _ = some second)
  have declaresOther := reachable_declare outcome
    (reachable_put false reservesOther one rfl (puts _ first)) one
  -- Both threads have looked when the first of them puts.
  have looksBoth := reachable_look true (reachable_look false declaresOther one rfl
    (by decide : ∀ other, _ ≠ some first) (by decide +kernel) nofun) one rfl
    (by decide : ∀ other, _ ≠ some second) (by decide +kernel) nofun
  have putsBoth := reachable_put false (reachable_put true looksBoth one rfl (puts _ second))
    one rfl (puts _ first)
  have ends := reachable_call (.undeclarePublisher false (some first) 0) putsBoth
    (by decide : ∀ other, _ ≠ some first) ⟨rfl, ⟨rfl, nofun⟩, rfl, rfl⟩ one
  have declaresAgain := reachable_declare outcome (reachable_reserve true (.ofString "again")
    type ends one rfl (by decide +kernel : _ = some first)) one
  have putsAgain := reachable_put true (reachable_look true declaresAgain one rfl
    (by decide : ∀ other, _ ≠ some first) (by decide +kernel) nofun) one rfl (puts _ first)
  exact ⟨_, putsAgain, by decide +kernel⟩

end SharedLifecycle

/-- As long as no handle is ended while a publish goes through it, each sample of any number of
threads is put through a publisher that zenoh knows at that moment. -/
theorem samples_go_to_live_publishers {kconfig : Kconfig} {Callback UserData Thread : Type}
    [DecidableEq Thread] {state : SharedLifecycle kconfig Callback UserData Thread}
    (reached : (sharedTraffic kconfig Callback UserData Thread).Reachable state) :
    ZenohTransport.PutsAreLive state.shared.transport.log := by
  have live := (trafficSound_invariant.reachable (SharedLifecycle.told_reachable reached)).live
  rwa [SharedLifecycle.told, SharedTransport.log_settled] at live

theorem samples_go_to_live_publishers_redeclared :
    ∃ state, (sharedTraffic (Kconfig.default .tier1) Unit Unit Bool).Reachable state ∧
      state.shared.transport.puts.map ZenohPut.entity = [some 4, some 7, some 4, some 13] ∧
      ZenohTransport.PutsAreLive state.shared.transport.log := by
  obtain ⟨state, reached, puts⟩ := SharedLifecycle.exists_fourSamples
  exact ⟨state, reached, puts, samples_go_to_live_publishers reached⟩

/-- As long as no handle is ended while a publish goes through it and no other publish does, the
samples of a Tier 1 publisher carry one gid and the sequence numbers from one on, without gaps,
also when its slot had publishers before or has others since. -/
theorem samples_are_numbered {kconfig : Kconfig} (tier : kconfig.tier = .tier1)
    {Callback UserData Thread : Type} [DecidableEq Thread]
    {state : SharedLifecycle kconfig Callback UserData Thread}
    (reached : (sharedTraffic kconfig Callback UserData Thread).Reachable state) :
    (∀ put ∈ state.shared.transport.puts, ∃ entity, put.entity = some entity) ∧
      ∀ entity, ∃ gid, state.shared.transport.attachmentsTo entity =
        ZenohTransport.numbering gid
          (state.shared.transport.attachmentsTo entity).length := by
  have numbered :=
    (trafficSound_invariant.reachable (SharedLifecycle.told_reachable reached)).numbered tier
  have puts : state.told.transport.puts = state.shared.transport.puts :=
    congrArg (List.filterMap ZenohCall.put?) state.shared.log_settled
  have attachments (entity : Nat) : state.told.transport.attachmentsTo entity =
      state.shared.transport.attachmentsTo entity := by
    rw [ZenohTransport.attachmentsTo, puts, ZenohTransport.attachmentsTo]
  refine ⟨fun put isPut => ?_, fun entity => ?_⟩
  · obtain ⟨entity, -, entityEq⟩ := numbered.known put (puts ▸ isPut)
    exact ⟨entity, entityEq⟩
  · obtain ⟨gid, count, numbers⟩ := numbered.past entity
    rw [attachments] at numbers
    have length : (state.shared.transport.attachmentsTo entity).length = count := by
      simp [numbers, ZenohTransport.numbering]
    exact ⟨gid, by rw [length, numbers]⟩

theorem samples_are_numbered_redeclared :
    ∃ state, (sharedTraffic (Kconfig.default .tier1) Unit Unit Bool).Reachable state ∧
      state.shared.transport.puts.map ZenohPut.entity = [some 4, some 7, some 4, some 13] ∧
      ∀ entity, ∃ gid, state.shared.transport.attachmentsTo entity =
        ZenohTransport.numbering gid
          (state.shared.transport.attachmentsTo entity).length := by
  obtain ⟨state, reached, puts⟩ := SharedLifecycle.exists_fourSamples
  exact ⟨state, reached, puts, (samples_are_numbered rfl reached).2⟩

end Zenbedded
