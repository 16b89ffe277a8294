import Zenbedded.ClientInitOutcome

/-!
# Slots that belong to initialized clients

The transport releases slots only when its last user leaves.  In runs where no client
leaves, or gives up its initialization, while slots stay behind, every slot in use
belongs to an initialized client.
-/

namespace Zenbedded

open ByteBlock

namespace ClientWorld

variable {kconfig : Kconfig} {Id : Type} [DecidableEq Id] {stateCodec : Id → StateCodec}
  {commandCodec : Id → CommandCodec}

/-- No slot is left behind: a client leaves, or gives up after its publisher was declared,
only when no other client is initialized, and none starts a thread without a period. -/
def KeepsSlots (world : ClientWorld kconfig stateCodec commandCodec)
    (action : ClientWorldAction kconfig stateCodec commandCodec) : Prop :=
  (world.LosesSubscriber action → ∀ other, world.live other = false) ∧
    match action with
    | .init _ controlFreq _ _ _ _ _ => world.ReachesThread action → controlFreq ≠ 0
    | .destroy id => world.live id = true → ∀ other, other ≠ id → world.live other = false
    | _ => True

omit [DecidableEq Id] in
theorem KeepsSlots.startsThread {world : ClientWorld kconfig stateCodec commandCodec}
    {action : ClientWorldAction kconfig stateCodec commandCodec}
    (keeps : world.KeepsSlots action) : world.StartsThread action := by
  cases action with
  | init => exact keeps.2
  | destroy => trivial
  | call => trivial
  | publishState => trivial
  | sample => trivial

structure SlotsOwned (world : ClientWorld kconfig stateCodec commandCodec) : Prop where
  pub : ∀ slot, world.pubUsed slot = true →
    ∃ id, world.live id = true ∧ world.pubOf id = some slot
  sub : ∀ slot, world.subUsed slot = true →
    ∃ id, world.live id = true ∧ world.subOf id = some slot

variable {before after : ClientWorld kconfig stateCodec commandCodec}
  {action : ClientWorldAction kconfig stateCodec commandCodec} {id : Id}

/-! ## One step -/

section Step

omit [DecidableEq Id] in
theorem SlotsOwned.of_same (owned : before.SlotsOwned)
    (clients : ∀ id, SameClient before after id)
    (pubs : ∀ slot, after.pubUsed slot = before.pubUsed slot)
    (subs : ∀ slot, after.subUsed slot = before.subUsed slot) : after.SlotsOwned where
  pub slot used := by
    obtain ⟨id, isLive, owns⟩ := owned.pub slot ((pubs slot).symm.trans used)
    exact ⟨id, (clients id).live.trans isLive, ((clients id).pub isLive).trans owns⟩
  sub slot used := by
    obtain ⟨id, isLive, owns⟩ := owned.sub slot ((subs slot).symm.trans used)
    exact ⟨id, (clients id).live.trans isLive, ((clients id).sub isLive).trans owns⟩

omit [DecidableEq Id] in
theorem SlotsOwned.taken (owned : before.SlotsOwned) (wasDown : before.live id = false)
    (isUp : after.live id = true)
    (others : ∀ other, other ≠ id → SameClient before after other)
    {pub : Fin kconfig.maxPublishers} (ownsPub : after.pubOf id = some pub)
    (pubs : ∀ slot, after.pubUsed slot = (before.pubUsed slot || decide (slot = pub)))
    {sub : Fin kconfig.maxSubscribers} (ownsSub : after.subOf id = some sub)
    (subs : ∀ slot, slot ≠ sub →
      after.transport.subPool slot = before.transport.subPool slot) : after.SlotsOwned := by
  have isOther : ∀ other, before.live other = true → other ≠ id := by
    rintro other isLive rfl
    cases isLive.symm.trans wasDown
  constructor
  · intro slot used
    rw [pubs slot, Bool.or_eq_true, decide_eq_true_eq] at used
    rcases used with used | rfl
    · obtain ⟨other, isLive, owns⟩ := owned.pub slot used
      have same := others other (isOther other isLive)
      exact ⟨other, same.live.trans isLive, (same.pub isLive).trans owns⟩
    · exact ⟨id, isUp, ownsPub⟩
  · intro slot used
    rcases eq_or_ne slot sub with rfl | different
    · exact ⟨id, isUp, ownsSub⟩
    · rw [subUsed, subs slot different] at used
      obtain ⟨other, isLive, owns⟩ := owned.sub slot used
      have same := others other (isOther other isLive)
      exact ⟨other, same.live.trans isLive, (same.sub isLive).trans owns⟩

variable [Fintype Id]

theorem Linked.slotsOwned (linked : before.Linked) (admitted : kconfig.Admitted)
    (owned : before.SlotsOwned) (keeps : before.KeepsSlots action)
    (steps : before.Step action after) : after.SlotsOwned := by
  cases linked.change admitted steps with
  | unchanged clients _ _ pubs subs => exact owned.of_same clients pubs subs.used
  | taken id wasDown isUp others _ _ pub ownsPub _ pubs sub ownsSub _ _ subs =>
      exact owned.taken wasDown isUp others ownsPub pubs ownsSub subs
  | leaked cause _ _ _ wasOpen =>
      -- The transport is open for some client, and so the declaration is not its first use.
      obtain ⟨other, isLive⟩ := linked.opened.mp wasOpen
      cases isLive.symm.trans (keeps.1 cause other)
  | released id cause wasUp _ _ _ more =>
      subst cause
      rw [linked.counts] at more
      obtain ⟨other, member, different⟩ := Finset.exists_mem_ne more id
      have isLive : before.live other = true := by simpa [liveClients] using member
      cases isLive.symm.trans (keeps.2 wasUp other different)
  | closed id _ _ _ _ _ _ pubs subs =>
      constructor
      · intro slot used
        cases used.symm.trans (pubs slot)
      · intro slot used
        cases used.symm.trans (subs slot)

end Step

/-! ## Runs -/

section Runs

variable [Fintype Id]

/-- The use of the transport in which no step leaves slots behind. -/
abbrev keepingSlots (kconfig : Kconfig) {Id : Type} [DecidableEq Id]
    (stateCodec : Id → StateCodec) (commandCodec : Id → CommandCodec) :
    StepSystem (ClientWorld kconfig stateCodec commandCodec)
      (ClientWorldAction kconfig stateCodec commandCodec) :=
  (clientWorlds kconfig stateCodec commandCodec).restrict KeepsSlots

theorem slotsOwned_invariant (admitted : kconfig.Admitted) :
    (keepingSlots kconfig stateCodec commandCodec).Invariant
      fun world => world.Linked ∧ world.SlotsOwned := by
  refine ((linked_invariant admitted).restrict KeepsSlots).strengthen ?_ ?_
  · rintro _ rfl
    constructor
    · intro slot used
      cases used
    · intro slot used
      cases used
  · intro before action after linked owned steps
    exact linked.slotsOwned admitted owned steps.1 steps.2

omit [DecidableEq Id] [Fintype Id] in
/-- The client that a delivery calls back is the one that the slot feeds. -/
theorem feeds_of_handler {world : ClientWorld kconfig stateCodec commandCodec}
    {slot : Fin kconfig.maxSubscribers} {payload received : List UInt8} {callback : RecvCb}
    (used : world.subUsed slot = true)
    (handled : world.transport.internalSubHandler slot payload =
      some (callback, received, some id)) : world.Feeds slot id := by
  obtain ⟨userCb, callbackEq, answered⟩ := Option.bind_eq_some_iff.mp handled
  split at answered
  · cases answered
  · have answers := Option.some.inj answered
    simp only [Prod.mk.injEq] at answers
    obtain ⟨-, -, userData⟩ := answers
    cases userCb
    exact ⟨used, callbackEq, userData⟩

section Linked

variable {world : ClientWorld kconfig stateCodec commandCodec}

omit [DecidableEq Id] in
theorem Linked.feeds_of_subOf (linked : world.Linked) (isLive : world.live id = true)
    {slot : Fin kconfig.maxSubscribers} (owns : world.subOf id = some slot) :
    world.Feeds slot id := by
  obtain ⟨own, ownsSub, feeds⟩ := linked.sub id isLive
  cases owns.symm.trans ownsSub
  exact feeds

omit [DecidableEq Id] in
theorem Linked.pubUsed_of_pubOf (linked : world.Linked) (isLive : world.live id = true)
    {slot : Fin kconfig.maxPublishers} (owns : world.pubOf id = some slot) :
    world.pubUsed slot = true := by
  obtain ⟨own, ownsPub, used⟩ := linked.pub id isLive
  cases owns.symm.trans ownsPub
  exact used

omit [DecidableEq Id] [Fintype Id] in
theorem Feeds.unique {slot : Fin kconfig.maxSubscribers} {other : Id}
    (feeds : world.Feeds slot id) (feedsOther : world.Feeds slot other) : id = other :=
  Option.some.inj (feeds.2.2.symm.trans feedsOther.2.2)

omit [DecidableEq Id] in
theorem SlotsOwned.subOf_of_feeds (owned : world.SlotsOwned) (linked : world.Linked)
    {slot : Fin kconfig.maxSubscribers} (feeds : world.Feeds slot id) :
    world.live id = true ∧ world.subOf id = some slot := by
  obtain ⟨owner, isLive, owns⟩ := owned.sub slot feeds.1
  obtain rfl := feeds.unique (linked.feeds_of_subOf isLive owns)
  exact ⟨isLive, owns⟩

omit [DecidableEq Id] in
/-- As many slots are in use as clients own one, where no two own the same. -/
theorem card_used {slots : Nat} {used : Fin slots → Bool} {slotOf : Id → Option (Fin slots)}
    (owned : ∀ slot, used slot = true ↔ ∃ id, world.live id = true ∧ slotOf id = some slot)
    (owns : ∀ id, world.live id = true → ∃ slot, slotOf id = some slot)
    (single : ∀ id other, world.live id = true → world.live other = true →
      slotOf id = slotOf other → id = other) :
    (Finset.univ.filter fun slot => used slot = true).card = world.liveClients.card := by
  classical
  have sameImage : (Finset.univ.filter fun slot => used slot = true).image some =
      world.liveClients.image slotOf := by
    ext slot
    simp only [Finset.mem_image, Finset.mem_filter, Finset.mem_univ, true_and, liveClients]
    constructor
    · rintro ⟨slot, isUsed, rfl⟩
      exact (owned slot).mp isUsed
    · rintro ⟨id, isLive, rfl⟩
      obtain ⟨slot, slotEq⟩ := owns id isLive
      exact ⟨slot, (owned slot).mpr ⟨id, isLive, slotEq⟩, slotEq.symm⟩
  rw [← Finset.card_image_of_injective _ (Option.some_injective _), sameImage,
    Finset.card_image_of_injOn]
  intro id isLive other otherLive same
  simp only [liveClients, Finset.coe_filter, Finset.mem_univ, true_and,
    Set.mem_ofPred_eq] at isLive otherLive
  exact single id other isLive otherLive same

end Linked

end Runs

end ClientWorld

open ClientWorld in
/-- Slots belong to initialized clients, as long as no client leaves slots behind: each
slot in use has one owner, each initialized client owns one publisher and one subscriber,
and a client that was destroyed or failed to initialize is not called back. -/
theorem slots_belong_to_live_clients {kconfig : Kconfig} {Id : Type} [DecidableEq Id]
    [Fintype Id] {stateCodec : Id → StateCodec} {commandCodec : Id → CommandCodec}
    (admitted : kconfig.Admitted) {world : ClientWorld kconfig stateCodec commandCodec}
    (reached : (keepingSlots kconfig stateCodec commandCodec).Reachable world) :
    (∀ slot, world.subUsed slot = true →
      ∃! id, world.live id = true ∧ world.subOf id = some slot ∧ world.Feeds slot id) ∧
    (∀ slot, world.pubUsed slot = true →
      ∃! id, world.live id = true ∧ world.pubOf id = some slot) ∧
    (∀ id, world.live id = true →
      (∃! slot, world.pubUsed slot = true ∧ world.pubOf id = some slot) ∧
        ∃! slot, world.Feeds slot id) ∧
    ((Finset.univ.filter fun slot => world.pubUsed slot = true).card =
        world.liveClients.card ∧
      (Finset.univ.filter fun slot => world.subUsed slot = true).card =
        world.liveClients.card) ∧
    ∀ id action stopped actions after, action.Stops id →
      (keepingSlots kconfig stateCodec commandCodec).step world action stopped →
      (keepingSlots kconfig stateCodec commandCodec).Run stopped actions after →
      (∀ action ∈ actions, ¬ action.Starts id) →
      ∀ slot payload callback received, after.subUsed slot = true →
        after.transport.internalSubHandler slot payload ≠
          some (callback, received, some id) := by
  obtain ⟨linked, owned⟩ := (slotsOwned_invariant admitted).reachable reached
  refine ⟨?subs, ?pubs, ?clients, ⟨?pubCount, ?subCount⟩, ?stopped⟩
  case subs =>
    intro slot used
    obtain ⟨id, isLive, owns⟩ := owned.sub slot used
    have feeds := linked.feeds_of_subOf isLive owns
    exact ⟨id, ⟨isLive, owns, feeds⟩, fun other ⟨_, _, feedsOther⟩ => feedsOther.unique feeds⟩
  case pubs =>
    intro slot used
    obtain ⟨id, isLive, owns⟩ := owned.pub slot used
    exact ⟨id, ⟨isLive, owns⟩, fun other ⟨otherLive, otherOwns⟩ =>
      linked.pubOwner other id otherLive isLive (otherOwns.trans owns.symm)⟩
  case clients =>
    intro id isLive
    obtain ⟨pub, ownsPub, used⟩ := linked.pub id isLive
    obtain ⟨sub, ownsSub, feeds⟩ := linked.sub id isLive
    constructor
    · exact ⟨pub, ⟨used, ownsPub⟩, fun other ⟨_, otherOwns⟩ =>
        Option.some.inj (otherOwns.symm.trans ownsPub)⟩
    · refine ⟨sub, feeds, fun other feedsFromOther => ?_⟩
      have otherOwns := (owned.subOf_of_feeds linked feedsFromOther).2
      exact Option.some.inj (otherOwns.symm.trans ownsSub)
  case pubCount =>
    refine card_used (fun slot => ⟨owned.pub slot, ?_⟩) ?_
      linked.pubOwner
    · rintro ⟨id, isLive, owns⟩
      exact linked.pubUsed_of_pubOf isLive owns
    · intro id isLive
      obtain ⟨slot, owns, -⟩ := linked.pub id isLive
      exact ⟨slot, owns⟩
  case subCount =>
    refine card_used (fun slot => ⟨owned.sub slot, ?_⟩) ?_ ?_
    · rintro ⟨id, isLive, owns⟩
      exact (linked.feeds_of_subOf isLive owns).1
    · intro id isLive
      obtain ⟨slot, owns, -⟩ := linked.sub id isLive
      exact ⟨slot, owns⟩
    · intro id other isLive otherLive same
      obtain ⟨slot, owns, feeds⟩ := linked.sub id isLive
      exact feeds.unique (linked.feeds_of_subOf otherLive (same.symm.trans owns))
  case stopped =>
    intro id action stopped actions after stops steps run notStarted slot payload callback
      received used handled
    have starts : ∀ (world : ClientWorld kconfig stateCodec commandCodec) action,
        world.KeepsSlots action → world.StartsThread action := fun _ _ => KeepsSlots.startsThread
    have down : stopped.live id = false := by
      cases action with
      | init =>
          obtain ⟨rfl, fails⟩ := stops
          exact linked.failed_down admitted (starts _ _ steps.1) steps.2 fails
      | destroy =>
          obtain rfl := stops
          exact destroyed_down steps.2
      | call => exact stops.elim
      | publishState => exact stops.elim
      | sample => exact stops.elim
    have stillDown := stays_down_run admitted starts (linked.step admitted steps.2) down run
      notStarted
    have reachedAfter := (reached.step steps).run run
    obtain ⟨linkedAfter, ownedAfter⟩ := (slotsOwned_invariant admitted).reachable reachedAfter
    have isLive := (ownedAfter.subOf_of_feeds linkedAfter (feeds_of_handler used handled)).1
    cases isLive.symm.trans stillDown

/-- Two clients are initialized, and one of them is destroyed: its subscriber stays declared
and still calls it back. -/
theorem destroyed_client_is_called_back :
    ∃ world : ClientWorld (Kconfig.default .tier2) (fun _ : Bool => RawCodec.state 1)
        (fun _ => RawCodec.command 1),
      (clientWorlds _ _ _).Reachable world ∧ world.live true = false ∧
        ∃ slot, world.subUsed slot = true ∧
          world.transport.internalSubHandler slot [7] =
            some (.onTransportCmdCb, [7], some true) := by
  let kconfig := Kconfig.default .tier2
  let created : ZenbeddedClient kconfig (RawCodec.state 1) (RawCodec.command 1) := .construct
  let outcome : ClientOutcome :=
    ⟨⟨true, true, true, true, []⟩, ⟨true, true, [], []⟩, ⟨true, true, [], []⟩⟩
  have runs : (do
      let first ← created.init false .zero 1000 () () (Block.filled _ 0) outcome
      let second ← created.init true first.2.2 1000 () () (Block.filled _ 0) outcome
      let transport := (second.2.1.toZenbeddedClientBase.destroy second.2.2).2
      some ((transport.subPool ⟨1, by decide⟩).inUse,
        transport.internalSubHandler ⟨1, by decide⟩ [7])) =
      some (true, some (.onTransportCmdCb, [7], some true)) := by
    decide +kernel
  obtain ⟨⟨firstStatus, first, opened⟩, firstEq, rest⟩ := Option.bind_eq_some_iff.mp runs
  obtain ⟨⟨secondStatus, second, both⟩, secondEq, facts⟩ := Option.bind_eq_some_iff.mp rest
  obtain ⟨used, handled⟩ := Prod.mk.inj (Option.some.inj facts)
  let start : ClientWorld kconfig (fun _ : Bool => RawCodec.state 1)
    (fun _ => RawCodec.command 1) := ⟨fun _ => created, .zero⟩
  let one := { start.setClient false first with transport := opened }
  let two := { one.setClient true second with transport := both }
  let clients := clientWorlds kconfig (fun _ : Bool => RawCodec.state 1)
    (fun _ => RawCodec.command 1)
  have initFirst : clients.step start
      (.init false 1000 () () (Block.filled _ 0) outcome firstStatus) one :=
    ⟨first, opened, firstEq, rfl⟩
  have initSecond : clients.step one
      (.init true 1000 () () (Block.filled _ 0) outcome secondStatus) two :=
    ⟨second, both, secondEq, rfl⟩
  let last := { two.setClient true { two.client true with
    toZenbeddedClientBase := (second.toZenbeddedClientBase.destroy both).1 } with
    transport := (second.toZenbeddedClientBase.destroy both).2 }
  have destroySecond : clients.step two (.destroy true) last := rfl
  have starts : clients.Reachable start := .start rfl
  have reached := ((starts.step initFirst).step initSecond).step destroySecond
  exact ⟨last, reached, ClientWorld.destroyed_down destroySecond, ⟨1, by decide⟩, used, handled⟩

open ClientWorld in
/-- A client fails alone, comes up and is destroyed when another one has failed; then both come
up. -/
theorem slots_belong_to_live_clients_pair :
    ∃ single both : ClientWorld (Kconfig.default .tier2) (fun _ : Bool => RawCodec.state 1)
        (fun _ => RawCodec.command 1),
      (∃ slot, single.subUsed slot = true ∧ ∀ payload callback received,
        single.transport.internalSubHandler slot payload ≠
          some (callback, received, some false)) ∧
      (keepingSlots _ _ _).Reachable both ∧ both.liveClients.card = 2 ∧
      (∀ id, ∃! slot, both.Feeds slot id) ∧
      (Finset.univ.filter fun slot => both.subUsed slot = true).card = both.liveClients.card := by
  let World := ClientWorld (Kconfig.default .tier2) (fun _ : Bool => RawCodec.state 1)
    (fun _ => RawCodec.command 1)
  let clients := keepingSlots (Kconfig.default .tier2) (fun _ : Bool => RawCodec.state 1)
    (fun _ => RawCodec.command 1)
  let outcome (pub sub : Bool) : ClientOutcome :=
    ⟨⟨true, true, true, true, []⟩, ⟨pub, true, [], []⟩, ⟨sub, true, [], []⟩⟩
  let init (world : World) (id pub sub : Bool) : Option (Int × World) :=
    world.initClient id 1000 () () (Block.filled _ 0) (outcome pub sub)
  have inits (world : World) (id pub sub : Bool) (completes : (init world id pub sub).isSome)
      (keeps : pub = true → (∀ other, world.live other = false) ∨
        sub = true ∧ ∃ slot, world.subUsed slot = false) :
      let result := (init world id pub sub).get completes
      clients.step world (.init id 1000 () () (Block.filled _ 0) (outcome pub sub) result.1)
        result.2 := by
    refine ⟨⟨fun ⟨_, _, _, declared, loses⟩ => ?_, fun _ => by decide⟩,
      step_initClient (Option.some_get completes).symm⟩
    rcases keeps declared with down | ⟨subDeclared, free⟩
    · exact down
    · exact absurd ⟨free, subDeclared⟩ loses
  let start : World := ⟨fun _ => .construct, .zero⟩
  let noSub := (init start false true false).get (by decide +kernel)
  let one := (init noSub.2 false true true).get (by decide +kernel)
  let noPub := (init one.2 true false true).get (by decide +kernel)
  let gone := noPub.2.destroyClient false
  let single := (init gone true true true).get (by decide +kernel)
  let both := (init single.2 false true true).get (by decide +kernel)
  have starts : clients.Reachable start := .start rfl
  have reachedNoSub := starts.step (inits start false true false (by decide +kernel)
    fun _ => .inl fun _ => rfl)
  have reachedNoPub := (reachedNoSub.step (inits noSub.2 false true true (by decide +kernel)
    fun _ => .inl (by decide +kernel))).step (inits one.2 true false true (by decide +kernel)
    nofun)
  have stops : clients.step noPub.2 (.destroy false) gone :=
    ⟨⟨nofun, fun _ => by decide +kernel⟩, rfl⟩
  have restarts := inits gone true true true (by decide +kernel) fun _ => .inl (by decide +kernel)
  have reachedBoth := ((reachedNoPub.step stops).step restarts).step
    (inits single.2 false true true (by decide +kernel)
      fun _ => .inr ⟨rfl, ⟨1, by decide⟩, by decide +kernel⟩)
  have stopped := (slots_belong_to_live_clients (Kconfig.default_admitted .tier2)
    reachedNoPub).2.2.2.2 false (.destroy false) gone _ _ rfl stops (.single restarts)
    (by simp [ClientWorldAction.Starts]) ⟨0, by decide⟩
  obtain ⟨-, -, clients, counts, -⟩ :=
    slots_belong_to_live_clients (Kconfig.default_admitted .tier2) reachedBoth
  refine ⟨single.2, both.2, ⟨⟨0, by decide⟩, by decide +kernel, fun payload callback received =>
    stopped payload callback received (by decide +kernel)⟩, reachedBoth, by decide +kernel,
    fun id => ?_, counts.2⟩
  cases id with
  | false => exact (clients false (by decide +kernel)).2
  | true => exact (clients true (by decide +kernel)).2

end Zenbedded
