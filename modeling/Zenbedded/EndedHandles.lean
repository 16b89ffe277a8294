import Zenbedded.HandleChanges

/-!
# Handles of ended declarations

A handle is the address of a slot, and `in_use` is all that a call looks at.  After the
end of its declaration a handle is refused until the slot is taken again; from then on
it stands for the later declaration.
-/

namespace Zenbedded

variable {kconfig : Kconfig} {Callback UserData Thread : Type}

namespace SharedTransport

/-- Every slot in use holds an entity that zenoh knows, or is being declared. -/
structure HandlesSound (world : SharedTransport kconfig Callback UserData Thread) : Prop where
  slots : world.transport.SlotsSound
  known : ∀ handle entity, world.transport.entity handle = some entity →
    entity < world.transport.log.length
  reserved : ∀ declaration, world.declaring = some declaration →
    world.transport.inUse (.pub declaration.slot) = true ∧
      world.transport.entity (.pub declaration.slot) = none
  held : ∀ handle, world.transport.inUse handle = true →
    (world.transport.entity handle).isSome ∨
      ∃ declaration, world.declaring = some declaration ∧ handle = .pub declaration.slot

variable {before after : SharedTransport kconfig Callback UserData Thread}

def reserving : TransportCall kconfig Callback UserData Thread → Option (TransportHandle kconfig)
  | .reservePublisher _ _ _ slot => slot.map .pub
  | _ => none

theorem HandlesSound.known_after (sound : before.HandlesSound)
    {reserving : Option (TransportHandle kconfig)}
    (changes : before.transport.HandleChanges reserving after.transport)
    (handle : TransportHandle kconfig) (entity : Nat)
    (stands : after.transport.entity handle = some entity) :
    entity < after.transport.log.length := by
  rcases (changes.handles handle).entity_after stands with stood | ⟨rfl, grows⟩
  · exact Nat.lt_of_lt_of_le (sound.known handle entity stood) changes.grows.length_le
  · exact grows

theorem HandlesSound.locked (sound : before.HandlesSound) {thread : Thread}
    {transport : ZenohTransport kconfig Callback UserData}
    (changes : before.transport.HandleChanges none transport)
    (locked : before.Locked thread transport after) :
    after.HandlesSound ∧ before.transport.HandleChanges none after.transport := by
  obtain ⟨-, unlocked, rfl⟩ := locked
  refine ⟨⟨changes.sound, sound.known_after changes, ?_, fun handle used => .inl ?_⟩, changes⟩
  · simp [unlocked]
  · cases changes.handles handle with
    | kept usedSame entitySame =>
        rw [entitySame]
        exact (sound.held handle (usedSame ▸ used)).resolve_right (by simp [unlocked])
    | ended free => cases free.symm.trans used
    | reserved reserves => cases reserves
    | declared _ declares => exact declares ▸ rfl

variable [DecidableEq Thread]

/-- Every step keeps the slots sound, and changes handles as an operation does. -/
theorem HandlesSound.step (sound : before.HandlesSound)
    {call : TransportCall kconfig Callback UserData Thread} (steps : before.Step call after) :
    after.HandlesSound ∧ before.transport.HandleChanges (reserving call) after.transport := by
  cases call with
  | init thread domainId nodeName mode locator outcome status =>
      exact sound.locked (sound.slots.init domainId nodeName mode locator outcome) steps.2
  | destroy thread => exact sound.locked sound.slots.destroy steps
  | undeclarePublisher thread pub status =>
      exact sound.locked (sound.slots.undeclarePublisher pub) steps.2
  | undeclareSubscriber thread sub status =>
      exact sound.locked (sound.slots.undeclareSubscriber sub) steps.2
  | declareSubscriber thread topicName typeName callback userData outcome sub =>
      exact sound.locked
        (sound.slots.declareSubscriber topicName typeName callback userData outcome) steps.2
  | reservePublisher thread topicName typeName slot =>
      obtain ⟨rfl, -, unlocked, rfl⟩ := steps
      obtain ⟨changes, reserved⟩ := sound.slots.reservePublisher
      refine ⟨⟨changes.sound, sound.known_after changes, ?_, fun handle used => ?_⟩, changes⟩
      · intro declaration declaring
        obtain ⟨slot, slotEq, rfl⟩ := Option.map_eq_some_iff.mp declaring
        exact reserved slot slotEq
      · cases changes.handles handle with
        | kept usedSame entitySame =>
            rw [entitySame]
            exact .inl ((sound.held handle (usedSame ▸ used)).resolve_right (by simp [unlocked]))
        | ended free => cases free.symm.trans used
        | reserved reserves =>
            obtain ⟨slot, slotEq, rfl⟩ := Option.map_eq_some_iff.mp reserves
            exact .inr ⟨_, Option.map_eq_some_iff.mpr ⟨slot, slotEq, rfl⟩, rfl⟩
        | declared _ declares => exact .inl (declares ▸ rfl)
  | declarePublisher thread outcome pub =>
      obtain ⟨declaration, declaring, -, -, rfl⟩ := steps
      obtain ⟨reserved, empty⟩ := sound.reserved declaration declaring
      obtain ⟨changes, holds⟩ := sound.slots.declarePublisherAt reserved empty
        declaration.topicName declaration.typeName outcome
      refine ⟨⟨changes.sound, sound.known_after changes, by simp, fun handle used => .inl ?_⟩,
        changes⟩
      rcases eq_or_ne handle (.pub declaration.slot) with rfl | different
      · exact holds used
      · cases changes.handles handle with
        | kept usedSame entitySame =>
            rw [entitySame]
            refine (sound.held handle (usedSame ▸ used)).resolve_right ?_
            rintro ⟨other, otherDeclaring, rfl⟩
            cases declaring.symm.trans otherDeclaring
            exact different rfl
        | ended free => cases free.symm.trans used
        | reserved reserves => cases reserves
        | declared _ declares => exact declares ▸ rfl
  | publish thread pub status =>
      cases pub with
      | none =>
          obtain ⟨-, -, rfl⟩ := steps
          exact ⟨sound, sound.slots.unchanged⟩
      | some slot =>
          obtain ⟨-, looks⟩ := steps
          split at looks
          · obtain ⟨-, rfl⟩ := looks
            exact ⟨sound, sound.slots.unchanged⟩
          · obtain ⟨-, rfl⟩ := looks
            exact ⟨⟨sound.slots, sound.known, sound.reserved, sound.held⟩,
              sound.slots.unchanged⟩
  | put thread payload payloadSize timestampNs ok status =>
      obtain ⟨slot, transport, -, puts, rfl⟩ := steps
      obtain ⟨changes, kept⟩ := sound.slots.putAt puts
      refine ⟨⟨changes.sound, sound.known_after changes, ?_, ?_⟩, changes⟩
      · intro declaration declaring
        rw [(kept _).1, (kept _).2]
        exact sound.reserved declaration declaring
      · intro handle
        rw [(kept handle).1, (kept handle).2]
        exact sound.held handle

theorem handlesSound_invariant : (sharedTransport kconfig Callback UserData Thread).Invariant
    HandlesSound where
  start := by
    rintro _ rfl
    have unheld (handle : TransportHandle kconfig) :
        (ZenohTransport.zero : ZenohTransport kconfig Callback UserData).entity handle = none := by
      cases handle <;> rfl
    have unused (handle : TransportHandle kconfig) :
        (ZenohTransport.zero : ZenohTransport kconfig Callback UserData).inUse handle = false := by
      cases handle <;> rfl
    exact {
      slots := ⟨fun handle used => (nomatch (unused handle).symm.trans used), fun _ _ => rfl⟩
      known := fun handle entity stands => nomatch (unheld handle).symm.trans stands
      reserved := nofun
      held := fun handle used => nomatch (unused handle).symm.trans used }
  step _ _ _ sound steps := (sound.step steps).1

/-! ## Later calls -/

end SharedTransport

namespace TransportCall

variable (handle : TransportHandle kconfig)

def Answers : TransportCall kconfig Callback UserData Thread → Prop
  | .declarePublisher _ _ (some slot) => handle = .pub slot
  | .declareSubscriber _ _ _ _ _ _ (some slot) => handle = .sub slot
  | _ => False

def CallsOn : TransportCall kconfig Callback UserData Thread → Prop
  | .undeclarePublisher _ (some slot) _ => handle = .pub slot
  | .undeclareSubscriber _ (some slot) _ => handle = .sub slot
  | .publish _ (some slot) _ => handle = .pub slot
  | _ => False

def Refused : TransportCall kconfig Callback UserData Thread → Prop
  | .undeclarePublisher _ _ status | .undeclareSubscriber _ _ status => status < 0
  | .publish _ _ status => ∃ error, status = some error ∧ error < 0
  | _ => False

end TransportCall

namespace SharedTransport

/-- The call ended what the handle stands for, or goes on to publish through it. -/
def ActedOn (handle : TransportHandle kconfig) :
    TransportCall kconfig Callback UserData Thread →
      SharedTransport kconfig Callback UserData Thread → Prop
  | .undeclarePublisher _ _ status, after | .undeclareSubscriber _ _ status, after =>
      status = 0 ∧ after.transport.inUse handle = false
  | .publish thread pub status, after => status = none ∧ after.publishing thread = pub
  | _, _ => False

/-- A declaration later than that of an entity has the slot of a handle or is taking it. -/
def TakenSince (entity : Nat) (handle : TransportHandle kconfig)
    (world : SharedTransport kconfig Callback UserData Thread) : Prop :=
  (∃ other, world.transport.entity handle = some other ∧ entity < other) ∨
    ∃ declaration, world.declaring = some declaration ∧ handle = .pub declaration.slot

variable [DecidableEq Thread] {before after : SharedTransport kconfig Callback UserData Thread}
  {handle : TransportHandle kconfig} {call : TransportCall kconfig Callback UserData Thread}

/-- What `in_use` decides. -/
theorem HandlesSound.call_cases (sound : before.HandlesSound) (calls : call.CallsOn handle)
    (steps : before.Step call after) :
    before.transport.inUse handle = false ∧ call.Refused ∧ after = before ∨
      before.transport.inUse handle = true ∧ ¬call.Refused ∧ ActedOn handle call after := by
  cases call with
  | undeclarePublisher thread pub status =>
      cases pub with
      | none => cases calls
      | some slot =>
          obtain rfl : handle = .pub slot := calls
          obtain ⟨rfl, -, -, rfl⟩ := steps
          cases used : before.transport.inUse (.pub slot) with
          | false =>
              have refused := ZenohTransport.undeclarePublisher_of_free used
              refine .inl ⟨rfl, ?_, ?_⟩
              · rw [TransportCall.Refused, refused]
                exact (by decide : -einval < 0)
              · rw [refused]
          | true =>
              obtain ⟨succeeds, free⟩ :=
                ZenohTransport.undeclarePublisher_of_used (sound.slots.opened _ used) used
              exact .inr ⟨rfl, by simp [TransportCall.Refused, succeeds], succeeds, free⟩
  | undeclareSubscriber thread sub status =>
      cases sub with
      | none => cases calls
      | some slot =>
          obtain rfl : handle = .sub slot := calls
          obtain ⟨rfl, -, -, rfl⟩ := steps
          cases used : before.transport.inUse (.sub slot) with
          | false =>
              have refused := ZenohTransport.undeclareSubscriber_of_free used
              refine .inl ⟨rfl, ?_, ?_⟩
              · rw [TransportCall.Refused, refused]
                exact (by decide : -einval < 0)
              · rw [refused]
          | true =>
              obtain ⟨succeeds, free⟩ :=
                ZenohTransport.undeclareSubscriber_of_used (sound.slots.opened _ used) used
              exact .inr ⟨rfl, by simp [TransportCall.Refused, succeeds], succeeds, free⟩
  | publish thread pub status =>
      cases pub with
      | none => cases calls
      | some slot =>
          obtain rfl : handle = .pub slot := calls
          obtain ⟨-, looks⟩ := steps
          cases used : before.transport.inUse (.pub slot) with
          | false =>
              rw [if_pos used] at looks
              obtain ⟨rfl, rfl⟩ := looks
              exact .inl ⟨rfl, ⟨-1, rfl, by decide⟩, rfl⟩
          | true =>
              rw [if_neg (by simp [used])] at looks
              obtain ⟨rfl, rfl⟩ := looks
              exact .inr ⟨rfl, by simp [TransportCall.Refused], rfl, by simp⟩
  | init => cases calls
  | destroy => cases calls
  | reservePublisher => cases calls
  | declarePublisher => cases calls
  | declareSubscriber => cases calls
  | put => cases calls

/-- The declaration of an entity is over, whatever the handle stands for now. -/
structure Past (entity : Nat) (handle : TransportHandle kconfig)
    (world : SharedTransport kconfig Callback UserData Thread) : Prop where
  known : entity < world.transport.log.length
  later : ∀ other, world.transport.entity handle = some other → entity < other

variable {entity : Nat}

theorem Past.step (past : before.Past entity handle) (sound : before.HandlesSound)
    (steps : before.Step call after) : after.Past entity handle := by
  have changes := (sound.step steps).2
  refine ⟨Nat.lt_of_lt_of_le past.known changes.grows.length_le, fun other stands => ?_⟩
  rcases (changes.handles handle).entity_after stands with stood | ⟨rfl, -⟩
  · exact past.later other stood
  · exact past.known

theorem Past.run (past : before.Past entity handle) (sound : before.HandlesSound)
    {calls : List (TransportCall kconfig Callback UserData Thread)}
    (run : (sharedTransport kconfig Callback UserData Thread).Run before calls after) :
    after.HandlesSound ∧ after.Past entity handle := by
  induction run with
  | nil => exact ⟨sound, past⟩
  | cons steps _ ih => exact ih (past.step sound steps) (sound.step steps).1

/-- Nothing takes the slot from a declaration before its end. -/
theorem HandlesSound.stands_or_past (sound : before.HandlesSound)
    (stands : before.transport.entity handle = some entity) (steps : before.Step call after) :
    after.transport.entity handle = some entity ∨ after.Past entity handle := by
  have changes := (sound.step steps).2
  cases changes.handles handle with
  | kept _ same => exact .inl (same.trans stands)
  | ended free =>
      have known := sound.known handle entity stands
      refine .inr ⟨Nat.lt_of_lt_of_le known changes.grows.length_le, fun other otherStands => ?_⟩
      cases (ZenohTransport.entity_of_free free).symm.trans otherStands
  | reserved _ free _ => cases (ZenohTransport.entity_of_free free).symm.trans stands
  | declared empty _ _ => cases empty.symm.trans stands

theorem HandlesSound.run_stands_or_past (sound : before.HandlesSound)
    (stands : before.transport.entity handle = some entity)
    {calls : List (TransportCall kconfig Callback UserData Thread)}
    (run : (sharedTransport kconfig Callback UserData Thread).Run before calls after) :
    after.HandlesSound ∧
      (after.transport.entity handle = some entity ∨ after.Past entity handle) := by
  induction run with
  | nil => exact ⟨sound, .inl stands⟩
  | cons steps rest ih =>
      have middleSound := (sound.step steps).1
      rcases sound.stands_or_past stands steps with stillStands | past
      · exact ih middleSound stillStands
      · obtain ⟨afterSound, afterPast⟩ := past.run middleSound rest
        exact ⟨afterSound, .inr afterPast⟩

omit [DecidableEq Thread] in
theorem Past.inUse_iff_takenSince (past : before.Past entity handle)
    (sound : before.HandlesSound) :
    before.transport.inUse handle = true ↔ before.TakenSince entity handle := by
  constructor
  · intro used
    rcases sound.held handle used with isSome | declaring
    · obtain ⟨other, stands⟩ := Option.isSome_iff_exists.mp isSome
      exact .inl ⟨other, stands, past.later other stands⟩
    · exact .inr declaring
  · rintro (⟨other, stands, -⟩ | ⟨declaration, declaring, rfl⟩)
    · exact ZenohTransport.inUse_of_entity stands
    · exact (sound.reserved declaration declaring).1

theorem HandlesSound.entity_of_answers (sound : before.HandlesSound)
    (answers : call.Answers handle) (steps : before.Step call after) :
    after.transport.entity handle = some before.transport.log.length := by
  have changes := (sound.step steps).2
  cases call with
  | declarePublisher thread outcome pub =>
      obtain ⟨declaration, declaring, -, answersPub, rfl⟩ := steps
      cases pub with
      | none => cases answers
      | some slot =>
          obtain ⟨reserved, empty⟩ := sound.reserved declaration declaring
          obtain ⟨-, -, -, pub, pubs, ⟨answersSlot, used, -⟩ | ⟨answersNull, -⟩⟩ :=
            before.transport.declarePublisherAt_frame declaration.topicName
              declaration.typeName outcome declaration.slot
          · cases answersPub.trans answersSlot
            obtain rfl : handle = .pub declaration.slot := answers
            have holds := (sound.slots.declarePublisherAt reserved empty declaration.topicName
              declaration.typeName outcome).2 (by simpa [ZenohTransport.inUse, pubs] using used)
            cases changes.handles (.pub declaration.slot) with
            | kept _ same =>
                rw [same.trans empty] at holds
                cases holds
            | ended free =>
                rw [ZenohTransport.entity_of_free free] at holds
                cases holds
            | reserved reserves => cases reserves
            | declared _ declares _ => exact declares
          · cases answersPub.trans answersNull
  | declareSubscriber thread topicName typeName callback userData outcome sub =>
      obtain ⟨answersSub, -, -, rfl⟩ := steps
      cases sub with
      | none => cases answers
      | some slot =>
          obtain rfl : handle = .sub slot := answers
          obtain ⟨-, -, -, ⟨answersNull, -⟩ | ⟨other, sub, answersSlot, free, used, -, -, subs⟩⟩ :=
            before.transport.declareSubscriber_cases topicName typeName callback userData outcome
          · cases answersSub.trans answersNull
          · cases answersSub.trans answersSlot
            have nowUsed : (before.transport.declareSubscriber topicName typeName callback
                userData outcome).2.inUse (.sub slot) = true := by
              simpa [ZenohTransport.inUse, subs] using used
            cases changes.handles (.sub slot) with
            | kept same _ => cases (nowUsed.symm.trans same).trans free
            | ended nowFree => cases nowUsed.symm.trans nowFree
            | reserved reserves => cases reserves
            | declared _ declares _ => exact declares
  | init => cases answers
  | destroy => cases answers
  | undeclarePublisher => cases answers
  | undeclareSubscriber => cases answers
  | reservePublisher => cases answers
  | publish => cases answers
  | put => cases answers

end SharedTransport

/-- Once the declaration of a handle has ended, a call on the handle is refused and changes
nothing exactly as long as no later declaration has its slot or is taking it; otherwise
the call acts on that one.  The ended declaration does not come back. -/
theorem ended_handle_concerns_later_declarations [DecidableEq Thread]
    {before declared : SharedTransport kconfig Callback UserData Thread}
    (reached : (sharedTransport kconfig Callback UserData Thread).Reachable before)
    {declares : TransportCall kconfig Callback UserData Thread}
    (declaring : before.Step declares declared) {handle : TransportHandle kconfig}
    (answers : declares.Answers handle) :
    ∃ entity, declared.transport.entity handle = some entity ∧
      ∀ {ended world after : SharedTransport kconfig Callback UserData Thread} {during since},
        (sharedTransport kconfig Callback UserData Thread).Run declared during ended →
        ended.transport.entity handle ≠ some entity →
        (sharedTransport kconfig Callback UserData Thread).Run ended since world →
          world.transport.entity handle ≠ some entity ∧
            ∀ call, call.CallsOn handle → world.Step call after →
              (call.Refused ∧ after = world ↔ ¬world.TakenSince entity handle) ∧
              (world.TakenSince entity handle → SharedTransport.ActedOn handle call after) := by
  have sound := SharedTransport.handlesSound_invariant.reachable reached
  have declaredSound := (sound.step declaring).1
  have stands := sound.entity_of_answers answers declaring
  refine ⟨_, stands, ?_⟩
  intro ended world after during since ending gone later
  obtain ⟨endedSound, standsOrPast⟩ := declaredSound.run_stands_or_past stands ending
  obtain ⟨worldSound, past⟩ := (standsOrPast.resolve_left gone).run endedSound later
  refine ⟨fun returns => (past.later _ returns).false, fun call calls steps => ?_⟩
  rw [← past.inUse_iff_takenSince worldSound]
  rcases worldSound.call_cases calls steps with ⟨free, refused, same⟩ | ⟨used, accepted, acted⟩
  · simp [free, refused, same]
  · simp [used, accepted, acted]

/-- One thread declares a publisher and undeclares it; another one gets its slot. -/
theorem slot_declared_twice :
    let system := sharedTransport (Kconfig.default .tier2) Unit Unit Bool
    let slot : Fin (Kconfig.default .tier2).maxPublishers := ⟨0, by decide⟩
    let outcome : DeclareOutcome := ⟨true, true, [], []⟩
    ∃ before declared ended world, system.Reachable before ∧
      system.step before (.declarePublisher false outcome (some slot)) declared ∧
      declared.transport.entity (.pub slot) = some 3 ∧
      system.Run declared [.undeclarePublisher false (some slot) 0] ended ∧
      ended.transport.entity (.pub slot) = none ∧ ended.declaring = none ∧
      system.Run ended [.reservePublisher true (.ofString "other") none (some slot),
        .declarePublisher true outcome (some slot)] world ∧
      world.transport.entity (.pub slot) = some 5 ∧ world.declaring = none ∧
      world.publishing = fun _ => none := by
  intro system slot outcome
  let between (transport : ZenohTransport (Kconfig.default .tier2) Unit Unit) :
      SharedTransport (Kconfig.default .tier2) Unit Unit Bool := ⟨transport, none, fun _ => none⟩
  let reserving (transport : ZenohTransport (Kconfig.default .tier2) Unit Unit) (thread : Bool)
      (topic : String) : SharedTransport (Kconfig.default .tier2) Unit Unit Bool :=
    ⟨transport.reservePublisher.2, some ⟨thread, .ofString topic, none, slot⟩, fun _ => none⟩
  let opened := ((.zero : ZenohTransport (Kconfig.default .tier2) Unit Unit).init 0
    (.ofString "node") (.ofString "client") none ⟨true, true, true, true, []⟩).2
  let first := (opened.reservePublisher.2.declarePublisherAt slot (.ofString "topic") none
    outcome).2
  let freed := (first.undeclarePublisher (some slot)).2
  let second := (freed.reservePublisher.2.declarePublisherAt slot (.ofString "other") none
    outcome).2
  have idle (transport : ZenohTransport (Kconfig.default .tier2) Unit Unit) (thread : Bool) :
      (between transport).Idle thread := ⟨rfl, nofun⟩
  have opens : system.step (between .zero)
      (.init false 0 (.ofString "node") (.ofString "client") none ⟨true, true, true, true, []⟩ 0)
      (between opened) := ⟨rfl, idle _ _, rfl, rfl⟩
  have reserves : system.step (between opened)
      (.reservePublisher false (.ofString "topic") none (some slot))
      (reserving opened false "topic") := ⟨rfl, idle _ _, rfl, rfl⟩
  have undeclares : system.step (between first) (.undeclarePublisher false (some slot) 0)
      (between freed) := ⟨rfl, idle _ _, rfl, rfl⟩
  have reservesAgain : system.step (between freed)
      (.reservePublisher true (.ofString "other") none (some slot))
      (reserving freed true "other") := ⟨rfl, idle _ _, rfl, rfl⟩
  have reached : system.Reachable (reserving opened false "topic") :=
    (StepSystem.Reachable.step (.start rfl) opens).step reserves
  refine ⟨reserving opened false "topic", between first, between freed, between second, reached,
    ⟨_, rfl, rfl, rfl, rfl⟩, rfl, .single undeclares, rfl, rfl, ?_, rfl, rfl, rfl⟩
  exact .cons reservesAgain (.single ⟨_, rfl, rfl, rfl, rfl⟩)

/-- A handle that was undeclared publishes through the publisher another thread declared in
its slot, and undeclares it. -/
theorem stale_handle_acts_on_later_declaration :
    let system := sharedTransport (Kconfig.default .tier2) Unit Unit Bool
    let slot : Fin (Kconfig.default .tier2).maxPublishers := ⟨0, by decide⟩
    let outcome : DeclareOutcome := ⟨true, true, [], []⟩
    ∃ before declared ended world sending sent after, system.Reachable before ∧
      system.step before (.declarePublisher false outcome (some slot)) declared ∧
      declared.transport.entity (.pub slot) = some 3 ∧
      system.Run declared [.undeclarePublisher false (some slot) 0] ended ∧
      ended.transport.entity (.pub slot) = none ∧
      system.Run ended [.reservePublisher true (.ofString "other") none (some slot),
        .declarePublisher true outcome (some slot)] world ∧
      world.transport.entity (.pub slot) = some 5 ∧
      system.step world (.publish false (some slot) none) sending ∧
      system.step sending (.put false (.filled 1 1) 1 0 true 0) sent ∧
      sent.transport.log = world.transport.log ++ [.put (some 5) [1] none true] ∧
      system.step world (.undeclarePublisher false (some slot) 0) after ∧
      after.transport.entity (.pub slot) = none := by
  intro system slot outcome
  obtain ⟨before, declared, ended, world, reached, declares, stands, undeclares, gone, -, later,
    other, unlocked, idle⟩ := slot_declared_twice
  have worldReached : system.Reachable world :=
    ((reached.step declares).run undeclares).run later
  have sound := SharedTransport.handlesSound_invariant.reachable worldReached
  have used := ZenohTransport.inUse_of_entity other
  have isIdle : world.Idle false := ⟨congrFun idle false, by simp [unlocked]⟩
  have zPub := ZenohTransport.zPub_of_entity other
  have puts : world.transport.putAt slot (.filled 1 1) 1 0 true =
      some (0, world.transport.call (.put (some 5) [1] none true)) := by
    rw [← zPub]
    rfl
  obtain ⟨succeeds, free⟩ :=
    ZenohTransport.undeclarePublisher_of_used (sound.slots.opened _ used) used
  have looks : world.Step (.publish false (some slot) none) { world with
      publishing := Function.update world.publishing false (some slot) } := by
    refine ⟨isIdle, ?_⟩
    split
    case isTrue unused => cases used.symm.trans unused
    case isFalse => exact ⟨rfl, rfl⟩
  exact ⟨before, declared, ended, world, _, _, _, reached, declares, stands, undeclares, gone,
    later, other, looks, ⟨slot, _, by simp, puts, rfl⟩, rfl,
    ⟨succeeds.symm, isIdle, unlocked, rfl⟩, ZenohTransport.entity_of_free free⟩

theorem ended_handle_concerns_later_declarations_reused :
    let slot : Fin (Kconfig.default .tier2).maxPublishers := ⟨0, by decide⟩
    ∃ ended world : SharedTransport (Kconfig.default .tier2) Unit Unit Bool,
      world.TakenSince 3 (.pub slot) ∧
        (∀ call after, call.CallsOn (.pub slot) → ended.Step call after →
          call.Refused ∧ after = ended) ∧
        ∀ call after, call.CallsOn (.pub slot) → world.Step call after →
          SharedTransport.ActedOn (.pub slot) call after := by
  intro slot
  obtain ⟨before, declared, ended, world, reached, declares, stands, undeclares, gone, unlocked,
    later, other, -⟩ := slot_declared_twice
  have declaring : before.Step (.declarePublisher false ⟨true, true, [], []⟩ (some slot))
    declared := declares
  obtain ⟨entity, same, concerns⟩ :=
    ended_handle_concerns_later_declarations reached declaring rfl
  obtain rfl : 3 = entity := Option.some.inj (stands.symm.trans same)
  have unequal : ended.transport.entity (.pub slot) ≠ some 3 := by
    rw [gone]
    simp
  have taken : world.TakenSince 3 (.pub slot) := .inl ⟨5, other, by decide⟩
  have untaken : ¬ended.TakenSince 3 (.pub slot) := by
    simp [SharedTransport.TakenSince, gone, unlocked, slot]
  refine ⟨ended, world, taken, fun call after calls steps => ?_, fun call after calls steps => ?_⟩
  · exact ((concerns undeclares unequal (.nil ended)).2 call calls steps).1.mpr untaken
  · exact ((concerns undeclares unequal later).2 call calls steps).2 taken

end Zenbedded
