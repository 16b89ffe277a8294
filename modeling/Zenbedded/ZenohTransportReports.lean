import Zenbedded.ZenohTransportPools

/-!
# What the transport reports

An operation reports one result for a chain of calls into zenoh.  The report is
truthful when success means that every call of the chain succeeded, and failure that
nothing of the chain is left.
-/

namespace Zenbedded

variable {kconfig : Kconfig} {Callback UserData : Type}

namespace ZenohCall

variable {publishers subscribers : Nat}

def failed : ZenohCall publishers subscribers → Bool
  | .openSession _ ok | .startReadTask ok | .startLeaseTask ok | .declareToken _ _ ok
  | .declarePublisher _ _ _ ok | .put _ _ _ ok | .declareSubscriber _ _ ok => !ok
  | _ => false

/-- The call that takes a successful one back; `serial` is its place in the log. -/
def undoing (serial : Nat) :
    ZenohCall publishers subscribers → Option (ZenohCall publishers subscribers)
  | .openSession _ true => some .closeSession
  | .startReadTask true => some .stopReadTask
  | .startLeaseTask true => some .stopLeaseTask
  | .declareToken _ _ true => some (.undeclareToken (some serial))
  | .declarePublisher _ _ _ true => some (.undeclarePublisher (some serial))
  | .declareSubscriber _ _ true => some (.undeclareSubscriber (some serial))
  | _ => none

/-- Every successful call of a chain is taken back within it. -/
def AllUndone (serial : Nat) (calls : List (ZenohCall publishers subscribers)) : Prop :=
  ∀ (place : Nat) (call undo : ZenohCall publishers subscribers), calls[place]? = some call →
    undoing (serial + place) call = some undo →
    ∃ later, place < later ∧ calls[later]? = some undo

/-- A chain without successful calls leaves nothing to take back. -/
theorem allUndone_of_failed {serial : Nat} {calls : List (ZenohCall publishers subscribers)}
    (nothing : ∀ place, ∀ call ∈ calls, undoing place call = none) : AllUndone serial calls := by
  intro place call undo found undoes
  have none := nothing (serial + place) call (List.mem_of_getElem? found)
  cases none.symm.trans undoes

end ZenohCall

namespace ZenohTransport

/-- Nothing of a chain of calls is left, in zenoh or in the static state. -/
structure LeavesNothing (before after : ZenohTransport kconfig Callback UserData)
    (calls : List (ZenohCall kconfig.maxPublishers kconfig.maxSubscribers)) : Prop where
  undone : ZenohCall.AllUndone before.log.length calls
  pubSlots : ∀ slot, (after.pubPool slot).inUse = (before.pubPool slot).inUse
  subSlots : ∀ slot, (after.subPool slot).inUse = (before.subPool slot).inUse
  session : after.isInitialized = before.isInitialized
  count : after.transportRefCount = before.transportRefCount

/-- The operation that leads from `before` to `after` reports the truth. -/
def ReportsTruth (before : ZenohTransport kconfig Callback UserData) (success : Prop)
    (after : ZenohTransport kconfig Callback UserData) : Prop :=
  ∃ calls, after.log = before.log ++ calls ∧
    (success → ∀ call ∈ calls, call.failed = false) ∧
    (¬success → LeavesNothing before after calls)

/-- An operation that unwinds its failures is truthful when its successes are. -/
theorem reportsTruth_iff {before after : ZenohTransport kconfig Callback UserData}
    {success : Prop} {calls : List (ZenohCall kconfig.maxPublishers kconfig.maxSubscribers)}
    (made : after.log = before.log ++ calls)
    (unwinds : ¬success → LeavesNothing before after calls) :
    ReportsTruth before success after ↔
      (success → ∀ call ∈ calls, call.failed = false) := by
  constructor
  · rintro ⟨chain, chainMade, truthful, -⟩
    obtain rfl : chain = calls := List.append_cancel_left (chainMade.symm.trans made)
    exact truthful
  · intro truthful
    exact ⟨calls, made, truthful, unwinds⟩

/-! ## Initializing -/

section Init

variable (transport : ZenohTransport kconfig Callback UserData) (domainId : UInt32)
  (nodeName mode : CString) (locator : Option CString) (outcome : InitOutcome)

/-- An init is truthful unless a step behind the opening of the session fails. -/
theorem init_reportsTruth_iff :
    ReportsTruth transport ((transport.init domainId nodeName mode locator outcome).1 = 0)
        (transport.init domainId nodeName mode locator outcome).2 ↔
      (transport.isInitialized = false → outcome.opened = true →
        outcome.readTask = true ∧ outcome.leaseTask = true ∧
          (kconfig.tier = .tier1 → outcome.token = true)) := by
  cases opened : transport.isInitialized with
  | true =>
      have status : (transport.init domainId nodeName mode locator outcome).1 = 0 := by
        rw [init_of_open _ _ _ _ opened]
      have made : (transport.init domainId nodeName mode locator outcome).2.log =
          transport.log ++ [] := by
        rw [init_of_open _ _ _ _ opened, List.append_nil]
      rw [reportsTruth_iff made (absurd status)]
      simp
  | false =>
      cases opens : outcome.opened with
      | false =>
          obtain ⟨status, isClosed, counts, pubs, subs⟩ :=
            init_of_fails domainId nodeName mode locator opened opens
          have made : (transport.init domainId nodeName mode locator outcome).2.log =
              transport.log ++ [.openSession (zenohConfig kconfig mode locator) false] := by
            simp [init, opened, opens, call]
          have unwinds : LeavesNothing transport
              (transport.init domainId nodeName mode locator outcome).2
              [.openSession (zenohConfig kconfig mode locator) false] := {
            undone := ZenohCall.allUndone_of_failed (by simp [ZenohCall.undoing])
            pubSlots := fun slot => by rw [pubs]
            subSlots := fun slot => by rw [subs]
            session := isClosed.trans opened.symm
            count := counts }
          rw [reportsTruth_iff made fun _ => unwinds, status]
          simp
      | true =>
          obtain ⟨status, -⟩ := init_of_opens domainId nodeName mode locator opened opens
          have logEq := log_init_of_opens domainId nodeName mode locator opened opens
          cases tierEq : kconfig.tier with
          | tier1 =>
              simp only [tierEq, List.append_assoc] at logEq
              rw [reportsTruth_iff logEq.1 (absurd status)]
              simp [ZenohCall.failed, status]
          | tier2 =>
              simp only [tierEq, List.append_assoc] at logEq
              rw [reportsTruth_iff logEq (absurd status)]
              simp [ZenohCall.failed, status]

end Init

/-! ## Declaring -/

section Declare

variable (transport : ZenohTransport kconfig Callback UserData) (topicName : CString)
  (typeName : Option CString) (callback : Option Callback) (userData : Option UserData)
  (outcome : DeclareOutcome)

theorem log_declarePublisherAt (slot : Fin kconfig.maxPublishers) :
    let result := transport.declarePublisherAt slot topicName typeName outcome
    ∃ calls, result.2.log = transport.log ++ calls ∧
      (result.1 = none → ∀ place, ∀ call ∈ calls, ZenohCall.undoing place call = none) ∧
      (result.1 ≠ none → ((∀ call ∈ calls, call.failed = false) ↔
        (kconfig.tier = .tier1 → outcome.token = true))) := by
  unfold declarePublisherAt
  cases transport.topicKeyexpr topicName typeName with
  | none => exact ⟨[], by simp, by simp, by simp⟩
  | some keyexpr =>
      cases declaredEq : outcome.declared with
      | false =>
          refine ⟨[.declarePublisher slot keyexpr (publisherOptions kconfig) false], ?_, ?_, ?_⟩
          · simp
          · simp [ZenohCall.undoing]
          · simp
      | true =>
          cases tierEq : kconfig.tier with
          | tier1 => exact ⟨_, List.append_assoc _ _ _, by simp, by simp [ZenohCall.failed]⟩
          | tier2 => exact ⟨_, rfl, by simp, by simp [ZenohCall.failed]⟩

theorem log_declareSubscriberAt (slot : Fin kconfig.maxSubscribers) :
    let result := transport.declareSubscriberAt slot topicName typeName callback userData outcome
    ∃ calls, result.2.log = transport.log ++ calls ∧
      (result.1 = none → ∀ place, ∀ call ∈ calls, ZenohCall.undoing place call = none) ∧
      (result.1 ≠ none → ((∀ call ∈ calls, call.failed = false) ↔
        (kconfig.tier = .tier1 → outcome.token = true))) := by
  unfold declareSubscriberAt
  cases transport.topicKeyexpr topicName typeName with
  | none => exact ⟨[], by simp, by simp, by simp⟩
  | some keyexpr =>
      cases declaredEq : outcome.declared with
      | false =>
          refine ⟨[.declareSubscriber slot keyexpr false], ?_, ?_, ?_⟩
          · simp
          · simp [ZenohCall.undoing]
          · simp
      | true =>
          cases tierEq : kconfig.tier with
          | tier1 => exact ⟨_, List.append_assoc _ _ _, by simp, by simp [ZenohCall.failed]⟩
          | tier2 => exact ⟨_, rfl, by simp, by simp [ZenohCall.failed]⟩

theorem log_declarePublisher :
    let result := transport.declarePublisher topicName typeName outcome
    ∃ calls, result.2.log = transport.log ++ calls ∧
      (result.1 = none → ∀ place, ∀ call ∈ calls, ZenohCall.undoing place call = none) ∧
      (result.1 ≠ none → ((∀ call ∈ calls, call.failed = false) ↔
        (kconfig.tier = .tier1 → outcome.token = true))) := by
  unfold declarePublisher
  split
  case isTrue => exact ⟨[], by simp, by simp, by simp⟩
  case isFalse =>
    split
    case h_1 => exact ⟨[], by simp, by simp, by simp⟩
    case h_2 slot found => exact transport.log_declarePublisherAt topicName typeName outcome slot

theorem log_declareSubscriber :
    let result := transport.declareSubscriber topicName typeName callback userData outcome
    ∃ calls, result.2.log = transport.log ++ calls ∧
      (result.1 = none → ∀ place, ∀ call ∈ calls, ZenohCall.undoing place call = none) ∧
      (result.1 ≠ none → ((∀ call ∈ calls, call.failed = false) ↔
        (kconfig.tier = .tier1 → outcome.token = true))) := by
  unfold declareSubscriber
  split
  case isTrue => exact ⟨[], by simp, by simp, by simp⟩
  case isFalse =>
    split
    case h_1 => exact ⟨[], by simp, by simp, by simp⟩
    case h_2 slot found =>
      exact transport.log_declareSubscriberAt topicName typeName callback userData outcome slot

/-- A publisher declaration is truthful unless its liveliness token fails. -/
theorem declarePublisher_reportsTruth_iff :
    ReportsTruth transport (transport.declarePublisher topicName typeName outcome).1.isSome
        (transport.declarePublisher topicName typeName outcome).2 ↔
      (transport.isInitialized = true → (∃ slot, (transport.pubPool slot).inUse = false) →
        TypeKnown kconfig typeName → outcome.declared = true → kconfig.tier = .tier1 →
        outcome.token = true) := by
  have answers := transport.isSome_declarePublisher_iff topicName typeName outcome
  obtain ⟨session, count, subsSame, pools⟩ :=
    transport.declarePublisher_cases topicName typeName outcome
  obtain ⟨calls, made, undone, succeeded⟩ :=
    transport.log_declarePublisher topicName typeName outcome
  have unwinds : ¬(transport.declarePublisher topicName typeName outcome).1.isSome →
      LeavesNothing transport (transport.declarePublisher topicName typeName outcome).2
        calls := by
    intro fails
    rcases pools with ⟨answersNull, pubSlots⟩ | ⟨slot, pub, answersSlot, -⟩
    · exact {
        undone := ZenohCall.allUndone_of_failed (undone answersNull)
        pubSlots
        subSlots := fun slot => by rw [subsSame]
        session
        count }
    · exact absurd (by simp [answersSlot]) fails
  rw [reportsTruth_iff made unwinds]
  rw [← and_imp, ← and_imp, ← and_imp, and_assoc, and_assoc, ← answers]
  exact forall_congr' fun isSome => succeeded (Option.isSome_iff_ne_none.mp isSome)

theorem declareSubscriber_reportsTruth_iff :
    ReportsTruth transport
        (transport.declareSubscriber topicName typeName callback userData outcome).1.isSome
        (transport.declareSubscriber topicName typeName callback userData outcome).2 ↔
      (transport.isInitialized = true → (∃ slot, (transport.subPool slot).inUse = false) →
        TypeKnown kconfig typeName → outcome.declared = true → kconfig.tier = .tier1 →
        outcome.token = true) := by
  have answers :=
    transport.isSome_declareSubscriber_iff topicName typeName callback userData outcome
  obtain ⟨session, count, pubsSame, pools⟩ :=
    transport.declareSubscriber_cases topicName typeName callback userData outcome
  obtain ⟨calls, made, undone, succeeded⟩ :=
    transport.log_declareSubscriber topicName typeName callback userData outcome
  have unwinds :
      ¬(transport.declareSubscriber topicName typeName callback userData outcome).1.isSome →
      LeavesNothing transport
        (transport.declareSubscriber topicName typeName callback userData outcome).2 calls := by
    intro fails
    rcases pools with ⟨answersNull, subSlots, -⟩ | ⟨slot, sub, answersSlot, -⟩
    · exact {
        undone := ZenohCall.allUndone_of_failed (undone answersNull)
        pubSlots := fun slot => by rw [pubsSame]
        subSlots
        session
        count }
    · exact absurd (by simp [answersSlot]) fails
  rw [reportsTruth_iff made unwinds]
  rw [← and_imp, ← and_imp, ← and_imp, and_assoc, and_assoc, ← answers]
  exact forall_congr' fun isSome => succeeded (Option.isSome_iff_ne_none.mp isSome)

end Declare

end ZenohTransport

open ZenohTransport in
/-- Which reports of the transport are truthful, from every state. -/
theorem transport_reports_truth_iff (transport : ZenohTransport kconfig Callback UserData) :
    (∀ domainId nodeName mode locator outcome,
      ReportsTruth transport ((transport.init domainId nodeName mode locator outcome).1 = 0)
          (transport.init domainId nodeName mode locator outcome).2 ↔
        (transport.isInitialized = false → outcome.opened = true →
          outcome.readTask = true ∧ outcome.leaseTask = true ∧
            (kconfig.tier = .tier1 → outcome.token = true))) ∧
    (∀ topicName typeName outcome,
      ReportsTruth transport (transport.declarePublisher topicName typeName outcome).1.isSome
          (transport.declarePublisher topicName typeName outcome).2 ↔
        (transport.isInitialized = true → (∃ slot, (transport.pubPool slot).inUse = false) →
          TypeKnown kconfig typeName → outcome.declared = true → kconfig.tier = .tier1 →
          outcome.token = true)) ∧
    ∀ topicName typeName callback userData outcome,
      ReportsTruth transport
          (transport.declareSubscriber topicName typeName callback userData outcome).1.isSome
          (transport.declareSubscriber topicName typeName callback userData outcome).2 ↔
        (transport.isInitialized = true → (∃ slot, (transport.subPool slot).inUse = false) →
          TypeKnown kconfig typeName → outcome.declared = true → kconfig.tier = .tier1 →
          outcome.token = true) :=
  ⟨transport.init_reportsTruth_iff, transport.declarePublisher_reportsTruth_iff,
    transport.declareSubscriber_reportsTruth_iff⟩

/-- A session whose read task does not start is reported as open. -/
theorem failed_read_task_is_swallowed :
    let transport : ZenohTransport (.default .tier1) Unit Unit := .zero
    let outcome : InitOutcome := ⟨true, false, true, true, []⟩
    let result := transport.init 0 (.ofString "node") (.ofString "client") none outcome
    (transportLifecycle (.default .tier1) Unit Unit).Reachable ⟨transport, 0⟩ ∧
      result.1 = 0 ∧ ¬transport.ReportsTruth (result.1 = 0) result.2 := by
  intro transport outcome result
  refine ⟨.start rfl, rfl, ?_⟩
  rw [ZenohTransport.init_reportsTruth_iff]
  intro truthful
  exact absurd (truthful rfl rfl).1 (by decide)

end Zenbedded
