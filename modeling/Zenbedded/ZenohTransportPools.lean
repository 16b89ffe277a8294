import Zenbedded.ZenohTransportLifecycle

/-!
# How the pools of the transport change

What a user of the transport sees of an operation: whether the transport is open, how
often it was initialized, and which slots are in use.
-/

namespace Zenbedded

variable {kconfig : Kconfig} {Callback UserData : Type}

namespace ZenohTransport

section Opening

variable (transport : ZenohTransport kconfig Callback UserData) (domainId : UInt32)
  (nodeName mode : CString) (locator : Option CString) (outcome : InitOutcome)

theorem init_cases :
    let result := transport.init domainId nodeName mode locator outcome
    result.2.pubPool = transport.pubPool ∧ result.2.subPool = transport.subPool ∧
      (result.1 = 0 ∧ (transport.isInitialized = true ∨ outcome.opened = true) ∧
          result.2.isInitialized = true ∧
          result.2.transportRefCount =
            (if transport.isInitialized then transport.transportRefCount + 1 else 1) ∨
        result.1 ≠ 0 ∧ transport.isInitialized = false ∧ outcome.opened = false ∧
          result.2.isInitialized = false ∧
          result.2.transportRefCount = transport.transportRefCount) := by
  cases opened : transport.isInitialized with
  | true =>
      rw [init_of_open _ _ _ _ opened]
      exact ⟨rfl, rfl, .inl ⟨rfl, .inl rfl, opened, rfl⟩⟩
  | false =>
      cases opens : outcome.opened with
      | true =>
          obtain ⟨status, isOpen, counts, pubs, subs⟩ :=
            init_of_opens domainId nodeName mode locator opened opens
          exact ⟨pubs, subs, .inl ⟨status, .inr rfl, isOpen, counts⟩⟩
      | false =>
          obtain ⟨status, isClosed, counts, pubs, subs⟩ :=
            init_of_fails domainId nodeName mode locator opened opens
          exact ⟨pubs, subs, .inr ⟨by rw [status]; decide, rfl, rfl, isClosed, counts⟩⟩

end Opening

section Publishing

variable {transport after : ZenohTransport kconfig Callback UserData}

/-- Publishing concerns the attachment of a publisher in use only. -/
theorem publish_frame {pub : Option (Fin kconfig.maxPublishers)} {size payloadSize : Nat}
    {payload : ByteBlock.Block UInt8 size} {timestampNs : Int64} {ok : Bool} {status : Int}
    (published : transport.publish pub payload payloadSize timestampNs ok =
      some (status, after)) :
    after.isInitialized = transport.isInitialized ∧
      after.transportRefCount = transport.transportRefCount ∧
      (∀ slot, (after.pubPool slot).inUse = (transport.pubPool slot).inUse) ∧
      after.subPool = transport.subPool := by
  cases pub with
  | none =>
      cases published
      exact ⟨rfl, rfl, fun _ => rfl, rfl⟩
  | some slot =>
      rw [publish] at published
      dsimp only at published
      split at published
      · cases published
        exact ⟨rfl, rfl, fun _ => rfl, rfl⟩
      · obtain ⟨bytes, -, sent⟩ := Option.bind_eq_some_iff.mp published
        split at sent
        · cases sent
          refine ⟨rfl, rfl, fun other => ?_, rfl⟩
          rcases eq_or_ne other slot with rfl | different
          · simp
          · simp [different]
        · cases sent
          exact ⟨rfl, rfl, fun _ => rfl, rfl⟩

/-- Publishing through a publisher in use hands the front of the payload to zenoh. -/
theorem publish_puts {slot : Fin kconfig.maxPublishers}
    (used : (transport.pubPool slot).inUse = true) {size payloadSize : Nat}
    (payload : ByteBlock.Block UInt8 size) (fits : payloadSize ≤ size) (timestampNs : Int64)
    (ok : Bool) :
    ∃ status after entity attachment,
      transport.publish (some slot) payload payloadSize timestampNs ok = some (status, after) ∧
      after.log = transport.log ++
        [.put entity (payload.bytes.take payloadSize) attachment ok] := by
  have loaded : payload.load 0 payloadSize = some (payload.bytes.take payloadSize) := by
    rw [ByteBlock.Block.load, if_pos (by omega), List.drop_zero]
  rw [publish]
  dsimp only
  rw [if_neg (by simp [used]), loaded]
  cases tier : kconfig.tier <;> exact ⟨_, _, _, _, rfl, rfl⟩

end Publishing

section Closing

variable {transport : ZenohTransport kconfig Callback UserData}

/-- The last destroy releases every slot, an earlier one none. -/
theorem destroy_cases (opened : transport.isInitialized = true)
    (counted : 0 < transport.transportRefCount.toNat) :
    transport.transportRefCount.toNat = 1 ∧ transport.destroy.isInitialized = false ∧
        transport.destroy.transportRefCount = 0 ∧
        (∀ slot, (transport.destroy.pubPool slot).inUse = false) ∧
        (∀ slot, (transport.destroy.subPool slot).inUse = false) ∨
      1 < transport.transportRefCount.toNat ∧ transport.destroy.isInitialized = true ∧
        transport.destroy.transportRefCount.toNat = transport.transportRefCount.toNat - 1 ∧
        transport.destroy.pubPool = transport.pubPool ∧
        transport.destroy.subPool = transport.subPool := by
  by_cases one : transport.transportRefCount = 1
  · obtain ⟨-, counts, pubsFree, subsFree⟩ := releaseAll_frame opened
    rw [destroy_of_eq_one opened one, one]
    refine .inl ⟨rfl, ?_, ?_, ?_, ?_⟩
    · simp
    · simp [counts]
    · simpa using pubsFree
    · simpa using subsFree
  · have others : 1 < transport.transportRefCount.toNat := by
      have notOne : transport.transportRefCount.toNat ≠ 1 := fun equal =>
        one (UInt32.toNat_inj.mp equal)
      omega
    have othersWord : 1 < transport.transportRefCount := UInt32.lt_iff_toNat_lt.mpr others
    rw [destroy_of_lt opened othersWord]
    refine .inr ⟨others, opened, ?_, rfl, rfl⟩
    rw [UInt32.toNat_sub_of_le _ _ (UInt32.le_of_lt othersWord)]
    rfl

end Closing

end ZenohTransport

end Zenbedded
