import Zenbedded.TransportTraffic

/-!
# The samples of a publisher

What operations and publishes keep, one after another: every sample goes to a publisher that zenoh
knows at that moment, and in Tier 1 the attachments of the samples of a publisher carry one gid
and the sequence numbers from one on, whatever happens to its slot before and behind it.
-/

namespace Zenbedded

open ByteBlock ResourceLedger

variable {kconfig : Kconfig} {Callback UserData : Type}

namespace ZenohTransport

variable {transport before after : ZenohTransport kconfig Callback UserData}
  {view : ZenohView kconfig.maxPublishers kconfig.maxSubscribers}

/-! ## Sequence numbers -/

/-- What the samples of a publisher carry, apart from the times at which they were sent. -/
def attachmentsTo (transport : ZenohTransport kconfig Callback UserData) (entity : Nat) :
    List (Option (Int64 × UInt8 × List UInt8)) :=
  (transport.puts.filter fun put => put.entity = some entity).map fun put =>
    put.attachment.map fun attachment =>
      (attachment.sequenceNumber, attachment.gidLength, attachment.gid)

/-- The sequence numbers from one on, under one gid of 16 bytes. -/
def numbering (gid : List UInt8) (count : Nat) : List (Option (Int64 × UInt8 × List UInt8)) :=
  (List.range count).map fun index => some (Int64.ofNat (index + 1), 16, gid)

theorem numbering_succ (gid : List UInt8) (count : Nat) :
    numbering gid (count + 1) =
      numbering gid count ++ [some (Int64.ofNat (count + 1), 16, gid)] := by
  simp [numbering, List.range_succ]

theorem attachmentsTo_of_puts (same : after.puts = before.puts) (entity : Nat) :
    after.attachmentsTo entity = before.attachmentsTo entity := by
  rw [attachmentsTo, attachmentsTo, same]

/-- Samples go to publishers of the past, and the attachment of a slot in use carries the
number of the last sample of its publisher. -/
structure Numbered (transport : ZenohTransport kconfig Callback UserData) : Prop where
  known : ∀ put ∈ transport.puts, ∃ entity < transport.log.length, put.entity = some entity
  past : ∀ entity, ∃ gid count, transport.attachmentsTo entity = numbering gid count
  held : ∀ slot entity, transport.pubHeld slot = some entity → ∃ count,
    transport.attachmentsTo entity =
        numbering (transport.pubPool slot).attachment.gid count ∧
      (transport.pubPool slot).attachment.sequenceNumber = Int64.ofNat count ∧
      (transport.pubPool slot).attachment.gidLength = 16

theorem Numbered.nothing_to_later (numbered : transport.Numbered) {entity : Nat}
    (later : transport.log.length ≤ entity) : transport.attachmentsTo entity = [] := by
  rw [attachmentsTo, List.map_eq_nil_iff, List.filter_eq_nil_iff]
  intro put isPut toEntity
  obtain ⟨earlier, below, entityEq⟩ := numbered.known put isPut
  rw [entityEq] at toEntity
  have same : earlier = entity := by simpa using toEntity
  omega

theorem Numbered.quiet (numbered : before.Numbered) (tier : kconfig.tier = .tier1)
    (quiet : before.Quiet after) : after.Numbered where
  known put isPut := by
    rw [quiet.puts] at isPut
    obtain ⟨entity, below, entityEq⟩ := numbered.known put isPut
    exact ⟨entity, below.trans_le quiet.grows.length_le, entityEq⟩
  past entity := by
    rw [attachmentsTo_of_puts quiet.puts]
    exact numbered.past entity
  held slot entity holds := by
    have used : (after.pubPool slot).inUse = true := by
      by_contra unused
      simp [pubHeld, unused] at holds
    rw [attachmentsTo_of_puts quiet.puts]
    rcases quiet.slots slot used with same | ⟨declares, fresh⟩
    · rw [pubHeld, same] at holds
      rw [same]
      exact numbered.held slot entity holds
    · obtain rfl : before.log.length = entity := by simpa [pubHeld, used, declares] using holds
      obtain ⟨zero, length⟩ := fresh tier
      exact ⟨0, numbered.nothing_to_later le_rfl, zero, length⟩

theorem attachmentsTo_append {entity : Nat} {bytes : List UInt8}
    {attachment : RmwZenohAttachment} {ok : Bool}
    (puts : after.puts = before.puts ++ [⟨some entity, bytes, some attachment, ok⟩])
    (other : Nat) :
    after.attachmentsTo other = before.attachmentsTo other ++
      if other = entity then
        [some (attachment.sequenceNumber, attachment.gidLength, attachment.gid)]
      else [] := by
  rw [attachmentsTo, attachmentsTo, puts, List.filter_append, List.map_append]
  rcases eq_or_ne other entity with rfl | different
  · simp
  · simp [different, Ne.symm different]

theorem Numbered.publishes (numbered : before.Numbered) (tier : kconfig.tier = .tier1)
    (consistent : before.Consistent view) {bytes : List UInt8} {timestampNs : Int64} {ok : Bool}
    (publishes : before.Publishes bytes timestampNs ok after) : after.Numbered := by
  cases publishes with
  | refused same => exact same ▸ numbered
  | tier2 other => cases other.symm.trans tier
  | tier1 _ slot used afterEq =>
      obtain ⟨entity, zPub⟩ := Option.isSome_iff_exists.mp (consistent.pubHolds slot used)
      have holds : before.pubHeld slot = some entity := by simp [pubHeld, used, zPub]
      have live : (entity, slot) ∈ view.livePublishers :=
        (consistent.balanced.pubLists entity slot).mpr holds
      obtain ⟨count, numbers, last, length⟩ := numbered.held slot entity holds
      generalize attachmentEq : { (before.pubPool slot).attachment with
        sequenceNumber := (before.pubPool slot).attachment.sequenceNumber + 1
        timestampNs } = attachment at afterEq
      have gid : attachment.gid = (before.pubPool slot).attachment.gid := by rw [← attachmentEq]
      have number : attachment.sequenceNumber = Int64.ofNat (count + 1) := by
        rw [← attachmentEq, Int64.ofNat_add, ← last]
        rfl
      have sixteen : attachment.gidLength = 16 := by rw [← attachmentEq, length]
      have puts : after.puts = before.puts ++ [⟨some entity, bytes, some attachment, ok⟩] := by
        rw [afterEq, zPub, puts_call, puts_setPub]
        rfl
      have log : after.log.length = before.log.length + 1 := by simp [afterEq]
      have ownNumbers : after.attachmentsTo entity = numbering attachment.gid (count + 1) := by
        rw [attachmentsTo_append puts, if_pos rfl, numbers, numbering_succ, number, sixteen, gid]
      refine ⟨fun put isPut => ?known, fun other => ?past, fun other held otherHolds => ?held⟩
      case known =>
        rw [log]
        rw [puts] at isPut
        rcases List.mem_append.mp isPut with old | new
        · obtain ⟨known, below, knownEq⟩ := numbered.known put old
          exact ⟨known, by omega, knownEq⟩
        · have below := consistent.balanced.pubSerial.below _ live
          rw [List.mem_singleton.mp new]
          exact ⟨entity, Nat.lt_succ_of_lt below, rfl⟩
      case past =>
        rcases eq_or_ne other entity with rfl | different
        · exact ⟨_, _, ownNumbers⟩
        · rw [attachmentsTo_append puts, if_neg different, List.append_nil]
          exact numbered.past other
      case held =>
        rcases eq_or_ne other slot with rfl | different
        · have pool : after.pubPool other = { before.pubPool other with attachment } := by
            simp [afterEq]
          obtain rfl : entity = held := by
            simpa [pubHeld, pool, used, zPub] using otherHolds
          rw [pool]
          exact ⟨count + 1, ownNumbers, number, sixteen⟩
        · have pool : after.pubPool other = before.pubPool other := by
            simp [afterEq, different]
          have held' : before.pubHeld other = some held := by
            rwa [pubHeld, pool] at otherHolds
          have apart : held ≠ entity := by
            rintro rfl
            exact different (consistent.balanced.pubSerial.unique
              ((consistent.balanced.pubLists _ other).mpr held') live)
          rw [pool, attachmentsTo_append puts, if_neg apart, List.append_nil]
          exact numbered.held other held held'

/-! ## Live publishers -/

/-- Every sample in a log is put through a publisher that is live there. -/
def PutsAreLive {publishers subscribers : Nat} (log : List (ZenohCall publishers subscribers)) :
    Prop :=
  ∀ front entity payload attachment ok back,
    log = front ++ .put entity payload attachment ok :: back →
      ∃ view serial slot, ZenohView.replay front = some view ∧ entity = some serial ∧
        (serial, slot) ∈ view.livePublishers

section Logs

variable {publishers subscribers : Nat} {log calls : List (ZenohCall publishers subscribers)}

theorem PutsAreLive.quiet (live : PutsAreLive log) (silent : calls.filterMap ZenohCall.put? = []) :
    PutsAreLive (log ++ calls) := by
  intro front entity payload attachment ok back split
  have noPut (call : ZenohCall publishers subscribers) (isCall : call ∈ calls) :
      call.put? = none :=
    List.filterMap_eq_nil_iff.mp silent call isCall
  rcases List.append_eq_append_iff.mp split with ⟨rest, frontEq, callsEq⟩ | ⟨rest, logEq, restEq⟩
  · have isCall : ZenohCall.put entity payload attachment ok ∈ calls := by
      rw [callsEq]
      simp
    cases noPut _ isCall
  · cases rest with
    | nil =>
        have isCall : ZenohCall.put entity payload attachment ok ∈ calls := by
          rw [List.nil_append] at restEq
          rw [← restEq]
          exact List.mem_cons_self
        cases noPut _ isCall
    | cons call rest =>
        obtain ⟨rfl, -⟩ := List.cons.inj restEq
        exact live front entity payload attachment ok rest logEq

theorem PutsAreLive.put (live : PutsAreLive log)
    {known : ZenohView publishers subscribers} (replays : ZenohView.replay log = some known)
    {serial : Nat} {slot : Fin publishers} (isLive : (serial, slot) ∈ known.livePublishers)
    (payload : List UInt8) (attachment : Option RmwZenohAttachment) (ok : Bool) :
    PutsAreLive (log ++ [.put (some serial) payload attachment ok]) := by
  intro front entity other otherAttachment otherOk back split
  rcases List.append_eq_append_iff.mp split with ⟨rest, frontEq, callsEq⟩ | ⟨rest, logEq, restEq⟩
  · cases rest with
    | nil =>
        rw [List.nil_append] at callsEq
        obtain ⟨same, -⟩ := List.cons.inj callsEq
        cases same
        rw [List.append_nil] at frontEq
        exact ⟨known, serial, slot, frontEq ▸ replays, rfl, isLive⟩
    | cons call rest => simp at callsEq
  · cases rest with
    | nil =>
        obtain ⟨same, -⟩ := List.cons.inj restEq
        cases same
        rw [List.append_nil] at logEq
        exact ⟨known, serial, slot, logEq ▸ replays, rfl, isLive⟩
    | cons call rest =>
        obtain ⟨rfl, -⟩ := List.cons.inj restEq
        exact live front entity other otherAttachment otherOk rest logEq

end Logs

theorem Quiet.putsAreLive (quiet : before.Quiet after) (live : PutsAreLive before.log) :
    PutsAreLive after.log := by
  obtain ⟨calls, logEq⟩ := quiet.grows
  have puts := quiet.puts
  rw [ZenohTransport.puts, ← logEq, List.filterMap_append] at puts
  rw [← logEq]
  exact live.quiet (List.append_right_eq_self.mp puts)

theorem Publishes.putsAreLive {bytes : List UInt8} {timestampNs : Int64} {ok : Bool}
    (publishes : before.Publishes bytes timestampNs ok after) (consistent : before.Consistent view)
    (live : PutsAreLive before.log) : PutsAreLive after.log := by
  have held {slot : Fin kconfig.maxPublishers} (used : (before.pubPool slot).inUse = true) :
      ∃ entity, (before.pubPool slot).zPub = some entity ∧
        (entity, slot) ∈ view.livePublishers := by
    obtain ⟨entity, zPub⟩ := Option.isSome_iff_exists.mp (consistent.pubHolds slot used)
    refine ⟨entity, zPub, (consistent.balanced.pubLists entity slot).mpr ?_⟩
    simp [pubHeld, used, zPub]
  cases publishes with
  | refused same => exact same ▸ live
  | tier1 tier slot used afterEq =>
      obtain ⟨entity, zPub, isLive⟩ := held used
      rw [afterEq, log_call, log_setPub, zPub]
      exact live.put consistent.balanced.replays isLive _ _ _
  | tier2 tier slot used afterEq =>
      obtain ⟨entity, zPub, isLive⟩ := held used
      rw [afterEq, log_call, zPub]
      exact live.put consistent.balanced.replays isLive _ _ _

end ZenohTransport

/-! ## Runs -/

/-- What holds between operations and publishes. -/
structure LifecycleState.TrafficSound (state : LifecycleState kconfig Callback UserData) :
    Prop where
  lawful : state.Lawful
  slots : state.transport.SlotsSound
  live : ZenohTransport.PutsAreLive state.transport.log
  numbered : kconfig.tier = .tier1 → state.transport.Numbered

theorem trafficSound_start :
    (⟨.zero, 0⟩ : LifecycleState kconfig Callback UserData).TrafficSound where
  lawful := lawful_start
  slots := ⟨fun handle => by cases handle <;> nofun, fun _ _ => rfl⟩
  live front entity payload attachment ok back split := by
    have empty : ([] : List (ZenohCall kconfig.maxPublishers kconfig.maxSubscribers)) =
      front ++ .put entity payload attachment ok :: back := split
    simp at empty
  numbered _ := by
    refine ⟨nofun, fun entity => ⟨[], 0, rfl⟩, fun slot entity holds => ?_⟩
    cases holds

theorem trafficSound_invariant :
    (transportTraffic kconfig Callback UserData).Invariant LifecycleState.TrafficSound where
  start state starts := starts ▸ trafficSound_start
  step before use after sound steps := by
    cases use with
    | op op =>
        have lawful := transportLifecycle_lawful.step before op after sound.lawful steps
        obtain ⟨transportEq, -, -⟩ := steps
        obtain ⟨quiet, slots⟩ := ZenohTransport.quiet_apply sound.slots op
        rw [← transportEq] at quiet slots
        exact ⟨lawful, slots, quiet.putsAreLive sound.live,
          fun tier => (sound.numbered tier).quiet tier quiet⟩
    | publish pub payload payloadSize timestampNs ok status =>
        obtain ⟨published, outstanding⟩ := steps
        obtain ⟨view, consistent⟩ := sound.lawful.consistent
        obtain ⟨isInitialized, count, -, -⟩ := ZenohTransport.publish_frame published
        obtain ⟨bytes, publishes⟩ := ZenohTransport.publish_publishes published
        exact {
          lawful := {
            consistent := ⟨view, consistent.publishes publishes⟩
            counts := by rw [count, outstanding, sound.lawful.counts]
            opened := by rw [isInitialized, outstanding, sound.lawful.opened] }
          slots := sound.slots.publishes publishes
          live := publishes.putsAreLive consistent sound.live
          numbered := fun tier => (sound.numbered tier).publishes tier consistent publishes }

end Zenbedded
