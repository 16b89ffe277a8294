import Zenbedded.ClientSlotChange

/-!
# Initialized clients keep their slots

In every run, and whatever fails in it, the reference count of the transport is the
number of initialized clients, and each of them has a publisher and a subscriber of its
own, whose samples it gets.
-/

namespace Zenbedded

namespace ClientWorld

variable {kconfig : Kconfig} {Id : Type} [DecidableEq Id] [Fintype Id]
  {stateCodec : Id → StateCodec} {commandCodec : Id → CommandCodec}
  {before after : ClientWorld kconfig stateCodec commandCodec} {id : Id}

section Linked

variable {action : ClientWorldAction kconfig stateCodec commandCodec}

omit [DecidableEq Id] [Fintype Id] in
theorem SameClient.feeds (same : SameClient before after id)
    (linked : before.live id = true → ∃ slot, before.subOf id = some slot ∧ before.Feeds slot id)
    (subs : ∀ slot, before.subUsed slot = true →
      after.transport.subPool slot = before.transport.subPool slot)
    (isLive : after.live id = true) :
    ∃ slot, after.subOf id = some slot ∧ after.Feeds slot id := by
  have wasLive := same.live.symm.trans isLive
  obtain ⟨slot, ownsSub, used, callback, userData⟩ := linked wasLive
  refine ⟨slot, (same.sub wasLive).trans ownsSub, ?_⟩
  simp only [Feeds, subUsed, subs slot used]
  exact ⟨used, callback, userData⟩

omit [DecidableEq Id] [Fintype Id] in
theorem SameClient.owns (same : SameClient before after id)
    (linked : before.live id = true →
      ∃ slot, before.pubOf id = some slot ∧ before.pubUsed slot = true)
    (pubs : ∀ slot, before.pubUsed slot = true → after.pubUsed slot = true)
    (isLive : after.live id = true) :
    ∃ slot, after.pubOf id = some slot ∧ after.pubUsed slot = true := by
  have wasLive := same.live.symm.trans isLive
  obtain ⟨slot, ownsPub, used⟩ := linked wasLive
  exact ⟨slot, (same.pub wasLive).trans ownsPub, pubs slot used⟩

omit [DecidableEq Id] [Fintype Id] in
theorem SameClient.pubOwner {other : Id} (same : SameClient before after id)
    (otherSame : SameClient before after other)
    (linked : before.live id = true → before.live other = true →
      before.pubOf id = before.pubOf other → id = other)
    (isLive : after.live id = true) (otherLive : after.live other = true)
    (shared : after.pubOf id = after.pubOf other) : id = other := by
  have wasLive := same.live.symm.trans isLive
  have otherWasLive := otherSame.live.symm.trans otherLive
  rw [same.pub wasLive, otherSame.pub otherWasLive] at shared
  exact linked wasLive otherWasLive shared

omit [DecidableEq Id] in
theorem Linked.of_same (linked : before.Linked)
    (clients : ∀ id, SameClient before after id)
    (opened : after.transport.isInitialized = before.transport.isInitialized)
    (counts : after.transport.transportRefCount = before.transport.transportRefCount)
    (pubs : ∀ slot, before.pubUsed slot = true → after.pubUsed slot = true)
    (closedPubs : after.transport.isInitialized = false → ∀ slot, after.pubUsed slot = false)
    (subs : SameSubs before after) : after.Linked where
  opened := by
    rw [opened, linked.opened]
    simp only [(clients _).live]
  counts := by
    rw [counts, linked.counts]
    simp only [liveClients, (clients _).live]
  closedPubs := closedPubs
  closedSubs closed slot := by
    rw [subs.used slot]
    exact linked.closedSubs (opened.symm.trans closed) slot
  pub id := (clients id).owns (linked.pub id) pubs
  sub id := (clients id).feeds (linked.sub id) subs.kept
  pubOwner id other := (clients id).pubOwner (clients other) (linked.pubOwner id other)

theorem Linked.taken (linked : before.Linked) (admitted : kconfig.Admitted)
    (wasDown : before.live id = false) (isUp : after.live id = true)
    (others : ∀ other, other ≠ id → SameClient before after other)
    (opened : after.transport.isInitialized = true)
    (counts : after.transport.transportRefCount =
      if before.transport.isInitialized then before.transport.transportRefCount + 1 else 1)
    {pub : Fin kconfig.maxPublishers} (ownsPub : after.pubOf id = some pub)
    (pubFree : before.pubUsed pub = false)
    (pubs : ∀ slot, after.pubUsed slot = (before.pubUsed slot || decide (slot = pub)))
    {sub : Fin kconfig.maxSubscribers} (ownsSub : after.subOf id = some sub)
    (subFree : before.subUsed sub = false) (feeds : after.Feeds sub id)
    (subs : ∀ slot, slot ≠ sub →
      after.transport.subPool slot = before.transport.subPool slot) : after.Linked where
  opened := by
    rw [opened]
    exact ⟨fun _ => ⟨id, isUp⟩, fun _ => rfl⟩
  counts := by
    have clients : after.liveClients = insert id before.liveClients := by
      ext other
      rcases eq_or_ne other id with rfl | different
      · simp [liveClients, isUp]
      · simp [liveClients, different, (others other different).live]
    have new : id ∉ before.liveClients := by simp [liveClients, wasDown]
    rw [clients, Finset.card_insert_of_notMem new, ← linked.counts, counts]
    have few := linked.count_lt admitted
    split
    case isTrue =>
      rw [UInt32.toNat_add]
      exact Nat.mod_eq_of_lt (by simp; omega)
    case isFalse closed =>
      rw [linked.counts_of_closed (by simpa using closed)]
      rfl
  closedPubs closed := by cases opened.symm.trans closed
  closedSubs closed := by cases opened.symm.trans closed
  pub other isLive := by
    rcases eq_or_ne other id with rfl | different
    · exact ⟨pub, ownsPub, by simp [pubs]⟩
    · exact (others other different).owns (linked.pub other)
        (fun slot used => by simp [pubs, used]) isLive
  sub other isLive := by
    rcases eq_or_ne other id with rfl | different
    · exact ⟨sub, ownsSub, feeds⟩
    · refine (others other different).feeds (linked.sub other) (fun slot used => ?_) isLive
      apply subs
      rintro rfl
      cases used.symm.trans subFree
  pubOwner first second firstLive secondLive shared := by
    have differs (other : Id) (different : other ≠ id) (isLive : after.live other = true) :
        after.pubOf other ≠ some pub := by
      have wasLive := (others other different).live.symm.trans isLive
      obtain ⟨slot, owns, used⟩ := linked.pub other wasLive
      rw [(others other different).pub wasLive, owns]
      rintro ⟨⟩
      cases used.symm.trans pubFree
    rcases eq_or_ne first id with rfl | firstDifferent
    · rcases eq_or_ne second first with rfl | secondDifferent
      · rfl
      · exact absurd (shared.symm.trans ownsPub) (differs second secondDifferent secondLive)
    · rcases eq_or_ne second id with rfl | secondDifferent
      · exact absurd (shared.trans ownsPub) (differs first firstDifferent firstLive)
      · exact (others first firstDifferent).pubOwner (others second secondDifferent)
          (linked.pubOwner first second) firstLive secondLive shared

theorem card_of_down (wasUp : before.live id = true) (isDown : after.live id = false)
    (others : ∀ other, other ≠ id → SameClient before after other) :
    after.liveClients.card = before.liveClients.card - 1 := by
  have clients : after.liveClients = before.liveClients.erase id := by
    ext other
    rcases eq_or_ne other id with rfl | different
    · simp [liveClients, isDown]
    · simp [liveClients, different, (others other different).live]
  have member : id ∈ before.liveClients := by simp [liveClients, wasUp]
  rw [clients, Finset.card_erase_of_mem member]

theorem Linked.released (linked : before.Linked) (wasUp : before.live id = true)
    (isDown : after.live id = false)
    (others : ∀ other, other ≠ id → SameClient before after other)
    (opened : after.transport.isInitialized = true)
    (more : 1 < before.transport.transportRefCount.toNat)
    (counts : after.transport.transportRefCount.toNat =
      before.transport.transportRefCount.toNat - 1)
    (pubs : ∀ slot, after.pubUsed slot = before.pubUsed slot)
    (subs : SameSubs before after) : after.Linked where
  counts := by rw [counts, linked.counts, card_of_down wasUp isDown others]
  opened := by
    have some_ : 0 < after.liveClients.card := by
      rw [card_of_down wasUp isDown others, ← linked.counts]
      omega
    obtain ⟨other, member⟩ := Finset.card_pos.mp some_
    have isLive : after.live other = true := by simpa [liveClients] using member
    exact ⟨fun _ => ⟨other, isLive⟩, fun _ => opened⟩
  closedPubs closed := by cases opened.symm.trans closed
  closedSubs closed := by cases opened.symm.trans closed
  pub other isLive := by
    rcases eq_or_ne other id with rfl | different
    · cases isLive.symm.trans isDown
    · exact (others other different).owns (linked.pub other)
        (fun slot used => (pubs slot).trans used) isLive
  sub other isLive := by
    rcases eq_or_ne other id with rfl | different
    · cases isLive.symm.trans isDown
    · exact (others other different).feeds (linked.sub other) subs.kept isLive
  pubOwner first second firstLive secondLive shared := by
    rcases eq_or_ne first id with rfl | firstDifferent
    · cases firstLive.symm.trans isDown
    rcases eq_or_ne second id with rfl | secondDifferent
    · cases secondLive.symm.trans isDown
    exact (others first firstDifferent).pubOwner (others second secondDifferent)
      (linked.pubOwner first second) firstLive secondLive shared

theorem Linked.closed (linked : before.Linked) (wasUp : before.live id = true)
    (isDown : after.live id = false)
    (others : ∀ other, other ≠ id → SameClient before after other)
    (closes : after.transport.isInitialized = false)
    (one : before.transport.transportRefCount.toNat = 1)
    (counts : after.transport.transportRefCount = 0)
    (pubs : ∀ slot, after.pubUsed slot = false) (subs : ∀ slot, after.subUsed slot = false) :
    after.Linked := by
  have card : after.liveClients.card = 0 := by
    rw [card_of_down wasUp isDown others, ← linked.counts, one]
  have noneLive : ∀ other, after.live other ≠ true := by
    intro other isLive
    rw [Finset.card_eq_zero] at card
    have member : other ∈ after.liveClients := by simp [liveClients, isLive]
    simp [card] at member
  exact {
    opened := by simp [closes, noneLive]
    counts := by rw [counts, card]; rfl
    closedPubs := fun _ => pubs
    closedSubs := fun _ => subs
    pub := fun other isLive => absurd isLive (noneLive other)
    sub := fun other isLive => absurd isLive (noneLive other)
    pubOwner := fun first _ isLive => absurd isLive (noneLive first) }

theorem Linked.step (linked : before.Linked) (admitted : kconfig.Admitted)
    (steps : before.Step action after) : after.Linked := by
  cases linked.change admitted steps with
  | unchanged clients opened counts pubs subs =>
      exact linked.of_same clients opened counts (fun slot used => (pubs slot).trans used)
        (fun closed slot => (pubs slot).trans
          (linked.closedPubs (opened.symm.trans closed) slot)) subs
  | taken id wasDown isUp others opened counts pub ownsPub pubFree pubs sub ownsSub subFree feeds
      subs =>
      exact linked.taken admitted wasDown isUp others opened counts ownsPub pubFree pubs ownsSub
        subFree feeds subs
  | leaked _ clients opened counts wasOpen pub pubs subs =>
      refine linked.of_same clients opened counts (fun slot used => by simp [pubs, used])
        (fun closed => ?_) subs
      cases (opened.trans wasOpen).symm.trans closed
  | released id _ wasUp isDown others opened more counts pubs subs =>
      exact linked.released wasUp isDown others opened more counts pubs subs
  | closed id wasUp isDown others closes one counts pubs subs =>
      exact linked.closed wasUp isDown others closes one counts pubs subs

theorem linked_start {world : ClientWorld kconfig stateCodec commandCodec}
    (starts : (clientWorlds kconfig stateCodec commandCodec).start world) : world.Linked := by
  obtain rfl := starts
  have noneLive : ∀ id, (⟨fun _ => .construct, .zero⟩ :
      ClientWorld kconfig stateCodec commandCodec).live id = false := fun _ => rfl
  exact {
    opened := by
      constructor
      · intro opened
        cases opened
      · rintro ⟨id, isLive⟩
        cases (noneLive id).symm.trans isLive
    counts := by
      simp only [liveClients, noneLive, Bool.false_eq_true, Finset.filter_false,
        Finset.card_empty]
      rfl
    closedPubs := fun _ _ => rfl
    closedSubs := fun _ _ => rfl
    pub := fun id isLive => by cases (noneLive id).symm.trans isLive
    sub := fun id isLive => by cases (noneLive id).symm.trans isLive
    pubOwner := fun id _ isLive => by cases (noneLive id).symm.trans isLive }

/-- In every reachable world the initialized clients are counted and have their slots. -/
theorem linked_invariant (admitted : kconfig.Admitted) :
    (clientWorlds kconfig stateCodec commandCodec).Invariant Linked where
  start _ := linked_start
  step _ _ _ linked steps := linked.step admitted steps

end Linked

end ClientWorld

end Zenbedded
