import Zenbedded.ResourceLedger
import Zenbedded.ZenohTransport

/-!
# The books of zenoh

What zenoh knows about the transport's sessions and entities, read off the log of
calls.  A call that zenoh must never see has no successor: ending an entity that is
not live, closing without an open session, or closing while something is live.
-/

namespace Zenbedded

open ResourceLedger

variable {publishers subscribers : Nat}

/-- Open sessions and live entities, each entity with the variable that holds it. -/
structure ZenohView (publishers subscribers : Nat) where
  openSessions : Nat
  livePublishers : Ledger (Fin publishers)
  liveSubscribers : Ledger (Fin subscribers)
  liveTokens : Ledger (TokenOwner publishers subscribers)

namespace ZenohView

def empty : ZenohView publishers subscribers where
  openSessions := 0
  livePublishers := ∅
  liveSubscribers := ∅
  liveTokens := ∅

def endEntity {Owner : Type} (openSessions : Nat) (ledger : Ledger Owner)
    (entity : Option Nat) : Option (Ledger Owner) := do
  let serial ← entity
  if openSessions = 0 then none else release ledger serial

def beginEntity {Owner : Type} [DecidableEq Owner] (openSessions : Nat)
    (ledger : Ledger Owner) (serial : Nat) (owner : Owner) (ok : Bool) :
    Option (Ledger Owner) :=
  if openSessions = 0 then none else if ok then some (insert (serial, owner) ledger)
  else some ledger

/-- The effect of the call with a given position in the log; `none` is a misuse. -/
def apply (view : ZenohView publishers subscribers) (serial : Nat) :
    ZenohCall publishers subscribers → Option (ZenohView publishers subscribers)
  | .openSession _ ok =>
      some { view with openSessions := if ok then view.openSessions + 1 else view.openSessions }
  | .closeSession =>
      if view.openSessions = 0 ∨ view.livePublishers ≠ ∅ ∨ view.liveSubscribers ≠ ∅ ∨
          view.liveTokens ≠ ∅ then
        none
      else
        some { view with openSessions := view.openSessions - 1 }
  | .declareToken owner _ ok => do
      let liveTokens ← beginEntity view.openSessions view.liveTokens serial owner ok
      some { view with liveTokens }
  -- A token whose declaration failed holds nothing, and nothing ends.
  | .undeclareToken none => some view
  | .undeclareToken (some token) => do
      let liveTokens ← endEntity view.openSessions view.liveTokens (some token)
      some { view with liveTokens }
  | .declarePublisher slot _ _ ok => do
      let livePublishers ← beginEntity view.openSessions view.livePublishers serial slot ok
      some { view with livePublishers }
  | .undeclarePublisher entity => do
      let livePublishers ← endEntity view.openSessions view.livePublishers entity
      some { view with livePublishers }
  | .declareSubscriber slot _ ok => do
      let liveSubscribers ← beginEntity view.openSessions view.liveSubscribers serial slot ok
      some { view with liveSubscribers }
  | .undeclareSubscriber entity => do
      let liveSubscribers ← endEntity view.openSessions view.liveSubscribers entity
      some { view with liveSubscribers }
  | .startReadTask _ | .startLeaseTask _ | .stopReadTask | .stopLeaseTask
  | .put _ _ _ _ => some view

def applyAll (view : ZenohView publishers subscribers) (serial : Nat) :
    List (ZenohCall publishers subscribers) → Option (ZenohView publishers subscribers)
  | [] => some view
  | call :: calls => do
      let view ← view.apply serial call
      view.applyAll (serial + 1) calls

/-- The view after a whole log; `none` when the log contains a misuse. -/
def replay (log : List (ZenohCall publishers subscribers)) :
    Option (ZenohView publishers subscribers) :=
  empty.applyAll 0 log

theorem applyAll_append (view : ZenohView publishers subscribers) (serial : Nat)
    (front back : List (ZenohCall publishers subscribers)) :
    view.applyAll serial (front ++ back) =
      (view.applyAll serial front).bind fun middle =>
        middle.applyAll (serial + front.length) back := by
  induction front generalizing view serial with
  | nil => simp [applyAll]
  | cons call front ih =>
      simp only [List.cons_append, applyAll, Option.bind_eq_bind, List.length_cons]
      cases view.apply serial call with
      | none => rfl
      | some middle =>
          simp only [Option.bind_some, ih]
          rw [Nat.add_right_comm, Nat.add_assoc]

theorem replay_append (front back : List (ZenohCall publishers subscribers)) :
    replay (front ++ back) =
      (replay front).bind fun middle => middle.applyAll front.length back := by
  simp [replay, applyAll_append]

theorem replay_concat (log : List (ZenohCall publishers subscribers))
    (call : ZenohCall publishers subscribers) :
    replay (log ++ [call]) = (replay log).bind fun view => view.apply log.length call := by
  simp [replay_append, applyAll]

/-! ## What a log without misuse shows -/

section Misuse

variable {Owner : Type} {openSessions serial entity : Nat} {ledger after : Ledger Owner}

theorem mem_of_endEntity {ended : Option Nat}
    (applied : endEntity openSessions ledger ended = some after) {entry : Nat × Owner}
    (live : entry ∈ after) : entry ∈ ledger := by
  cases ended with
  | none => simp [endEntity] at applied
  | some ended =>
      simp only [endEntity, release, Option.bind_eq_bind, Option.bind_some] at applied
      split at applied
      · cases applied
      · split at applied
        · cases applied
          exact (Finset.mem_filter.mp live).1
        · cases applied

theorem mem_of_beginEntity [DecidableEq Owner] {owner : Owner} {ok : Bool}
    (applied : beginEntity openSessions ledger serial owner ok = some after)
    {entry : Nat × Owner} (live : entry ∈ after) : entry ∈ ledger ∨ entry.1 = serial := by
  unfold beginEntity at applied
  split at applied
  · cases applied
  · split at applied
    · cases applied
      rcases Finset.mem_insert.mp live with rfl | old
      · exact .inr rfl
      · exact .inl old
    · cases applied
      exact .inl live

/-- What ends was live in an open session, and is live no more. -/
theorem endEntity_live (applied : endEntity openSessions ledger (some entity) = some after) :
    openSessions ≠ 0 ∧ (∃ owner, (entity, owner) ∈ ledger) ∧
      ∀ owner, (entity, owner) ∉ after := by
  simp only [endEntity, release, Option.bind_eq_bind, Option.bind_some] at applied
  split at applied
  case isTrue => cases applied
  case isFalse opened =>
    split at applied
    case isTrue listed =>
      cases applied
      obtain ⟨⟨other, owner⟩, live, rfl⟩ := listed
      exact ⟨opened, ⟨owner, live⟩, by simp⟩
    case isFalse => cases applied

theorem eq_some_of_endEntity {ended : Option Nat}
    (applied : endEntity openSessions ledger ended = some after) {entry : Nat × Owner}
    (live : entry ∈ ledger) (gone : entry ∉ after) : ended = some entry.1 := by
  obtain ⟨serial, rfl, released⟩ := Option.bind_eq_some_iff.mp applied
  split at released
  · cases released
  · rw [eq_of_release released live gone]

theorem subset_of_beginEntity [DecidableEq Owner] {owner : Owner} {ok : Bool}
    (applied : beginEntity openSessions ledger serial owner ok = some after) :
    ledger ⊆ after := by
  unfold beginEntity at applied
  split at applied
  · cases applied
  · split at applied <;> cases applied
    · exact Finset.subset_insert _ _
    · exact Finset.Subset.refl _

end Misuse

/-- Only a declaration adds an entry to a ledger, under its own serial number. -/
theorem apply_grows {view after : ZenohView publishers subscribers} {serial : Nat}
    {call : ZenohCall publishers subscribers} (applied : view.apply serial call = some after) :
    (∀ entry ∈ after.livePublishers, entry ∈ view.livePublishers ∨ entry.1 = serial) ∧
      (∀ entry ∈ after.liveSubscribers, entry ∈ view.liveSubscribers ∨ entry.1 = serial) ∧
      ∀ entry ∈ after.liveTokens, entry ∈ view.liveTokens ∨ entry.1 = serial := by
  cases call with
  | declarePublisher =>
      obtain ⟨ledger, began, ⟨⟩⟩ := Option.bind_eq_some_iff.mp applied
      exact ⟨fun _ => mem_of_beginEntity began, fun _ => .inl, fun _ => .inl⟩
  | undeclarePublisher =>
      obtain ⟨ledger, ended, ⟨⟩⟩ := Option.bind_eq_some_iff.mp applied
      exact ⟨fun _ live => .inl (mem_of_endEntity ended live), fun _ => .inl, fun _ => .inl⟩
  | declareSubscriber =>
      obtain ⟨ledger, began, ⟨⟩⟩ := Option.bind_eq_some_iff.mp applied
      exact ⟨fun _ => .inl, fun _ => mem_of_beginEntity began, fun _ => .inl⟩
  | undeclareSubscriber =>
      obtain ⟨ledger, ended, ⟨⟩⟩ := Option.bind_eq_some_iff.mp applied
      exact ⟨fun _ => .inl, fun _ live => .inl (mem_of_endEntity ended live), fun _ => .inl⟩
  | declareToken =>
      obtain ⟨ledger, began, ⟨⟩⟩ := Option.bind_eq_some_iff.mp applied
      exact ⟨fun _ => .inl, fun _ => .inl, fun _ => mem_of_beginEntity began⟩
  | undeclareToken token =>
      cases token with
      | none => cases applied; exact ⟨fun _ => .inl, fun _ => .inl, fun _ => .inl⟩
      | some =>
          obtain ⟨ledger, ended, ⟨⟩⟩ := Option.bind_eq_some_iff.mp applied
          exact ⟨fun _ => .inl, fun _ => .inl, fun _ live => .inl (mem_of_endEntity ended live)⟩
  | closeSession =>
      simp only [apply] at applied
      split at applied <;> cases applied
      exact ⟨fun _ => .inl, fun _ => .inl, fun _ => .inl⟩
  | _ => cases applied; exact ⟨fun _ => .inl, fun _ => .inl, fun _ => .inl⟩

/-- Only its own ending removes an entry from a ledger. -/
theorem apply_loses {view after : ZenohView publishers subscribers} {serial : Nat}
    {call : ZenohCall publishers subscribers} (applied : view.apply serial call = some after) :
    (∀ entry ∈ view.livePublishers, entry ∉ after.livePublishers →
        call = .undeclarePublisher (some entry.1)) ∧
      (∀ entry ∈ view.liveSubscribers, entry ∉ after.liveSubscribers →
        call = .undeclareSubscriber (some entry.1)) ∧
      ∀ entry ∈ view.liveTokens, entry ∉ after.liveTokens →
        call = .undeclareToken (some entry.1) := by
  cases call with
  | declarePublisher =>
      obtain ⟨ledger, began, ⟨⟩⟩ := Option.bind_eq_some_iff.mp applied
      exact ⟨fun _ live gone => absurd (subset_of_beginEntity began live) gone,
        fun _ live gone => absurd live gone, fun _ live gone => absurd live gone⟩
  | undeclarePublisher =>
      obtain ⟨ledger, ended, ⟨⟩⟩ := Option.bind_eq_some_iff.mp applied
      exact ⟨fun _ live gone => by rw [eq_some_of_endEntity ended live gone],
        fun _ live gone => absurd live gone, fun _ live gone => absurd live gone⟩
  | declareSubscriber =>
      obtain ⟨ledger, began, ⟨⟩⟩ := Option.bind_eq_some_iff.mp applied
      exact ⟨fun _ live gone => absurd live gone,
        fun _ live gone => absurd (subset_of_beginEntity began live) gone,
        fun _ live gone => absurd live gone⟩
  | undeclareSubscriber =>
      obtain ⟨ledger, ended, ⟨⟩⟩ := Option.bind_eq_some_iff.mp applied
      exact ⟨fun _ live gone => absurd live gone,
        fun _ live gone => by rw [eq_some_of_endEntity ended live gone],
        fun _ live gone => absurd live gone⟩
  | declareToken =>
      obtain ⟨ledger, began, ⟨⟩⟩ := Option.bind_eq_some_iff.mp applied
      exact ⟨fun _ live gone => absurd live gone, fun _ live gone => absurd live gone,
        fun _ live gone => absurd (subset_of_beginEntity began live) gone⟩
  | undeclareToken token =>
      cases token with
      | none =>
          cases applied
          exact ⟨fun _ live gone => absurd live gone, fun _ live gone => absurd live gone,
            fun _ live gone => absurd live gone⟩
      | some =>
          obtain ⟨ledger, ended, ⟨⟩⟩ := Option.bind_eq_some_iff.mp applied
          exact ⟨fun _ live gone => absurd live gone, fun _ live gone => absurd live gone,
            fun _ live gone => by rw [eq_some_of_endEntity ended live gone]⟩
  | closeSession =>
      simp only [apply] at applied
      split at applied <;> cases applied
      exact ⟨fun _ live gone => absurd live gone, fun _ live gone => absurd live gone,
        fun _ live gone => absurd live gone⟩
  | _ =>
      cases applied
      exact ⟨fun _ live gone => absurd live gone, fun _ live gone => absurd live gone,
        fun _ live gone => absurd live gone⟩

/-- A ledger of the view, and the calls that end its entities. -/
structure Follows {Owner : Type} (ledger : ZenohView publishers subscribers → Ledger Owner)
    (ended : Nat → ZenohCall publishers subscribers) : Prop where
  starts : ∀ entry, entry ∉ ledger empty
  grows : ∀ {view after : ZenohView publishers subscribers} {serial : Nat}
    {call : ZenohCall publishers subscribers}, view.apply serial call = some after →
    ∀ entry ∈ ledger after, entry ∈ ledger view ∨ entry.1 = serial
  loses : ∀ {view after : ZenohView publishers subscribers} {serial : Nat}
    {call : ZenohCall publishers subscribers}, view.apply serial call = some after →
    ∀ entry ∈ ledger view, entry ∉ ledger after → call = ended entry.1
  ends : ∀ {view after : ZenohView publishers subscribers} {serial entity : Nat},
    view.apply serial (ended entity) = some after →
    view.openSessions ≠ 0 ∧ (∃ owner, (entity, owner) ∈ ledger view) ∧
      ∀ owner, (entity, owner) ∉ ledger after

theorem follows_livePublishers :
    Follows (fun view : ZenohView publishers subscribers => view.livePublishers)
      fun entity => .undeclarePublisher (some entity) where
  starts := by simp [empty]
  grows applied := (apply_grows applied).1
  loses applied := (apply_loses applied).1
  ends applied := by
    obtain ⟨ledger, ended, ⟨⟩⟩ := Option.bind_eq_some_iff.mp applied
    exact endEntity_live ended

theorem follows_liveSubscribers :
    Follows (fun view : ZenohView publishers subscribers => view.liveSubscribers)
      fun entity => .undeclareSubscriber (some entity) where
  starts := by simp [empty]
  grows applied := (apply_grows applied).2.1
  loses applied := (apply_loses applied).2.1
  ends applied := by
    obtain ⟨ledger, ended, ⟨⟩⟩ := Option.bind_eq_some_iff.mp applied
    exact endEntity_live ended

theorem follows_liveTokens :
    Follows (fun view : ZenohView publishers subscribers => view.liveTokens)
      fun token => .undeclareToken (some token) where
  starts := by simp [empty]
  grows applied := (apply_grows applied).2.2
  loses applied := (apply_loses applied).2.2
  ends applied := by
    obtain ⟨ledger, ended, ⟨⟩⟩ := Option.bind_eq_some_iff.mp applied
    exact endEntity_live ended

/-- Every entity that a log ends is ended once, while it is live in an open session. -/
def EndsOnce {Owner : Type} (ledger : ZenohView publishers subscribers → Ledger Owner)
    (ended : Nat → ZenohCall publishers subscribers)
    (log : List (ZenohCall publishers subscribers)) : Prop :=
  ∀ entity, log.count (ended entity) ≤ 1 ∧
    ∀ front back, log = front ++ ended entity :: back →
      ∃ view, replay front = some view ∧ view.openSessions ≠ 0 ∧
        ∃ owner, (entity, owner) ∈ ledger view

variable {Owner : Type} {ledger : ZenohView publishers subscribers → Ledger Owner}
  {ended : Nat → ZenohCall publishers subscribers}

/-- What a log has ended is ended once; what is live is older and not ended. -/
theorem Follows.count_le_one (follows : Follows ledger ended)
    {log : List (ZenohCall publishers subscribers)} {view : ZenohView publishers subscribers}
    (replays : replay log = some view) :
    (∀ entity, log.count (ended entity) ≤ 1) ∧
      (∀ entry ∈ ledger view, entry.1 < log.length ∧ ended entry.1 ∉ log) ∧
      ∀ entity, ended entity ∈ log → entity < log.length := by
  induction log using List.reverseRecOn generalizing view with
  | nil =>
      cases replays
      exact ⟨by simp, fun entry live => absurd live (follows.starts entry), by simp⟩
  | append_singleton log call ih =>
      rw [replay_concat] at replays
      obtain ⟨before, beforeReplays, applied⟩ := Option.bind_eq_some_iff.mp replays
      obtain ⟨once, fresh, older⟩ := ih beforeReplays
      have endsNow (entity : Nat) (isEnd : call = ended entity) :
          ended entity ∉ log ∧ entity < log.length ∧ ∀ owner, (entity, owner) ∉ ledger view := by
        subst isEnd
        obtain ⟨_, ⟨owner, live⟩, gone⟩ := follows.ends applied
        exact ⟨(fresh _ live).2, (fresh _ live).1, gone⟩
      refine ⟨fun entity => ?_, fun entry live => ?_, fun entity listed => ?_⟩
      · rw [List.count_append, List.count_singleton]
        have onceBefore := once entity
        split
        case isTrue same =>
          rw [List.count_eq_zero_of_not_mem (endsNow entity (by simpa using same)).1]
        case isFalse => omega
      · have notNow : call ≠ ended entry.1 := fun isEnd => (endsNow _ isEnd).2.2 entry.2 live
        rw [List.length_append, List.mem_append, List.mem_singleton, not_or]
        rcases follows.grows applied entry live with old | new
        · exact ⟨Nat.lt_add_right _ (fresh entry old).1, (fresh entry old).2, notNow.symm⟩
        · refine ⟨by simp [new], fun listed => ?_, notNow.symm⟩
          exact absurd (older _ listed) (by simp [new])
      · rw [List.length_append]
        rcases List.mem_append.mp listed with before | now
        · exact Nat.lt_add_right _ (older entity before)
        · exact Nat.lt_add_right _ (endsNow entity (List.mem_singleton.mp now).symm).2.1

theorem Follows.endsOnce (follows : Follows ledger ended)
    {log : List (ZenohCall publishers subscribers)} {view : ZenohView publishers subscribers}
    (replays : replay log = some view) : EndsOnce ledger ended log := by
  refine fun entity => ⟨(follows.count_le_one replays).1 entity, ?_⟩
  rintro front back rfl
  rw [replay_append] at replays
  obtain ⟨middle, frontReplays, backApplied⟩ := Option.bind_eq_some_iff.mp replays
  obtain ⟨after, applied, _⟩ := Option.bind_eq_some_iff.mp backApplied
  obtain ⟨opened, live, _⟩ := follows.ends applied
  exact ⟨middle, frontReplays, opened, live⟩

/-- A live entity that later calls leave behind is ended among them. -/
theorem Follows.mem_of_gone (follows : Follows ledger ended)
    {calls : List (ZenohCall publishers subscribers)} {serial : Nat}
    {view after : ZenohView publishers subscribers}
    (applied : view.applyAll serial calls = some after) {entry : Nat × Owner}
    (live : entry ∈ ledger view) (gone : entry ∉ ledger after) : ended entry.1 ∈ calls := by
  induction calls generalizing view serial with
  | nil =>
      cases applied
      exact absurd live gone
  | cons call calls ih =>
      obtain ⟨middle, first, rest⟩ := Option.bind_eq_some_iff.mp applied
      by_cases stays : entry ∈ ledger middle
      · exact List.mem_cons_of_mem _ (ih rest stays)
      · rw [follows.loses first entry live stays]
        exact List.mem_cons_self

end ZenohView

end Zenbedded
