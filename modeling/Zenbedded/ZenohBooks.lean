import Zenbedded.ZenohLedger

/-!
# Balanced books

The variables of the transport and the books of zenoh agree, and every call that the
transport makes in its place keeps them in agreement.
-/

namespace Zenbedded

open ResourceLedger

variable {publishers subscribers : Nat}

/-- Zenoh and the variables of the transport agree: the log contains no misuse, the
session is open or not, and live entities are those that variables hold. -/
structure Balanced (log : List (ZenohCall publishers subscribers)) (sessionOpen : Bool)
    (pubHeld : Fin publishers → Option Nat) (subHeld : Fin subscribers → Option Nat)
    (tokenHeld : TokenOwner publishers subscribers → Option Nat)
    (view : ZenohView publishers subscribers) : Prop where
  replays : ZenohView.replay log = some view
  sessions : view.openSessions = if sessionOpen then 1 else 0
  pubSerial : Serial log.length view.livePublishers
  pubLists : Lists view.livePublishers pubHeld
  subSerial : Serial log.length view.liveSubscribers
  subLists : Lists view.liveSubscribers subHeld
  tokenSerial : Serial log.length view.liveTokens
  tokenLists : Lists view.liveTokens tokenHeld

namespace Balanced

variable {log : List (ZenohCall publishers subscribers)} {sessionOpen : Bool}
  {pubHeld : Fin publishers → Option Nat} {subHeld : Fin subscribers → Option Nat}
  {tokenHeld : TokenOwner publishers subscribers → Option Nat}
  {view : ZenohView publishers subscribers}

theorem start : Balanced ([] : List (ZenohCall publishers subscribers)) false
    (fun _ => none) (fun _ => none) (fun _ => none) ZenohView.empty where
  replays := rfl
  sessions := rfl
  pubSerial := serial_empty 0
  pubLists := lists_empty
  subSerial := serial_empty 0
  subLists := lists_empty
  tokenSerial := serial_empty 0
  tokenLists := lists_empty

variable (balanced : Balanced log sessionOpen pubHeld subHeld tokenHeld view)

include balanced

theorem replay_call {call : ZenohCall publishers subscribers}
    (after : ZenohView publishers subscribers)
    (applied : view.apply log.length call = some after) :
    ZenohView.replay (log ++ [call]) = some after := by
  rw [ZenohView.replay_concat, balanced.replays, Option.bind_some, applied]

theorem serials (call : ZenohCall publishers subscribers) :
    Serial (log ++ [call]).length view.livePublishers ∧
      Serial (log ++ [call]).length view.liveSubscribers ∧
      Serial (log ++ [call]).length view.liveTokens := by
  have longer : log.length ≤ (log ++ [call]).length := by simp
  exact ⟨balanced.pubSerial.mono longer, balanced.subSerial.mono longer,
    balanced.tokenSerial.mono longer⟩

theorem unchanged (call : ZenohCall publishers subscribers)
    (neutral : view.apply log.length call = some view) :
    Balanced (log ++ [call]) sessionOpen pubHeld subHeld tokenHeld view := by
  obtain ⟨pubSerial, subSerial, tokenSerial⟩ := balanced.serials call
  exact { balanced with
    replays := balanced.replay_call view neutral, pubSerial, subSerial, tokenSerial }

theorem openSession (config : ZenohConfig) (closed : sessionOpen = false) :
    ∃ after, Balanced (log ++ [.openSession config true]) true pubHeld subHeld tokenHeld
      after := by
  obtain ⟨pubSerial, subSerial, tokenSerial⟩ := balanced.serials (.openSession config true)
  have none : view.openSessions = 0 := by simpa [closed] using balanced.sessions
  exact ⟨_, { balanced with
    replays := balanced.replay_call _ rfl
    sessions := by simp [none]
    pubSerial, subSerial, tokenSerial }⟩

/-- Closing is allowed once no variable holds anything. -/
theorem closeSession (opened : sessionOpen = true) (pubNone : ∀ slot, pubHeld slot = none)
    (subNone : ∀ slot, subHeld slot = none) (tokenNone : ∀ owner, tokenHeld owner = none) :
    ∃ after, Balanced (log ++ [.closeSession]) false pubHeld subHeld tokenHeld after := by
  obtain ⟨pubSerial, subSerial, tokenSerial⟩ := balanced.serials .closeSession
  have one : view.openSessions = 1 := by simpa [opened] using balanced.sessions
  have applied : view.apply log.length .closeSession =
      some { view with openSessions := view.openSessions - 1 } := by
    simp [ZenohView.apply, one, balanced.pubLists.eq_empty pubNone,
      balanced.subLists.eq_empty subNone, balanced.tokenLists.eq_empty tokenNone]
  exact ⟨_, { balanced with
    replays := balanced.replay_call _ applied
    sessions := by simp [one]
    pubSerial, subSerial, tokenSerial }⟩

theorem openSessions_ne_zero (opened : sessionOpen = true) : view.openSessions ≠ 0 := by
  simp [balanced.sessions, opened]

theorem declarePublisher (opened : sessionOpen = true) {slot : Fin publishers}
    (free : pubHeld slot = none) (keyexpr : List UInt8) (options : PublisherOptions) :
    ∃ after, Balanced (log ++ [.declarePublisher slot keyexpr options true]) sessionOpen
      (Function.update pubHeld slot (some log.length)) subHeld tokenHeld after := by
  obtain ⟨_, subSerial, tokenSerial⟩ :=
    balanced.serials (.declarePublisher slot keyexpr options true)
  refine ⟨_, { balanced with
    replays := balanced.replay_call { view with livePublishers := insert _ _ } ?_
    pubSerial := ?_, pubLists := balanced.pubLists.insert free, subSerial, tokenSerial }⟩
  · simp [ZenohView.apply, ZenohView.beginEntity, balanced.openSessions_ne_zero opened]
  · rw [List.length_append]
    exact balanced.pubSerial.insert slot

theorem undeclarePublisher (opened : sessionOpen = true) {slot : Fin publishers}
    {entity : Nat} (holds : pubHeld slot = some entity) :
    ∃ after, Balanced (log ++ [.undeclarePublisher (some entity)]) sessionOpen
      (Function.update pubHeld slot none) subHeld tokenHeld after := by
  obtain ⟨_, subSerial, tokenSerial⟩ := balanced.serials (.undeclarePublisher (some entity))
  obtain ⟨rest, released, restSerial, restLists⟩ :=
    balanced.pubLists.release balanced.pubSerial holds
  refine ⟨_, { balanced with
    replays := balanced.replay_call { view with livePublishers := rest } ?_
    pubSerial := restSerial.mono (by simp)
    pubLists := restLists, subSerial, tokenSerial }⟩
  simp [ZenohView.apply, ZenohView.endEntity, balanced.openSessions_ne_zero opened, released]

theorem declareSubscriber (opened : sessionOpen = true) {slot : Fin subscribers}
    (free : subHeld slot = none) (keyexpr : List UInt8) :
    ∃ after, Balanced (log ++ [.declareSubscriber slot keyexpr true]) sessionOpen pubHeld
      (Function.update subHeld slot (some log.length)) tokenHeld after := by
  obtain ⟨pubSerial, _, tokenSerial⟩ := balanced.serials (.declareSubscriber slot keyexpr true)
  refine ⟨_, { balanced with
    replays := balanced.replay_call { view with liveSubscribers := insert _ _ } ?_
    subSerial := ?_, subLists := balanced.subLists.insert free, pubSerial, tokenSerial }⟩
  · simp [ZenohView.apply, ZenohView.beginEntity, balanced.openSessions_ne_zero opened]
  · rw [List.length_append]
    exact balanced.subSerial.insert slot

theorem undeclareSubscriber (opened : sessionOpen = true) {slot : Fin subscribers}
    {entity : Nat} (holds : subHeld slot = some entity) :
    ∃ after, Balanced (log ++ [.undeclareSubscriber (some entity)]) sessionOpen pubHeld
      (Function.update subHeld slot none) tokenHeld after := by
  obtain ⟨pubSerial, _, tokenSerial⟩ := balanced.serials (.undeclareSubscriber (some entity))
  obtain ⟨rest, released, restSerial, restLists⟩ :=
    balanced.subLists.release balanced.subSerial holds
  refine ⟨_, { balanced with
    replays := balanced.replay_call { view with liveSubscribers := rest } ?_
    subSerial := restSerial.mono (by simp)
    subLists := restLists, pubSerial, tokenSerial }⟩
  simp [ZenohView.apply, ZenohView.endEntity, balanced.openSessions_ne_zero opened, released]

/-- Declaring a token; when that fails its variable holds nothing. -/
theorem declareToken (opened : sessionOpen = true)
    (owner : TokenOwner publishers subscribers) (free : tokenHeld owner = none)
    (keyexpr : List UInt8) (ok : Bool) :
    ∃ after, Balanced (log ++ [.declareToken owner keyexpr ok]) sessionOpen pubHeld subHeld
      (Function.update tokenHeld owner (if ok then some log.length else none)) after := by
  cases ok with
  | false =>
      have same : Function.update tokenHeld owner none = tokenHeld :=
        Function.update_eq_self_iff.mpr free.symm
      refine ⟨view, ?_⟩
      simp only [Bool.false_eq_true, if_false, same]
      apply balanced.unchanged _
      simp [ZenohView.apply, ZenohView.beginEntity, balanced.openSessions_ne_zero opened]
  | true =>
      obtain ⟨pubSerial, subSerial, _⟩ := balanced.serials (.declareToken owner keyexpr true)
      refine ⟨_, { balanced with
        replays := balanced.replay_call { view with liveTokens := insert _ _ } ?_
        tokenSerial := ?_, tokenLists := balanced.tokenLists.insert free
        pubSerial, subSerial }⟩
      · simp [ZenohView.apply, ZenohView.beginEntity, balanced.openSessions_ne_zero opened]
      · rw [List.length_append]
        exact balanced.tokenSerial.insert owner

theorem undeclareToken (opened : sessionOpen = true)
    (owner : TokenOwner publishers subscribers) :
    ∃ after, Balanced (log ++ [.undeclareToken (tokenHeld owner)]) sessionOpen pubHeld subHeld
      (Function.update tokenHeld owner none) after := by
  cases holds : tokenHeld owner with
  | none =>
      have same : Function.update tokenHeld owner none = tokenHeld :=
        Function.update_eq_self_iff.mpr holds.symm
      rw [same]
      exact ⟨view, balanced.unchanged _ rfl⟩
  | some token =>
      obtain ⟨pubSerial, subSerial, _⟩ := balanced.serials (.undeclareToken (some token))
      obtain ⟨rest, released, restSerial, restLists⟩ :=
        balanced.tokenLists.release balanced.tokenSerial holds
      refine ⟨_, { balanced with
        replays := balanced.replay_call { view with liveTokens := rest } ?_
        tokenSerial := restSerial.mono (by simp)
        tokenLists := restLists, pubSerial, subSerial }⟩
      simp [ZenohView.apply, ZenohView.endEntity, balanced.openSessions_ne_zero opened, released]

end Balanced

end Zenbedded
