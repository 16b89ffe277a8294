import Zenbedded.ZenohTransportPools
import Mathlib.Data.List.Basic

/-!
# Key expressions

The texts that a declaration composes: their lengths, the bytes they cannot contain,
and what a successful declaration stores and hands to zenoh.
-/

namespace Zenbedded

/-! ## Numbers -/

def decimalValue (text : List UInt8) : Nat :=
  text.foldl (fun value byte => 10 * value + (byte.toNat - 48)) 0

def hexDigitValue (byte : UInt8) : Nat :=
  if byte < 97 then byte.toNat - 48 else byte.toNat - 87

def hexValue : List UInt8 → List UInt8
  | high :: low :: rest =>
      UInt8.ofNat (16 * hexDigitValue high + hexDigitValue low) :: hexValue rest
  | _ => []

theorem toNat_of_isDigit {char : Char} (digit : char.isDigit = true) :
    48 ≤ char.toNat ∧ char.toNat ≤ 57 := by
  rw [Char.isDigit_iff_toNat] at digit
  exact digit

theorem isDigit_of_mem_toDigits {value : Nat} {char : Char}
    (member : char ∈ Nat.toDigits 10 value) :
    48 ≤ char.toNat ∧ char.toNat ≤ 57 :=
  toNat_of_isDigit (Nat.isDigit_of_mem_toDigits (by decide) (by decide) member)

theorem length_decimalText_le (value : UInt32) : (decimalText value).length ≤ 10 := by
  rw [decimalText, List.length_map, Nat.length_toDigits_le_iff (by decide) (by decide)]
  have := value.toNat_lt
  omega

theorem slash_notMem_decimalText (value : UInt32) : slash ∉ decimalText value := by
  intro member
  obtain ⟨char, digit, isSlash⟩ := List.mem_map.mp member
  have bounds := isDigit_of_mem_toDigits digit
  have := congrArg UInt8.toNat isSlash
  simp [slash] at this
  omega

theorem decimalValue_decimalText (value : UInt32) :
    decimalValue (decimalText value) = value.toNat := by
  rw [decimalValue, decimalText, List.foldl_map]
  calc
    _ = (Nat.toDigits 10 value.toNat).foldl
          (fun value digit => 10 * value + (digit.toNat - '0'.toNat)) 0 := by
        refine List.foldl_ext _ _ _ fun value digit member => ?_
        have bounds := isDigit_of_mem_toDigits member
        have fits : (UInt8.ofNat digit.toNat).toNat = digit.toNat :=
          UInt8.toNat_ofNat_of_lt' (by rw [UInt8.size]; omega)
        rw [fits]
        rfl
    _ = value.toNat := by
        rw [← Nat.ofDigitChars_eq_foldl, Nat.ofDigitChars_ten_toDigits]

theorem hexDigitValue_digitChar :
    ∀ digit < 16, hexDigitValue (UInt8.ofNat (Nat.digitChar digit).toNat) = digit := by
  decide

theorem slash_ne_digitChar : ∀ digit < 16, UInt8.ofNat (Nat.digitChar digit).toNat ≠ slash := by
  decide

@[simp]
theorem length_hexText (bytes : List UInt8) : (hexText bytes).length = 2 * bytes.length := by
  induction bytes with
  | nil => rfl
  | cons byte bytes ih =>
      simp only [hexText, List.flatMap_cons, List.length_append] at ih ⊢
      rw [ih]
      simp
      omega

theorem slash_notMem_hexText (bytes : List UInt8) : slash ∉ hexText bytes := by
  intro member
  obtain ⟨byte, -, digit⟩ := List.mem_flatMap.mp member
  have bound := byte.toNat_lt
  obtain ⟨value, valueMem, isSlash⟩ := List.mem_map.mp digit
  refine slash_ne_digitChar value ?_ isSlash
  rcases List.mem_pair.mp valueMem with rfl | rfl
  · omega
  · omega

theorem hexValue_hexText (bytes : List UInt8) : hexValue (hexText bytes) = bytes := by
  induction bytes with
  | nil => rfl
  | cons byte bytes ih =>
      have bound := byte.toNat_lt
      have high := hexDigitValue_digitChar (byte.toNat / 16) (by omega)
      have low := hexDigitValue_digitChar (byte.toNat % 16) (by omega)
      have text : hexText (byte :: bytes) =
          UInt8.ofNat (Nat.digitChar (byte.toNat / 16)).toNat ::
            UInt8.ofNat (Nat.digitChar (byte.toNat % 16)).toNat :: hexText bytes := rfl
      rw [text, hexValue, ih, high, low, Nat.div_add_mod, UInt8.ofNat_toNat]

/-! ## The type ledger -/

theorem rihsLedger_texts : ∀ mapping ∈ rihsLedger, mapping.2.bytes.length = 71 ∧
    slash ∉ mapping.1.bytes ∧ slash ∉ mapping.2.bytes := by
  decide +kernel

/-- What is known of a type in the ledger and its hash. -/
theorem getRihsHash_texts {typeName typeHash : CString}
    (found : getRihsHash (some typeName) = some typeHash) :
    typeHash.bytes.length = 71 ∧ slash ∉ typeName.bytes ∧ slash ∉ typeHash.bytes := by
  obtain ⟨mapping, search, rfl⟩ := Option.map_eq_some_iff.mp found
  obtain rfl : mapping.1 = typeName := by simpa using List.find?_some search
  exact rihsLedger_texts mapping (List.mem_of_find?_eq_some search)

/-! ## Lengths -/

theorem snprintf_of_lt {bufferSize : Nat} {text : List UInt8} (fits : text.length < bufferSize) :
    snprintf bufferSize text = text :=
  List.take_of_length_le (by omega)

/-- A text that fills its buffer loses its end. -/
theorem snprintf_eq_iff {bufferSize : Nat} (positive : 0 < bufferSize) {text : List UInt8} :
    snprintf bufferSize text = text ↔ text.length < bufferSize := by
  rw [snprintf, List.take_eq_self_iff]
  omega

theorem length_topicText (domainId : UInt32) (clean : List UInt8) (typeName typeHash : CString) :
    (topicText domainId clean typeName typeHash).length =
      3 + (decimalText domainId).length + clean.length + typeName.bytes.length +
        typeHash.bytes.length := by
  simp only [topicText, List.length_append, List.length_singleton]
  omega

theorem length_nodeLvText (domainId : UInt32) (zid nodeName : List UInt8) :
    (nodeLvText domainId zid nodeName).length =
      22 + 2 * zid.length + (decimalText domainId).length + nodeName.length := by
  have front : (ascii "@ros2_lv/").length = 9 := rfl
  have back : (ascii "/0/0/NN/%/%/").length = 12 := rfl
  simp only [nodeLvText, List.length_append, List.length_singleton, length_hexText, front, back]
  omega

theorem length_entityLvText (kind : EntityKind) (domainId : UInt32)
    (zid nodeName mangledTopic : List UInt8) (typeName typeHash : CString) :
    (entityLvText kind domainId zid nodeName mangledTopic typeName typeHash).length =
      39 + 2 * zid.length + (decimalText domainId).length + nodeName.length +
        mangledTopic.length + typeName.bytes.length + typeHash.bytes.length := by
  have front : (ascii "@ros2_lv/").length = 9 := rfl
  have kinds : kind.text.length = 2 := by cases kind <;> rfl
  have middle : (ascii "/0/10/").length = 6 := rfl
  have names : (ascii "/%/%/").length = 5 := rfl
  have topic : (ascii "/%").length = 2 := rfl
  have back : (ascii "/::,7:,:,:,,").length = 12 := rfl
  simp only [entityLvText, List.length_append, List.length_singleton, length_hexText, front, kinds,
    middle, names, topic, back]
  omega

/-! ## Declarations -/

def ZenohCall.dataKey {publishers subscribers : Nat} :
    ZenohCall publishers subscribers → Option (List UInt8)
  | .declarePublisher _ keyexpr _ _ | .declareSubscriber _ keyexpr _ => some keyexpr
  | _ => none

def ZenohCall.tokenKey {publishers subscribers : Nat} :
    ZenohCall publishers subscribers → Option (List UInt8)
  | .declareToken _ keyexpr _ => some keyexpr
  | _ => none

/-- The key expressions that a declaration stores in its slot and hands to zenoh. -/
structure DeclaredKeys where
  topicKeyexpr : List UInt8
  lvKeyexpr : List UInt8
  dataKeys : List (List UInt8)
  tokenKeys : List (List UInt8)

def DeclaredKeys.of {publishers subscribers : Nat} (topicKeyexpr lvKeyexpr : List UInt8)
    (calls : List (ZenohCall publishers subscribers)) : DeclaredKeys where
  topicKeyexpr
  lvKeyexpr
  dataKeys := calls.filterMap ZenohCall.dataKey
  tokenKeys := calls.filterMap ZenohCall.tokenKey

variable {kconfig : Kconfig} {Callback UserData : Type}

namespace ZenohTransport

/-- The data key expression that a declaration is meant to use. -/
def completeKeyexpr (kconfig : Kconfig) (domainId : UInt32) (topicName : CString)
    (typeName : Option CString) : Option (List UInt8) :=
  match kconfig.tier with
  | .tier1 => do
      let typeName ← typeName
      let typeHash ← getRihsHash typeName
      some (topicText domainId (cleanTopic topicName.bytes) typeName typeHash)
  | .tier2 => some (cleanTopic topicName.bytes)

theorem topicKeyexpr_eq_map (transport : ZenohTransport kconfig Callback UserData)
    (topicName : CString) (typeName : Option CString) :
    transport.topicKeyexpr topicName typeName =
      (completeKeyexpr kconfig transport.currentDomainId topicName typeName).map
        (snprintf (topicKeyexprMaxLen kconfig)) := by
  unfold topicKeyexpr completeKeyexpr
  cases tierEq : kconfig.tier with
  | tier1 =>
      cases typeName with
      | none => rfl
      | some typeName => cases hashEq : getRihsHash (some typeName) <;> simp [hashEq]
  | tier2 => simp [topicKeyexprMaxLen, tierEq]

/-- A declaration that returns a handle, with the key expressions it uses. -/
inductive Declares (before : ZenohTransport kconfig Callback UserData) (topicName : CString)
    (typeName : Option CString) : EntityKind → List UInt8 → DeclaredKeys → Prop
  | publisher {outcome : DeclareOutcome} {slot : Fin kconfig.maxPublishers}
      {after : ZenohTransport kconfig Callback UserData}
      (answers : before.declarePublisher topicName typeName outcome = (some slot, after)) :
      Declares before topicName typeName .mp outcome.zid
        (.of (after.pubPool slot).topicKeyexpr (after.pubPool slot).lvKeyexpr
          (after.log.drop before.log.length))
  | subscriber {callback : Option Callback} {userData : Option UserData}
      {outcome : DeclareOutcome} {slot : Fin kconfig.maxSubscribers}
      {after : ZenohTransport kconfig Callback UserData}
      (answers : before.declareSubscriber topicName typeName callback userData outcome =
        (some slot, after)) :
      Declares before topicName typeName .ms outcome.zid
        (.of (after.subPool slot).topicKeyexpr (after.subPool slot).lvKeyexpr
          (after.log.drop before.log.length))

/-- The key expressions of a declaration, by tier. -/
structure UsesKeys (before : ZenohTransport kconfig Callback UserData) (topicName : CString)
    (typeName : Option CString) (kind : EntityKind) (zid : List UInt8) (keys : DeclaredKeys) :
    Prop where
  topic : before.topicKeyexpr topicName typeName = some keys.topicKeyexpr
  data : keys.dataKeys = [keys.topicKeyexpr]
  liveliness : kconfig.tier = .tier1 →
    keys.lvKeyexpr = (before.lvKeyexpr kind topicName typeName zid).getD [] ∧
      keys.tokenKeys = [keys.lvKeyexpr]

theorem lvKeyexpr_call (transport : ZenohTransport kconfig Callback UserData)
    (zenohCall : ZenohCall kconfig.maxPublishers kconfig.maxSubscribers) :
    (transport.call zenohCall).lvKeyexpr = transport.lvKeyexpr := rfl

/-- A declaration that hands zenoh the key expressions that it stores. -/
theorem usesKeys_of_calls {before : ZenohTransport kconfig Callback UserData}
    {topicName : CString} {typeName : Option CString} {kind : EntityKind} {zid : List UInt8}
    {keyexpr lvKeyexpr : List UInt8}
    {declares : ZenohCall kconfig.maxPublishers kconfig.maxSubscribers}
    {tokens : List (ZenohCall kconfig.maxPublishers kconfig.maxSubscribers)}
    (stored : before.topicKeyexpr topicName typeName = some keyexpr)
    (data : declares.dataKey = some keyexpr) (noToken : declares.tokenKey = none)
    (noData : tokens.filterMap ZenohCall.dataKey = [])
    (liveliness : kconfig.tier = .tier1 →
      lvKeyexpr = (before.lvKeyexpr kind topicName typeName zid).getD [] ∧
        tokens.filterMap ZenohCall.tokenKey = [lvKeyexpr]) :
    before.UsesKeys topicName typeName kind zid (.of keyexpr lvKeyexpr (declares :: tokens)) where
  topic := stored
  data := by rw [DeclaredKeys.of, List.filterMap_cons_some data, noData]
  liveliness tier :=
    ⟨(liveliness tier).1, by rw [DeclaredKeys.of, List.filterMap_cons_none noToken,
      (liveliness tier).2]⟩

theorem declarePublisherAt_usesKeys {before after : ZenohTransport kconfig Callback UserData}
    {topicName : CString} {typeName : Option CString} {outcome : DeclareOutcome}
    {slot answer : Fin kconfig.maxPublishers}
    (answers : before.declarePublisherAt slot topicName typeName outcome =
      (some answer, after)) :
    before.UsesKeys topicName typeName .mp outcome.zid
      (.of (after.pubPool answer).topicKeyexpr (after.pubPool answer).lvKeyexpr
        (after.log.drop before.log.length)) := by
  unfold declarePublisherAt at answers
  cases stored : before.topicKeyexpr topicName typeName with
  | none => simp [stored] at answers
  | some keyexpr =>
      cases declaredEq : outcome.declared with
      | false => simp [stored, declaredEq] at answers
      | true =>
          cases tierEq : kconfig.tier with
          | tier1 =>
              simp only [stored, declaredEq, tierEq, Bool.true_eq_false, if_false,
                Prod.mk.injEq, Option.some.injEq] at answers
              obtain ⟨rfl, rfl⟩ := answers
              simpa [lvKeyexpr_call] using
                usesKeys_of_calls stored rfl rfl rfl fun _ => ⟨rfl, rfl⟩
          | tier2 =>
              simp only [stored, declaredEq, tierEq, Bool.true_eq_false, if_false,
                Prod.mk.injEq, Option.some.injEq] at answers
              obtain ⟨rfl, rfl⟩ := answers
              simpa using usesKeys_of_calls stored rfl rfl rfl fun tier =>
                nomatch tierEq.symm.trans tier

theorem declareSubscriberAt_usesKeys {before after : ZenohTransport kconfig Callback UserData}
    {topicName : CString} {typeName : Option CString}
    {callback : Option Callback} {userData : Option UserData} {outcome : DeclareOutcome}
    {slot answer : Fin kconfig.maxSubscribers}
    (answers : before.declareSubscriberAt slot topicName typeName callback userData outcome =
      (some answer, after)) :
    before.UsesKeys topicName typeName .ms outcome.zid
      (.of (after.subPool answer).topicKeyexpr (after.subPool answer).lvKeyexpr
        (after.log.drop before.log.length)) := by
  unfold declareSubscriberAt at answers
  cases stored : before.topicKeyexpr topicName typeName with
  | none => simp [stored] at answers
  | some keyexpr =>
      cases declaredEq : outcome.declared with
      | false => simp [stored, declaredEq] at answers
      | true =>
          cases tierEq : kconfig.tier with
          | tier1 =>
              simp only [stored, declaredEq, tierEq, Bool.true_eq_false, if_false,
                Prod.mk.injEq, Option.some.injEq] at answers
              obtain ⟨rfl, rfl⟩ := answers
              simpa [lvKeyexpr_call] using
                usesKeys_of_calls stored rfl rfl rfl fun _ => ⟨rfl, rfl⟩
          | tier2 =>
              simp only [stored, declaredEq, tierEq, Bool.true_eq_false, if_false,
                Prod.mk.injEq, Option.some.injEq] at answers
              obtain ⟨rfl, rfl⟩ := answers
              simpa using usesKeys_of_calls stored rfl rfl rfl fun tier =>
                nomatch tierEq.symm.trans tier

theorem Declares.usesKeys {before : ZenohTransport kconfig Callback UserData}
    {topicName : CString} {typeName : Option CString} {kind : EntityKind} {zid : List UInt8}
    {keys : DeclaredKeys} (declares : before.Declares topicName typeName kind zid keys) :
    before.UsesKeys topicName typeName kind zid keys := by
  cases declares with
  | publisher answers =>
      rw [declarePublisher] at answers
      split at answers
      case isTrue => cases (Prod.mk.inj answers).1
      case isFalse =>
        split at answers
        case h_1 => cases (Prod.mk.inj answers).1
        case h_2 => exact declarePublisherAt_usesKeys answers
  | subscriber answers =>
      rw [declareSubscriber] at answers
      split at answers
      case isTrue => cases (Prod.mk.inj answers).1
      case isFalse =>
        split at answers
        case h_1 => cases (Prod.mk.inj answers).1
        case h_2 => exact declareSubscriberAt_usesKeys answers

def HasFree (transport : ZenohTransport kconfig Callback UserData) : EntityKind → Prop
  | .mp => ∃ slot, (transport.pubPool slot).inUse = false
  | .ms => ∃ slot, (transport.subPool slot).inUse = false

/-- A declaration of a known type is made if zenoh has it and a slot is free. -/
theorem exists_declares_of_free {transport : ZenohTransport kconfig Callback UserData}
    {typeName : Option CString} {kind : EntityKind} (opened : transport.isInitialized = true)
    (free : transport.HasFree kind) (known : TypeKnown kconfig typeName) (topicName : CString)
    (zid : List UInt8) : ∃ keys, transport.Declares topicName typeName kind zid keys := by
  let outcome : DeclareOutcome := ⟨true, true, zid, []⟩
  cases kind with
  | mp =>
      have answers := (transport.isSome_declarePublisher_iff topicName typeName outcome).mpr
        ⟨opened, free, known, rfl⟩
      obtain ⟨slot, answered⟩ := Option.isSome_iff_exists.mp answers
      exact ⟨_, .publisher (Prod.ext answered rfl)⟩
  | ms =>
      have answers := (transport.isSome_declareSubscriber_iff topicName typeName none none
        outcome).mpr ⟨opened, free, known, rfl⟩
      obtain ⟨slot, answered⟩ := Option.isSome_iff_exists.mp answers
      exact ⟨_, .subscriber (Prod.ext answered rfl)⟩

/-- What the init that opens the session records. -/
theorem init_session {transport : ZenohTransport kconfig Callback UserData}
    {outcome : InitOutcome} (domainId : UInt32) (nodeName mode : CString)
    (locator : Option CString) (closed : transport.isInitialized = false)
    (opens : outcome.opened = true) :
    let after := (transport.init domainId nodeName mode locator outcome).2
    after.currentDomainId = domainId ∧
      after.currentNodeName = nodeName.bytes.take (kconfig.maxNodeNameLen - 1) ∧
      (kconfig.tier = .tier1 → after.nodeLvStr = snprintf (nodeLvKeyexprMaxLen kconfig)
        (nodeLvText domainId outcome.zid after.currentNodeName)) := by
  simp only [init, closed, opens, Bool.false_eq_true, Bool.true_eq_false, if_false]
  cases tierEq : kconfig.tier with
  | tier1 => exact ⟨rfl, rfl, fun _ => rfl⟩
  | tier2 => exact ⟨rfl, rfl, fun tier => by cases tier⟩

end ZenohTransport

end Zenbedded
