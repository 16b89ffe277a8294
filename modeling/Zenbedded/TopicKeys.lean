import Zenbedded.KeyExpressions

/-!
# Topics and their keys

Two topics are kept apart when every declaration uses its complete key expression.
The buffer of a key expression holds the names that the build configuration expects;
a longer one is cut off.
-/

namespace Zenbedded

open ZenohTransport

variable {kconfig : Kconfig} {domainId : UInt32} {typeName : Option CString}

def KeyexprFits (kconfig : Kconfig) (domainId : UInt32) (typeName : Option CString)
    (topicName : CString) : Prop :=
  match kconfig.tier with
  | .tier1 =>
      (decimalText domainId).length + (cleanTopic topicName.bytes).length +
          (typeName.map CString.strlen).getD 0 ≤
        10 + kconfig.maxTopicNameLen + kconfig.maxTypeNameLen
  | .tier2 => (cleanTopic topicName.bytes).length < kconfig.maxTopicNameLen

theorem completeKeyexpr_tier1 (tier1 : kconfig.tier = .tier1) {topicName : CString}
    {keyexpr : List UInt8} :
    completeKeyexpr kconfig domainId topicName typeName = some keyexpr ↔
      ∃ type typeHash, typeName = some type ∧ getRihsHash (some type) = some typeHash ∧
        topicText domainId (cleanTopic topicName.bytes) type typeHash = keyexpr := by
  simp [completeKeyexpr, tier1, Option.bind_eq_some_iff]

theorem completeKeyexpr_tier2 (tier2 : kconfig.tier = .tier2) {topicName : CString}
    {keyexpr : List UInt8} :
    completeKeyexpr kconfig domainId topicName typeName = some keyexpr ↔
      cleanTopic topicName.bytes = keyexpr := by
  simp [completeKeyexpr, tier2]

/-- Different topics have different complete key expressions. -/
theorem cleanTopic_eq_of_completeKeyexpr {first second : CString} {keyexpr : List UInt8}
    (firstKey : completeKeyexpr kconfig domainId first typeName = some keyexpr)
    (secondKey : completeKeyexpr kconfig domainId second typeName = some keyexpr) :
    cleanTopic first.bytes = cleanTopic second.bytes := by
  cases tierEq : kconfig.tier with
  | tier1 =>
      obtain ⟨type, typeHash, rfl, hashEq, rfl⟩ := (completeKeyexpr_tier1 tierEq).mp firstKey
      obtain ⟨type', typeHash', typeEq, hashEq', same⟩ :=
        (completeKeyexpr_tier1 tierEq).mp secondKey
      obtain rfl := Option.some.inj typeEq
      obtain rfl := Option.some.inj (hashEq.symm.trans hashEq')
      simpa [topicText] using same.symm
  | tier2 =>
      rw [completeKeyexpr_tier2 tierEq] at firstKey secondKey
      exact firstKey.trans secondKey.symm

theorem snprintf_completeKeyexpr_iff (admitted : kconfig.Admitted) {topicName : CString}
    {keyexpr : List UInt8}
    (complete : completeKeyexpr kconfig domainId topicName typeName = some keyexpr) :
    snprintf (topicKeyexprMaxLen kconfig) keyexpr = keyexpr ↔
      KeyexprFits kconfig domainId typeName topicName := by
  have topicMax := admitted.maxTopicNameLen.1
  cases tierEq : kconfig.tier with
  | tier1 =>
      obtain ⟨type, typeHash, rfl, hashEq, rfl⟩ := (completeKeyexpr_tier1 tierEq).mp complete
      obtain ⟨hashLength, -⟩ := getRihsHash_texts hashEq
      have size : topicKeyexprMaxLen kconfig =
          85 + kconfig.maxTopicNameLen + kconfig.maxTypeNameLen := by
        simp only [topicKeyexprMaxLen, tierEq]
        omega
      rw [snprintf_eq_iff (by omega), length_topicText, hashLength, size]
      simp only [KeyexprFits, tierEq, Option.map_some, Option.getD_some, CString.strlen]
      omega
  | tier2 =>
      obtain rfl := (completeKeyexpr_tier2 tierEq).mp complete
      have size : topicKeyexprMaxLen kconfig = kconfig.maxTopicNameLen := by
        simp only [topicKeyexprMaxLen, tierEq]
      rw [snprintf_eq_iff (by omega), size]
      simp only [KeyexprFits, tierEq]

variable {Callback UserData : Type}

/-- A declaration stores and declares the complete key expression. -/
structure UsesCompleteKey (kconfig : Kconfig) (domainId : UInt32) (typeName : Option CString)
    (topicName : CString) (keys : DeclaredKeys) : Prop where
  complete : completeKeyexpr kconfig domainId topicName typeName = some keys.topicKeyexpr
  declared : keys.dataKeys = [keys.topicKeyexpr]

/-- No two declarations for the topics share a key, or use one that is cut off. -/
def KeptApart (kconfig : Kconfig) (Callback UserData : Type) (domainId : UInt32)
    (typeName : Option CString) (first second : CString) : Prop :=
  ∀ before other : LifecycleState kconfig Callback UserData,
    (transportLifecycle kconfig Callback UserData).Reachable before →
    (transportLifecycle kconfig Callback UserData).Reachable other →
    before.transport.currentDomainId = domainId → other.transport.currentDomainId = domainId →
    ∀ kind otherKind zid otherZid keys otherKeys,
      before.transport.Declares first typeName kind zid keys →
      other.transport.Declares second typeName otherKind otherZid otherKeys →
      UsesCompleteKey kconfig domainId typeName first keys ∧
        UsesCompleteKey kconfig domainId typeName second otherKeys ∧
        keys.topicKeyexpr ≠ otherKeys.topicKeyexpr

theorem ZenohTransport.Declares.usesCompleteKey_iff
    {before : ZenohTransport kconfig Callback UserData}
    (admitted : kconfig.Admitted) {topicName : CString} {kind : EntityKind} {zid : List UInt8}
    {keys : DeclaredKeys} (declares : before.Declares topicName typeName kind zid keys) :
    UsesCompleteKey kconfig before.currentDomainId typeName topicName keys ↔
      KeyexprFits kconfig before.currentDomainId typeName topicName := by
  have uses := declares.usesKeys
  have stored := uses.topic
  rw [topicKeyexpr_eq_map] at stored
  obtain ⟨keyexpr, complete, cut⟩ := Option.map_eq_some_iff.mp stored
  rw [← snprintf_completeKeyexpr_iff admitted complete, cut]
  constructor
  · intro usesComplete
    exact Option.some.inj (usesComplete.complete.symm.trans complete)
  · intro same
    exact ⟨same ▸ complete, uses.data⟩

/-- What a declaration that returned a handle says about its arguments. -/
theorem ZenohTransport.Declares.possible {before : ZenohTransport kconfig Callback UserData}
    {topicName : CString} {kind : EntityKind} {zid : List UInt8} {keys : DeclaredKeys}
    (declares : before.Declares topicName typeName kind zid keys) :
    TypeKnown kconfig typeName ∧ 0 < kconfig.maxPublishers + kconfig.maxSubscribers := by
  constructor
  · rw [← before.isSome_topicKeyexpr_iff topicName typeName, declares.usesKeys.topic]
    rfl
  · cases declares with
    | @publisher _ slot _ _ =>
        have := slot.isLt
        omega
    | @subscriber _ _ _ slot _ _ =>
        have := slot.isLt
        omega

/-- A transport that is opened on a domain can declare every topic of a known type. -/
theorem exists_declares (Callback UserData : Type) (domainId : UInt32)
    (known : TypeKnown kconfig typeName)
    (pools : 0 < kconfig.maxPublishers + kconfig.maxSubscribers) :
    ∃ state, (transportLifecycle kconfig Callback UserData).Reachable state ∧
      state.transport.currentDomainId = domainId ∧
      ∀ topicName, ∃ kind zid keys, state.transport.Declares topicName typeName kind zid keys := by
  let closed : ZenohTransport kconfig Callback UserData := .zero
  let empty : CString := .ofString ""
  let opens : InitOutcome := ⟨true, true, true, true, []⟩
  let transport := (closed.init domainId empty empty none opens).2
  have isClosed : closed.isInitialized = false := rfl
  have succeeds : opens.opened = true := rfl
  obtain ⟨status, opened, -, pubsSame, subsSame⟩ :=
    init_of_opens domainId empty empty none isClosed succeeds
  have steps : (transportLifecycle kconfig Callback UserData).step ⟨closed, 0⟩
      (.init domainId empty empty none opens) ⟨transport, 1⟩ := by
    refine ⟨rfl, ?_, (by decide : 1 < 2 ^ 32)⟩
    simp [TransportOp.outstanding, status, opens]
  have onDomain := (init_session domainId empty empty none isClosed succeeds).1
  refine ⟨⟨transport, 1⟩, .step (.start rfl) steps, onDomain, fun topicName => ?_⟩
  have free : ∃ kind, transport.HasFree kind := by
    by_cases publishers : 0 < kconfig.maxPublishers
    · exact ⟨.mp, ⟨0, publishers⟩, by rw [pubsSame]; rfl⟩
    · exact ⟨.ms, ⟨0, by omega⟩, by rw [subsSame]; rfl⟩
  obtain ⟨kind, free⟩ := free
  exact ⟨kind, [], exists_declares_of_free opened free known topicName []⟩

/-- Topics are kept apart exactly when their complete key expressions fit. -/
theorem topic_keys_apart_iff (admitted : kconfig.Admitted) {first second : CString}
    (different : cleanTopic first.bytes ≠ cleanTopic second.bytes) :
    KeptApart kconfig Callback UserData domainId typeName first second ↔
      (TypeKnown kconfig typeName → 0 < kconfig.maxPublishers + kconfig.maxSubscribers →
        KeyexprFits kconfig domainId typeName first ∧
          KeyexprFits kconfig domainId typeName second) := by
  constructor
  · intro apart known pools
    obtain ⟨state, reached, onDomain, declarable⟩ :=
      exists_declares Callback UserData domainId known pools
    obtain ⟨kind, zid, keys, declares⟩ := declarable first
    obtain ⟨otherKind, otherZid, otherKeys, otherDeclares⟩ := declarable second
    obtain ⟨firstUses, secondUses, -⟩ := apart state state reached reached onDomain onDomain
      kind otherKind zid otherZid keys otherKeys declares otherDeclares
    have firstFits := declares.usesCompleteKey_iff admitted
    have secondFits := otherDeclares.usesCompleteKey_iff admitted
    rw [onDomain] at firstFits secondFits
    exact ⟨firstFits.mp firstUses, secondFits.mp secondUses⟩
  · intro fits before other _ _ onDomain otherDomain kind otherKind zid otherZid keys otherKeys
      declares otherDeclares
    obtain ⟨known, pools⟩ := declares.possible
    obtain ⟨firstFits, secondFits⟩ := fits known pools
    have firstUses := (onDomain ▸ declares.usesCompleteKey_iff admitted).mpr firstFits
    have secondUses := (otherDomain ▸ otherDeclares.usesCompleteKey_iff admitted).mpr secondFits
    refine ⟨firstUses, secondUses, fun same => different ?_⟩
    exact cleanTopic_eq_of_completeKeyexpr firstUses.complete (same ▸ secondUses.complete)

theorem topic_keys_apart_iff_imu :
    cleanTopic (CString.ofString "imu/left").bytes ≠
        cleanTopic (CString.ofString "/imu/right").bytes ∧
      KeptApart (.default .tier1) Unit Unit 7 (some (.ofString "sensor_msgs::msg::dds_::Imu_"))
        (.ofString "imu/left") (.ofString "/imu/right") := by
  have different : cleanTopic (CString.ofString "imu/left").bytes ≠
      cleanTopic (CString.ofString "/imu/right").bytes := by decide
  refine ⟨different, (topic_keys_apart_iff (Kconfig.default_admitted .tier1) different).mpr ?_⟩
  intro _ _
  constructor
  · show _ ≤ _
    decide +kernel
  · show _ ≤ _
    decide +kernel

/-- Two topics of 64 bytes share the key of their first 63. -/
theorem long_topics_share_key :
    let topic (last : Char) : CString :=
      .ofString (String.ofList (List.replicate 63 'a' ++ [last]))
    cleanTopic (topic 'x').bytes ≠ cleanTopic (topic 'y').bytes ∧
      ∃ state, (transportLifecycle (.default .tier2) Unit Unit).Reachable state ∧
        ∃ kind zid keys otherKind otherZid otherKeys,
          state.transport.Declares (topic 'x') none kind zid keys ∧
            state.transport.Declares (topic 'y') none otherKind otherZid otherKeys ∧
            keys.topicKeyexpr = otherKeys.topicKeyexpr := by
  intro topic
  have known : TypeKnown (.default .tier2) none := by
    intro tier
    cases tier
  obtain ⟨state, reached, -, declarable⟩ :=
    exists_declares Unit Unit 0 known (by decide : 0 < 10 + 10)
  obtain ⟨kind, zid, keys, declares⟩ := declarable (topic 'x')
  obtain ⟨otherKind, otherZid, otherKeys, otherDeclares⟩ := declarable (topic 'y')
  refine ⟨by decide +kernel, state, reached, kind, zid, keys, otherKind, otherZid, otherKeys,
    declares, otherDeclares, ?_⟩
  have cut : snprintf 64 (cleanTopic (topic 'x').bytes) =
      snprintf 64 (cleanTopic (topic 'y').bytes) := by decide +kernel
  have stored := declares.usesKeys.topic
  have otherStored := otherDeclares.usesKeys.topic
  rw [topicKeyexpr_eq_map] at stored otherStored
  exact Option.some.inj (stored.symm.trans ((congrArg some cut).trans otherStored))

end Zenbedded
