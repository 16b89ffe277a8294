import Zenbedded.TopicKeys

/-!
# Liveliness tokens

A publisher's or subscriber's token is a row of segments between slashes.  None of the
texts put into it contains a slash, so the segments read back what was declared.
-/

namespace Zenbedded

open ZenohTransport

/-! ## Reading a token -/

/-- What a publisher's or subscriber's token says. -/
structure LvEntity where
  domainId : UInt32
  zid : List UInt8
  kind : EntityKind
  nodeName : List UInt8
  topic : List UInt8
  typeName : List UInt8
  typeHash : List UInt8
  deriving DecidableEq

/-- The data key expression that spells what a token says. -/
def LvEntity.keyexpr (entity : LvEntity) : List UInt8 :=
  decimalText entity.domainId ++ [slash] ++ cleanTopic entity.topic ++ [slash] ++
    entity.typeName ++ [slash] ++ entity.typeHash

def unmangleTopic (segment : List UInt8) : List UInt8 :=
  segment.map fun byte => if byte = percent then slash else byte

def decodeKind (segment : List UInt8) : Option EntityKind :=
  if segment = EntityKind.mp.text then some .mp
  else if segment = EntityKind.ms.text then some .ms
  else none

def decodeEntityLv (token : List UInt8) : Option LvEntity :=
  match token.splitOn slash with
  | [_, domainId, zid, _, _, kind, _, _, nodeName, topic, typeName, typeHash, _] => do
      let kind ← decodeKind kind
      some {
        domainId := UInt32.ofNat (decimalValue domainId)
        zid := hexValue zid
        kind
        nodeName
        topic := unmangleTopic topic
        typeName
        typeHash }
  | _ => none

def entityLvSegments (kind : EntityKind) (domainId : UInt32)
    (zid nodeName mangledTopic : List UInt8) (typeName typeHash : CString) : List (List UInt8) :=
  [ascii "@ros2_lv", decimalText domainId, hexText zid, ascii "0", ascii "10", kind.text,
    [percent], [percent], nodeName, percent :: mangledTopic, typeName.bytes, typeHash.bytes,
    ascii "::,7:,:,:,,"]

variable {kind : EntityKind} {domainId : UInt32} {zid nodeName clean : List UInt8}
  {typeName typeHash : CString}

theorem intercalate_entityLvSegments (mangledTopic : List UInt8) :
    [slash].intercalate
        (entityLvSegments kind domainId zid nodeName mangledTopic typeName typeHash) =
      entityLvText kind domainId zid nodeName mangledTopic typeName typeHash := by
  have front : ascii "@ros2_lv/" = ascii "@ros2_lv" ++ [slash] := rfl
  have middle : ascii "/0/10/" = slash :: (ascii "0" ++ slash :: (ascii "10" ++ [slash])) := rfl
  have names : ascii "/%/%/" = [slash, percent, slash, percent, slash] := rfl
  have topic : ascii "/%" = [slash, percent] := rfl
  have back : ascii "/::,7:,:,:,," = slash :: ascii "::,7:,:,:,," := rfl
  simp [entityLvText, entityLvSegments, front, middle, names, topic, back]

/-- Slashes only stand between the segments. -/
theorem slash_notMem_entityLvSegments {mangledTopic : List UInt8} (nodeSlash : slash ∉ nodeName)
    (topicSlash : slash ∉ mangledTopic) (typeSlash : slash ∉ typeName.bytes)
    (hashSlash : slash ∉ typeHash.bytes) :
    ∀ segment ∈ entityLvSegments kind domainId zid nodeName mangledTopic typeName typeHash,
      slash ∉ segment := by
  have kindSlash : slash ∉ kind.text := by cases kind <;> decide
  have percentSlash : slash ≠ percent := by decide
  intro segment member
  simp only [entityLvSegments, List.mem_cons, List.not_mem_nil, or_false] at member
  rcases member with rfl | rfl | rfl | rfl | rfl | rfl | rfl | rfl | rfl | rfl | rfl | rfl | rfl
  · decide
  · exact slash_notMem_decimalText domainId
  · exact slash_notMem_hexText zid
  · decide
  · decide
  · exact kindSlash
  · decide
  · decide
  · exact nodeSlash
  · simp [percentSlash, topicSlash]
  · exact typeSlash
  · exact hashSlash
  · decide

theorem slash_notMem_mangleTopic (dstLen : Nat) (src : List UInt8) :
    slash ∉ mangleTopic dstLen src := by
  intro member
  obtain ⟨byte, -, isSlash⟩ := List.mem_map.mp member
  split at isSlash
  case isTrue => exact absurd isSlash (by decide)
  case isFalse notSlash => exact notSlash isSlash

/-- A topic that fits and starts with no slash is mangled byte by byte. -/
theorem mangleTopic_eq_map {dstLen : Nat} (short : clean.length < dstLen)
    (noLeadingSlash : clean.head? ≠ some slash) :
    mangleTopic dstLen clean =
      clean.map fun byte => if byte = slash then percent else byte := by
  have same : cleanTopic clean = clean := by
    cases clean with
    | nil => rfl
    | cons byte rest =>
        have notSlash : byte ≠ slash := by simpa using noLeadingSlash
        rw [cleanTopic, if_neg notSlash]
  rw [mangleTopic, same, List.take_of_length_le (by omega)]

theorem unmangleTopic_mangleTopic {dstLen : Nat} (short : clean.length < dstLen)
    (noLeadingSlash : clean.head? ≠ some slash) (noPercent : percent ∉ clean) :
    unmangleTopic (percent :: mangleTopic dstLen clean) = slash :: clean := by
  rw [mangleTopic_eq_map short noLeadingSlash, unmangleTopic, List.map_cons, if_pos rfl,
    List.map_map]
  congr 1
  have pointwise : ∀ byte ∈ clean,
      ((fun byte => if byte = percent then slash else byte) ∘
        fun byte => if byte = slash then percent else byte) byte = byte := by
    intro byte member
    have notPercent : byte ≠ percent := fun equal => noPercent (equal ▸ member)
    by_cases isSlash : byte = slash
    · simp [isSlash]
    · simp [isSlash, notPercent]
  rw [List.map_congr_left pointwise, List.map_id']

theorem splitOn_entityLvText {mangledTopic : List UInt8} (nodeSlash : slash ∉ nodeName)
    (topicSlash : slash ∉ mangledTopic) (typeSlash : slash ∉ typeName.bytes)
    (hashSlash : slash ∉ typeHash.bytes) :
    (entityLvText kind domainId zid nodeName mangledTopic typeName typeHash).splitOn slash =
      entityLvSegments kind domainId zid nodeName mangledTopic typeName typeHash := by
  rw [← intercalate_entityLvSegments, List.splitOn_intercalate]
  · exact slash_notMem_entityLvSegments nodeSlash topicSlash typeSlash hashSlash
  · simp [entityLvSegments]

@[simp]
theorem decodeKind_text (kind : EntityKind) : decodeKind kind.text = some kind := by
  cases kind <;> rfl

/-- A token reads back as the declaration it was composed for. -/
theorem decodeEntityLv_entityLvText {dstLen : Nat} (short : clean.length < dstLen)
    (noLeadingSlash : clean.head? ≠ some slash) (noPercent : percent ∉ clean)
    (nodeSlash : slash ∉ nodeName) (typeSlash : slash ∉ typeName.bytes)
    (hashSlash : slash ∉ typeHash.bytes) :
    decodeEntityLv (entityLvText kind domainId zid nodeName (mangleTopic dstLen clean) typeName
        typeHash) =
      some { domainId, zid, kind, nodeName, topic := slash :: clean, typeName := typeName.bytes,
             typeHash := typeHash.bytes } := by
  rw [decodeEntityLv, splitOn_entityLvText nodeSlash (slash_notMem_mangleTopic dstLen clean)
    typeSlash hashSlash]
  simp [entityLvSegments, decimalValue_decimalText, hexValue_hexText,
    unmangleTopic_mangleTopic short noLeadingSlash noPercent]

/-! ## The names of a session -/

section Session

variable {kconfig : Kconfig} {Callback UserData : Type}

namespace ZenohTransport

/-- What the transport keeps of the init that opened its session. -/
def sessionNames (transport : ZenohTransport kconfig Callback UserData) :
    UInt32 × List UInt8 × List UInt8 :=
  (transport.currentDomainId, transport.currentNodeName, transport.nodeLvStr)

variable {transport : ZenohTransport kconfig Callback UserData}

@[simp]
theorem sessionNames_call
    (zenohCall : ZenohCall kconfig.maxPublishers kconfig.maxSubscribers) :
    (transport.call zenohCall).sessionNames = transport.sessionNames := rfl

@[simp]
theorem sessionNames_setPub (slot : Fin kconfig.maxPublishers) (pub : ZenbeddedPub) :
    (transport.setPub slot pub).sessionNames = transport.sessionNames := rfl

@[simp]
theorem sessionNames_setSub (slot : Fin kconfig.maxSubscribers)
    (sub : ZenbeddedSub Callback UserData) :
    (transport.setSub slot sub).sessionNames = transport.sessionNames := rfl

@[simp]
theorem sessionNames_undeclareLvToken (token : Option Nat) :
    (transport.undeclareLvToken token).sessionNames = transport.sessionNames := by
  unfold undeclareLvToken
  cases kconfig.tier <;> rfl

theorem sessionNames_undeclarePublisher (pub : Option (Fin kconfig.maxPublishers)) :
    (transport.undeclarePublisher pub).2.sessionNames = transport.sessionNames := by
  unfold undeclarePublisher
  cases pub with
  | none => rfl
  | some slot => dsimp only; split <;> simp

theorem sessionNames_undeclareSubscriber (sub : Option (Fin kconfig.maxSubscribers)) :
    (transport.undeclareSubscriber sub).2.sessionNames = transport.sessionNames := by
  unfold undeclareSubscriber
  cases sub with
  | none => rfl
  | some slot => dsimp only; split <;> simp

theorem sessionNames_releasePubs (slots : List (Fin kconfig.maxPublishers)) :
    (slots.foldl releasePub transport).sessionNames = transport.sessionNames := by
  induction slots generalizing transport with
  | nil => rfl
  | cons slot slots ih =>
      rw [List.foldl_cons, ih, releasePub]
      split
      · exact sessionNames_undeclarePublisher (some slot)
      · rfl

theorem sessionNames_releaseSubs (slots : List (Fin kconfig.maxSubscribers)) :
    (slots.foldl releaseSub transport).sessionNames = transport.sessionNames := by
  induction slots generalizing transport with
  | nil => rfl
  | cons slot slots ih =>
      rw [List.foldl_cons, ih, releaseSub]
      split
      · exact sessionNames_undeclareSubscriber (some slot)
      · rfl

theorem sessionNames_closeSession :
    transport.closeSession.sessionNames = transport.sessionNames :=
  sessionNames_undeclareLvToken transport.nodeLvToken

theorem sessionNames_destroy : transport.destroy.sessionNames = transport.sessionNames := by
  unfold destroy
  split
  case isTrue => rfl
  case isFalse =>
    dsimp only
    split
    case isTrue => rfl
    case isFalse =>
      rw [sessionNames_closeSession, sessionNames_releaseSubs, sessionNames_releasePubs]
      rfl

theorem sessionNames_declarePublisher (topicName : CString) (typeName : Option CString)
    (outcome : DeclareOutcome) :
    (transport.declarePublisher topicName typeName outcome).2.sessionNames =
      transport.sessionNames := by
  unfold declarePublisher
  split
  case isTrue => rfl
  case isFalse =>
    split
    case h_1 => rfl
    case h_2 slot found =>
      unfold declarePublisherAt
      cases transport.topicKeyexpr topicName typeName with
      | none => rfl
      | some keyexpr =>
          cases outcome.declared with
          | false => rfl
          | true => cases kconfig.tier <;> rfl

theorem sessionNames_declareSubscriber (topicName : CString) (typeName : Option CString)
    (callback : Option Callback) (userData : Option UserData) (outcome : DeclareOutcome) :
    (transport.declareSubscriber topicName typeName callback userData outcome).2.sessionNames =
      transport.sessionNames := by
  unfold declareSubscriber
  split
  case isTrue => rfl
  case isFalse =>
    split
    case h_1 => rfl
    case h_2 slot found =>
      unfold declareSubscriberAt
      cases transport.topicKeyexpr topicName typeName with
      | none => rfl
      | some keyexpr =>
          cases outcome.declared with
          | false => rfl
          | true => cases kconfig.tier <;> rfl

/-- No operation on an open session changes its names. -/
theorem sessionNames_apply (op : TransportOp kconfig Callback UserData)
    (opened : transport.isInitialized = true) :
    (op.apply transport).sessionNames = transport.sessionNames := by
  cases op with
  | init domainId nodeName mode locator outcome =>
      rw [TransportOp.apply, init_of_open _ _ _ _ opened]
      rfl
  | destroy => exact sessionNames_destroy
  | declarePublisher topicName typeName outcome =>
      exact sessionNames_declarePublisher topicName typeName outcome
  | declareSubscriber topicName typeName callback userData outcome =>
      exact sessionNames_declareSubscriber topicName typeName callback userData outcome
  | undeclarePublisher pub => exact sessionNames_undeclarePublisher pub
  | undeclareSubscriber sub => exact sessionNames_undeclareSubscriber sub

end ZenohTransport

def openSessionLifecycle (kconfig : Kconfig) (Callback UserData : Type) :
    StepSystem (LifecycleState kconfig Callback UserData)
      (TransportOp kconfig Callback UserData) :=
  (transportLifecycle kconfig Callback UserData).restrict
    fun state _ => state.transport.isInitialized = true

theorem sessionNames_run {first last : LifecycleState kconfig Callback UserData}
    {ops : List (TransportOp kconfig Callback UserData)}
    (run : (openSessionLifecycle kconfig Callback UserData).Run first ops last) :
    last.transport.sessionNames = first.transport.sessionNames := by
  induction run with
  | nil => rfl
  | cons steps _ ih =>
      obtain ⟨opened, transportEq, -⟩ := steps
      rw [ih, transportEq, sessionNames_apply _ opened]

/-- The tokens and keys of a declaration are complete and agree with each other. -/
structure ReadsBack (domainId : UInt32) (nodeName topicName typeName typeHash : CString)
    (zid : List UInt8) (kind : EntityKind) (keys : DeclaredKeys) : Prop where
  topic : keys.topicKeyexpr = topicText domainId (cleanTopic topicName.bytes) typeName typeHash
  data : keys.dataKeys = [keys.topicKeyexpr]
  token : keys.lvKeyexpr = entityLvText kind domainId zid nodeName.bytes
    ((cleanTopic topicName.bytes).map fun byte => if byte = slash then percent else byte)
    typeName typeHash
  liveliness : keys.tokenKeys = [keys.lvKeyexpr]
  segments : (keys.lvKeyexpr.splitOn slash).length = 13
  decodes : ∃ entity, decodeEntityLv keys.lvKeyexpr = some entity ∧
    entity = ⟨domainId, zid, kind, nodeName.bytes, slash :: cleanTopic topicName.bytes,
      typeName.bytes, typeHash.bytes⟩ ∧
    entity.keyexpr = keys.topicKeyexpr

/-- A declaration under known names reads back as it was made. -/
theorem ZenohTransport.Declares.readsBack {transport : ZenohTransport kconfig Callback UserData}
    {nodeName topicName typeName typeHash : CString} {zid : List UInt8} {kind : EntityKind}
    {keys : DeclaredKeys} (tier1 : kconfig.tier = .tier1)
    (named : transport.currentNodeName = nodeName.bytes)
    (nodeSlash : slash ∉ nodeName.bytes) (nodeShort : nodeName.strlen < kconfig.maxNodeNameLen)
    (oneLeadingSlash : (cleanTopic topicName.bytes).head? ≠ some slash)
    (noPercent : percent ∉ topicName.bytes)
    (topicShort : (cleanTopic topicName.bytes).length < kconfig.maxTopicNameLen)
    (inLedger : getRihsHash (some typeName) = some typeHash)
    (typeShort : typeName.strlen < kconfig.maxTypeNameLen) (zidLength : zid.length = 16)
    (declares : transport.Declares topicName (some typeName) kind zid keys) :
    ReadsBack transport.currentDomainId nodeName topicName typeName typeHash zid kind keys := by
  have digits := length_decimalText_le transport.currentDomainId
  obtain ⟨hashLength, typeSlash, hashSlash⟩ := getRihsHash_texts inLedger
  rw [CString.strlen] at nodeShort typeShort
  have noPercentClean : percent ∉ cleanTopic topicName.bytes := by
    intro member
    refine noPercent ?_
    cases bytesEq : topicName.bytes with
    | nil => simp [bytesEq, cleanTopic] at member
    | cons byte rest =>
        rw [bytesEq, cleanTopic] at member
        split at member
        · exact List.mem_cons_of_mem byte member
        · exact member
  obtain ⟨stored, data, liveliness⟩ := declares.usesKeys
  obtain ⟨token, tokens⟩ := liveliness tier1
  -- neither buffer cuts its text off
  have topicFits : (topicText transport.currentDomainId (cleanTopic topicName.bytes) typeName
      typeHash).length < topicKeyexprMaxLen kconfig := by
    simp only [length_topicText, topicKeyexprMaxLen, tier1, hashLength]
    omega
  have topic : keys.topicKeyexpr =
      topicText transport.currentDomainId (cleanTopic topicName.bytes) typeName typeHash := by
    have complete : completeKeyexpr kconfig transport.currentDomainId topicName
        (some typeName) = some _ :=
      (completeKeyexpr_tier1 tier1).mpr ⟨typeName, typeHash, rfl, inLedger, rfl⟩
    rw [topicKeyexpr_eq_map, complete, Option.map_some, snprintf_of_lt topicFits] at stored
    exact (Option.some.inj stored).symm
  have mangled := mangleTopic_eq_map topicShort oneLeadingSlash
  have tokenFits : (entityLvText kind transport.currentDomainId zid nodeName.bytes
      (mangleTopic kconfig.maxTopicNameLen (cleanTopic topicName.bytes)) typeName
      typeHash).length < lvKeyexprMaxLen kconfig := by
    rw [length_entityLvText, mangled, List.length_map, lvKeyexprMaxLen, hashLength, zidLength]
    omega
  have tokenComplete : keys.lvKeyexpr = entityLvText kind transport.currentDomainId zid
      nodeName.bytes (mangleTopic kconfig.maxTopicNameLen (cleanTopic topicName.bytes)) typeName
      typeHash := by
    rw [token, lvKeyexpr, named]
    simp only [Option.bind_eq_bind, Option.bind_some, inLedger, Option.getD_some]
    exact snprintf_of_lt tokenFits
  exact {
    topic
    data
    token := mangled ▸ tokenComplete
    liveliness := tokens
    segments := by
      rw [tokenComplete, splitOn_entityLvText nodeSlash (slash_notMem_mangleTopic _ _) typeSlash
        hashSlash]
      rfl
    decodes := by
      refine ⟨_, ?_, rfl, topic.symm⟩
      rw [tokenComplete]
      exact decodeEntityLv_entityLvText topicShort oneLeadingSlash noPercentClean nodeSlash
        typeSlash hashSlash }

/-- A declaration that has a free slot is made, and its token reads back. -/
theorem ZenohTransport.exists_readsBack {transport : ZenohTransport kconfig Callback UserData}
    {nodeName topicName typeName typeHash : CString} {zid : List UInt8} {kind : EntityKind}
    (tier1 : kconfig.tier = .tier1) (opened : transport.isInitialized = true)
    (free : transport.HasFree kind) (named : transport.currentNodeName = nodeName.bytes)
    (nodeSlash : slash ∉ nodeName.bytes) (nodeShort : nodeName.strlen < kconfig.maxNodeNameLen)
    (oneLeadingSlash : (cleanTopic topicName.bytes).head? ≠ some slash)
    (noPercent : percent ∉ topicName.bytes)
    (topicShort : (cleanTopic topicName.bytes).length < kconfig.maxTopicNameLen)
    (inLedger : getRihsHash (some typeName) = some typeHash)
    (typeShort : typeName.strlen < kconfig.maxTypeNameLen) (zidLength : zid.length = 16) :
    ∃ keys, transport.Declares topicName (some typeName) kind zid keys ∧
      ReadsBack transport.currentDomainId nodeName topicName typeName typeHash zid kind keys := by
  have known : TypeKnown kconfig (some typeName) := fun _ => by rw [inLedger]; rfl
  obtain ⟨keys, declares⟩ := exists_declares_of_free opened free known topicName zid
  exact ⟨keys, declares, declares.readsBack tier1 named nodeSlash nodeShort oneLeadingSlash
    noPercent topicShort inLedger typeShort zidLength⟩

/-- In a session, every declaration's token reads back as the declaration. -/
theorem liveliness_tokens_read_back (tier1 : kconfig.tier = .tier1)
    {closed opened later : LifecycleState kconfig Callback UserData} {domainId : UInt32}
    {nodeName mode : CString} {locator : Option CString} {outcome : InitOutcome}
    {ops : List (TransportOp kconfig Callback UserData)}
    {topicName typeName typeHash : CString} {zid : List UInt8} {kind : EntityKind}
    {keys : DeclaredKeys}
    (isClosed : closed.transport.isInitialized = false) (opens : outcome.opened = true)
    (opening : (transportLifecycle kconfig Callback UserData).step closed
      (.init domainId nodeName mode locator outcome) opened)
    (run : (openSessionLifecycle kconfig Callback UserData).Run opened ops later)
    (nodeSlash : slash ∉ nodeName.bytes) (nodeShort : nodeName.strlen < kconfig.maxNodeNameLen)
    (oneLeadingSlash : (cleanTopic topicName.bytes).head? ≠ some slash)
    (noPercent : percent ∉ topicName.bytes)
    (topicShort : (cleanTopic topicName.bytes).length < kconfig.maxTopicNameLen)
    (inLedger : getRihsHash (some typeName) = some typeHash)
    (typeShort : typeName.strlen < kconfig.maxTypeNameLen)
    (sessionZid : outcome.zid.length = 16) (zidLength : zid.length = 16)
    (declares : later.transport.Declares topicName (some typeName) kind zid keys) :
    opened.transport.nodeLvStr = nodeLvText domainId outcome.zid nodeName.bytes ∧
      (opened.transport.log.drop closed.transport.log.length).filterMap ZenohCall.tokenKey =
        [opened.transport.nodeLvStr] ∧
      ReadsBack domainId nodeName topicName typeName typeHash zid kind keys := by
  have digits := length_decimalText_le domainId
  have nodeLength := nodeShort
  rw [CString.strlen] at nodeLength
  -- the session keeps the names of its init
  obtain ⟨openedEq, -⟩ := opening
  have session := init_session domainId nodeName mode locator isClosed opens
  have calls := log_init_of_opens domainId nodeName mode locator isClosed opens
  rw [TransportOp.apply] at openedEq
  dsimp only at session calls
  rw [← openedEq, List.take_of_length_le (by omega)] at session
  rw [← openedEq] at calls
  simp only [tier1] at calls
  obtain ⟨onDomain, named, nodeToken⟩ := session
  have nodeFits : (nodeLvText domainId outcome.zid nodeName.bytes).length <
      nodeLvKeyexprMaxLen kconfig := by
    rw [length_nodeLvText, nodeLvKeyexprMaxLen]
    omega
  have nodeComplete := nodeToken tier1
  rw [named, snprintf_of_lt nodeFits] at nodeComplete
  have names := sessionNames_run run
  simp only [sessionNames, Prod.mk.injEq] at names
  obtain ⟨sameDomain, sameNode, -⟩ := names
  refine ⟨nodeComplete, ?_, ?_⟩
  · rw [calls.1]
    simp [List.filterMap_cons, ZenohCall.tokenKey]
  · rw [← sameDomain.trans onDomain]
    exact declares.readsBack tier1 (sameNode.trans named) nodeSlash nodeShort oneLeadingSlash
      noPercent topicShort inLedger typeShort zidLength

/-- The tokens of an IMU publisher on `/leg/imu` and of a subscriber to it in the same session. -/
theorem liveliness_tokens_read_back_imu :
    ∃ typeHash published subscribed,
      ReadsBack 7 (.ofString "leg") (.ofString "/leg/imu")
        (.ofString "sensor_msgs::msg::dds_::Imu_") typeHash (List.replicate 16 0xab) .mp
        published ∧
      ReadsBack 7 (.ofString "leg") (.ofString "/leg/imu")
        (.ofString "sensor_msgs::msg::dds_::Imu_") typeHash (List.replicate 16 0xab) .ms
        subscribed := by
  let closed : LifecycleState (.default .tier1) Unit Unit := ⟨.zero, 0⟩
  let type : Option CString := some (.ofString "sensor_msgs::msg::dds_::Imu_")
  let outcome : InitOutcome := ⟨true, true, true, true, List.replicate 16 0xab⟩
  let opened : LifecycleState (.default .tier1) Unit Unit :=
    ⟨(closed.transport.init 7 (.ofString "leg") (.ofString "client") none outcome).2, 1⟩
  have one : 1 < 2 ^ 32 := by decide
  have opening : (transportLifecycle (.default .tier1) Unit Unit).step closed
      (.init 7 (.ofString "leg") (.ofString "client") none outcome) opened := ⟨rfl, rfl, one⟩
  let declared : DeclareOutcome := ⟨true, true, List.replicate 16 0xab, []⟩
  let later : LifecycleState (.default .tier1) Unit Unit :=
    ⟨(opened.transport.declarePublisher (.ofString "/leg/imu") type declared).2, 1⟩
  have declaring : (openSessionLifecycle (.default .tier1) Unit Unit).step opened
      (.declarePublisher (.ofString "/leg/imu") type declared) later := ⟨rfl, rfl, rfl, one⟩
  have publishes : (opened.transport.declarePublisher (.ofString "/leg/imu") type declared).1 =
      some ⟨0, by decide⟩ := by decide +kernel
  have subscribes : (later.transport.declareSubscriber (.ofString "/leg/imu") type (some ()) none
      declared).1 = some ⟨0, by decide⟩ := by decide +kernel
  have inLedger : getRihsHash type = some (.ofString
      "RIHS01_7d9a00ff131080897a5ec7e26e315954b8eae3353c3f995c55faf71574000b5b") := by
    decide +kernel
  exact ⟨_, _, _, (liveliness_tokens_read_back rfl rfl rfl opening (.nil opened) (by decide)
    (by decide) (by decide) (by decide) (by decide) inLedger (by decide) rfl rfl
    (.publisher (Prod.ext publishes rfl))).2.2, (liveliness_tokens_read_back rfl rfl rfl opening
    (.single declaring) (by decide) (by decide) (by decide) (by decide) (by decide) inLedger
    (by decide) rfl rfl (.subscriber (Prod.ext subscribes rfl))).2.2⟩

end Session

end Zenbedded
