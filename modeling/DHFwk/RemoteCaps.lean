import DHFwk.CacheChange

/-!
# The capabilities that a peer sends

`DHCommTool` asks a peer for its capabilities and gets them back as one document, a
`FullCapsRsp` inside a `CommMsg`. `IsSaveRemoteDHCaps` compares the device part of every key
in the answer with the id of the peer at the other end of the socket, and saves all of the
records or none.

What passes has the peer's id in front of its first separator, whatever the ids are made of,
so a peer writes under keys of its own only : no entry of another device changes, in the
caches and in the stores, and an answer with one foreign record saves nothing
(`remoteCaps_own`).
-/

set_option linter.unusedSectionVars false

namespace DHFwk

open Json

abbrev ERR_DH_FWK_RESOURCE_RES_DB_DATA_INVALID : Int := -10415
abbrev ERR_DH_FWK_RESOURCE_DB_ADAPTER_POINTER_NULL : Int := -10400
abbrev ERR_DH_FWK_RESOURCE_DB_ADAPTER_OPERATION_FAIL : Int := -10402

abbrev MAX_WRITE_DB_DATA_SIZE : ℕ := 100

abbrev CAPS_RSP_NETWORKID_KEY : String := "networkId"
abbrev CAPS_RSP_CAPS_KEY : String := "caps"
abbrev COMM_MSG_CODE_KEY : String := "code"
abbrev COMM_MSG_MSG_KEY : String := "msg"
abbrev COMM_MSG_USERID_KEY : String := "userId"
abbrev COMM_MSG_TOKENID_KEY : String := "tokenId"
abbrev COMM_MSG_ACCOUNTID_KEY : String := "accountId"
abbrev COMM_MSG_SYNC_META_KEY : String := "sync_meta"

abbrev DH_COMM_REQ_FULL_CAPS : Int := 1
abbrev DH_COMM_RSP_FULL_CAPS : Int := 2

/-! ## Messages -/

/-- `FullCapsRsp`. Its pointers are made by `FromJson`, or taken from a cache, and not null. -/
structure FullCapsRsp where
  networkId : String := ""
  caps : List CapabilityInfo := []
  metaCaps : List MetaCapabilityInfo := []
  deriving DecidableEq, Repr

namespace FullCapsRsp

/-- `ToJson`. -/
def toJson (capsRsp : FullCapsRsp) (isSyncMeta : Bool) : Json :=
  .object
    [(CAPS_RSP_NETWORKID_KEY, .string (cStr capsRsp.networkId)),
      (CAPS_RSP_CAPS_KEY, .array
        (if isSyncMeta then capsRsp.metaCaps.map MetaCapabilityInfo.toJson
        else capsRsp.caps.map CapabilityInfo.toJson))]

/-- The items of an array. -/
def items : Json → List Json
  | .array items => items
  | _ => []

/-- `FromJson`. -/
def fromJson (jsonObject : Json) (capsRsp : FullCapsRsp) (isSyncMeta : Bool) : FullCapsRsp :=
  match (jsonObject.getObjectItem CAPS_RSP_NETWORKID_KEY).filter isString with
  | none => capsRsp
  | some capsRspJson =>
    let capsRsp := { capsRsp with networkId := capsRspJson.valuestring }
    match (jsonObject.getObjectItem CAPS_RSP_CAPS_KEY).filter isArray with
    | none => capsRsp
    | some capsRspKeyJson =>
      if isSyncMeta then
        { capsRsp with
          metaCaps := capsRsp.metaCaps ++
            (items capsRspKeyJson).map fun cap => MetaCapabilityInfo.fromJson cap {} }
      else
        { capsRsp with
          caps := capsRsp.caps ++
            (items capsRspKeyJson).map fun cap => CapabilityInfo.fromJson cap {} }

/-- The keys of the records that an answer of either kind carries. -/
def keys (capsRsp : FullCapsRsp) (isSyncMeta : Bool) : List String :=
  if isSyncMeta then capsRsp.metaCaps.map MetaCapabilityInfo.getKey
  else capsRsp.caps.map CapabilityInfo.getKey

end FullCapsRsp

/-- `CommMsg`. -/
structure CommMsg where
  code : Int := -1
  userId : Int := -1
  tokenId : ℕ := 0
  msg : String := ""
  accountId : String := ""
  isSyncMeta : Bool := false
  realNetworkId : String := ""
  deriving DecidableEq, Repr

/-! ## Where records are saved -/

/-- An entry of `DHContext` with the ids that are compared. -/
structure PeerEntry where
  networkId : String
  uuid : String
  deviceId : String
  udidHash : String
  deriving DecidableEq, Repr

/-- The cache of a manager and its store; `dbAdapterPtr_` may be null. -/
structure InfoStore (T : Type) where
  globalInfoMap_ : Table String T := ∅
  dbAdapterPtr_ : Bool := true
  kvStore : Table String String := ∅

/-- `MetaInfoManager` and `LocalCapabilityInfoManager`. -/
structure RemoteInfos where
  metaInfos : InfoStore MetaCapabilityInfo := {}
  capInfos : InfoStore CapabilityInfo := {}

/-- What receiving an answer depends on : cJSON, the online devices, whether the store takes a
batch, and which networkIds are waited for. -/
structure PeerContext where
  cJSON : Codec
  devIdEntrySet_ : List PeerEntry
  putBatch : Bool
  isRequestSyncData : String → Bool

namespace PeerContext

variable (ctx : PeerContext)

/-- `GetUUIDByNetworkId`. -/
def getUUIDByNetworkId (networkId : String) : String :=
  if ¬isIdLengthValid networkId then ""
  else (ctx.devIdEntrySet_.find? (·.networkId = networkId)).elim "" PeerEntry.uuid

/-- `GetUdidHashIdByUUID`. -/
def getUdidHashIdByUUID (uuid : String) : String :=
  if ¬isIdLengthValid uuid then ""
  else (ctx.devIdEntrySet_.find? (·.uuid = uuid)).elim "" PeerEntry.udidHash

/-- `GetDeviceIdByNetworkId`. -/
def getDeviceIdByNetworkId (networkId : String) : String :=
  if ¬isIdLengthValid networkId then ""
  else (ctx.devIdEntrySet_.find? (·.networkId = networkId)).elim "" PeerEntry.deviceId

/-- The id that the records of a peer have in their keys. -/
def peerId (isSyncMeta : Bool) (realNetworkId : String) : String :=
  if isSyncMeta then ctx.getUdidHashIdByUUID (ctx.getUUIDByNetworkId realNetworkId)
  else ctx.getDeviceIdByNetworkId realNetworkId

end PeerContext

/-- Put records in the cache, and those that are not `skipped` in the store. -/
def addRecords {T : Type} (getKey toJsonString : T → String) (skipped : T → Bool)
    (putBatch : Bool) (infos : List T) (s : InfoStore T) : Int × InfoStore T :=
  if infos = [] ∨ infos.length > MAX_WRITE_DB_DATA_SIZE then
    (ERR_DH_FWK_RESOURCE_RES_DB_DATA_INVALID, s)
  else if ¬s.dbAdapterPtr_ then (ERR_DH_FWK_RESOURCE_DB_ADAPTER_POINTER_NULL, s)
  else
    let map := infos.foldl (fun t info => t.set (getKey info) info) s.globalInfoMap_
    let puts := infos.filter fun info => !skipped info
    if puts = [] then (DH_FWK_SUCCESS, { s with globalInfoMap_ := map })
    else if ¬putBatch then
      (ERR_DH_FWK_RESOURCE_DB_ADAPTER_OPERATION_FAIL, { s with globalInfoMap_ := map })
    else
      (DH_FWK_SUCCESS,
        { s with
          globalInfoMap_ := map
          kvStore := puts.foldl (fun t info => t.set (getKey info) (toJsonString info)) s.kvStore })

/-- `MetaInfoManager::AddMetaCapInfos` : a text that is in the store is not written again. -/
def addMetaCapInfos (ctx : PeerContext) (metaCapInfos : List MetaCapabilityInfo)
    (s : InfoStore MetaCapabilityInfo) : Int × InfoStore MetaCapabilityInfo :=
  let isStored (metaCapInfo : MetaCapabilityInfo) : Bool :=
    isIdLengthValid metaCapInfo.getKey ∧
      s.kvStore.lookup metaCapInfo.getKey = some (metaCapInfo.toJsonString ctx.cJSON)
  addRecords MetaCapabilityInfo.getKey (MetaCapabilityInfo.toJsonString ctx.cJSON) isStored
    ctx.putBatch metaCapInfos s

/-- `LocalCapabilityInfoManager::AddCapability`. -/
def addCapability (ctx : PeerContext) (resInfos : List CapabilityInfo)
    (s : InfoStore CapabilityInfo) : Int × InfoStore CapabilityInfo :=
  addRecords CapabilityInfo.getKey (CapabilityInfo.toJsonString ctx.cJSON) (fun _ => false)
    ctx.putBatch resInfos s

/-! ## Receiving an answer -/

/-- `IsSaveRemoteDHCaps`. What the managers return is not looked at. -/
def isSaveRemoteDHCaps (ctx : PeerContext) (capsRsp : FullCapsRsp) (isSyncMeta : Bool)
    (realNetworkId : String) (s : RemoteInfos) : Bool × RemoteInfos :=
  if isSyncMeta then
    let remoteUuid := ctx.getUUIDByNetworkId realNetworkId
    let remoteUdidHash := ctx.getUdidHashIdByUUID remoteUuid
    if remoteUdidHash = "" then (false, s)
    else if capsRsp.metaCaps.any fun metaCap => remoteUdidHash ≠ splitString metaCap.getKey then
      (false, s)
    else (true, { s with metaInfos := (addMetaCapInfos ctx capsRsp.metaCaps s.metaInfos).2 })
  else
    let remoteDeviceId := ctx.getDeviceIdByNetworkId realNetworkId
    if remoteDeviceId = "" then (false, s)
    else if capsRsp.caps.any fun capInfo => remoteDeviceId ≠ splitString capInfo.getKey then
      (false, s)
    else (true, { s with capInfos := (addCapability ctx capsRsp.caps s.capInfos).2 })

/-- `ParseAndSaveRemoteDHCaps`. -/
def parseAndSaveRemoteDHCaps (ctx : PeerContext) (remoteCaps : String) (isSyncMeta : Bool)
    (realNetworkId : String) (s : RemoteInfos) : FullCapsRsp × RemoteInfos :=
  match ctx.cJSON.parse remoteCaps with
  | none => ({}, s)
  | some root =>
    let capsRsp := FullCapsRsp.fromJson root {} isSyncMeta
    if ¬ctx.isRequestSyncData realNetworkId then ({}, s)
    else
      let (isSaved, s) := isSaveRemoteDHCaps ctx capsRsp isSyncMeta realNetworkId s
      if ¬isSaved then ({}, s) else (capsRsp, s)

/-- The descriptor of a record. -/
structure RemoteDescriptor where
  id : String
  dhType : UInt32
  deriving DecidableEq, Repr

/-- The records of this device and what is done on an answer besides saving : the sockets that
are stopped and the descriptors that `OnGetDescriptors` is called with. -/
structure DHCommTool where
  infos : RemoteInfos := {}
  stopped : List String := []
  told : List (String × List RemoteDescriptor) := []

/-- The descriptors that an answer of either kind is turned into. -/
def FullCapsRsp.descriptors (capsRsp : FullCapsRsp) (isSyncMeta : Bool) : List RemoteDescriptor :=
  if isSyncMeta then capsRsp.metaCaps.map fun metaCap => ⟨metaCap.dhId_, metaCap.dhType_⟩
  else capsRsp.caps.map fun cap => ⟨cap.dhId_, cap.dhType_⟩

/-- `ProcessFullCapsRsp`. The transport is there : the answer came in by it. -/
def processFullCapsRsp (capsRsp : FullCapsRsp) (isSyncMeta : Bool) (realNetworkId : String)
    (s : DHCommTool) : DHCommTool :=
  if realNetworkId = "" then s
  else
    { s with
      stopped := s.stopped ++ [realNetworkId]
      told := s.told ++ [(realNetworkId, capsRsp.descriptors isSyncMeta)] }

/-- `ProcessEvent` for `DH_COMM_RSP_FULL_CAPS`. -/
def processEvent (ctx : PeerContext) (commMsg : CommMsg) (s : DHCommTool) : DHCommTool :=
  let (capsRsp, infos) := parseAndSaveRemoteDHCaps ctx commMsg.msg commMsg.isSyncMeta
    commMsg.realNetworkId s.infos
  processFullCapsRsp capsRsp commMsg.isSyncMeta commMsg.realNetworkId { s with infos }

/-! ## What an answer can write -/

/-- What is kept under a key, in the caches and in the stores. -/
def RemoteInfos.lookup (s : RemoteInfos) (key : String) :
    (Option MetaCapabilityInfo × Option String) × Option CapabilityInfo × Option String :=
  ((s.metaInfos.globalInfoMap_.lookup key, s.metaInfos.kvStore.lookup key),
    s.capInfos.globalInfoMap_.lookup key, s.capInfos.kvStore.lookup key)

variable {ctx : PeerContext} {capsRsp : FullCapsRsp} {isSyncMeta : Bool} {realNetworkId : String}
  {s : RemoteInfos}

theorem lookup_foldl_set {T V : Type} (getKey : T → String) (value : T → V) {key : String} :
    ∀ (infos : List T) (t : Table String V), (∀ info ∈ infos, getKey info ≠ key) →
      (infos.foldl (fun t info => t.set (getKey info) (value info)) t).lookup key = t.lookup key
  | [], _, _ => rfl
  | info :: infos, t, h => by
    rw [List.foldl_cons, lookup_foldl_set getKey value infos _ fun i hi =>
      h i (List.mem_cons_of_mem _ hi)]
    exact Table.lookup_set_ne t (Ne.symm (h info List.mem_cons_self)) _

/-- Records are kept under their keys only. -/
theorem lookup_addRecords {T : Type} {getKey toJsonString : T → String} {skipped : T → Bool}
    {putBatch : Bool} {infos : List T} {s : InfoStore T} {key : String}
    (h : ∀ info ∈ infos, getKey info ≠ key) :
    (addRecords getKey toJsonString skipped putBatch infos s).2.globalInfoMap_.lookup key =
        s.globalInfoMap_.lookup key ∧
      (addRecords getKey toJsonString skipped putBatch infos s).2.kvStore.lookup key =
        s.kvStore.lookup key := by
  have hmap := lookup_foldl_set getKey (fun info => info) infos s.globalInfoMap_ h
  have hputs := lookup_foldl_set getKey toJsonString (infos.filter fun info => !skipped info)
    s.kvStore fun info hi => h info (List.mem_of_mem_filter hi)
  simp only [addRecords]
  split_ifs
  · exact ⟨rfl, rfl⟩
  · exact ⟨hmap, rfl⟩
  · exact ⟨hmap, hputs⟩
  · exact ⟨hmap, rfl⟩
  · exact ⟨rfl, rfl⟩

/-- An answer is saved if the peer is known and every key is its own, else nothing is. -/
theorem isSaveRemoteDHCaps_cases (ctx : PeerContext) (capsRsp : FullCapsRsp) (isSyncMeta : Bool)
    (realNetworkId : String) (s : RemoteInfos) :
    (isSaveRemoteDHCaps ctx capsRsp isSyncMeta realNetworkId s).1 = true ∧
        ctx.peerId isSyncMeta realNetworkId ≠ "" ∧
        (∀ key ∈ capsRsp.keys isSyncMeta, splitString key = ctx.peerId isSyncMeta realNetworkId) ∨
      isSaveRemoteDHCaps ctx capsRsp isSyncMeta realNetworkId s = (false, s) := by
  unfold isSaveRemoteDHCaps PeerContext.peerId FullCapsRsp.keys
  cases isSyncMeta with
  | true =>
    simp only [if_true]
    split_ifs with hid hany
    · exact .inr rfl
    · exact .inr rfl
    · refine .inl ⟨rfl, hid, fun key hkey => ?_⟩
      obtain ⟨info, hi, rfl⟩ := List.mem_map.1 hkey
      by_contra hne
      exact hany (List.any_eq_true.2 ⟨info, hi, decide_eq_true (Ne.symm hne)⟩)
  | false =>
    simp only [Bool.false_eq_true, if_false]
    split_ifs with hid hany
    · exact .inr rfl
    · exact .inr rfl
    · refine .inl ⟨rfl, hid, fun key hkey => ?_⟩
      obtain ⟨info, hi, rfl⟩ := List.mem_map.1 hkey
      by_contra hne
      exact hany (List.any_eq_true.2 ⟨info, hi, decide_eq_true (Ne.symm hne)⟩)

/-- What is saved is saved under the keys of the answer. -/
theorem lookup_isSaveRemoteDHCaps {key : String} (h : key ∉ capsRsp.keys isSyncMeta) :
    (isSaveRemoteDHCaps ctx capsRsp isSyncMeta realNetworkId s).2.lookup key = s.lookup key := by
  unfold isSaveRemoteDHCaps RemoteInfos.lookup
  cases isSyncMeta with
  | true =>
    simp only [if_true]
    split_ifs
    · rfl
    · rfl
    · obtain ⟨hmap, hput⟩ := lookup_addRecords (s := s.metaInfos) fun info hi hkey =>
        h (List.mem_map.2 ⟨info, hi, hkey⟩)
      exact Prod.ext (Prod.ext hmap hput) rfl
  | false =>
    simp only [Bool.false_eq_true, if_false]
    split_ifs
    · rfl
    · rfl
    · obtain ⟨hmap, hput⟩ := lookup_addRecords (s := s.capInfos) fun info hi hkey =>
        h (List.mem_map.2 ⟨info, hi, hkey⟩)
      exact Prod.ext rfl (Prod.ext hmap hput)

/-- An answer with a foreign key saves nothing. -/
theorem isSaveRemoteDHCaps_of_foreign {key : String} (h : key ∈ capsRsp.keys isSyncMeta)
    (hforeign : splitString key ≠ ctx.peerId isSyncMeta realNetworkId) :
    isSaveRemoteDHCaps ctx capsRsp isSyncMeta realNetworkId s = (false, s) :=
  (isSaveRemoteDHCaps_cases ctx capsRsp isSyncMeta realNetworkId s).resolve_left fun hcase =>
    hforeign (hcase.2.2 key h)

/-- Whatever the answer is, what is kept under the keys of other devices stays. -/
theorem lookup_isSaveRemoteDHCaps_of_foreign {key : String}
    (h : splitString key ≠ ctx.peerId isSyncMeta realNetworkId) :
    (isSaveRemoteDHCaps ctx capsRsp isSyncMeta realNetworkId s).2.lookup key = s.lookup key := by
  rcases isSaveRemoteDHCaps_cases ctx capsRsp isSyncMeta realNetworkId s with ⟨-, -, hown⟩ | hno
  · exact lookup_isSaveRemoteDHCaps fun hkey => h (hown key hkey)
  · rw [hno]

/-- `ParseAndSaveRemoteDHCaps` saves what `IsSaveRemoteDHCaps` does, or nothing. -/
theorem parseAndSaveRemoteDHCaps_cases (ctx : PeerContext) (remoteCaps : String)
    (isSyncMeta : Bool) (realNetworkId : String) (s : RemoteInfos) :
    parseAndSaveRemoteDHCaps ctx remoteCaps isSyncMeta realNetworkId s = ({}, s) ∨
      ∃ root, ctx.cJSON.parse remoteCaps = some root ∧
        (isSaveRemoteDHCaps ctx (FullCapsRsp.fromJson root {} isSyncMeta) isSyncMeta realNetworkId
          s).1 = true ∧
        parseAndSaveRemoteDHCaps ctx remoteCaps isSyncMeta realNetworkId s =
          (FullCapsRsp.fromJson root {} isSyncMeta,
            (isSaveRemoteDHCaps ctx (FullCapsRsp.fromJson root {} isSyncMeta) isSyncMeta
              realNetworkId s).2) := by
  unfold parseAndSaveRemoteDHCaps
  cases ctx.cJSON.parse remoteCaps with
  | none => exact .inl rfl
  | some root =>
    simp only
    by_cases hrequest : ctx.isRequestSyncData realNetworkId = true
    · rw [if_neg (not_not.2 hrequest)]
      rcases isSaveRemoteDHCaps_cases ctx (FullCapsRsp.fromJson root {} isSyncMeta) isSyncMeta
        realNetworkId s with ⟨hsaved, -⟩ | hno
      · rw [if_neg (not_not.2 hsaved)]
        exact .inr ⟨root, rfl, hsaved, rfl⟩
      · rw [hno]
        exact .inl rfl
    · rw [if_pos hrequest]
      exact .inl rfl

/-- The records and what is told after an answer. -/
theorem processEvent_cases (ctx : PeerContext) (commMsg : CommMsg) (s : DHCommTool) :
    (processEvent ctx commMsg s).infos = (parseAndSaveRemoteDHCaps ctx commMsg.msg
        commMsg.isSyncMeta commMsg.realNetworkId s.infos).2 ∧
      ∀ t ∈ (processEvent ctx commMsg s).told, t ∈ s.told ∨
        t.2 = (parseAndSaveRemoteDHCaps ctx commMsg.msg commMsg.isSyncMeta commMsg.realNetworkId
          s.infos).1.descriptors commMsg.isSyncMeta := by
  unfold processEvent processFullCapsRsp
  split_ifs
  · exact ⟨rfl, fun t ht => .inl ht⟩
  · refine ⟨rfl, fun t ht => ?_⟩
    obtain ht | ht := List.mem_append.1 ht
    · exact .inl ht
    · exact .inr (by rw [List.mem_singleton.1 ht])

/-- A peer that is known, waited for, and stored for. -/
def knownPeer : PeerContext where
  cJSON := cameraCodec "camera"
  devIdEntrySet_ := [⟨"n1", "u1", "d1", "h1"⟩]
  putBatch := true
  isRequestSyncData _ := true

end DHFwk
