import DHFwk.RemoteCaps

/-!
# Asking a peer for its capabilities

One device asks (`TriggerReqFullDHCaps`), the other collects the records of its own hardware
and sends them back (`GetAndSendLocalFullCaps`), and the first one saves them. Both messages
are `CommMsg` documents, compressed; the kind of records asked for is a flag in them.

What is asked for are meta records. They are read as they were sent exactly if they are
legible : each survives being a document, and the device at the other end of the socket is the
one they are of. Then they are saved, if they are no more than one batch; what the cache has
under other keys stays, so it has exactly the records of the responder if it had no others of
it before (`exchange_answered`).
-/

set_option linter.unusedSectionVars false

namespace DHFwk

open Json

abbrev MAX_SEND_MSG_LENGTH : ℕ := 4194304
abbrev MAX_HASH_SIZE : ℕ := 64

/-! ## Messages as documents -/

/-- A number. -/
def numberField {R : Type} (name : String) (get : R → Int) (set : Int → R → R) : Member R where
  name := name
  get := get
  set := set
  write n := .number n
  read
    | .number n => some (Json.number n).valueint
    | _ => none

/-- A `uint64_t`, which is read as an `int` and cast. -/
def tokenField {R : Type} (name : String) (get : R → ℕ) (set : ℕ → R → R) : Member R where
  name := name
  get := get
  set := set
  write n := .number n
  read
    | .number n => some ((Json.number n).valueint % 2 ^ 64).toNat
    | _ => none

/-- A text of any length. -/
def anyTextField {R : Type} (name : String) (get : R → String) (set : String → R → R) :
    Member R where
  name := name
  get := get
  set := set
  write s := .string (cStr s)
  read
    | .string s => some s
    | _ => none

/-- A flag. -/
def boolField {R : Type} (name : String) (get : R → Bool) (set : Bool → R → R) : Member R where
  name := name
  get := get
  set := set
  write b := .bool b
  read
    | .bool b => some ((Json.bool b).valueint ≠ 0)
    | _ => none

namespace CommMsg

/-- The fields, each of which is read if it has its type. A number is an `int32_t`, so
`IsInt32` asks no more. -/
def fields : List (Member CommMsg) :=
  [numberField COMM_MSG_CODE_KEY code fun n m => { m with code := n },
   numberField COMM_MSG_USERID_KEY userId fun n m => { m with userId := n },
   tokenField COMM_MSG_TOKENID_KEY tokenId fun n m => { m with tokenId := n },
   anyTextField COMM_MSG_MSG_KEY msg fun s m => { m with msg := s },
   anyTextField COMM_MSG_ACCOUNTID_KEY accountId fun s m => { m with accountId := s },
   boolField COMM_MSG_SYNC_META_KEY isSyncMeta fun b m => { m with isSyncMeta := b }]

/-- `ToJson`. -/
def toJson (commMsg : CommMsg) : Json :=
  .object (writeFields fields commMsg)

/-- `FromJson`. -/
def fromJson (jsonObject : Json) (commMsg : CommMsg) : CommMsg :=
  readEach fields jsonObject commMsg

/-- `GetCommMsgString`. -/
def toJsonString (cJSON : Codec) (commMsg : CommMsg) : String :=
  cJSON.printUnformatted commMsg.toJson

end CommMsg

/-- `Compress` and `Decompress`. -/
structure Zlib where
  compress : String → List UInt8
  decompress : List UInt8 → String

/-! ## The two devices -/

/-- `IsCapKeyMatchDeviceId`. -/
def isCapKeyMatchDeviceId (key deviceId : String) : Bool :=
  isIdLengthValid key && isIdLengthValid deviceId && splitString key = deviceId

/-- `IsHashSizeValid`. -/
def isHashSizeValid (inputHashValue : String) : Bool :=
  !(inputHashValue.isEmpty || inputHashValue.utf8ByteSize > MAX_HASH_SIZE)

/-- The device that is asked : its ids, its records, each under its own key, and whether it
lets the caller in. -/
structure Responder where
  networkId : String
  udidHash : String
  deviceId : String
  metaInfos : Table String MetaCapabilityInfo
  capInfos : Table String CapabilityInfo
  checkCalleeAclRight : CommMsg → Bool
  metaInfos_keyed : ∀ e ∈ metaInfos.entries, e.2.getKey = e.1
  capInfos_keyed : ∀ e ∈ capInfos.entries, e.2.getKey = e.1

namespace Responder

variable (r : Responder) (cJSON : Codec) (zlib : Zlib)

/-- `GetMetaCapInfosByUdidHash`, of the device itself. -/
def metaCaps : List MetaCapabilityInfo :=
  if ¬isHashSizeValid r.udidHash then []
  else (r.metaInfos.entries.filter fun e => isCapKeyMatchDeviceId e.1 r.udidHash).map Sigma.snd

/-- `GetCapabilitiesByDeviceId`, of the device itself. -/
def caps : List CapabilityInfo :=
  if ¬isIdLengthValid r.deviceId then []
  else (r.capInfos.entries.filter fun e => isCapKeyMatchDeviceId e.1 r.deviceId).map Sigma.snd

/-- The document of `GetLocalFullMetaCapsInfo` or `GetLocalFullCapsInfo`. -/
def fullInfo (isSyncMeta : Bool) : Json :=
  if isSyncMeta then
    FullCapsRsp.toJson { networkId := r.networkId, metaCaps := r.metaCaps } isSyncMeta
  else FullCapsRsp.toJson { networkId := r.networkId, caps := r.caps } isSyncMeta

end Responder

/-- `DHTransport::Send`, where a session is open. -/
def send (zlib : Zlib) (payload : String) : Option (List UInt8) :=
  if payload = "" ∨ payload.utf8ByteSize > MAX_MESSAGE_LEN then none
  else
    let compressedPayLoad := zlib.compress payload
    if compressedPayLoad.length > MAX_SEND_MSG_LENGTH then none else some compressedPayLoad

/-- `OnBytesReceived` and `HandleReceiveMessage` : the message of the event that is sent. Only
an answer is let in without asking for the rights of its sender. -/
def handleReceiveMessage (cJSON : Codec) (zlib : Zlib) (checkCalleeAclRight : CommMsg → Bool)
    (payload : List UInt8) (remoteNeworkId : String) : Option CommMsg :=
  if payload = [] ∨ payload.length > MAX_SEND_MSG_LENGTH ∨ remoteNeworkId = "" then none
  else
    match cJSON.parse (zlib.decompress payload) with
    | none => none
    | some root =>
      let commMsg := CommMsg.fromJson root {}
      if commMsg.code ≠ DH_COMM_RSP_FULL_CAPS ∧ ¬checkCalleeAclRight commMsg then none
      else some { commMsg with realNetworkId := remoteNeworkId }

/-- The message that asks for records of a kind. -/
def request (userId : Int) (tokenId : ℕ) (localNetworkId accountId : String)
    (isSyncMeta : Bool) : CommMsg where
  code := DH_COMM_REQ_FULL_CAPS
  userId := userId
  tokenId := tokenId
  msg := localNetworkId
  accountId := accountId
  isSyncMeta := isSyncMeta

/-- `TriggerReqFullDHCaps`, where the caller has the right and the socket is open : what is
asked for are meta records. -/
def triggerReqFullDHCaps (cJSON : Codec) (zlib : Zlib) (userId : Int) (tokenId : ℕ)
    (localNetworkId accountId : String) : Option (List UInt8) :=
  send zlib ((request userId tokenId localNetworkId accountId true).toJsonString cJSON)

namespace Responder

/-- The message of an answer. -/
def answer (r : Responder) (cJSON : Codec) (isSyncMeta : Bool) : CommMsg where
  code := DH_COMM_RSP_FULL_CAPS
  msg := cJSON.printUnformatted (r.fullInfo isSyncMeta)
  isSyncMeta := true

/-- `GetAndSendLocalFullCaps`. -/
def getAndSendLocalFullCaps (r : Responder) (cJSON : Codec) (zlib : Zlib) (isSyncMeta : Bool) :
    Option (List UInt8) :=
  if (r.answer cJSON isSyncMeta).msg = "" then none
  else send zlib ((r.answer cJSON isSyncMeta).toJsonString cJSON)

/-- What comes back for a request that comes in from a device. -/
def respond (r : Responder) (cJSON : Codec) (zlib : Zlib) (payload : List UInt8)
    (reqNetworkId : String) : Option (List UInt8) :=
  match handleReceiveMessage cJSON zlib r.checkCalleeAclRight payload reqNetworkId with
  | none => none
  | some commMsg =>
    if commMsg.code = DH_COMM_REQ_FULL_CAPS then
      r.getAndSendLocalFullCaps cJSON zlib commMsg.isSyncMeta
    else none

end Responder

/-! ## What an exchange is for -/

/-- The entries of a cache under the keys of a device are its records, and no others. -/
def Exactly {T : Type} (getKey : T → String) (id : String) (infos : List T)
    (map : Table String T) : Prop :=
  ∀ key, splitString key = id → ∀ info, map.lookup key = some info ↔
    info ∈ infos ∧ getKey info = key

/-- The message that arrives is the answer to the kind of request, its records are those of
the responder, and so are then the ones of that kind in the cache. -/
structure ExchangeCorrect (ctx : PeerContext) (r : Responder) (s : RemoteInfos)
    (isSyncMeta : Bool) (commMsg : CommMsg) : Prop where
  code : commMsg.code = DH_COMM_RSP_FULL_CAPS
  kind : commMsg.isSyncMeta = isSyncMeta
  decoded :
    let rsp := (parseAndSaveRemoteDHCaps ctx commMsg.msg commMsg.isSyncMeta
      commMsg.realNetworkId s).1
    if isSyncMeta then rsp.metaCaps = r.metaCaps.map MetaCapabilityInfo.serialised
    else rsp.caps = r.caps
  saved :
    let after := (parseAndSaveRemoteDHCaps ctx commMsg.msg commMsg.isSyncMeta
      commMsg.realNetworkId s).2
    if isSyncMeta then
      Exactly MetaCapabilityInfo.getKey (ctx.peerId true commMsg.realNetworkId)
        (r.metaCaps.map MetaCapabilityInfo.serialised) after.metaInfos.globalInfoMap_
    else
      Exactly CapabilityInfo.getKey (ctx.peerId false commMsg.realNetworkId) r.caps
        after.capInfos.globalInfoMap_

/-- The document of a message is parsed as it was printed, and inflated as it was deflated. -/
structure Carried (cJSON : Codec) (zlib : Zlib) (commMsg : CommMsg) : Prop where
  parsed : cJSON.Faithful commMsg.toJson
  deflated : zlib.compress (commMsg.toJsonString cJSON) ≠ []
  inflated : zlib.decompress (zlib.compress (commMsg.toJsonString cJSON)) =
    commMsg.toJsonString cJSON

/-- The meta records of the responder can be read : there are none, or its networkId is a text
that passes, they fit an array, each survives, and the requester knows the responder by the
hash in their keys. -/
def Responder.Legible (r : Responder) (ctx : PeerContext) (realNetworkId : String) : Prop :=
  r.metaCaps = [] ∨ isString (.string (cStr r.networkId)) = true ∧
    r.metaCaps.length ≤ MAX_ARR_SIZE ∧ (∀ m ∈ r.metaCaps, m.Survives) ∧
      ctx.peerId true realNetworkId = r.udidHash

/-- They are one batch, for a store that is there. -/
def Responder.Fits (r : Responder) (s : RemoteInfos) : Prop :=
  r.metaCaps ≠ [] ∧ r.metaCaps.length ≤ MAX_WRITE_DB_DATA_SIZE ∧
    s.metaInfos.dbAdapterPtr_ = true

/-! ## Messages come back -/

namespace CommMsg

variable {commMsg : CommMsg}

theorem independent : Independent fields where
  names := by decide
  get_set_self := by simp [fields, numberField, tokenField, anyTextField, boolField]
  get_set := by simp [fields, numberField, tokenField, anyTextField, boolField]
  get_set' := by simp [fields, numberField, tokenField, anyTextField, boolField]

theorem holds (commMsg : CommMsg) : commMsg.toJson.Holds fields commMsg := by
  simpa [toJson] using holds_writeFields independent commMsg []

theorem code_fromJson (h : 0 ≤ commMsg.code) (hmax : commMsg.code ≤ INT32_MAX) :
    (fromJson commMsg.toJson {}).code = commMsg.code := by
  have hmem : numberField COMM_MSG_CODE_KEY code (fun n m => { m with code := n }) ∈ fields := by
    simp [fields]
  refine readEach_get independent commMsg.holds hmem ?_
  exact congrArg some (valueint_of_le h hmax)

theorem msg_fromJson (h : '\x00' ∉ commMsg.msg.toList) :
    (fromJson commMsg.toJson {}).msg = commMsg.msg := by
  have hmem : anyTextField COMM_MSG_MSG_KEY msg (fun s m => { m with msg := s }) ∈ fields := by
    simp [fields]
  refine readEach_get independent commMsg.holds hmem ?_
  exact congrArg some (cStr_eq_self_iff.2 h)

theorem isSyncMeta_fromJson : (fromJson commMsg.toJson {}).isSyncMeta = commMsg.isSyncMeta := by
  have hmem : boolField COMM_MSG_SYNC_META_KEY isSyncMeta
      (fun b m => { m with isSyncMeta := b }) ∈ fields := by
    simp [fields]
  refine readEach_get independent commMsg.holds hmem ?_
  cases h : commMsg.isSyncMeta <;> simp [boolField, valueint, h]

end CommMsg

theorem send_of_le {zlib : Zlib} {payload : String} (hne : payload ≠ "")
    (hsize : payload.utf8ByteSize ≤ MAX_MESSAGE_LEN)
    (hlen : (zlib.compress payload).length ≤ MAX_SEND_MSG_LENGTH) :
    send zlib payload = some (zlib.compress payload) := by
  simp only [send]
  rw [if_neg (not_or.2 ⟨hne, not_lt.2 hsize⟩), if_neg (not_lt.2 hlen)]

/-- What is sent is received, if its sender has the right or it is an answer. -/
theorem handleReceiveMessage_send {cJSON : Codec} {zlib : Zlib} {commMsg : CommMsg}
    {p : List UInt8} {nid : String} (hsend : send zlib (commMsg.toJsonString cJSON) = some p)
    (hcarried : Carried cJSON zlib commMsg) (hnid : nid ≠ "")
    (checkCalleeAclRight : CommMsg → Bool) :
    handleReceiveMessage cJSON zlib checkCalleeAclRight p nid =
      if (CommMsg.fromJson commMsg.toJson {}).code ≠ DH_COMM_RSP_FULL_CAPS ∧
          ¬checkCalleeAclRight (CommMsg.fromJson commMsg.toJson {}) then none
      else some { CommMsg.fromJson commMsg.toJson {} with realNetworkId := nid } := by
  simp only [send] at hsend
  split_ifs at hsend with hsize hlen
  obtain rfl := Option.some.inj hsend
  have hok : ¬(zlib.compress (commMsg.toJsonString cJSON) = [] ∨
      (zlib.compress (commMsg.toJsonString cJSON)).length > MAX_SEND_MSG_LENGTH ∨ nid = "") := by
    rintro (h | h | h)
    · exact hcarried.deflated h
    · exact hlen h
    · exact hnid h
  have hparse : cJSON.parse (commMsg.toJsonString cJSON) = some commMsg.toJson := hcarried.parsed
  rw [handleReceiveMessage, if_neg hok, hcarried.inflated, hparse]

/-! ## Records come back -/

namespace Responder

variable {r : Responder} {m : MetaCapabilityInfo}

theorem getKey_serialised (m : MetaCapabilityInfo) : m.serialised.getKey = m.getKey := rfl

/-- The records that are sent have the hash of the responder in their keys. -/
theorem splitString_getKey (h : m ∈ r.metaCaps) :
    splitString m.getKey = r.udidHash ∧ r.udidHash ≠ "" := by
  unfold metaCaps at h
  split_ifs at h with hhash
  · obtain ⟨e, he, rfl⟩ := List.mem_map.1 h
    obtain ⟨hmem, hmatch⟩ := List.mem_filter.1 he
    rw [r.metaInfos_keyed e hmem]
    simp only [isCapKeyMatchDeviceId, Bool.and_eq_true, decide_eq_true_eq] at hmatch
    refine ⟨hmatch.2, fun hempty => ?_⟩
    simp [hempty, isHashSizeValid] at hhash
  · cases h

/-- No two of them have one key. -/
theorem pairwise_getKey (r : Responder) :
    r.metaCaps.Pairwise fun m m' => m.getKey ≠ m'.getKey := by
  unfold metaCaps
  split_ifs
  · have hne := r.metaInfos.nodupKeys.pairwise_ne.imp_of_mem fun {e e'} he he' hkey =>
      (r.metaInfos_keyed e he).symm ▸ (r.metaInfos_keyed e' he').symm ▸ hkey
    exact List.pairwise_map.2 (hne.filter _)
  · exact List.Pairwise.nil

/-- What is read from the document, field by field. -/
theorem fromJson_fullInfo (r : Responder) :
    (FullCapsRsp.fromJson (r.fullInfo true) {} true).metaCaps =
      if isString (.string (cStr r.networkId)) = true ∧ r.metaCaps.length ≤ MAX_ARR_SIZE then
        r.metaCaps.map fun m => MetaCapabilityInfo.fromJson m.toJson {}
      else [] := by
  have hname : sameName CAPS_RSP_CAPS_KEY CAPS_RSP_NETWORKID_KEY = false := by decide
  have harr : isArray (.array (r.metaCaps.map MetaCapabilityInfo.toJson)) = true ↔
      r.metaCaps.length ≤ MAX_ARR_SIZE := by
    simp [isArray]
  simp only [fullInfo, FullCapsRsp.toJson, if_true, FullCapsRsp.fromJson, getObjectItem,
    List.find?_cons, sameName_self, hname, Option.map_some, Option.filter_some]
  by_cases hid : isString (.string (cStr r.networkId)) = true
  · by_cases hlen : r.metaCaps.length ≤ MAX_ARR_SIZE
    · simp [hid, hlen, harr.2 hlen, FullCapsRsp.items, Function.comp_def]
    · simp [hid, hlen, mt harr.1 hlen]
  · simp [hid]

end Responder

/-- Of records with keys of their own each is found under its key. -/
theorem lookup_foldl_set_of_mem {T : Type} {getKey : T → String} :
    ∀ {infos : List T} (t : Table String T), (infos.Pairwise fun i j => getKey i ≠ getKey j) →
      ∀ info ∈ infos, (infos.foldl (fun t i => t.set (getKey i) i) t).lookup (getKey info) =
        some info
  | [], _, _, _, h => by cases h
  | i :: infos, t, hne, info, h => by
    rw [List.foldl_cons]
    obtain rfl | h := List.mem_cons.1 h
    · rw [lookup_foldl_set getKey (fun i => i) infos _ fun j hj =>
        (List.rel_of_pairwise_cons hne hj).symm]
      exact Table.lookup_set_self t _ _
    · exact lookup_foldl_set_of_mem _ hne.of_cons info h

/-- The cache after records were added. -/
theorem globalInfoMap_addRecords {T : Type} {getKey toJsonString : T → String}
    {skipped : T → Bool} {putBatch : Bool} {infos : List T} {s : InfoStore T} :
    (addRecords getKey toJsonString skipped putBatch infos s).2.globalInfoMap_ =
      if infos ≠ [] ∧ infos.length ≤ MAX_WRITE_DB_DATA_SIZE ∧ s.dbAdapterPtr_ = true then
        infos.foldl (fun t info => t.set (getKey info) info) s.globalInfoMap_
      else s.globalInfoMap_ := by
  simp only [addRecords]
  by_cases hsize : infos = [] ∨ infos.length > MAX_WRITE_DB_DATA_SIZE
  · rw [if_pos hsize, if_neg]
    rintro ⟨hne, hlen, -⟩
    exact hsize.elim hne fun hlt => absurd hlen (not_le.2 hlt)
  · rw [if_neg hsize]
    obtain ⟨hne, hlen⟩ := not_or.1 hsize
    by_cases hptr : s.dbAdapterPtr_ = true
    · have hfits : infos ≠ [] ∧ infos.length ≤ MAX_WRITE_DB_DATA_SIZE ∧ s.dbAdapterPtr_ = true :=
        ⟨hne, not_lt.1 hlen, hptr⟩
      rw [if_neg (not_not.2 hptr), if_pos hfits]
      split_ifs <;> rfl
    · rw [if_pos hptr, if_neg fun h => hptr h.2.2]

/-! ## The answer -/

section Answer

variable {ctx : PeerContext} {r : Responder} {s : RemoteInfos} {nid : String}

/-- What the requester makes of a document that it waits for. -/
theorem parseAndSaveRemoteDHCaps_of_parse {remoteCaps : String} {root : Json} {isSyncMeta : Bool}
    (hparse : ctx.cJSON.parse remoteCaps = some root) (hwait : ctx.isRequestSyncData nid = true) :
    parseAndSaveRemoteDHCaps ctx remoteCaps isSyncMeta nid s =
      (if (isSaveRemoteDHCaps ctx (FullCapsRsp.fromJson root {} isSyncMeta) isSyncMeta nid
          s).1 = true then FullCapsRsp.fromJson root {} isSyncMeta else {},
        (isSaveRemoteDHCaps ctx (FullCapsRsp.fromJson root {} isSyncMeta) isSyncMeta nid s).2) := by
  simp only [parseAndSaveRemoteDHCaps, hparse, hwait, not_true_eq_false, if_false]
  split_ifs <;> simp_all

/-- Meta records whose keys have the peer's hash are saved. -/
theorem isSaveRemoteDHCaps_of_own {capsRsp : FullCapsRsp} (hid : ctx.peerId true nid ≠ "")
    (hown : ∀ m ∈ capsRsp.metaCaps, splitString m.getKey = ctx.peerId true nid) :
    isSaveRemoteDHCaps ctx capsRsp true nid s =
      (true, { s with metaInfos := (addMetaCapInfos ctx capsRsp.metaCaps s.metaInfos).2 }) := by
  have hany : ¬(capsRsp.metaCaps.any fun m =>
      ctx.getUdidHashIdByUUID (ctx.getUUIDByNetworkId nid) ≠ splitString m.getKey) = true := by
    rw [List.any_eq_true]
    rintro ⟨m, hm, hne⟩
    exact of_decide_eq_true hne (hown m hm).symm
  have hid' : ctx.getUdidHashIdByUUID (ctx.getUUIDByNetworkId nid) ≠ "" := hid
  simp only [isSaveRemoteDHCaps, if_true]
  rw [if_neg hid', if_neg hany]

/-- Without records nothing changes. -/
theorem isSaveRemoteDHCaps_of_nil {capsRsp : FullCapsRsp} (h : capsRsp.metaCaps = []) :
    (isSaveRemoteDHCaps ctx capsRsp true nid s).2 = s := by
  simp only [isSaveRemoteDHCaps, if_true, h]
  split_ifs <;> rfl

/-- The records that are sent. -/
def Responder.sent (r : Responder) : List MetaCapabilityInfo :=
  r.metaCaps.map MetaCapabilityInfo.serialised

theorem Responder.sent_eq_nil_iff : r.sent = [] ↔ r.metaCaps = [] :=
  List.map_eq_nil_iff

theorem Responder.splitString_getKey_sent {m : MetaCapabilityInfo} (h : m ∈ r.sent) :
    splitString m.getKey = r.udidHash ∧ r.udidHash ≠ "" := by
  obtain ⟨m, hm, rfl⟩ := List.mem_map.1 h
  rw [getKey_serialised]
  exact splitString_getKey hm

theorem Responder.pairwise_getKey_sent (r : Responder) :
    r.sent.Pairwise fun m m' => m.getKey ≠ m'.getKey :=
  List.pairwise_map.2 r.pairwise_getKey

/-- Records that can be read are read as they were sent. -/
theorem Responder.Legible.read (h : r.Legible ctx nid) :
    (FullCapsRsp.fromJson (r.fullInfo true) {} true).metaCaps = r.sent := by
  rw [r.fromJson_fullInfo, sent]
  rcases h with hnil | ⟨hid, hlen, hsurvives, -⟩
  · rw [hnil]
    split_ifs <;> rfl
  · rw [if_pos ⟨hid, hlen⟩]
    exact List.map_congr_left fun m hm => m.fromJson_toJson_iff.2 (hsurvives m hm)

/-- They are saved. -/
theorem Responder.Legible.save (h : r.Legible ctx nid) :
    isSaveRemoteDHCaps ctx (FullCapsRsp.fromJson (r.fullInfo true) {} true) true nid s =
      (true, { s with metaInfos := (addMetaCapInfos ctx r.sent s.metaInfos).2 }) ∨
    r.metaCaps = [] := by
  by_cases hnil : r.metaCaps = []
  · exact .inr hnil
  · obtain ⟨-, -, -, hid⟩ := h.resolve_left hnil
    obtain ⟨m, hm⟩ := List.exists_mem_of_ne_nil _ hnil
    rw [← h.read]
    refine .inl (isSaveRemoteDHCaps_of_own ?_ fun m hm => ?_)
    · rw [hid]
      exact (splitString_getKey hm).2
    · rw [h.read] at hm
      rw [hid]
      exact (splitString_getKey_sent hm).1

/-- The records come back exactly if they can be read. -/
theorem metaCaps_parseAndSaveRemoteDHCaps_iff {remoteCaps : String}
    (hparse : ctx.cJSON.parse remoteCaps = some (r.fullInfo true))
    (hwait : ctx.isRequestSyncData nid = true) :
    (parseAndSaveRemoteDHCaps ctx remoteCaps true nid s).1.metaCaps = r.sent ↔
      r.Legible ctx nid := by
  rw [parseAndSaveRemoteDHCaps_of_parse hparse hwait]
  constructor
  · intro hsame
    by_cases hnil : r.metaCaps = []
    · exact .inl hnil
    · have hsent : r.sent ≠ [] := mt r.sent_eq_nil_iff.1 hnil
      obtain ⟨-, hid, hown⟩ := (isSaveRemoteDHCaps_cases ctx (FullCapsRsp.fromJson
        (r.fullInfo true) {} true) true nid s).resolve_right fun hno => by
          rw [hno] at hsame
          exact hsent hsame.symm
      split_ifs at hsame
      · have hread := hsame
        rw [r.fromJson_fullInfo] at hread
        split_ifs at hread with hfield
        · refine .inr ⟨hfield.1, hfield.2, fun m hm => ?_, ?_⟩
          · exact m.fromJson_toJson_iff.1 (List.map_inj_left.1 hread m hm)
          · obtain ⟨m, hm⟩ := List.exists_mem_of_ne_nil _ hsent
            rw [← (r.splitString_getKey_sent hm).1]
            refine (hown m.getKey ?_).symm
            rw [FullCapsRsp.keys, if_pos rfl, hsame]
            exact List.mem_map_of_mem hm
        · exact absurd hread.symm hsent
      · exact absurd hsame.symm hsent
  · intro h
    rcases h.save (s := s) with hsave | hnil
    · rw [hsave, if_pos rfl, h.read]
    · have hread := h.read
      rw [r.sent_eq_nil_iff.2 hnil] at hread ⊢
      split_ifs
      · exact hread
      · rfl

/-- Each record is then in the cache, if they are one batch, and nothing else changes. -/
theorem lookup_parseAndSaveRemoteDHCaps {remoteCaps : String}
    (hparse : ctx.cJSON.parse remoteCaps = some (r.fullInfo true))
    (hwait : ctx.isRequestSyncData nid = true) (h : r.Legible ctx nid) :
    let after := (parseAndSaveRemoteDHCaps ctx remoteCaps true nid s).2.metaInfos.globalInfoMap_
    (r.Fits s → ∀ m ∈ r.sent, after.lookup m.getKey = some m) ∧
      ∀ key, (r.Fits s → ∀ m ∈ r.sent, m.getKey ≠ key) →
        after.lookup key = s.metaInfos.globalInfoMap_.lookup key := by
  have hafter : (parseAndSaveRemoteDHCaps ctx remoteCaps true nid s).2.metaInfos.globalInfoMap_ =
      (addMetaCapInfos ctx r.sent s.metaInfos).2.globalInfoMap_ := by
    rw [parseAndSaveRemoteDHCaps_of_parse hparse hwait]
    rcases h.save (s := s) with hsave | hnil
    · rw [hsave]
    · have hsent := r.sent_eq_nil_iff.2 hnil
      rw [isSaveRemoteDHCaps_of_nil (h.read.trans hsent), hsent]
      rfl
  have hfits : r.Fits s ↔ r.sent ≠ [] ∧ r.sent.length ≤ MAX_WRITE_DB_DATA_SIZE ∧
      s.metaInfos.dbAdapterPtr_ = true := by
    rw [Responder.Fits, Ne, ← r.sent_eq_nil_iff, Responder.sent, List.length_map]
  simp only [hafter, addMetaCapInfos, globalInfoMap_addRecords]
  constructor
  · intro hf m hm
    rw [if_pos (hfits.1 hf)]
    exact lookup_foldl_set_of_mem _ r.pairwise_getKey_sent m hm
  · intro key hkey
    split_ifs with hf
    · exact lookup_foldl_set _ _ _ _ (hkey (hfits.2 hf))
    · rfl

/-- What the cache has of the responder is what it sent exactly if there was nothing else of
it before. -/
theorem exactly_iff (id : String) {before after : Table String MetaCapabilityInfo}
    {infos : List MetaCapabilityInfo} (hin : ∀ m ∈ infos, after.lookup m.getKey = some m)
    (hout : ∀ key, (∀ m ∈ infos, m.getKey ≠ key) → after.lookup key = before.lookup key) :
    Exactly MetaCapabilityInfo.getKey id infos after ↔
      ∀ key, splitString key = id → before.lookup key ≠ none →
        ∃ m ∈ infos, m.getKey = key := by
  constructor
  · intro h key hid hbefore
    by_contra hno
    obtain ⟨m, hm⟩ := Option.ne_none_iff_exists'.1 hbefore
    have hsame := hout key fun m' hm' hkey => hno ⟨m', hm', hkey⟩
    exact hno ⟨m, (h key hid m).1 (hsame.trans hm)⟩
  · intro h key hid m
    constructor
    · intro hlookup
      by_cases hkey : ∃ m' ∈ infos, m'.getKey = key
      · obtain ⟨m', hm', rfl⟩ := hkey
        obtain rfl := Option.some.inj ((hin m' hm').symm.trans hlookup)
        exact ⟨hm', rfl⟩
      · rw [hout key fun m' hm' heq => hkey ⟨m', hm', heq⟩] at hlookup
        exact absurd (h key hid (by simp [hlookup])) hkey
    · rintro ⟨hm, rfl⟩
      exact hin m hm

end Answer

/-- What is sent for a request of meta records are meta records. -/
theorem getAndSendLocalFullCaps_of_respond {cJSON : Codec} {zlib : Zlib} {r : Responder}
    {userId : Int} {tokenId : ℕ} {localNetworkId accountId reqNetworkId : String}
    {p a : List UInt8}
    (hp : triggerReqFullDHCaps cJSON zlib userId tokenId localNetworkId accountId = some p)
    (hreq : Carried cJSON zlib (request userId tokenId localNetworkId accountId true))
    (ha : r.respond cJSON zlib p reqNetworkId = some a) :
    r.getAndSendLocalFullCaps cJSON zlib true = some a := by
  have hnid : reqNetworkId ≠ "" := by
    rintro rfl
    simp [Responder.respond, handleReceiveMessage] at ha
  rw [Responder.respond, handleReceiveMessage_send hp hreq hnid] at ha
  split_ifs at ha
  · simp only [CommMsg.isSyncMeta_fromJson, request] at ha
    split_ifs at ha
    exact ha

/-- The answer arrives as it was made. -/
theorem handleReceiveMessage_answer {cJSON : Codec} {zlib : Zlib} {r : Responder}
    {a : List UInt8} {nid : String}
    (hsend : r.getAndSendLocalFullCaps cJSON zlib true = some a)
    (hans : Carried cJSON zlib (r.answer cJSON true))
    (hnul : '\x00' ∉ (r.answer cJSON true).msg.toList) (hnid : nid ≠ "")
    (checkCalleeAclRight : CommMsg → Bool) :
    ∃ commMsg, handleReceiveMessage cJSON zlib checkCalleeAclRight a nid = some commMsg ∧
      commMsg.code = DH_COMM_RSP_FULL_CAPS ∧ commMsg.isSyncMeta = true ∧
      commMsg.msg = (r.answer cJSON true).msg ∧ commMsg.realNetworkId = nid := by
  rw [Responder.getAndSendLocalFullCaps] at hsend
  split_ifs at hsend
  have hcode : (CommMsg.fromJson (r.answer cJSON true).toJson {}).code = DH_COMM_RSP_FULL_CAPS :=
    CommMsg.code_fromJson (Int.zero_le_ofNat 2) (Int.ofNat_le.2 (by decide))
  have hrecv := handleReceiveMessage_send hsend hans hnid checkCalleeAclRight
  rw [if_neg fun h => h.1 hcode] at hrecv
  exact ⟨_, hrecv, hcode, CommMsg.isSyncMeta_fromJson, CommMsg.msg_fromJson hnul, rfl⟩

/-- A request for meta records, which is what `TriggerReqFullDHCaps` sends, is answered by meta
records that say they are. They are read as they were sent exactly if they are legible; each
is then in the cache if they fit, what it has under other keys stays, and what it has of the
responder is what was sent exactly if there was nothing else of it. -/
theorem exchange_answered (ctx : PeerContext) (zlib : Zlib) (r : Responder) (s : RemoteInfos)
    (userId : Int) (tokenId : ℕ) (localNetworkId accountId reqNetworkId nid : String)
    (checkCalleeAclRight : CommMsg → Bool) {p a : List UInt8}
    (hp : triggerReqFullDHCaps ctx.cJSON zlib userId tokenId localNetworkId accountId = some p)
    (ha : r.respond ctx.cJSON zlib p reqNetworkId = some a)
    (hreq : Carried ctx.cJSON zlib (request userId tokenId localNetworkId accountId true))
    (hans : Carried ctx.cJSON zlib (r.answer ctx.cJSON true))
    (hfull : ctx.cJSON.Faithful (r.fullInfo true))
    (hnul : '\x00' ∉ (r.answer ctx.cJSON true).msg.toList)
    (hwait : ctx.isRequestSyncData nid = true) (hnid : nid ≠ "") :
    ∃ commMsg, handleReceiveMessage ctx.cJSON zlib checkCalleeAclRight a nid = some commMsg ∧
      commMsg.code = DH_COMM_RSP_FULL_CAPS ∧ commMsg.isSyncMeta = true ∧
      ∀ rsp after, parseAndSaveRemoteDHCaps ctx commMsg.msg commMsg.isSyncMeta
          commMsg.realNetworkId s = (rsp, after) →
        (rsp.metaCaps = r.sent ↔ r.Legible ctx nid) ∧
        (r.Legible ctx nid →
          (r.Fits s → ∀ m ∈ r.sent, after.metaInfos.globalInfoMap_.lookup m.getKey = some m) ∧
          (∀ key, (r.Fits s → ∀ m ∈ r.sent, m.getKey ≠ key) →
            after.metaInfos.globalInfoMap_.lookup key =
              s.metaInfos.globalInfoMap_.lookup key) ∧
          (r.Fits s → (ExchangeCorrect ctx r s true commMsg ↔
            ∀ key, splitString key = r.udidHash →
              s.metaInfos.globalInfoMap_.lookup key ≠ none →
                ∃ m ∈ r.sent, m.getKey = key))) := by
  obtain ⟨commMsg, hrecv, hcode, hmeta, hmsg, hreal⟩ := handleReceiveMessage_answer
    (getAndSendLocalFullCaps_of_respond hp hreq ha) hans hnul hnid checkCalleeAclRight
  refine ⟨commMsg, hrecv, hcode, hmeta, fun rsp after hsave => ?_⟩
  have hparse : ctx.cJSON.parse commMsg.msg = some (r.fullInfo true) := by
    rw [hmsg]
    exact hfull
  have hread := metaCaps_parseAndSaveRemoteDHCaps_iff (s := s) hparse hwait
  have hcache := lookup_parseAndSaveRemoteDHCaps (s := s) hparse hwait
  rw [hmeta, hreal] at hsave
  simp only [hsave] at hread hcache
  refine ⟨hread, fun h => ⟨(hcache h).1, (hcache h).2, fun hf => ?_⟩⟩
  have hid : ctx.peerId true nid = r.udidHash := (h.resolve_left hf.1).2.2.2
  have hexactly := exactly_iff r.udidHash ((hcache h).1 hf) fun key hkey =>
    (hcache h).2 key fun _ => hkey
  rw [← hexactly]
  constructor
  · intro hcorrect
    have hsaved := hcorrect.saved
    simp only [hmeta, hreal, hsave, if_true, hid] at hsaved
    exact hsaved
  · intro hsaved
    refine ⟨hcode, hmeta, ?_, ?_⟩
    · simp only [hmeta, hreal, hsave, if_true]
      exact hread.2 h
    · simp only [hmeta, hreal, hsave, if_true, hid]
      exact hsaved

/-! ## A camera is asked for -/

/-- A phone with a camera. -/
def phone : Responder where
  networkId := "n1"
  udidHash := "h1"
  deviceId := "d1"
  metaInfos := Table.set ∅ "h1###c1" metaCamera
  capInfos := Table.set ∅ "d1###c1" camera
  checkCalleeAclRight _ := true
  metaInfos_keyed := by decide
  capInfos_keyed := by decide

/-- What it is asked by another device, and what it answers. -/
@[irreducible] def requestText : String :=
  "\x7b\"code\":1,\"userId\":100,\"tokenId\":7,\"msg\":\"n0\",\"accountId\":\"a\"," ++
    "\"sync_meta\":true\x7d"

@[irreducible] def fullInfoText : String :=
  "\x7b\"networkId\":\"n1\",\"caps\":[" ++ metaCameraText "camera" ++ "]\x7d"

@[irreducible] def answerText : String :=
  "\x7b\"code\":2,\"userId\":-1,\"tokenId\":0,\"msg\":\"\x7b\\\"networkId\\\":\\\"n1\\\"," ++
    "\\\"caps\\\":[\x7b\\\"dh_id\\\":\\\"c1\\\",\\\"dev_id\\\":\\\"d1\\\"," ++
    "\\\"dev_name\\\":\\\"phone\\\",\\\"dev_type\\\":14,\\\"dh_type\\\":1," ++
    "\\\"dh_attrs\\\":\\\"front\\\",\\\"dh_subtype\\\":\\\"camera\\\"," ++
    "\\\"udid_hash\\\":\\\"h1\\\",\\\"sink_ver\\\":\\\"1.0\\\"," ++
    "\\\"comp_ver\\\":\x7b\\\"name\\\":\\\"\\\",\\\"type\\\":0,\\\"handler\\\":\\\"\\\"," ++
    "\\\"source_ver\\\":\\\"\\\",\\\"sink_ver\\\":\\\"1.0\\\"\x7d\x7d]\x7d\"," ++
    "\"accountId\":\"\",\"sync_meta\":true\x7d"

/-- cJSON on these, and on the records of the camera. -/
def exchangeCodec : Codec where
  printUnformatted
    | .object [(_, .string _), _] => fullInfoText
    | .object ((_, .number 1) :: _) => requestText
    | .object ((_, .number 2) :: _) => answerText
    | j => (cameraCodec "camera").printUnformatted j
  parse s :=
    if s = requestText then some (request 100 7 "n0" "a" true).toJson
    else if s = fullInfoText then some (phone.fullInfo true)
    else if s = answerText then
      some { code := DH_COMM_RSP_FULL_CAPS, msg := fullInfoText, isSyncMeta := true : CommMsg }.toJson
    else (cameraCodec "camera").parse s

/-- The bytes that these are deflated to. -/
def requestBytes : List UInt8 :=
  [120, 156, 171, 86, 74, 206, 79, 73, 85, 178, 50, 212, 81, 42, 45, 78, 45, 242, 76, 1, 50, 13,
   12, 116, 148, 74, 242, 179, 83, 243, 64, 60, 115, 29, 165, 220, 226, 116, 37, 43, 165, 60, 3,
   37, 29, 165, 196, 228, 228, 252, 210, 188, 18, 144, 132, 82, 34, 144, 95, 92, 153, 151, 28, 159,
   155, 90, 146, 168, 100, 85, 82, 84, 154, 90, 11, 0, 173, 125, 24, 130]

def answerBytes : List UInt8 :=
  [120, 156, 117, 144, 77, 110, 195, 32, 16, 133, 239, 50, 107, 82, 217, 81, 87, 220, 32, 103, 168,
   43, 68, 96, 90, 44, 151, 193, 130, 33, 81, 20, 249, 238, 229, 199, 78, 87, 221, 241, 190, 199,
   188, 121, 240, 4, 19, 44, 130, 60, 11, 200, 9, 227, 197, 130, 60, 141, 2, 56, 44, 72, 85, 12, 2,
   124, 250, 6, 9, 207, 9, 8, 249, 30, 226, 114, 177, 19, 200, 162, 198, 9, 196, 4, 70, 175, 169,
   232, 143, 226, 91, 167, 230, 238, 153, 238, 89, 188, 29, 196, 254, 17, 210, 30, 27, 91, 93, 32,
   124, 97, 126, 172, 21, 143, 239, 162, 37, 29, 178, 43, 205, 28, 83, 27, 250, 138, 129, 184, 15,
   57, 149, 242, 117, 191, 87, 139, 120, 140, 186, 57, 217, 206, 86, 57, 157, 92, 51, 92, 95, 157,
   102, 90, 212, 13, 99, 99, 227, 219, 208, 219, 7, 191, 238, 176, 62, 240, 104, 214, 188, 61, 121,
   40, 71, 167, 201, 254, 236, 163, 61, 44, 228, 104, 240, 21, 247, 207, 130, 109, 251, 220, 64,
   128, 54, 38, 100, 226, 250, 157, 80, 100, 122, 144, 81, 30, 89, 131, 228, 152, 113, 251, 5, 232,
   36, 123, 202]

/-- zlib on what is sent. -/
def exchangeZlib : Zlib where
  compress s := if s = requestText then requestBytes else if s = answerText then answerBytes else []
  decompress b := if b = requestBytes then requestText else if b = answerBytes then answerText else ""

/-- The device that asks. -/
def requester : PeerContext :=
  { knownPeer with cJSON := exchangeCodec }

theorem texts_ne : answerText ≠ requestText ∧ answerText ≠ fullInfoText ∧
    fullInfoText ≠ requestText := by
  decide +kernel

theorem texts_fit : (∀ s ∈ [requestText, fullInfoText, answerText],
      s ≠ "" ∧ s.utf8ByteSize ≤ MAX_MESSAGE_LEN) ∧
    ∀ b ∈ [requestBytes, answerBytes], b.length ≤ MAX_SEND_MSG_LENGTH := by
  decide +kernel

theorem nul_ofList {l : List Char} (h : '\x00' ∉ l) : '\x00' ∉ (String.ofList l).toList := by
  rwa [String.toList_ofList]

theorem isText_ofList {l : List Char} (h : '\x00' ∉ l)
    (hsize : (String.ofList l).utf8ByteSize ≤ MAX_MESSAGE_LEN) : IsText (String.ofList l) :=
  ⟨nul_ofList h, hsize⟩

theorem nul_append {s t : String} (hs : '\x00' ∉ s.toList) (ht : '\x00' ∉ t.toList) :
    '\x00' ∉ (s ++ t).toList := by
  rw [String.toList_append, List.mem_append]
  exact not_or.2 ⟨hs, ht⟩

/-- The texts that it is put together of are shown to have no NUL as lists. -/
theorem fullInfoText_nul : '\x00' ∉ fullInfoText.toList := by
  have hcamera : '\x00' ∉ (cameraMembers "camera").toList :=
    nul_append (nul_append (nul_append (nul_ofList (by decide)) (nul_ofList (by decide)))
      (nul_ofList (by decide))) (nul_ofList (by decide))
  have hmeta : '\x00' ∉ (metaCameraText "camera").toList :=
    nul_append (nul_append (nul_append (nul_ofList (by decide)) hcamera) (nul_ofList (by decide)))
      (nul_ofList (by decide))
  rw [fullInfoText]
  exact nul_append (nul_append (nul_ofList (by decide)) hmeta) (nul_ofList (by decide))

/-! What is printed, parsed, deflated and inflated. -/

theorem toJsonString_request :
    (request 100 7 "n0" "a" true).toJsonString exchangeCodec = requestText := rfl

theorem toJsonString_answer :
    (phone.answer exchangeCodec true).toJsonString exchangeCodec = answerText := rfl

theorem compress_request : exchangeZlib.compress requestText = requestBytes := by
  simp only [exchangeZlib, if_true]

theorem compress_answer : exchangeZlib.compress answerText = answerBytes := by
  simp only [exchangeZlib, texts_ne.1, if_false, if_true]

theorem print_fullInfo :
    exchangeCodec.printUnformatted (phone.fullInfo true) = fullInfoText := rfl

theorem msg_answer : (phone.answer exchangeCodec true).msg = fullInfoText :=
  print_fullInfo

theorem faithful_fullInfo : exchangeCodec.Faithful (phone.fullInfo true) := by
  rw [Codec.Faithful, print_fullInfo]
  simp only [exchangeCodec, texts_ne.2.2, if_false, if_true]

theorem carried_request : Carried exchangeCodec exchangeZlib (request 100 7 "n0" "a" true) where
  parsed := by
    have hprint : exchangeCodec.printUnformatted (request 100 7 "n0" "a" true).toJson =
        requestText := rfl
    rw [Codec.Faithful, hprint]
    simp only [exchangeCodec, if_true]
  deflated := by
    rw [toJsonString_request, compress_request]
    decide
  inflated := by
    rw [toJsonString_request, compress_request]
    simp only [exchangeZlib, if_true]

theorem carried_answer : Carried exchangeCodec exchangeZlib (phone.answer exchangeCodec true) where
  parsed := by
    have hprint : exchangeCodec.printUnformatted (phone.answer exchangeCodec true).toJson =
        answerText := rfl
    rw [Codec.Faithful, hprint, Responder.answer, print_fullInfo]
    simp only [exchangeCodec, texts_ne.1, texts_ne.2.1, if_false, if_true]
  deflated := by
    rw [toJsonString_answer, compress_answer]
    decide
  inflated := by
    have hne : answerBytes ≠ requestBytes := by decide
    rw [toJsonString_answer, compress_answer]
    simp only [exchangeZlib, hne, if_false, if_true]

theorem survives_metaCamera : metaCamera.Survives where
  text := by
    simp only [MetaCapabilityInfo.texts, metaCamera, camera, List.forall_mem_cons,
      List.not_mem_nil, false_imp_iff, implies_true, and_true]
    exact ⟨isText_ofList (by decide) (by decide), isText_ofList (by decide) (by decide),
      isText_ofList (by decide) (by decide), isText_ofList (by decide) (by decide),
      isText_ofList (by decide) (by decide), isText_ofList (by decide) (by decide),
      isText_ofList (by decide) (by decide)⟩
  dhType := by decide
  behind := by
    simp [MetaCapabilityInfo.fields, MetaCapabilityInfo.fieldsHead,
      MetaCapabilityInfo.fieldsContinue, textField, uint16Field, uint32Field, Member.IsEmpty,
      metaCamera, camera, cStr]
  version := by
    simp [MetaCapabilityInfo.fields, MetaCapabilityInfo.fieldsHead,
      MetaCapabilityInfo.fieldsContinue, textField, uint16Field, uint32Field, Member.IsEmpty,
      metaCamera, camera, cStr]
  compVersion := by
    refine ⟨?_, by decide, fun h => absurd h (by decide)⟩
    simp [metaCamera, isText_empty]

theorem request_sent :
    triggerReqFullDHCaps exchangeCodec exchangeZlib 100 7 "n0" "a" = some requestBytes := by
  obtain ⟨hne, hsize⟩ := texts_fit.1 requestText (by simp)
  rw [triggerReqFullDHCaps, toJsonString_request, ← compress_request]
  refine send_of_le hne hsize ?_
  rw [compress_request]
  exact texts_fit.2 requestBytes (by simp)

theorem getAndSendLocalFullCaps_phone :
    phone.getAndSendLocalFullCaps exchangeCodec exchangeZlib true = some answerBytes := by
  obtain ⟨hmsg, -⟩ := texts_fit.1 fullInfoText (by simp)
  obtain ⟨hne, hsize⟩ := texts_fit.1 answerText (by simp)
  rw [Responder.getAndSendLocalFullCaps, msg_answer, if_neg hmsg, toJsonString_answer,
    ← compress_answer]
  refine send_of_le hne hsize ?_
  rw [compress_answer]
  exact texts_fit.2 answerBytes (by simp)

theorem answer_sent :
    phone.respond exchangeCodec exchangeZlib requestBytes "n0" = some answerBytes := by
  rw [Responder.respond, handleReceiveMessage_send request_sent carried_request (by decide)]
  exact getAndSendLocalFullCaps_phone

/-- What the phone is known by, what it has, and where another record of it would be kept. -/
theorem phone_known : requester.peerId true "n1" = "h1" ∧ phone.metaCaps = [metaCamera] ∧
    isString (.string (cStr phone.networkId)) = true ∧ splitString "h1###c0" = "h1" := by
  decide +kernel

theorem legible_phone : phone.Legible requester "n1" := by
  obtain ⟨hid, hcaps, hstring, -⟩ := phone_known
  refine .inr ⟨hstring, ?_, ?_, hid⟩
  · rw [hcaps]
    decide
  · rw [hcaps]
    exact List.forall_mem_singleton.2 survives_metaCamera

/-- The requester has the camera then. -/
theorem exchange_answered_camera :
    ∃ commMsg, handleReceiveMessage exchangeCodec exchangeZlib (fun _ => false) answerBytes "n1" =
        some commMsg ∧ ExchangeCorrect requester phone {} true commMsg := by
  have hfits : phone.Fits {} := by
    rw [Responder.Fits, phone_known.2.1]
    decide
  obtain ⟨commMsg, hrecv, -, -, hsave⟩ := exchange_answered requester exchangeZlib phone {} 100 7
    "n0" "a" "n0" "n1" (fun _ => false) request_sent answer_sent carried_request carried_answer
    faithful_fullInfo fullInfoText_nul rfl (by decide)
  refine ⟨commMsg, hrecv, ?_⟩
  obtain ⟨-, hsaved⟩ := hsave _ _ Prod.mk.eta.symm
  obtain ⟨-, -, hexactly⟩ := hsaved legible_phone
  rw [hexactly hfits]
  exact fun key _ hkey => absurd (AList.lookup_empty key) hkey

/-- A requester that has another record of the phone. -/
def staleInfos : RemoteInfos where
  metaInfos :=
    { globalInfoMap_ := Table.set ∅ "h1###c0" { metaCamera with dhId_ := "c0" } }

/-- The other record stays. -/
theorem exchange_stale :
    triggerReqFullDHCaps exchangeCodec exchangeZlib 100 7 "n0" "a" = some requestBytes ∧
      phone.respond exchangeCodec exchangeZlib requestBytes "n0" = some answerBytes ∧
      ∃ commMsg, handleReceiveMessage exchangeCodec exchangeZlib (fun _ => false) answerBytes
          "n1" = some commMsg ∧
        ¬ ExchangeCorrect requester phone staleInfos true commMsg := by
  obtain ⟨commMsg, hrecv, -, hmeta, hmsg, hreal⟩ := handleReceiveMessage_answer
    getAndSendLocalFullCaps_phone carried_answer fullInfoText_nul (by decide : "n1" ≠ "")
    fun _ => false
  refine ⟨request_sent, answer_sent, commMsg, hrecv, fun h => ?_⟩
  have hparse : requester.cJSON.parse (phone.answer exchangeCodec true).msg =
      some (phone.fullInfo true) := faithful_fullInfo
  obtain ⟨-, hstays⟩ := lookup_parseAndSaveRemoteDHCaps (s := staleInfos) hparse rfl legible_phone
  obtain ⟨hid, hcaps, -, hsplit⟩ := phone_known
  have hkey := hstays "h1###c0" fun _ m hm => by
    rw [Responder.sent, hcaps] at hm
    rw [List.mem_singleton.1 hm]
    decide
  have hsaved := h.saved
  simp only [hmeta, hmsg, hreal, if_true] at hsaved
  have hmem := ((hsaved "h1###c0" (hsplit.trans hid.symm) { metaCamera with dhId_ := "c0" }).1 hkey).1
  rw [hcaps] at hmem
  exact absurd hmem (by decide)

end DHFwk
