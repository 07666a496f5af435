import DHFwk.CapsExchange
import DHFwk.SocketTable

/-!
# Who is sent the capabilities

A device that asks for the capabilities is known twice : by the socket that its message comes
in on, and by the text that the message has where an answer would have its records.
`HandleReceiveMessage` finds the first, and hands it on. `CheckCalleeAclRight` asks for the
rights of the second, and `GetAndSendLocalFullCaps` sends to it. A message without a number for
`userId` has that of the system, which is not asked for.

So what is sent goes to the device that asked, and with its rights, exactly if the message says
who it is from, has a `userId` and has no number that an `int` would not keep
(`replies_to_asker_iff`).
-/

set_option linter.unusedSectionVars false

namespace DHFwk

abbrev DH_FWK_PKG_NAME : String := "ohos.dhardware"

namespace CapsAccess

open Json Document

/-! ## The rights of a device -/

/-- `DmAccessCaller`. -/
structure DmAccessCaller where
  accountId : String
  pkgName : String
  networkId : String
  userId : Int
  tokenId : ℕ
  deriving DecidableEq, Repr

/-- `DmAccessCallee`. -/
structure DmAccessCallee where
  accountId : String
  networkId : String
  pkgName : String
  userId : Int
  tokenId : ℕ
  deriving DecidableEq, Repr

/-- What is found out while a message is handled. A call that fails has no answer. -/
structure AccessContext where
  osAccountPart : Bool
  localNetworkId : String
  localTokenId : ℕ
  foregroundOsAccounts : Option (List Int)
  ohosAccountInfo : Option String
  checkSinkAccessControl : DmAccessCaller → DmAccessCallee → Bool

/-- What is done about a message : it is taken to be from the system, rights are asked for, or
capabilities are sent. -/
inductive Effect
  | fromSystem
  | checked (dmSrcCaller : DmAccessCaller) (dmDstCallee : DmAccessCallee) (granted : Bool)
  | sent (networkId : String) (socketId : Int) (bytes : List UInt8)
  deriving DecidableEq, Repr

namespace AccessContext

variable (ctx : AccessContext)

/-- `GetForegroundUserInfo` : the user and the account. -/
def getForegroundUserInfo (targetUserId : Int) : Option (Int × String) :=
  match ctx.foregroundOsAccounts with
  | none => none
  | some foregroundAccounts =>
    if foregroundAccounts = [] then none
    else if targetUserId ∉ foregroundAccounts then none
    else ctx.ohosAccountInfo.map fun uid => (targetUserId, uid)

/-- The user and the account that are asked about, if there are any. -/
def localUser (targetUserId : Int) : Option (Int × String) :=
  if ctx.localNetworkId = "" then none
  else if ctx.osAccountPart then ctx.getForegroundUserInfo targetUserId
  else some (0, "")

/-- The device that a message says it is from. -/
def dmSrcCaller (commMsg : CommMsg) : DmAccessCaller where
  accountId := commMsg.accountId
  pkgName := DH_FWK_PKG_NAME
  networkId := commMsg.msg
  userId := commMsg.userId
  tokenId := commMsg.tokenId

/-- This device. -/
def dmDstCallee (user : Int × String) : DmAccessCallee where
  accountId := user.2
  networkId := ctx.localNetworkId
  pkgName := DH_FWK_PKG_NAME
  userId := user.1
  tokenId := ctx.localTokenId

/-- `CheckCalleeAclRight`. -/
def checkCalleeAclRight (commMsg : CommMsg) : Bool × List Effect :=
  if commMsg.userId = -1 then (true, [.fromSystem])
  else
    match ctx.localUser commMsg.userId with
    | none => (false, [])
    | some user =>
      let granted := ctx.checkSinkAccessControl (dmSrcCaller commMsg) (ctx.dmDstCallee user)
      (granted, [.checked (dmSrcCaller commMsg) (ctx.dmDstCallee user) granted])

end AccessContext

/-! ## From a message to an answer -/

/-- cJSON, with the numbers of what is parsed. -/
structure Parser where
  printUnformatted : Json → String
  parse : String → Option Document

/-- What is held of a document. -/
def Parser.codec (cJSON : Parser) : Codec where
  printUnformatted := cJSON.printUnformatted
  parse s := (cJSON.parse s).map toJson

variable (ctx : AccessContext) (cJSON : Parser) (zlib : Zlib)

/-- The checks of `OnBytesReceived`, and what `HandleReceiveMessage` parses. -/
def received (s : DHTransport) (socketId : Int) (payload : List UInt8) : Option Document :=
  if socketId < 0 ∨ payload = [] ∨ payload.length > MAX_SEND_MSG_LENGTH ∨
      s.getRemoteNetworkIdBySocketId socketId = "" then none
  else cJSON.parse (zlib.decompress payload)

/-- What `HandleReceiveMessage` does with it : the message of the event, and the check. -/
def handleReceiveDocument (root : Document) (remoteNeworkId : String) :
    Option CommMsg × List Effect :=
  let commMsg := CommMsg.fromJson root.toJson {}
  if commMsg.code ≠ DH_COMM_RSP_FULL_CAPS then
    let (right, effects) := ctx.checkCalleeAclRight commMsg
    if ¬right then (none, effects)
    else (some { commMsg with realNetworkId := remoteNeworkId }, effects)
  else (some { commMsg with realNetworkId := remoteNeworkId }, [])

/-- `OnBytesReceived`. -/
def onBytesReceived (s : DHTransport) (socketId : Int) (payload : List UInt8) :
    Option CommMsg × List Effect :=
  match received cJSON zlib s socketId payload with
  | none => (none, [])
  | some root => handleReceiveDocument ctx root (s.getRemoteNetworkIdBySocketId socketId)

/-- `GetAndSendLocalFullCaps`, with the sockets there are then. -/
def getAndSendLocalFullCaps (r : Responder) (s : DHTransport) (reqNetworkId : String)
    (isSyncMeta : Bool) : List Effect :=
  match s.isDeviceSessionOpened reqNetworkId,
      r.getAndSendLocalFullCaps cJSON.codec zlib isSyncMeta with
  | some socketId, some bytes => [.sent reqNetworkId socketId bytes]
  | _, _ => []

/-- `ProcessEvent`. An answer of another device is not answered. -/
def processEvent (r : Responder) (s : DHTransport) (commMsg : CommMsg) : List Effect :=
  if commMsg.code = DH_COMM_REQ_FULL_CAPS then
    getAndSendLocalFullCaps cJSON zlib r s commMsg.msg commMsg.isSyncMeta
  else []

/-- All that is done about a payload. The event is processed later, when the sockets may be
others. -/
def handle (r : Responder) (s s' : DHTransport) (socketId : Int) (payload : List UInt8) :
    List Effect :=
  let (event, effects) := onBytesReceived ctx cJSON zlib s socketId payload
  effects ++ event.elim [] (processEvent cJSON zlib r s')

/-! ## What it is for -/

/-- The caller that was asked about is the one the message tells of : its numbers are those of
the message, or the defaults if it has none. -/
structure Own (root : Document) (p : String) (dmSrcCaller : DmAccessCaller) : Prop where
  networkId : dmSrcCaller.networkId = p
  userId : (dmSrcCaller.userId : ℚ) = (root.numberAt COMM_MSG_USERID_KEY).getD (-1)
  tokenId : (dmSrcCaller.tokenId : ℚ) = (root.numberAt COMM_MSG_TOKENID_KEY).getD 0
  accountId : dmSrcCaller.accountId = root.textAt COMM_MSG_ACCOUNTID_KEY

/-- What is sent goes to the peer, and the message said that it is from the system or the rights
of the peer were asked for and granted; a message without an integer for `userId` is not taken
to be from the system. -/
structure RepliesToAsker (root : Option Document) (p : String) (effects : List Effect) : Prop where
  to_peer : ∀ networkId socketId bytes, .sent networkId socketId bytes ∈ effects → networkId = p
  has_right : ∀ networkId socketId bytes, .sent networkId socketId bytes ∈ effects →
    ∃ m ∈ root, m.numberAt COMM_MSG_USERID_KEY = some (-1) ∨
      ∃ dmSrcCaller dmDstCallee, .checked dmSrcCaller dmDstCallee true ∈ effects ∧
        Own m p dmSrcCaller
  system : .fromSystem ∈ effects →
    ∃ m ∈ root, ∃ n : ℤ, m.numberAt COMM_MSG_USERID_KEY = some (n : ℚ)

/-- The code of a message. -/
def codeOf (root : Document) : Int :=
  (root.numberAt COMM_MSG_CODE_KEY).elim (-1) toInt

/-- The user that a message is taken to be from. -/
def userIdOf (root : Document) : Int :=
  (root.numberAt COMM_MSG_USERID_KEY).elim (-1) toInt

/-- The token that it is taken to have, which is an `int` that was cast. -/
def tokenIdOf (root : Document) : ℕ :=
  (root.numberAt COMM_MSG_TOKENID_KEY).elim 0 fun q => (toInt q % 2 ^ 64).toNat

/-- The caller that is asked about. -/
def callerOf (root : Document) : DmAccessCaller where
  accountId := root.textAt COMM_MSG_ACCOUNTID_KEY
  pkgName := DH_FWK_PKG_NAME
  networkId := root.textAt COMM_MSG_MSG_KEY
  userId := userIdOf root
  tokenId := tokenIdOf root

/-- The message is let in : as one from the system, or because it is granted the access. -/
def Admitted (root : Document) : Prop :=
  userIdOf root = -1 ∨ ∃ user, ctx.localUser (userIdOf root) = some user ∧
    ctx.checkSinkAccessControl (callerOf root) (ctx.dmDstCallee user) = true

/-- There is a session with the device that the message names, and an answer that can be sent. -/
structure Answerable (r : Responder) (s : DHTransport) (root : Document) : Prop where
  opened : (s.isDeviceSessionOpened (root.textAt COMM_MSG_MSG_KEY)).isSome = true
  infos : (r.answer cJSON.codec (root.flagAt COMM_MSG_SYNC_META_KEY)).msg ≠ ""
  text : (r.answer cJSON.codec (root.flagAt COMM_MSG_SYNC_META_KEY)).toJsonString cJSON.codec ≠ ""
  size : ((r.answer cJSON.codec (root.flagAt COMM_MSG_SYNC_META_KEY)).toJsonString
    cJSON.codec).utf8ByteSize ≤ MAX_MESSAGE_LEN
  compressed : (zlib.compress ((r.answer cJSON.codec
    (root.flagAt COMM_MSG_SYNC_META_KEY)).toJsonString cJSON.codec)).length ≤ MAX_SEND_MSG_LENGTH

/-- The message has a number for `userId` that is cut to -1 only if it is -1. If it asks for the
capabilities, is let in and can be answered, it names the peer, and if it is not from the
system, an `int` has its `userId`, and its `tokenId` is one that is not negative. -/
structure Addressed (r : Responder) (s : DHTransport) (p : String) (root : Document) : Prop where
  has_user : codeOf root ≠ DH_COMM_RSP_FULL_CAPS →
    ∃ q, root.numberAt COMM_MSG_USERID_KEY = some q ∧ (truncate q = -1 → q = -1)
  names_peer : codeOf root = DH_COMM_REQ_FULL_CAPS → Admitted ctx root →
    Answerable cJSON zlib r s root → root.textAt COMM_MSG_MSG_KEY = p
  kept : codeOf root = DH_COMM_REQ_FULL_CAPS → Admitted ctx root →
    Answerable cJSON zlib r s root → root.numberAt COMM_MSG_USERID_KEY ≠ some (-1) →
    (∀ q, root.numberAt COMM_MSG_USERID_KEY = some q → IsInt q) ∧
      ∀ q, root.numberAt COMM_MSG_TOKENID_KEY = some q → IsInt q ∧ 0 ≤ q

/-! ## What is read from a message -/

section Fields

variable {root : Document} {f : Member CommMsg}

/-- A field is read from the member of the document as it is held. -/
theorem get_fromJson (hf : f ∈ CommMsg.fields) (root : Document) :
    f.get (CommMsg.fromJson root.toJson {}) =
      (((root.getObjectItem f.name).map toJson).bind f.read).getD (f.get {}) := by
  rw [CommMsg.fromJson, get_readEach_of_mem CommMsg.independent hf, getObjectItem_toJson]

/-- A number has its `int`, where one is found. -/
theorem number_fromJson {name : String} (get : CommMsg → Int) (set : Int → CommMsg → CommMsg)
    (hf : numberField name get set ∈ CommMsg.fields) (root : Document) :
    get (CommMsg.fromJson root.toJson {}) = (root.numberAt name).elim (get {}) toInt := by
  refine (get_fromJson hf root).trans ?_
  simp only [numberField, numberAt]
  cases root.getObjectItem name with
  | none => rfl
  | some d => cases d <;> rfl

theorem text_fromJson {name : String} (get : CommMsg → String) (set : String → CommMsg → CommMsg)
    (hf : anyTextField name get set ∈ CommMsg.fields) (root : Document) (hd : get {} = "") :
    get (CommMsg.fromJson root.toJson {}) = root.textAt name := by
  refine (get_fromJson hf root).trans ?_
  simp only [anyTextField, textAt, hd]
  cases root.getObjectItem name with
  | none => rfl
  | some d => cases d <;> rfl

theorem code_fromJson (root : Document) :
    (CommMsg.fromJson root.toJson {}).code = codeOf root :=
  number_fromJson CommMsg.code (fun n m => { m with code := n }) (by simp [CommMsg.fields]) root

theorem userId_fromJson (root : Document) :
    (CommMsg.fromJson root.toJson {}).userId = userIdOf root :=
  number_fromJson CommMsg.userId (fun n m => { m with userId := n }) (by simp [CommMsg.fields]) root

theorem msg_fromJson (root : Document) :
    (CommMsg.fromJson root.toJson {}).msg = root.textAt COMM_MSG_MSG_KEY :=
  text_fromJson CommMsg.msg (fun s m => { m with msg := s }) (by simp [CommMsg.fields]) root rfl

theorem accountId_fromJson (root : Document) :
    (CommMsg.fromJson root.toJson {}).accountId = root.textAt COMM_MSG_ACCOUNTID_KEY :=
  text_fromJson CommMsg.accountId (fun s m => { m with accountId := s }) (by simp [CommMsg.fields])
    root rfl

theorem tokenId_fromJson (root : Document) :
    (CommMsg.fromJson root.toJson {}).tokenId = tokenIdOf root := by
  have hmem : tokenField COMM_MSG_TOKENID_KEY CommMsg.tokenId
      (fun n m => { m with tokenId := n }) ∈ CommMsg.fields := by
    simp [CommMsg.fields]
  refine (get_fromJson hmem root).trans ?_
  simp only [tokenField, tokenIdOf, numberAt]
  cases root.getObjectItem COMM_MSG_TOKENID_KEY with
  | none => rfl
  | some d => cases d <;> rfl

theorem isSyncMeta_fromJson (root : Document) :
    (CommMsg.fromJson root.toJson {}).isSyncMeta = root.flagAt COMM_MSG_SYNC_META_KEY := by
  have hmem : boolField COMM_MSG_SYNC_META_KEY CommMsg.isSyncMeta
      (fun b m => { m with isSyncMeta := b }) ∈ CommMsg.fields := by
    simp [CommMsg.fields]
  refine (get_fromJson hmem root).trans ?_
  simp only [boolField, flagAt]
  cases root.getObjectItem COMM_MSG_SYNC_META_KEY with
  | none => rfl
  | some d =>
    cases d with
    | bool b => cases b <;> rfl
    | _ => rfl

/-- A token is kept exactly if it is an `int` that is not negative. -/
theorem token_eq_iff {q : ℚ} : (((toInt q % 2 ^ 64).toNat : ℕ) : ℚ) = q ↔ IsInt q ∧ 0 ≤ q := by
  constructor
  · intro h
    generalize hw : (toInt q % 2 ^ 64).toNat = w at h
    subst h
    have htrunc : truncate (w : ℚ) = w := truncate_intCast w
    simp only [toInt, htrunc, valueint, INT32_MIN, INT32_MAX] at hw
    refine ⟨⟨w, rfl, ?_, ?_⟩, Nat.cast_nonneg w⟩
    · simp only [INT32_MIN]
      omega
    · simp only [INT32_MAX]
      omega
  · rintro ⟨⟨n, rfl, hmin, hmax⟩, hnonneg⟩
    have hn : 0 ≤ n := Int.cast_nonneg_iff.1 hnonneg
    rw [toInt_intCast hmin hmax]
    have hmod : ((n % 2 ^ 64).toNat : ℤ) = n := by
      simp only [INT32_MAX] at hmax
      omega
    exact_mod_cast congrArg (fun m : ℤ => (m : ℚ)) hmod

end Fields

/-! ## What is done about a message -/

section Effects

variable {ctx} {cJSON} {zlib} {r : Responder} {s s' : DHTransport} {root : Document}
  {socketId : Int} {payload : List UInt8} {p : String}

theorem dmSrcCaller_fromJson (root : Document) :
    AccessContext.dmSrcCaller (CommMsg.fromJson root.toJson {}) = callerOf root := by
  simp only [AccessContext.dmSrcCaller, callerOf, accountId_fromJson, msg_fromJson,
    userId_fromJson, tokenId_fromJson]

theorem handleReceiveDocument_event (root : Document) (remoteNeworkId : String) :
    (handleReceiveDocument ctx root remoteNeworkId).1 =
      if (CommMsg.fromJson root.toJson {}).code ≠ DH_COMM_RSP_FULL_CAPS ∧
          ¬(ctx.checkCalleeAclRight (CommMsg.fromJson root.toJson {})).1 = true then none
      else some { CommMsg.fromJson root.toJson {} with realNetworkId := remoteNeworkId } := by
  unfold handleReceiveDocument
  by_cases hcode : (CommMsg.fromJson root.toJson {}).code = DH_COMM_RSP_FULL_CAPS
  · simp only [hcode, ne_eq, not_true_eq_false, if_false, false_and]
  · by_cases hright : (ctx.checkCalleeAclRight (CommMsg.fromJson root.toJson {})).1 = true
    · simp only [hcode, hright, ne_eq, not_false_eq_true, not_true_eq_false, if_true, if_false,
        and_false]
    · simp [hcode, hright]

/-- The event that is sent is the one of a message that is received. -/
theorem onBytesReceived_event : (onBytesReceived ctx cJSON zlib s socketId payload).1 =
    if socketId < 0 then none
    else handleReceiveMessage cJSON.codec zlib (fun m => (ctx.checkCalleeAclRight m).1) payload
      (s.getRemoteNetworkIdBySocketId socketId) := by
  by_cases hsocket : socketId < 0
  · simp [onBytesReceived, received, hsocket]
  · by_cases hdrop : payload = [] ∨ payload.length > MAX_SEND_MSG_LENGTH ∨
        s.getRemoteNetworkIdBySocketId socketId = ""
    · rw [if_neg hsocket, handleReceiveMessage, if_pos hdrop, onBytesReceived, received,
        if_pos (.inr hdrop)]
    · have hparse : cJSON.codec.parse (zlib.decompress payload) =
          (cJSON.parse (zlib.decompress payload)).map toJson := rfl
      rw [if_neg hsocket, handleReceiveMessage, if_neg hdrop, onBytesReceived, received,
        if_neg (not_or.2 ⟨hsocket, hdrop⟩), hparse]
      cases cJSON.parse (zlib.decompress payload) with
      | none => rfl
      | some root => exact handleReceiveDocument_event root _

/-- An answer is sent exactly if there is one, over the session with the device. -/
theorem mem_getAndSendLocalFullCaps_iff {reqNetworkId networkId : String} {isSyncMeta : Bool}
    {bytes : List UInt8} :
    Effect.sent networkId socketId bytes ∈
        getAndSendLocalFullCaps cJSON zlib r s reqNetworkId isSyncMeta ↔
      networkId = reqNetworkId ∧ s.isDeviceSessionOpened reqNetworkId = some socketId ∧
        r.getAndSendLocalFullCaps cJSON.codec zlib isSyncMeta = some bytes := by
  unfold getAndSendLocalFullCaps
  cases s.isDeviceSessionOpened reqNetworkId with
  | none => simp
  | some id =>
    cases r.getAndSendLocalFullCaps cJSON.codec zlib isSyncMeta with
    | none => simp
    | some b => simp [eq_comm]

/-! What the check does. -/

theorem fromSystem_mem_check_iff {commMsg : CommMsg} :
    .fromSystem ∈ (ctx.checkCalleeAclRight commMsg).2 ↔ commMsg.userId = -1 := by
  unfold AccessContext.checkCalleeAclRight
  by_cases huser : commMsg.userId = -1
  · simp [huser]
  · cases ctx.localUser commMsg.userId <;> simp [huser]

theorem checked_mem_check_iff {commMsg : CommMsg} {caller : DmAccessCaller}
    {callee : DmAccessCallee} {granted : Bool} :
    .checked caller callee granted ∈ (ctx.checkCalleeAclRight commMsg).2 ↔
      commMsg.userId ≠ -1 ∧ ∃ user, ctx.localUser commMsg.userId = some user ∧
        caller = AccessContext.dmSrcCaller commMsg ∧ callee = ctx.dmDstCallee user ∧
        ctx.checkSinkAccessControl caller callee = granted := by
  unfold AccessContext.checkCalleeAclRight
  by_cases huser : commMsg.userId = -1
  · simp [huser]
  · cases hlocal : ctx.localUser commMsg.userId with
    | none => simp [huser]
    | some user =>
      simp only [huser, if_false, List.mem_singleton, Effect.checked.injEq, ne_eq,
        not_false_eq_true, true_and, Option.some.injEq, exists_eq_left']
      constructor
      · rintro ⟨rfl, rfl, rfl⟩
        exact ⟨rfl, rfl, rfl⟩
      · rintro ⟨rfl, rfl, rfl⟩
        exact ⟨rfl, rfl, rfl⟩

theorem sent_notMem_check {commMsg : CommMsg} {networkId : String} {bytes : List UInt8} :
    Effect.sent networkId socketId bytes ∉ (ctx.checkCalleeAclRight commMsg).2 := by
  unfold AccessContext.checkCalleeAclRight
  by_cases huser : commMsg.userId = -1
  · simp [huser]
  · cases ctx.localUser commMsg.userId <;> simp [huser]

theorem check_iff_admitted :
    (ctx.checkCalleeAclRight (CommMsg.fromJson root.toJson {})).1 = true ↔ Admitted ctx root := by
  unfold AccessContext.checkCalleeAclRight Admitted
  rw [userId_fromJson, dmSrcCaller_fromJson]
  by_cases huser : userIdOf root = -1
  · simp [huser]
  · cases hlocal : ctx.localUser (userIdOf root) with
    | none => simp [huser]
    | some user => simp [huser, callerOf]

/-- What is done about a message that is received. -/
theorem handle_of_received (h : received cJSON zlib s socketId payload = some root) :
    handle ctx cJSON zlib r s s' socketId payload =
      (if codeOf root ≠ DH_COMM_RSP_FULL_CAPS then
        (ctx.checkCalleeAclRight (CommMsg.fromJson root.toJson {})).2 else []) ++
      if codeOf root = DH_COMM_REQ_FULL_CAPS ∧
          (ctx.checkCalleeAclRight (CommMsg.fromJson root.toJson {})).1 = true then
        getAndSendLocalFullCaps cJSON zlib r s' (root.textAt COMM_MSG_MSG_KEY)
          (root.flagAt COMM_MSG_SYNC_META_KEY)
      else [] := by
  unfold handle onBytesReceived
  rw [h]
  simp only [handleReceiveDocument, code_fromJson]
  by_cases hcode : codeOf root = DH_COMM_RSP_FULL_CAPS
  · simp [hcode, processEvent]
  · by_cases hright : (ctx.checkCalleeAclRight (CommMsg.fromJson root.toJson {})).1 = true
    · simp [hcode, hright, processEvent, msg_fromJson, isSyncMeta_fromJson]
    · simp [hcode, hright]

theorem handle_of_not_received (h : received cJSON zlib s socketId payload = none) :
    handle ctx cJSON zlib r s s' socketId payload = [] := by
  simp [handle, onBytesReceived, h]

/-- Nothing is checked when capabilities are sent. -/
theorem isSent_of_mem {reqNetworkId : String} {isSyncMeta : Bool} {e : Effect}
    (he : e ∈ getAndSendLocalFullCaps cJSON zlib r s reqNetworkId isSyncMeta) :
    ∃ networkId id bytes, e = .sent networkId id bytes := by
  unfold getAndSendLocalFullCaps at he
  split at he
  · exact ⟨_, _, _, List.mem_singleton.1 he⟩
  · cases he

/-- What is not sent is done by the check. -/
theorem mem_handle_iff (h : received cJSON zlib s socketId payload = some root) {e : Effect}
    (he : ∀ networkId id bytes, e ≠ .sent networkId id bytes) :
    e ∈ handle ctx cJSON zlib r s s' socketId payload ↔
      codeOf root ≠ DH_COMM_RSP_FULL_CAPS ∧
        e ∈ (ctx.checkCalleeAclRight (CommMsg.fromJson root.toJson {})).2 := by
  have hsent : ∀ {reqNetworkId isSyncMeta},
      e ∉ getAndSendLocalFullCaps cJSON zlib r s' reqNetworkId isSyncMeta := by
    intro reqNetworkId isSyncMeta hmem
    obtain ⟨networkId, id, bytes, heq⟩ := isSent_of_mem hmem
    exact he networkId id bytes heq
  rw [handle_of_received h, List.mem_append]
  constructor
  · rintro (hmem | hmem)
    · split_ifs at hmem with hcode
      · exact ⟨hcode, hmem⟩
      · cases hmem
    · split_ifs at hmem
      · exact absurd hmem hsent
      · cases hmem
  · rintro ⟨hcode, hmem⟩
    rw [if_pos hcode]
    exact .inl hmem

theorem fromSystem_mem_iff (h : received cJSON zlib s socketId payload = some root) :
    .fromSystem ∈ handle ctx cJSON zlib r s s' socketId payload ↔
      codeOf root ≠ DH_COMM_RSP_FULL_CAPS ∧ userIdOf root = -1 := by
  rw [mem_handle_iff h fun _ _ _ => by simp, fromSystem_mem_check_iff, userId_fromJson]

theorem granted_mem_iff (h : received cJSON zlib s socketId payload = some root)
    {caller : DmAccessCaller} {callee : DmAccessCallee} :
    .checked caller callee true ∈ handle ctx cJSON zlib r s s' socketId payload ↔
      codeOf root ≠ DH_COMM_RSP_FULL_CAPS ∧ userIdOf root ≠ -1 ∧
        ∃ user, ctx.localUser (userIdOf root) = some user ∧ caller = callerOf root ∧
          callee = ctx.dmDstCallee user ∧ ctx.checkSinkAccessControl caller callee = true := by
  rw [mem_handle_iff h fun _ _ _ => by simp, checked_mem_check_iff, userId_fromJson,
    dmSrcCaller_fromJson]

theorem sent_mem_iff (h : received cJSON zlib s socketId payload = some root)
    {networkId : String} {id : Int} {bytes : List UInt8} :
    .sent networkId id bytes ∈ handle ctx cJSON zlib r s s' socketId payload ↔
      codeOf root = DH_COMM_REQ_FULL_CAPS ∧ Admitted ctx root ∧
        networkId = root.textAt COMM_MSG_MSG_KEY ∧
        s'.isDeviceSessionOpened (root.textAt COMM_MSG_MSG_KEY) = some id ∧
        r.getAndSendLocalFullCaps cJSON.codec zlib (root.flagAt COMM_MSG_SYNC_META_KEY) =
          some bytes := by
  rw [handle_of_received h, List.mem_append, ← mem_getAndSendLocalFullCaps_iff,
    ← check_iff_admitted]
  constructor
  · rintro (hmem | hmem)
    · split_ifs at hmem
      · exact absurd hmem sent_notMem_check
      · cases hmem
    · split_ifs at hmem with hreq
      · exact ⟨hreq.1, hreq.2, hmem⟩
      · cases hmem
  · rintro ⟨hcode, hright, hmem⟩
    rw [if_pos (c := codeOf root = DH_COMM_REQ_FULL_CAPS ∧ _) ⟨hcode, hright⟩]
    exact .inr hmem

/-- There is an answer, and a session to send it in. -/
theorem answerable_iff : Answerable cJSON zlib r s root ↔
    ∃ id bytes, s.isDeviceSessionOpened (root.textAt COMM_MSG_MSG_KEY) = some id ∧
      r.getAndSendLocalFullCaps cJSON.codec zlib (root.flagAt COMM_MSG_SYNC_META_KEY) =
        some bytes := by
  constructor
  · rintro ⟨hopened, hinfos, htext, hsize, hcompressed⟩
    obtain ⟨id, hid⟩ := Option.isSome_iff_exists.1 hopened
    have hsend := send_of_le htext hsize hcompressed
    exact ⟨id, _, hid, (if_neg hinfos).trans hsend⟩
  · rintro ⟨id, bytes, hid, hbytes⟩
    simp only [Responder.getAndSendLocalFullCaps, send] at hbytes
    split_ifs at hbytes with hinfos htext hcompressed
    obtain ⟨htext, hsize⟩ := not_or.1 htext
    exact ⟨hid ▸ rfl, hinfos, htext, not_lt.1 hsize, not_lt.1 hcompressed⟩

/-- The caller that is asked about is the one that the message tells of exactly if it names the
peer and has numbers that are kept. -/
theorem own_callerOf_iff {q : ℚ} (hq : root.numberAt COMM_MSG_USERID_KEY = some q) :
    Own root p (callerOf root) ↔ root.textAt COMM_MSG_MSG_KEY = p ∧ IsInt q ∧
      ∀ t, root.numberAt COMM_MSG_TOKENID_KEY = some t → IsInt t ∧ 0 ≤ t := by
  have huser : (userIdOf root : ℚ) = (root.numberAt COMM_MSG_USERID_KEY).getD (-1) ↔ IsInt q := by
    rw [userIdOf, hq]
    exact toInt_eq_iff
  have htoken : (tokenIdOf root : ℚ) = (root.numberAt COMM_MSG_TOKENID_KEY).getD 0 ↔
      ∀ t, root.numberAt COMM_MSG_TOKENID_KEY = some t → IsInt t ∧ 0 ≤ t := by
    rw [tokenIdOf]
    cases root.numberAt COMM_MSG_TOKENID_KEY with
    | none => simp
    | some t => simpa using token_eq_iff
  constructor
  · intro h
    exact ⟨h.networkId, huser.1 h.userId, htoken.1 h.tokenId⟩
  · rintro ⟨hpeer, hint, ht⟩
    exact ⟨hpeer, huser.2 hint, htoken.2 ht, rfl⟩

theorem userIdOf_eq_neg_one_iff {q : ℚ} (hq : root.numberAt COMM_MSG_USERID_KEY = some q) :
    userIdOf root = -1 ↔ truncate q = -1 := by
  rw [userIdOf, hq]
  exact toInt_eq_neg_one_iff

/-- A message that is handled as it should be tells who it is from. -/
theorem RepliesToAsker.addressed (hroot : received cJSON zlib s socketId payload = some root)
    (h : RepliesToAsker (some root) p (handle ctx cJSON zlib r s s' socketId payload)) :
    Addressed ctx cJSON zlib r s' p root := by
  -- An answer that can be sent is sent.
  have hsent : codeOf root = DH_COMM_REQ_FULL_CAPS → Admitted ctx root →
      Answerable cJSON zlib r s' root → ∃ id bytes,
        .sent (root.textAt COMM_MSG_MSG_KEY) id bytes ∈
          handle ctx cJSON zlib r s s' socketId payload := by
    intro hcode hadmit hanswer
    obtain ⟨id, bytes, hid, hbytes⟩ := answerable_iff.1 hanswer
    exact ⟨id, bytes, (sent_mem_iff hroot).2 ⟨hcode, hadmit, rfl, hid, hbytes⟩⟩
  refine ⟨fun hcode => ?_, fun hcode hadmit hanswer => ?_, fun hcode hadmit hanswer hne => ?_⟩
  · have hsystem : userIdOf root = -1 → ∃ n : ℤ,
        root.numberAt COMM_MSG_USERID_KEY = some (n : ℚ) := by
      intro huser
      obtain ⟨m, hm, n, hn⟩ := h.system ((fromSystem_mem_iff hroot).2 ⟨hcode, huser⟩)
      obtain rfl := Option.mem_some_iff.1 hm
      exact ⟨n, hn⟩
    cases hq : root.numberAt COMM_MSG_USERID_KEY with
    | none =>
      obtain ⟨n, hn⟩ := hsystem (by rw [userIdOf, hq]; rfl)
      rw [hq] at hn
      cases hn
    | some q =>
      refine ⟨q, rfl, fun htrunc => ?_⟩
      obtain ⟨n, hn⟩ := hsystem ((userIdOf_eq_neg_one_iff hq).2 htrunc)
      obtain rfl : q = n := Option.some.inj (hq.symm.trans hn)
      rw [truncate_intCast] at htrunc
      simp [htrunc]
  · obtain ⟨id, bytes, hmem⟩ := hsent hcode hadmit hanswer
    exact h.to_peer _ id bytes hmem
  · obtain ⟨id, bytes, hmem⟩ := hsent hcode hadmit hanswer
    obtain ⟨m, hm, hright⟩ := h.has_right _ id bytes hmem
    obtain rfl := Option.mem_some_iff.1 hm
    obtain ⟨caller, callee, hcheck, hown⟩ := hright.resolve_left hne
    obtain ⟨-, huser, user, -, rfl, -⟩ := (granted_mem_iff hroot).1 hcheck
    cases hq : root.numberAt COMM_MSG_USERID_KEY with
    | none => exact absurd (by rw [userIdOf, hq]; rfl) huser
    | some q =>
      obtain ⟨-, hint, htoken⟩ := (own_callerOf_iff hq).1 hown
      refine ⟨fun q' hq' => ?_, htoken⟩
      obtain rfl := Option.some.inj hq'
      exact hint

/-- A message that tells who it is from is handled as it should be. -/
theorem Addressed.replies (hroot : received cJSON zlib s socketId payload = some root)
    (h : Addressed ctx cJSON zlib r s' p root) :
    RepliesToAsker (some root) p (handle ctx cJSON zlib r s s' socketId payload) := by
  refine ⟨fun networkId id bytes hmem => ?_, fun networkId id bytes hmem => ?_, fun hmem => ?_⟩
  · obtain ⟨hcode, hadmit, rfl, hid, hbytes⟩ := (sent_mem_iff hroot).1 hmem
    exact h.names_peer hcode hadmit (answerable_iff.2 ⟨id, bytes, hid, hbytes⟩)
  · obtain ⟨hcode, hadmit, rfl, hid, hbytes⟩ := (sent_mem_iff hroot).1 hmem
    have hanswer := answerable_iff.2 ⟨id, bytes, hid, hbytes⟩
    have hrsp : codeOf root ≠ DH_COMM_RSP_FULL_CAPS := by
      rw [hcode]
      decide
    obtain ⟨q, hq, htrunc⟩ := h.has_user hrsp
    refine ⟨root, rfl, ?_⟩
    by_cases hsystem : q = -1
    · exact .inl (hsystem ▸ hq)
    · have huser : userIdOf root ≠ -1 := fun huser =>
        hsystem (htrunc ((userIdOf_eq_neg_one_iff hq).1 huser))
      obtain ⟨user, hlocal, hgrant⟩ := hadmit.resolve_left huser
      have hne : root.numberAt COMM_MSG_USERID_KEY ≠ some (-1) := fun heq =>
        hsystem (Option.some.inj (hq.symm.trans heq))
      obtain ⟨hint, htoken⟩ := h.kept hcode hadmit hanswer hne
      have hpeer := h.names_peer hcode hadmit hanswer
      refine .inr ⟨callerOf root, ctx.dmDstCallee user, ?_, ?_⟩
      · exact (granted_mem_iff hroot).2 ⟨hrsp, huser, user, hlocal, rfl, rfl, hgrant⟩
      · exact (own_callerOf_iff hq).2 ⟨hpeer, hint q hq, htoken⟩
  · obtain ⟨hcode, huser⟩ := (fromSystem_mem_iff hroot).1 hmem
    obtain ⟨q, hq, htrunc⟩ := h.has_user hcode
    refine ⟨root, rfl, -1, ?_⟩
    rw [hq, htrunc ((userIdOf_eq_neg_one_iff hq).1 huser)]
    simp

end Effects

variable (r : Responder) (s s' : DHTransport) (socketId : Int) (payload : List UInt8)

/-- Of every payload : what is done about it is right for the peer exactly if the message, if
one is received, tells who it is from. -/
theorem replies_to_asker_iff (p : String) :
    RepliesToAsker (received cJSON zlib s socketId payload) p
        (handle ctx cJSON zlib r s s' socketId payload) ↔
      ∀ root ∈ received cJSON zlib s socketId payload, Addressed ctx cJSON zlib r s' p root := by
  cases hroot : received cJSON zlib s socketId payload with
  | none =>
    rw [handle_of_not_received hroot]
    refine iff_of_true ⟨?_, ?_, ?_⟩ fun root h => by cases h
    · exact fun _ _ _ h => by cases h
    · exact fun _ _ _ h => by cases h
    · exact fun h => by cases h
  | some root =>
    constructor
    · intro h m hm
      obtain rfl := Option.mem_some_iff.1 hm
      exact h.addressed hroot
    · intro h
      exact (h root rfl).replies hroot

/-! ## A message without a user -/

/-- It asks for the capabilities and names another device. -/
def strangerMessage : Document :=
  .object [(COMM_MSG_CODE_KEY, .number 1), (COMM_MSG_MSG_KEY, .string "n2")]

/-- One payload is known, and is that message. -/
def strangerParser : Parser where
  printUnformatted _ := "caps"
  parse s := if s = "message" then some strangerMessage else none

def strangerZlib : Zlib where
  compress _ := [2]
  decompress b := if b = [1] then "message" else ""

/-- No access is granted. -/
def strictContext : AccessContext where
  osAccountPart := true
  localNetworkId := "n0"
  localTokenId := 7
  foregroundOsAccounts := some [100]
  ohosAccountInfo := some "a"
  checkSinkAccessControl _ _ := false

/-- There are sockets to two devices. -/
def twoSockets : DHTransport where
  remoteDevSocketIds_ := Table.set (Table.set ∅ "n1" 5) "n2" 6

/-- The payload comes in from the first device, and the second is sent the capabilities. -/
theorem replies_to_stranger :
    twoSockets.remoteDevSocketIds_.lookup "n1" = some 5 ∧
      ¬ RepliesToAsker (received strangerParser strangerZlib twoSockets 5 [1]) "n1"
        (handle strictContext strangerParser strangerZlib phone twoSockets twoSockets 5 [1]) := by
  have hsent : .sent "n2" 6 [2] ∈
      handle strictContext strangerParser strangerZlib phone twoSockets twoSockets 5 [1] := by
    decide +kernel
  refine ⟨by decide, fun h => ?_⟩
  have hpeer := h.to_peer "n2" 6 [2] hsent
  exact absurd hpeer (by decide)

end CapsAccess

end DHFwk
