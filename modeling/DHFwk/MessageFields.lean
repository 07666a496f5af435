import DHFwk.CapsAccess

/-!
# The fields of a message between devices

A `CommMsg` names who asks : the user, the token and the account. The device that is asked reads
these fields from the document and has its access check look at them. Each field has a check of its
own and keeps its default without telling. The token is written with its 64 bits, and read as an
`int`.

So a message comes back, and the check is asked about its sender, exactly if the token fits an `int`
(`message_comesBack_iff`).
-/

set_option linter.unusedSectionVars false

namespace DHFwk

open Json CapsAccess

/-! ## Fields that carry their value -/

section

variable {R : Type} {name : String} {r : R}

theorem numberField_carries {get : R → Int} {set : Int → R → R} (hmin : INT32_MIN ≤ get r)
    (hmax : get r ≤ INT32_MAX) : (numberField name get set).Carries r := by
  have hint : (Json.number (get r)).valueint = get r := by
    rw [valueint, min_eq_left hmax, max_eq_right hmin]
  exact congrArg some hint

/-- A token that does not fit is cut to `INT32_MAX`. -/
theorem tokenField_carries_iff {get : R → ℕ} {set : ℕ → R → R} :
    (tokenField name get set).Carries r ↔ (get r : ℤ) ≤ INT32_MAX := by
  change some ((Json.number (get r)).valueint % 2 ^ 64).toNat = some (get r) ↔ _
  rw [Option.some.injEq]
  simp only [valueint, INT32_MIN, INT32_MAX]
  omega

/-- A token is never turned down. -/
theorem tokenField_not_stops {get : R → ℕ} {set : ℕ → R → R} :
    ¬(tokenField name get set).Stops r :=
  Option.some_ne_none _

theorem anyTextField_carries {get : R → String} {set : String → R → R}
    (h : '\x00' ∉ (get r).toList) : (anyTextField name get set).Carries r :=
  congrArg some (cStr_eq_self_iff.2 h)

theorem boolField_carries {get : R → Bool} {set : Bool → R → R} :
    (boolField name get set).Carries r := by
  change some (decide ((Json.bool (get r)).valueint ≠ 0)) = some (get r)
  cases get r <;> decide

end

/-! ## A message -/

namespace CommMsg

/-- Two messages are the same but for the device that one came from. -/
structure SameFields (m m' : CommMsg) : Prop where
  code : m.code = m'.code
  userId : m.userId = m'.userId
  tokenId : m.tokenId = m'.tokenId
  msg : m.msg = m'.msg
  accountId : m.accountId = m'.accountId
  isSyncMeta : m.isSyncMeta = m'.isSyncMeta

/-- What the type of a message and its texts let it be. -/
structure Regular (m : CommMsg) : Prop where
  code_min : INT32_MIN ≤ m.code
  code_max : m.code ≤ INT32_MAX
  userId_min : INT32_MIN ≤ m.userId
  userId_max : m.userId ≤ INT32_MAX
  msg : '\x00' ∉ m.msg.toList
  accountId : '\x00' ∉ m.accountId.toList

variable {m m' : CommMsg}

theorem sameFields_iff : SameFields m m' ↔ ∀ f ∈ fields, f.get m = f.get m' := by
  simp only [fields, List.forall_mem_cons, List.not_mem_nil, false_imp_iff, implies_true, and_true]
  constructor
  · intro h
    exact ⟨h.code, h.userId, h.tokenId, h.msg, h.accountId, h.isSyncMeta⟩
  · rintro ⟨hcode, huser, htoken, hmsg, haccount, hsync⟩
    exact ⟨hcode, huser, htoken, hmsg, haccount, hsync⟩

/-- Of the fields of a regular message only the token may not be carried. -/
theorem sameFields_fromJson_iff (h : m.Regular) :
    SameFields (fromJson m.toJson {}) m ↔ (m.tokenId : ℤ) ≤ INT32_MAX := by
  rw [sameFields_iff, fromJson, readEach_iff independent m.holds]
  simp only [fields, List.forall_mem_cons, List.not_mem_nil, false_imp_iff, implies_true, and_true]
  refine ⟨fun hfields => ?_, fun htoken => ⟨.inl ?_, .inl ?_, .inl ?_, .inl ?_, .inl ?_, .inl ?_⟩⟩
  · exact tokenField_carries_iff.1
      (hfields.2.2.1.resolve_right fun hstops => tokenField_not_stops hstops.1)
  · exact numberField_carries h.code_min h.code_max
  · exact numberField_carries h.userId_min h.userId_max
  · exact tokenField_carries_iff.2 htoken
  · exact anyTextField_carries h.msg
  · exact anyTextField_carries h.accountId
  · exact boolField_carries

/-- The access check looks at nothing else. -/
theorem SameFields.checkCalleeAclRight (h : SameFields m m') (ctx : AccessContext) :
    ctx.checkCalleeAclRight m = ctx.checkCalleeAclRight m' := by
  have hcaller : AccessContext.dmSrcCaller m = AccessContext.dmSrcCaller m' := by
    simp only [AccessContext.dmSrcCaller, h.userId, h.tokenId, h.msg, h.accountId]
  rw [AccessContext.checkCalleeAclRight, AccessContext.checkCalleeAclRight, hcaller, h.userId]

/-- The message that is parsed from the text of another is the same, and the access check is asked
the same about it. -/
def ComesBack (cJSON : Codec) (m : CommMsg) : Prop :=
  ∃ root, cJSON.parse (m.toJsonString cJSON) = some root ∧ SameFields (fromJson root {}) m ∧
    ∀ ctx : AccessContext, ctx.checkCalleeAclRight (fromJson root {}) = ctx.checkCalleeAclRight m

/-- A message comes back exactly if its token fits an `int`. -/
theorem message_comesBack_iff (cJSON : Codec) (m : CommMsg) (hcodec : cJSON.Faithful m.toJson)
    (h : m.Regular) : ComesBack cJSON m ↔ (m.tokenId : ℤ) ≤ INT32_MAX := by
  have hparse : cJSON.parse (m.toJsonString cJSON) = some m.toJson := hcodec
  constructor
  · rintro ⟨root, hroot, hsame, -⟩
    cases hparse.symm.trans hroot
    exact (sameFields_fromJson_iff h).1 hsame
  · intro htoken
    have hsame := (sameFields_fromJson_iff h).2 htoken
    exact ⟨m.toJson, hparse, hsame, hsame.checkCalleeAclRight⟩

/-- The request of an application, whose token has 30 bits. -/
def appRequest : CommMsg where
  code := 1
  userId := 100
  tokenId := 537719865
  msg := "network"
  accountId := "account"

/-- The request of a caller whose token has 33 bits. -/
def wideRequest : CommMsg := { appRequest with tokenId := 4294967297 }

/-- The text of such a request. -/
def requestText (m : CommMsg) : String :=
  "\x7b\"code\":1,\"userId\":100,\"tokenId\":" ++ toString m.tokenId ++
    ",\"msg\":\"network\",\"accountId\":\"account\",\"sync_meta\":false\x7d"

/-- cJSON on the request. -/
def requestCodec (m : CommMsg) : Codec where
  printUnformatted _ := m.requestText
  parse text := if text = m.requestText then some m.toJson else none

theorem requestCodec_faithful (m : CommMsg) : (requestCodec m).Faithful m.toJson :=
  if_pos rfl

theorem regular_appRequest : appRequest.Regular :=
  ⟨by decide, by decide, by decide, by decide, by decide, by decide⟩

theorem message_comesBack_app : ComesBack (requestCodec appRequest) appRequest :=
  (message_comesBack_iff (requestCodec appRequest) appRequest (requestCodec_faithful appRequest)
    regular_appRequest).2 (by decide)

/-- The token of the other is read as another one. -/
theorem wide_token_cut :
    (requestCodec wideRequest).Faithful wideRequest.toJson ∧ wideRequest.Regular ∧
      wideRequest.tokenId ≤ 2 ^ 53 ∧ (fromJson wideRequest.toJson {}).tokenId = 2147483647 ∧
      ¬ComesBack (requestCodec wideRequest) wideRequest := by
  have hcut : (fromJson wideRequest.toJson {}).tokenId = 2147483647 := by decide
  refine ⟨requestCodec_faithful wideRequest,
    ⟨by decide, by decide, by decide, by decide, by decide, by decide⟩, by decide, hcut, ?_⟩
  rintro ⟨root, hroot, hsame, -⟩
  cases (requestCodec_faithful wideRequest).symm.trans hroot
  exact absurd (hcut.symm.trans hsame.tokenId) (by decide)

end CommMsg

end DHFwk
