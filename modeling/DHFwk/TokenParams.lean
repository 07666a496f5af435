import DHFwk.AudioGate
import DHFwk.EnableParams
import DHFwk.EnabledDevices

/-!
# The token of an enable

An active `EnableTask` appends the token of the first caller to the parameters that the caller
sent, and `Enable` copies the number that it finds there into the attributes of the sink. Both
texts are parsed, get a member at the end and are printed again. A reader looks the member up by
its name, without regard to case, and takes the first that it finds.

So the token arrives in both exactly if both texts have room for it : each is an object without a
member of that name, or one whose first member of that name is the token already
(`token_handed_iff`).
-/

namespace DHFwk

variable {cJSON : DocumentCodec} {text : String} {t : ℕ}

/-- The text that is parsed for one that may be empty. -/
def orBraces (text : String) : String :=
  if text = "" then "\x7b\x7d" else text

/-- `AppendTokenIdToParams`. -/
def appendTokenIdToParams (cJSON : DocumentCodec) (params : String) (firstCallingTokenId : ℕ) :
    String :=
  match cJSON.parse (orBraces params) with
  | none => params
  | some json => cJSON.printUnformatted (addNumberToObject json "tokenId" firstCallingTokenId)

/-- What a reader of a text finds as the token. -/
def tokenIdIn (cJSON : DocumentCodec) (text : String) : Option Document :=
  (cJSON.parse text).bind (·.getObjectItem "tokenId")

/-- The text has room for the token : no other member comes before it. -/
def HasRoom (cJSON : DocumentCodec) (text : String) (t : ℕ) : Prop :=
  ∃ members, cJSON.parse (orBraces text) = some (.object members) ∧
    ((Document.object members).getObjectItem "tokenId" = none ∨
      (Document.object members).getObjectItem "tokenId" = some (.number t))

/-- The document of a text is printed faithfully once the token is appended. -/
def Prints (cJSON : DocumentCodec) (text : String) (t : ℕ) : Prop :=
  ∀ json, cJSON.parse (orBraces text) = some json →
    cJSON.Faithful (addNumberToObject json "tokenId" t)

/-! ## One text -/

/-- The member that is found is the first one : the number only where there was none. -/
theorem getObjectItem_addNumberToObject (members : List (String × Document)) (q : ℚ) :
    (addNumberToObject (.object members) "tokenId" q).getObjectItem "tokenId" =
      some (((Document.object members).getObjectItem "tokenId").getD (.number q)) := by
  simp only [addNumberToObject, Document.getObjectItem, List.find?_append]
  cases members.find? fun m => Json.sameName "tokenId" m.1 with
  | none => simp
  | some m => simp

/-- Only an object gets a member. -/
theorem getObjectItem_of_not_object {json : Document} (h : ∀ members, json ≠ .object members)
    (q : ℚ) : (addNumberToObject json "tokenId" q).getObjectItem "tokenId" = none := by
  cases json with
  | object members => exact absurd rfl (h members)
  | _ => rfl

/-- The token is found in a text that it was appended to exactly if the text had room for it. -/
theorem tokenIdIn_append_iff (hcodec : cJSON.Standard) (hprint : Prints cJSON text t) :
    tokenIdIn cJSON (appendTokenIdToParams cJSON text t) = some (.number t) ↔
      HasRoom cJSON text t := by
  unfold tokenIdIn appendTokenIdToParams HasRoom
  cases hparse : cJSON.parse (orBraces text) with
  | none =>
    -- the text stays as it is, and is no document
    have hne : text ≠ "" := by
      rintro rfl
      rw [orBraces, if_pos rfl, hcodec.braces] at hparse
      cases hparse
    rw [orBraces, if_neg hne] at hparse
    simp [hparse]
  | some json =>
    have hback := hprint json hparse
    unfold DocumentCodec.Faithful at hback
    simp only [hback, Option.bind_some, Option.some_inj]
    by_cases hobject : ∃ members, json = .object members
    · obtain ⟨members, rfl⟩ := hobject
      rw [getObjectItem_addNumberToObject]
      simp only [Document.object.injEq, exists_eq_left']
      cases (Document.object members).getObjectItem "tokenId" with
      | none => simp
      | some found => simp
    · push Not at hobject
      rw [getObjectItem_of_not_object hobject]
      exact iff_of_false (by simp) fun ⟨members, heq, _⟩ => hobject members heq

/-- Where the token is found in the parameters, it is appended to the attributes too. -/
theorem sinkAttrs_addTokenIdToSinkAttrs (hcodec : cJSON.Standard) {customParams : String}
    (h : tokenIdIn cJSON customParams = some (.number t)) (param : EnableParam) :
    (addTokenIdToSinkAttrs cJSON customParams param).sinkAttrs =
      appendTokenIdToParams cJSON param.sinkAttrs t := by
  have hne : customParams ≠ "" := by
    rintro rfl
    simp [tokenIdIn, hcodec.empty] at h
  unfold tokenIdIn at h
  unfold addTokenIdToSinkAttrs appendTokenIdToParams orBraces
  rw [if_neg hne, h]
  dsimp only
  cases cJSON.parse (if param.sinkAttrs = "" then "\x7b\x7d" else param.sinkAttrs) with
  | none => rfl
  | some json => rfl

/-! ## The call of the component -/

/-- The component finds the token in the parameters and in the attributes of the sink. -/
def EnableCall.Handed (cJSON : DocumentCodec) (t : ℕ) (call : EnableCall) : Prop :=
  tokenIdIn cJSON call.customParams = some (.number t) ∧
    tokenIdIn cJSON call.param.sinkAttrs = some (.number t)

namespace EnableWorld

variable {w : EnableWorld} {networkId uuid dhId customParams : String} {dhType : UInt32}
  {isActive : Bool} {call : EnableCall}

/-- The object that `GetEnableParam` and its retries leave. -/
def gathered (w : EnableWorld) (networkId uuid dhId : String) (dhType : UInt32) : EnableParam :=
  let (ret, param, _) := w.first.getEnableParam networkId uuid dhId dhType {}
  if ret = DH_FWK_SUCCESS then param
  else (retryGetEnableParam networkId uuid dhId dhType w.attempts param).2.1

/-- The component is called with the parameters, and with the object once the token is added. -/
theorem eq_of_mem_enable
    (h : call ∈ (w.enable networkId uuid dhId dhType isActive customParams).calls) :
    call = ⟨networkId, dhId,
      addTokenIdToSinkAttrs w.cJSON customParams (w.gathered networkId uuid dhId dhType),
      customParams⟩ := by
  unfold enable at h
  unfold gathered
  by_cases hids : ¬isIdLengthValid networkId ∨ ¬isIdLengthValid uuid ∨ ¬isIdLengthValid dhId
  · rw [if_pos hids] at h
    cases h
  rw [if_neg hids] at h
  by_cases hcomp : ¬w.compSource_ dhType
  · rw [if_pos hcomp] at h
    cases h
  rw [if_neg hcomp] at h
  dsimp only at h ⊢
  by_cases hret : (w.first.getEnableParam networkId uuid dhId dhType {}).1 = DH_FWK_SUCCESS
  · rw [if_pos hret] at h ⊢
    exact eq_of_mem_enableWith h
  · rw [if_neg hret] at h ⊢
    by_cases hretried : (retryGetEnableParam networkId uuid dhId dhType w.attempts
      (w.first.getEnableParam networkId uuid dhId dhType {}).2.1).1 ≠ DH_FWK_SUCCESS
    · rw [if_pos hretried] at h
      cases h
    · rw [if_neg hretried] at h
      exact eq_of_mem_enableWith h

/-- A call hands on the token exactly if the parameters that it got do, and the attributes have
room for it. -/
theorem handed_iff (hcodec : w.cJSON.Standard)
    (hattrs : Prints w.cJSON (w.gathered networkId uuid dhId dhType).sinkAttrs t)
    (h : call ∈ (w.enable networkId uuid dhId dhType isActive customParams).calls) :
    call.Handed w.cJSON t ↔ tokenIdIn w.cJSON customParams = some (.number t) ∧
      HasRoom w.cJSON (w.gathered networkId uuid dhId dhType).sinkAttrs t := by
  obtain rfl := eq_of_mem_enable h
  refine and_congr_right fun hparams => ?_
  rw [sinkAttrs_addTokenIdToSinkAttrs hcodec hparams, tokenIdIn_append_iff hcodec hattrs]

end EnableWorld

/-! ## The task -/

section tasks

variable {L L' W W' : Type}

/-- The calls of the source side, with the calls of the component that `Enable` makes in `w`
noted. -/
def EnableWorld.sourceCalls (w : EnableWorld) (c : SourceCalls W) :
    SourceCalls (List EnableCall × W) where
  initCompSource dhType := (c.initCompSource dhType).beside
  uninitCompSource dhType keepSAMonitor := (c.uninitCompSource dhType keepSAMonitor).beside
  startSource dhType := (c.startSource dhType).beside
  stopSource dhType := (c.stopSource dhType).beside
  waitForResult action dhType s :=
    ((c.waitForResult action dhType s.2).1, s.1, (c.waitForResult action dhType s.2).2)
  enable networkId uuid dhId dhType isActive customParams s :=
    let run := w.enable networkId uuid dhId dhType.number isActive customParams
    (run.ret, s.1 ++ run.calls, (c.enable networkId uuid dhId dhType isActive customParams s.2).2)
  disable networkId uuid dhId dhType := (c.disable networkId uuid dhId dhType).beside
  modemEnable networkId dhId dhType := (c.modemEnable networkId dhId dhType).beside
  modemDisable networkId dhId dhType := (c.modemDisable networkId dhId dhType).beside

/-- What a task is told, with the calls of `w`. -/
def EnableWorld.answers (w : EnableWorld) (a : TaskAnswers W W') :
    TaskAnswers (List EnableCall × W) W' where
  queries := a.queries
  sourceCalls := w.sourceCalls a.sourceCalls
  sinkCalls := a.sinkCalls
  checkSinkConfigStart := a.checkSinkConfigStart
  checkDemandStart := a.checkDemandStart
  appendTokenIdToParams := appendTokenIdToParams w.cJSON
  isDeserted := a.isDeserted

/-- The component manager with nothing noted. -/
def ComponentManager.beside (m : ComponentManager L L' W W') :
    ComponentManager L L' (List EnableCall × W) W' where
  source := { dhSourceStatus_ := m.source.dhSourceStatus_, world := ([], m.source.world) }
  sink := m.sink

/-- The calls of the component that a task makes. -/
def componentCalls (dev : Devices) (w : EnableWorld) (a : TaskAnswers W W') (p : HardwareParam)
    (m : ComponentManager L L' W W') : List EnableCall :=
  (registerHardware dev (w.answers a) p m.beside).2.source.world.1

variable {w : EnableWorld} {c : SourceCalls W} {q : Queries} {networkId : String}
  {d : DHDescriptor} {caller : DHStatusCtrlKey} {P : List EnableCall → Prop}

/-- What `Enable` keeps of the notes, `EnableSource` keeps. -/
theorem enableSource_keeps {m : SourceManager L (List EnableCall × W)}
    (henable : ∀ notes, P notes → P (notes ++ (w.enable networkId (q.getUUIDByNetworkId networkId)
      d.id d.dhType.number caller.isActive d.customParams).calls))
    (h : P m.world.1) :
    P (m.enableSourceInternal q (w.sourceCalls c) networkId d caller).2.world.1 := by
  have hcall : Call.Triple (fun s : List EnableCall × W => P s.1)
      ((w.sourceCalls c).enable networkId (q.getUUIDByNetworkId networkId) d.id d.dhType
        caller.isActive d.customParams) (fun s => P s.1) (fun s => P s.1) :=
    .of_forall fun s hs => henable s.1 hs
  have hload : Call.Triple (fun s : List EnableCall × W => P s.1)
      ((w.sourceCalls c).load d.dhType) (fun s => P s.1) (fun s => P s.1) :=
    (Call.Triple.beside _).andThen <| (Call.Triple.beside _).andThen <|
      Call.Triple.orUndo (.of_forall fun _ hs => hs) (Call.Triple.beside _)
  have habandon : Call.Triple (fun s : List EnableCall × W => P s.1)
      ((w.sourceCalls c).abandon d.dhType) (fun s => P s.1) (fun s => P s.1) :=
    (Call.Triple.beside _).ignoring (Call.Triple.beside _)
  unfold SourceManager.enableSourceInternal
  dsimp only
  split_ifs
  · exact h
  change P (enableSourceStatus (w.sourceCalls c) networkId _ d caller _ m.world).2.2.1
  unfold enableSourceStatus
  dsimp only
  split_ifs
  · exact h
  · exact h
  · exact settle_keeps (P := fun s : List EnableCall × W => P s.1) hcall h
  · exact settle_keeps (P := fun s : List EnableCall × W => P s.1)
      (hload.andThen (hcall.orUndo habandon)) h

/-- The component finds the token of the request in the parameters and in the attributes of the
sink exactly if both texts had room for it. -/
theorem token_handed_iff (dev : Devices) (w : EnableWorld) (a : TaskAnswers W W')
    (p : HardwareParam) (m : ComponentManager L L' W W') (hactive : p.caller.isActive = true)
    (ht : p.firstCallingTokenId ≠ 0) (hcodec : w.cJSON.Standard)
    (hparams : Prints w.cJSON p.customParams p.firstCallingTokenId)
    (hattrs : Prints w.cJSON (w.gathered p.networkId (a.queries.getUUIDByNetworkId p.networkId)
      p.dhId p.dhType.number).sinkAttrs p.firstCallingTokenId) :
    ∀ call ∈ componentCalls dev w a p m, call.Handed w.cJSON p.firstCallingTokenId ↔
      HasRoom w.cJSON p.customParams p.firstCallingTokenId ∧
        HasRoom w.cJSON (w.gathered p.networkId (a.queries.getUUIDByNetworkId p.networkId)
          p.dhId p.dhType.number).sinkAttrs p.firstCallingTokenId := by
  unfold componentCalls registerHardware doActiveEnable
  rw [if_pos hactive]
  dsimp only
  rw [if_pos ht]
  -- whatever the sink side does, the source side has nothing noted
  generalize hr : (if p.effectSink = true then _ else _ :
    Int × ComponentManager L L' (List EnableCall × W) W') = r
  have hempty : r.2.source.world.1 = [] := by
    rw [← hr]
    split_ifs <;> rfl
  by_cases hsource : p.effectSource = true
  swap
  · rw [if_pos hsource, hempty]
    exact List.forall_mem_nil _
  rw [if_neg (not_not.2 hsource)]
  refine enableSource_keeps (P := fun notes => ∀ call ∈ notes, call.Handed w.cJSON _ ↔ _)
    (fun notes hnotes call hcall => ?_) ?_
  · obtain hcall | hcall := List.mem_append.1 hcall
    · exact hnotes call hcall
    · rw [EnableWorld.handed_iff hcodec hattrs hcall]
      exact and_congr_left fun _ => tokenIdIn_append_iff hcodec hparams
  · rw [hempty]
    exact List.forall_mem_nil _

/-- An object of numbers as cJSON prints it. -/
def printNumbers : Document → String
  | .object members => "\x7b" ++ ",".intercalate (members.map fun m =>
      match m.2 with
      | .number q => "\"" ++ m.1 ++ "\":" ++ toString q.num
      | _ => "") ++ "\x7d"
  | _ => ""

/-- cJSON on the texts that a caller sends here, and on what is made of them. -/
def callerCodec : DocumentCodec where
  printUnformatted := printNumbers
  parse text :=
    [.object [], .object [("tokenId", .number 5)], .object [("tokenId", .number 7)],
      .object [("tokenId", .number 7), ("tokenId", .number 5)]].find? fun d => printNumbers d = text

/-- A loaded camera of which there is a meta record. -/
def callerWorld : EnableWorld :=
  { EnableWorld.unknownDevice with first := ParamCaches.metaCameraCaches, cJSON := callerCodec }

/-- The answers to a task for the camera. -/
def callerAnswers : TaskAnswers Unit (List SinkOffCall) :=
  { TaskAnswers.smooth false with
    queries := { Queries.permissive with getUUIDByNetworkId := fun _ => "u" } }

/-- A request of the token 5, with the parameters of the caller. -/
def callerParam (customParams : String) : HardwareParam where
  networkId := "n"
  uuid := "u"
  dhId := "c"
  dhType := .CAMERA
  effectSource := true
  callingUid := 1
  callingPid := 1
  firstCallingTokenId := 5
  customParams := customParams

/-- The calls of the component that the request leads to. -/
def callerCalls (customParams : String) : List EnableCall :=
  componentCalls twoDevices callerWorld callerAnswers (callerParam customParams)
    (EnabledDevices.init () [] : EnabledDevices Unit Unit Unit (List SinkOffCall)).manager

/-- A caller that sends the token 7 is taken for it. -/
theorem token_not_handed :
    ∃ call ∈ callerCalls "\x7b\"tokenId\":7\x7d", ¬call.Handed callerCodec 5 ∧
      tokenIdIn callerCodec call.customParams = some (.number 7) ∧
      tokenIdIn callerCodec call.param.sinkAttrs = some (.number 7) := by
  have hcalls : callerCalls "\x7b\"tokenId\":7\x7d" =
      [⟨"n", "c", { sourceVersion := "1", sinkAttrs := "\x7b\"tokenId\":7\x7d" },
        "\x7b\"tokenId\":7,\"tokenId\":5\x7d"⟩] := by
    decide +kernel
  have hparams : tokenIdIn callerCodec "\x7b\"tokenId\":7,\"tokenId\":5\x7d" = some (.number 7) :=
    rfl
  have hattrs : tokenIdIn callerCodec "\x7b\"tokenId\":7\x7d" = some (.number 7) :=
    rfl
  rw [hcalls]
  refine ⟨_, List.mem_singleton_self _, fun h => ?_, hparams, hattrs⟩
  have h := h.1
  rw [hparams] at h
  simp at h

/-- A caller that sends nothing is the one that asked. -/
theorem token_handed_empty :
    callerCalls "" ≠ [] ∧ ∀ call ∈ callerCalls "", call.Handed callerCodec 5 := by
  have hbraces : callerCodec.parse (orBraces "") = some (.object []) :=
    rfl
  have hattrs : (callerWorld.gathered "n" "u" "c" 1).sinkAttrs = "" := by
    decide +kernel
  have hroom : HasRoom callerCodec "" 5 := ⟨[], hbraces, .inl rfl⟩
  have hprint : Prints callerCodec "" 5 := by
    intro json hjson
    rw [hbraces] at hjson
    obtain rfl := Option.some_inj.1 hjson
    rfl
  refine ⟨by decide +kernel, fun call hcall => ?_⟩
  refine (token_handed_iff twoDevices callerWorld callerAnswers (callerParam "") _ rfl (by decide)
    ⟨rfl, hbraces⟩ hprint ?_ call hcall).2 ⟨hroom, ?_⟩
  · exact hattrs ▸ hprint
  · exact hattrs ▸ hroom

end tasks

end DHFwk
