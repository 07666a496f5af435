import DHFwk.DeviceLife
import DHFwk.Parcel

/-!
# Lists of descriptors between processes

`DistributedHardwareProxy` writes a list of descriptors into a parcel, for one of four requests,
and `DistributedHardwareStub` reads it and runs the request. The parcels of the proxy are read back
as they were written (`encodes_of_proxy`). The stub does not look at what reading answers : on any
other parcel of a caller that it serves it still runs the request, with an empty list or one that is
filled up with default values (`descriptors_intact_iff`).
-/

namespace DHFwk

open Parcel

namespace DescriptorIpc

abbrev MAX_DH_DESCRIPTOR_ARRAY_SIZE : UInt32 := 4096
abbrev NO_ERROR : Int := 0
abbrev ERR_DH_FWK_SERVICE_WRITE_INFO_FAIL : Int := -10807
abbrev ERR_DH_FWK_ACCESS_PERMISSION_CHECK_FAIL : Int := -11200
abbrev ERR_DH_FWK_IS_LOCAL_PROCESS_FAIL : Int := -11202
abbrev ERR_DH_AVT_SERVICE_REMOTE_IS_NULL : Int := -80017
abbrev ERR_DH_AVT_SERVICE_WRITE_TOKEN_FAIL : Int := -80018
abbrev ERR_DH_AVT_SERVICE_WRITE_INFO_FAIL : Int := -80019

/-- `DHDescriptor` as it crosses ; its type may be any number. -/
structure DHDescriptor where
  id : String
  dhType : UInt32
  customParams : String
  firstCallingTokenId : UInt32
  deriving DecidableEq, Repr

/-- The codes of the requests. -/
inductive Code
  | ENABLE_SINK
  | DISABLE_SINK
  | ENABLE_SOURCE
  | DISABLE_SOURCE
  deriving DecidableEq, Repr

/-- The four requests, as the service runs them. -/
inductive Call
  | enableSink (descriptors : List DHDescriptor)
  | disableSink (descriptors : List DHDescriptor)
  | enableSource (networkId : String) (descriptors : List DHDescriptor)
  | disableSource (networkId : String) (descriptors : List DHDescriptor)
  deriving DecidableEq, Repr

variable {P : Type*} (ops : Ops P)

/-! ## The proxy -/

/-- The token of the interface, and whether the remote object is there. -/
structure Proxy where
  GetDescriptor : String
  remote : Bool
  deriving DecidableEq, Repr

/-- A write, or the error where it fails. -/
def write (k : Kind) (v : k.Val) (err : Int) (data : P) : Except Int P :=
  match ops.write k v data with
  | some data => .ok data
  | none => .error err

def writeDescriptor (data : P) (descriptor : DHDescriptor) : Except Int P := do
  let data ← write ops .int32 descriptor.dhType.toInt32 ERR_DH_AVT_SERVICE_WRITE_INFO_FAIL data
  let data ← write ops .string descriptor.id ERR_DH_AVT_SERVICE_WRITE_INFO_FAIL data
  let data ← write ops .string descriptor.customParams ERR_DH_AVT_SERVICE_WRITE_INFO_FAIL data
  write ops .uint32 descriptor.firstCallingTokenId ERR_DH_AVT_SERVICE_WRITE_INFO_FAIL data

/-- `WriteDescriptors`. -/
def writeDescriptors (data : P) (descriptors : List DHDescriptor) : Except Int P := do
  let size := Int32.ofNat descriptors.length
  if MAX_DH_DESCRIPTOR_ARRAY_SIZE.toInt32 < size then .error ERR_DH_FWK_PARA_INVALID
  else
    let data ← write ops .int32 size ERR_DH_AVT_SERVICE_WRITE_INFO_FAIL data
    (descriptors.take size.toInt.toNat).foldlM (writeDescriptor ops) data

/-- The requests of the source begin with the device. -/
def writeNetworkId (data : P) : Option String → Except Int P
  | some networkId => write ops .string networkId ERR_DH_AVT_SERVICE_WRITE_INFO_FAIL data
  | none => .ok data

namespace Proxy

variable (proxy : Proxy)

/-- The parcel of a request, up to `SendRequest`. -/
def request (networkId : Option String) (descriptors : List DHDescriptor) : Except Int P := do
  if networkId.any (!isIdLengthValid ·) then .error ERR_DH_FWK_PARA_INVALID
  else if ¬proxy.remote then .error ERR_DH_AVT_SERVICE_REMOTE_IS_NULL
  else
    let data ← write ops .token proxy.GetDescriptor ERR_DH_AVT_SERVICE_WRITE_TOKEN_FAIL ops.empty
    let data ← writeNetworkId ops data networkId
    match writeDescriptors ops data descriptors with
    | .ok data => .ok data
    | .error _ => .error ERR_DH_AVT_SERVICE_WRITE_INFO_FAIL

/-- `EnableSink`, up to the request that it sends. -/
def enableSink (descriptors : List DHDescriptor) : Except Int (Code × P) :=
  (proxy.request ops none descriptors).map (Code.ENABLE_SINK, ·)

def disableSink (descriptors : List DHDescriptor) : Except Int (Code × P) :=
  (proxy.request ops none descriptors).map (Code.DISABLE_SINK, ·)

def enableSource (networkId : String) (descriptors : List DHDescriptor) : Except Int (Code × P) :=
  (proxy.request ops (some networkId) descriptors).map (Code.ENABLE_SOURCE, ·)

def disableSource (networkId : String) (descriptors : List DHDescriptor) :
    Except Int (Code × P) :=
  (proxy.request ops (some networkId) descriptors).map (Code.DISABLE_SOURCE, ·)

/-- What is sent for a call. -/
def send : Call → Except Int (Code × P)
  | .enableSink descriptors => proxy.enableSink ops descriptors
  | .disableSink descriptors => proxy.disableSink ops descriptors
  | .enableSource networkId descriptors => proxy.enableSource ops networkId descriptors
  | .disableSource networkId descriptors => proxy.disableSource ops networkId descriptors

end Proxy

/-! ## The stub -/

/-- What the stub answers with : the service, who calls, whether the reply can be written, and an
error code of the IPC library. -/
structure Stub where
  GetDescriptor : String
  isLocalCalling : Bool
  hasAccessDHPermission : Bool
  writable : Bool
  service : Call → Int
  ERR_INVALID_DATA : { code : Int // code ≠ DH_FWK_SUCCESS }

/-- The requests that were run, what was returned, and what was written into the reply. -/
structure Served where
  ran : List Call
  ret : Int
  reply : Option Int
  deriving DecidableEq, Repr

def readDescriptor (data : P) : DHDescriptor × P :=
  let (dhType, data) := ops.read .int32 data
  let (id, data) := ops.read .string data
  let (customParams, data) := ops.read .string data
  let (firstCallingTokenId, data) := ops.read .uint32 data
  (⟨id.getD "", (dhType.getD 0).toUInt32, customParams.getD "", firstCallingTokenId.getD 0⟩, data)

/-- `ReadDescriptors` : the code, and the list. -/
def readDescriptors (data : P) : Int × List DHDescriptor :=
  let (size, data) := ops.read .int32 data
  let size := size.getD 0
  if MAX_DH_DESCRIPTOR_ARRAY_SIZE.toInt32 < size then (ERR_DH_FWK_PARA_INVALID, [])
  else (NO_ERROR, (readMany (readDescriptor ops) size.toInt.toNat data).1)

namespace Stub

variable (stub : Stub)

/-- The service runs the call, and its answer is written. -/
def answer (call : Call) : Served :=
  if ¬stub.writable then ⟨[call], ERR_DH_FWK_SERVICE_WRITE_INFO_FAIL, none⟩
  else ⟨[call], DH_FWK_SUCCESS, some (stub.service call)⟩

/-- A handler of the sink. What `ReadDescriptors` answers is not looked at. -/
def sinkInner (call : List DHDescriptor → Call) (data : P) : Served :=
  if ¬stub.hasAccessDHPermission then ⟨[], ERR_DH_FWK_ACCESS_PERMISSION_CHECK_FAIL, none⟩
  else
    let (_, descriptors) := readDescriptors ops data
    stub.answer (call descriptors)

/-- A handler of the source. What `ReadDescriptors` answers is not looked at. -/
def sourceInner (call : String → List DHDescriptor → Call) (data : P) : Served :=
  if ¬stub.hasAccessDHPermission then ⟨[], ERR_DH_FWK_ACCESS_PERMISSION_CHECK_FAIL, none⟩
  else
    let (networkId, data) := ops.read .string data
    let (_, descriptors) := readDescriptors ops data
    stub.answer (call (networkId.getD "") descriptors)

def enableSinkInner (data : P) : Served := stub.sinkInner ops .enableSink data

def disableSinkInner (data : P) : Served := stub.sinkInner ops .disableSink data

def enableSourceInner (data : P) : Served := stub.sourceInner ops .enableSource data

def disableSourceInner (data : P) : Served := stub.sourceInner ops .disableSource data

/-- `OnRemoteRequest`, for the four codes. -/
def onRemoteRequest (code : Code) (data : P) : Served :=
  let (token, data) := ops.read .token data
  if token.getD "" ≠ stub.GetDescriptor then ⟨[], stub.ERR_INVALID_DATA, none⟩
  else if ¬stub.isLocalCalling then ⟨[], ERR_DH_FWK_IS_LOCAL_PROCESS_FAIL, none⟩
  else
    match code with
    | .ENABLE_SINK => stub.enableSinkInner ops data
    | .DISABLE_SINK => stub.disableSinkInner ops data
    | .ENABLE_SOURCE => stub.enableSourceInner ops data
    | .DISABLE_SOURCE => stub.disableSourceInner ops data

/-- The caller shows the token of the interface, is local, and has the permission. -/
def Serves (data : P) : Prop :=
  (ops.read .token data).1.getD "" = stub.GetDescriptor ∧ stub.isLocalCalling ∧
    stub.hasAccessDHPermission

end Stub

/-! ## The encoding -/

def Call.code : Call → Code
  | .enableSink _ => .ENABLE_SINK
  | .disableSink _ => .DISABLE_SINK
  | .enableSource _ _ => .ENABLE_SOURCE
  | .disableSource _ _ => .DISABLE_SOURCE

def Call.networkId : Call → Option String
  | .enableSource networkId _ => some networkId
  | .disableSource networkId _ => some networkId
  | _ => none

def Call.descriptors : Call → List DHDescriptor
  | .enableSink descriptors => descriptors
  | .disableSink descriptors => descriptors
  | .enableSource _ descriptors => descriptors
  | .disableSource _ descriptors => descriptors

def DHDescriptor.values (d : DHDescriptor) : List Value :=
  [⟨.int32, d.dhType.toInt32⟩, ⟨.string, d.id⟩, ⟨.string, d.customParams⟩,
    ⟨.uint32, d.firstCallingTokenId⟩]

def listValues (descriptors : List DHDescriptor) : List Value :=
  ⟨.int32, Int32.ofNat descriptors.length⟩ :: descriptors.flatMap DHDescriptor.values

def networkIdValues (networkId : Option String) : List Value :=
  (networkId.map fun id => (⟨.string, id⟩ : Value)).toList

/-- The parcel encodes the call, whose list is not too long. -/
structure Encodes (values : P → List Value) (token : String) (data : P) (call : Call) : Prop where
  size : call.descriptors.length ≤ MAX_DH_DESCRIPTOR_ARRAY_SIZE.toNat
  values_eq : values data =
    ⟨.token, token⟩ :: (networkIdValues call.networkId ++ listValues call.descriptors)

/-- An encoding makes the stub run exactly its call, if the caller is served ; any other parcel is
answered with an error, and nothing is run. -/
structure Intact (values : P → List Value) (stub : Stub) (code : Code) (data : P) : Prop where
  runs : ∀ call : Call, call.code = code → Encodes values stub.GetDescriptor data call →
    stub.Serves ops data → (stub.onRemoteRequest ops code data).ran = [call]
  rejects : (¬∃ call : Call, call.code = code ∧ Encodes values stub.GetDescriptor data call) →
    (stub.onRemoteRequest ops code data).ran = [] ∧
      (stub.onRemoteRequest ops code data).ret ≠ DH_FWK_SUCCESS

section Proofs

variable {ops} {values : P → List Value} {data data' : P} {descriptors : List DHDescriptor}

theorem write_values (h : Lawful ops values) {k : Kind} {v : k.Val} {err : Int}
    (hw : write ops k v err data = .ok data') : values data' = values data ++ [⟨k, v⟩] := by
  unfold write at hw
  split at hw
  · next hsome =>
    obtain rfl := Except.ok.inj hw
    exact h.values_write hsome
  · cases hw

theorem writes_descriptor (h : Lawful ops values) :
    Writes values (writeDescriptor ops) DHDescriptor.values := by
  intro data data' d hw
  obtain ⟨q, h1, hw⟩ := bind_eq_ok.1 hw
  obtain ⟨r, h2, hw⟩ := bind_eq_ok.1 hw
  obtain ⟨t, h3, h4⟩ := bind_eq_ok.1 hw
  rw [write_values h h4, write_values h h3, write_values h h2, write_values h h1]
  simp [DHDescriptor.values]

theorem reads_descriptor (h : Lawful ops values) :
    Reads values (readDescriptor ops) DHDescriptor.values := by
  intro data d rest hd
  obtain ⟨h1, hd⟩ := h.read_cons hd
  obtain ⟨h2, hd⟩ := h.read_cons hd
  obtain ⟨h3, hd⟩ := h.read_cons hd
  obtain ⟨h4, hd⟩ := h.read_cons hd
  refine ⟨?_, hd⟩
  simp only [readDescriptor, h1, h2, h3, h4]
  rfl

/-- The number of a list that is not too long. -/
theorem toInt_size (hsize : descriptors.length ≤ MAX_DH_DESCRIPTOR_ARRAY_SIZE.toNat) :
    (Int32.ofNat descriptors.length).toInt = descriptors.length :=
  Int32.toInt_ofNat_of_lt (hsize.trans_lt (by decide))

theorem not_lt_size (hsize : descriptors.length ≤ MAX_DH_DESCRIPTOR_ARRAY_SIZE.toNat) :
    ¬MAX_DH_DESCRIPTOR_ARRAY_SIZE.toInt32 < Int32.ofNat descriptors.length := by
  rw [Int32.lt_iff_toInt_lt, toInt_size hsize]
  have hmax : MAX_DH_DESCRIPTOR_ARRAY_SIZE.toInt32.toInt = 4096 := by decide
  have hlength : descriptors.length ≤ 4096 := hsize
  omega

theorem values_writeDescriptors (h : Lawful ops values)
    (hsize : descriptors.length ≤ MAX_DH_DESCRIPTOR_ARRAY_SIZE.toNat)
    (hw : writeDescriptors ops data descriptors = .ok data') :
    values data' = values data ++ listValues descriptors := by
  unfold writeDescriptors at hw
  rw [if_neg (not_lt_size hsize), toInt_size hsize, Int.toNat_natCast, List.take_length] at hw
  obtain ⟨q, h1, hw⟩ := bind_eq_ok.1 hw
  rw [Writes.foldlM (writes_descriptor h) hw, write_values h h1, List.append_assoc]
  rfl

theorem readDescriptors_eq (h : Lawful ops values)
    (hsize : descriptors.length ≤ MAX_DH_DESCRIPTOR_ARRAY_SIZE.toNat)
    (hd : values data = listValues descriptors) :
    readDescriptors ops data = (NO_ERROR, descriptors) := by
  obtain ⟨h1, hrest⟩ := h.read_cons hd
  unfold readDescriptors
  dsimp only
  rw [h1, Option.getD_some, if_neg (not_lt_size hsize), toInt_size hsize, Int.toNat_natCast]
  rw [← List.append_nil (descriptors.flatMap _)] at hrest
  rw [(Reads.many (reads_descriptor h) hrest).1]

/-- The announced size is that of the list, and each of its descriptors takes four values. -/
theorem size_of_listValues {size : Int32} {rest : List Value}
    (hsize : descriptors.length ≤ MAX_DH_DESCRIPTOR_ARRAY_SIZE.toNat)
    (hd : (⟨.int32, size⟩ :: rest : List Value) = listValues descriptors) :
    size.toInt = descriptors.length ∧ rest.length = 4 * descriptors.length := by
  obtain ⟨hhead, rfl⟩ := List.cons.inj hd
  obtain rfl : size = Int32.ofNat descriptors.length := eq_of_heq (Sigma.mk.inj hhead).2
  refine ⟨toInt_size hsize, ?_⟩
  simp [List.length_flatMap, DHDescriptor.values, Nat.mul_comm]

/-! ## From the proxy to the stub -/

variable {proxy : Proxy} {stub : Stub} {code : Code} {call : Call}

/-- The parcel of a request. -/
theorem values_request (h : Lawful ops values) {networkId : Option String}
    (hsize : descriptors.length ≤ MAX_DH_DESCRIPTOR_ARRAY_SIZE.toNat)
    (hr : proxy.request ops networkId descriptors = .ok data) :
    values data = ⟨.token, proxy.GetDescriptor⟩ ::
      (networkIdValues networkId ++ listValues descriptors) := by
  unfold Proxy.request at hr
  split_ifs at hr
  obtain ⟨q, h1, hr⟩ := bind_eq_ok.1 hr
  obtain ⟨r, h2, hr⟩ := bind_eq_ok.1 hr
  have hr' : writeDescriptors ops r descriptors = .ok data := by
    split at hr
    · next hw =>
      rw [hw]
      exact hr
    · cases hr
  have hid : values r = values q ++ networkIdValues networkId := by
    cases networkId with
    | none =>
      obtain rfl := Except.ok.inj h2
      exact (List.append_nil _).symm
    | some id => exact write_values h h2
  rw [values_writeDescriptors h hsize hr', hid, write_values h h1, h.values_empty,
    List.append_assoc]
  rfl

/-- The parcel that the proxy sends for a call encodes it. -/
theorem encodes_of_proxy (h : Lawful ops values)
    (hsize : call.descriptors.length ≤ MAX_DH_DESCRIPTOR_ARRAY_SIZE.toNat)
    (hsend : proxy.send ops call = .ok (code, data)) :
    call.code = code ∧ Encodes values proxy.GetDescriptor data call := by
  have hrequest : ∀ {c : Code},
      (proxy.request ops call.networkId call.descriptors).map (c, ·) = .ok (code, data) →
        c = code ∧ Encodes values proxy.GetDescriptor data call := by
    intro c hc
    cases hr : proxy.request ops call.networkId call.descriptors with
    | error e =>
      rw [hr] at hc
      cases hc
    | ok q =>
      rw [hr] at hc
      obtain ⟨rfl, rfl⟩ := Prod.mk.inj (Except.ok.inj hc)
      exact ⟨rfl, hsize, values_request h hsize hr⟩
  cases call with
  | _ => exact hrequest hsend

theorem answer_ran (call : Call) : (stub.answer call).ran = [call] := by
  unfold Stub.answer
  split_ifs <;> rfl

theorem sinkInner_eq (haccess : stub.hasAccessDHPermission = true)
    (c : List DHDescriptor → Call) (data : P) :
    stub.sinkInner ops c data = stub.answer (c (readDescriptors ops data).2) :=
  if_neg (not_not.2 haccess)

theorem sourceInner_eq (haccess : stub.hasAccessDHPermission = true)
    (c : String → List DHDescriptor → Call) (data : P) :
    stub.sourceInner ops c data =
      stub.answer (c ((ops.read .string data).1.getD "")
        (readDescriptors ops (ops.read .string data).2).2) :=
  if_neg (not_not.2 haccess)

/-- What is run for a caller that is served. -/
theorem onRemoteRequest_of_serves (hs : stub.Serves ops data) (code : Code) :
    stub.onRemoteRequest ops code data =
      match code with
      | .ENABLE_SINK => stub.enableSinkInner ops (ops.read .token data).2
      | .DISABLE_SINK => stub.disableSinkInner ops (ops.read .token data).2
      | .ENABLE_SOURCE => stub.enableSourceInner ops (ops.read .token data).2
      | .DISABLE_SOURCE => stub.disableSourceInner ops (ops.read .token data).2 := by
  unfold Stub.onRemoteRequest
  dsimp only
  rw [if_neg (not_not.2 hs.1), if_neg (not_not.2 hs.2.1)]

/-- A caller that is served has a request run, whatever the parcel. -/
theorem ran_of_serves (hs : stub.Serves ops data) :
    (stub.onRemoteRequest ops code data).ran ≠ [] := by
  have hsink : ∀ c data, (stub.sinkInner ops c data).ran ≠ [] := fun c data => by
    rw [sinkInner_eq hs.2.2, answer_ran]
    exact List.cons_ne_nil _ _
  have hsource : ∀ c data, (stub.sourceInner ops c data).ran ≠ [] := fun c data => by
    rw [sourceInner_eq hs.2.2, answer_ran]
    exact List.cons_ne_nil _ _
  rw [onRemoteRequest_of_serves hs]
  cases code with
  | ENABLE_SINK | DISABLE_SINK => exact hsink _ _
  | ENABLE_SOURCE | DISABLE_SOURCE => exact hsource _ _

/-- Any other caller gets an error, and nothing is run. -/
theorem rejects_of_not_serves (hs : ¬stub.Serves ops data) :
    (stub.onRemoteRequest ops code data).ran = [] ∧
      (stub.onRemoteRequest ops code data).ret ≠ DH_FWK_SUCCESS := by
  unfold Stub.onRemoteRequest
  dsimp only
  by_cases htoken : (ops.read .token data).1.getD "" = stub.GetDescriptor
  swap
  · rw [if_pos htoken]
    exact ⟨rfl, stub.ERR_INVALID_DATA.2⟩
  rw [if_neg (not_not.2 htoken)]
  by_cases hlocal : stub.isLocalCalling = true
  swap
  · rw [if_pos hlocal]
    exact ⟨rfl, by decide⟩
  rw [if_neg (not_not.2 hlocal)]
  have haccess : ¬stub.hasAccessDHPermission = true := fun h => hs ⟨htoken, hlocal, h⟩
  have hsink : ∀ c data, (stub.sinkInner ops c data).ran = [] ∧
      (stub.sinkInner ops c data).ret ≠ DH_FWK_SUCCESS := fun c data => by
    rw [Stub.sinkInner, if_pos haccess]
    exact ⟨rfl, by decide⟩
  have hsource : ∀ c data, (stub.sourceInner ops c data).ran = [] ∧
      (stub.sourceInner ops c data).ret ≠ DH_FWK_SUCCESS := fun c data => by
    rw [Stub.sourceInner, if_pos haccess]
    exact ⟨rfl, by decide⟩
  cases code with
  | ENABLE_SINK | DISABLE_SINK => exact hsink _ _
  | ENABLE_SOURCE | DISABLE_SOURCE => exact hsource _ _

/-- An encoding is read as its call. -/
theorem ran_of_encodes (h : Lawful ops values) (hs : stub.Serves ops data)
    (he : Encodes values stub.GetDescriptor data call) :
    (stub.onRemoteRequest ops call.code data).ran = [call] := by
  obtain ⟨-, hrest⟩ := h.read_cons he.values_eq
  have hsink : ∀ {c ds}, ds.length ≤ MAX_DH_DESCRIPTOR_ARRAY_SIZE.toNat →
      values (ops.read .token data).2 = listValues ds →
      (stub.sinkInner ops c (ops.read .token data).2).ran = [c ds] := by
    intro c ds hsize hvalues
    rw [sinkInner_eq hs.2.2, readDescriptors_eq h hsize hvalues, answer_ran]
  have hsource : ∀ {c id ds}, ds.length ≤ MAX_DH_DESCRIPTOR_ARRAY_SIZE.toNat →
      values (ops.read .token data).2 = ⟨.string, id⟩ :: listValues ds →
      (stub.sourceInner ops c (ops.read .token data).2).ran = [c id ds] := by
    intro c id ds hsize hvalues
    obtain ⟨hid, hlist⟩ := h.read_cons hvalues
    rw [sourceInner_eq hs.2.2, readDescriptors_eq h hsize hlist, hid, answer_ran]
    rfl
  rw [onRemoteRequest_of_serves hs]
  cases call with
  | enableSink ds | disableSink ds => exact hsink he.size hrest
  | enableSource id ds | disableSource id ds => exact hsource he.size hrest

end Proofs

/-- **Lists of descriptors between processes.** -/
theorem descriptors_intact_iff {P : Type*} {ops : Ops P} {values : P → List Value}
    (h : Lawful ops values) (stub : Stub) :
    (∀ (proxy : Proxy) (call : Call), proxy.GetDescriptor = stub.GetDescriptor →
        call.descriptors.length ≤ MAX_DH_DESCRIPTOR_ARRAY_SIZE.toNat →
        ∀ code data, proxy.send ops call = .ok (code, data) → stub.Serves ops data →
          (stub.onRemoteRequest ops code data).ran = [call]) ∧
      ∀ code data, Intact ops values stub code data ↔
        ¬stub.Serves ops data ∨
          ∃ call : Call, call.code = code ∧ Encodes values stub.GetDescriptor data call := by
  constructor
  · rintro proxy call htoken hsize code data hsend hs
    obtain ⟨rfl, he⟩ := encodes_of_proxy h hsize hsend
    exact ran_of_encodes h hs (htoken ▸ he)
  · intro code data
    constructor
    · intro hintact
      by_contra hnot
      push Not at hnot
      refine ran_of_serves hnot.1 (hintact.rejects ?_).1
      rintro ⟨call, hcode, he⟩
      exact hnot.2 call hcode he
    · intro hor
      refine ⟨fun call hcode he hs => hcode ▸ ran_of_encodes h hs he, fun hnone => ?_⟩
      exact rejects_of_not_serves (hor.resolve_right hnone)

def someProxy : Proxy := { GetDescriptor := "hardware", remote := true }

def someStub : Stub where
  GetDescriptor := "hardware"
  isLocalCalling := true
  hasAccessDHPermission := true
  writable := true
  service _ := DH_FWK_SUCCESS
  ERR_INVALID_DATA := ⟨5, by decide⟩

def someDescriptor : DHDescriptor := ⟨"camera", 1, "", 7⟩

/-- One descriptor, for a device. -/
theorem descriptors_intact_one :
    (someStub.onRemoteRequest listOps .ENABLE_SOURCE
      (⟨.token, "hardware"⟩ :: ⟨.string, "A"⟩ :: listValues [someDescriptor])).ran =
        [.enableSource "A" [someDescriptor]] :=
  (descriptors_intact_iff lawful_listOps someStub).1 someProxy
    (.enableSource "A" [someDescriptor]) rfl (by decide) .ENABLE_SOURCE _ (by rfl)
    ⟨rfl, rfl, rfl⟩

/-- A size above the limit, a negative one, and one of two for a single descriptor : the stub runs
the request with an empty list, or with a second descriptor that nobody asked for, and answers that
all went well. -/
theorem descriptors_not_intact :
    ¬Intact listOps id someStub .ENABLE_SINK [⟨.token, "hardware"⟩, ⟨.int32, 4097⟩] ∧
      ¬Intact listOps id someStub .DISABLE_SINK [⟨.token, "hardware"⟩, ⟨.int32, -1⟩] ∧
      ¬Intact listOps id someStub .ENABLE_SOURCE
        (⟨.token, "hardware"⟩ :: ⟨.string, "A"⟩ :: ⟨.int32, 2⟩ :: someDescriptor.values) := by
  refine ⟨fun h => ?_, fun h => ?_, fun h => ?_⟩
  all_goals
    refine ran_of_serves ⟨rfl, rfl, rfl⟩ (h.rejects ?_).1
    rintro ⟨call, hcode, he⟩
  · cases call with
    | enableSink ds =>
      have hsize : (4097 : Int32).toInt = ds.length :=
        (size_of_listValues he.size (List.cons.inj he.values_eq).2).1
      have hmax : ds.length ≤ 4096 := he.size
      have hread : (4097 : Int32).toInt = 4097 := rfl
      omega
    | _ => cases hcode
  · cases call with
    | disableSink ds =>
      have hsize : (-1 : Int32).toInt = ds.length :=
        (size_of_listValues he.size (List.cons.inj he.values_eq).2).1
      have hread : (-1 : Int32).toInt = -1 := rfl
      omega
    | _ => cases hcode
  · cases call with
    | enableSource id ds =>
      obtain ⟨-, hlist⟩ := List.cons.inj (List.cons.inj he.values_eq).2
      obtain ⟨hsize, hlength⟩ := size_of_listValues he.size hlist
      have hread : (2 : Int32).toInt = 2 := rfl
      have hfour : someDescriptor.values.length = 4 := rfl
      omega
    | _ => cases hcode

end DescriptorIpc

end DHFwk
