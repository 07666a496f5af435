import DHFwk.DescriptorIpc
import DHFwk.SyncRequests

/-!
# What a client is told of descriptors

A client that asked for the descriptors of a device has its callback called from the service :
`GetDhDescriptorsCallbackProxy` writes the list into a parcel and `GetDhDescriptorsCallbackStub`
reads it. The client is told the list if it is not too long and fits into the parcel. Otherwise the
proxy gives up, and the client is told nothing. The stub does not look at what reading the list
answers, and tells its client about every list (`descriptors_answered_iff`).
-/

set_option linter.unusedSectionVars false

namespace DHFwk

open Parcel

namespace DescriptorCallback

open DescriptorIpc (Proxy write write_values MAX_DH_DESCRIPTOR_ARRAY_SIZE NO_ERROR
  ERR_DH_AVT_SERVICE_WRITE_INFO_FAIL)

abbrev ON_SUCCESS : UInt32 := 0
abbrev ON_ERROR : UInt32 := 1

abbrev DHDescriptor := DescriptorIpc.DHDescriptor

/-- The number of an `EnableStep`. -/
def enableStepCode : EnableStep → UInt32
  | .ENABLE_SOURCE => 1
  | .DISABLE_SOURCE => 2
  | .ENABLE_SINK => 3
  | .DISABLE_SINK => 4

/-- What is run at the client. The step may be any number. -/
inductive ClientCall
  | onSuccess (networkId : String) (descriptors : List DHDescriptor) (enableStep : UInt32)
  | onError (networkId : String) (error : Int32)
  deriving DecidableEq, Repr

variable {P : Type*} (ops : Ops P)

/-! ## The proxy -/

def writeDescriptor (data : P) (descriptor : DHDescriptor) : Except Int P := do
  let data ← write ops .uint32 descriptor.dhType ERR_DH_AVT_SERVICE_WRITE_INFO_FAIL data
  write ops .string descriptor.id ERR_DH_AVT_SERVICE_WRITE_INFO_FAIL data

/-- `WriteDescriptors`. -/
def writeDescriptors (data : P) (descriptors : List DHDescriptor) : Except Int P := do
  let size := UInt32.ofNat descriptors.length
  if MAX_DH_DESCRIPTOR_ARRAY_SIZE < size then .error ERR_DH_FWK_PARA_INVALID
  else
    let data ← write ops .uint32 size ERR_DH_AVT_SERVICE_WRITE_INFO_FAIL data
    (descriptors.take size.toNat).foldlM (writeDescriptor ops) data

section

variable (proxy : Proxy) (networkId : String)

/-- `OnSuccess`, up to the request that it sends, if it does not give up. -/
def onSuccess (descriptors : List DHDescriptor) (enableStep : EnableStep) : Option (UInt32 × P) :=
  if ¬proxy.remote then none
  else do
    let data ← ops.write .token proxy.GetDescriptor ops.empty
    let data ← ops.write .string networkId data
    let data ← (writeDescriptors ops data descriptors).toOption
    let data ← ops.write .uint32 (enableStepCode enableStep) data
    some (ON_SUCCESS, data)

/-- `OnError`. -/
def onError (error : Int32) : Option (UInt32 × P) :=
  if ¬proxy.remote then none
  else do
    let data ← ops.write .token proxy.GetDescriptor ops.empty
    let data ← ops.write .string networkId data
    let data ← ops.write .int32 error data
    some (ON_ERROR, data)

end

/-! ## The stub -/

/-- The token of the interface, an error code of the IPC library, and what it answers to the codes
that are not of this interface. -/
structure Stub where
  GetDescriptor : String
  ERR_INVALID_DATA : Int
  otherRequest : UInt32 → Int

def readDescriptor (data : P) : DHDescriptor × P :=
  let (dhType, data) := ops.read .uint32 data
  let (id, data) := ops.read .string data
  (⟨id.getD "", dhType.getD 0, "", 0⟩, data)

/-- `ReadDescriptors` : the code, the list, and the parcel behind it. -/
def readDescriptors (data : P) : Int × List DHDescriptor × P :=
  let (size, data) := ops.read .uint32 data
  let size := size.getD 0
  if MAX_DH_DESCRIPTOR_ARRAY_SIZE < size then (ERR_DH_FWK_PARA_INVALID, [], data)
  else (NO_ERROR, readMany (readDescriptor ops) size.toNat data)

/-- `OnRemoteRequest` : what is run at the client, and what is returned. The answer of
`ReadDescriptors` is not looked at. -/
def Stub.onRemoteRequest (stub : Stub) (code : UInt32) (data : P) : List ClientCall × Int :=
  let (token, data) := ops.read .token data
  if token.getD "" ≠ stub.GetDescriptor then ([], stub.ERR_INVALID_DATA)
  else if code = ON_SUCCESS then
    let (networkId, data) := ops.read .string data
    let (_, descriptors, data) := readDescriptors ops data
    let (enableStep, _) := ops.read .uint32 data
    ([.onSuccess (networkId.getD "") descriptors (enableStep.getD 0)], DH_FWK_SUCCESS)
  else if code = ON_ERROR then
    let (networkId, data) := ops.read .string data
    let (error, _) := ops.read .int32 data
    ([.onError (networkId.getD "") (error.getD 0)], DH_FWK_SUCCESS)
  else ([], stub.otherRequest code)

/-- What is run at the client for what a proxy sends, if anything. -/
def Stub.deliver (stub : Stub) : Option (UInt32 × P) → List ClientCall
  | none => []
  | some request => (stub.onRemoteRequest ops request.1 request.2).1

/-! ## What it is for -/

/-- The client is told once : the same descriptors with the same step, or an error. -/
def Answered (networkId : String) (descriptors : List DHDescriptor) (enableStep : EnableStep)
    (ran : List ClientCall) : Prop :=
  (∃ received, ran = [.onSuccess networkId received (enableStepCode enableStep)] ∧
    received.map (fun d => (d.id, d.dhType)) = descriptors.map fun d => (d.id, d.dhType)) ∨
  ∃ error, ran = [.onError networkId error]

/-- No list is given to the client. -/
def Withheld (ran : List ClientCall) : Prop :=
  ∀ networkId descriptors enableStep, .onSuccess networkId descriptors enableStep ∉ ran

def itemValues (d : DHDescriptor) : List Value := [⟨.uint32, d.dhType⟩, ⟨.string, d.id⟩]

/-- What is in the parcel of `OnSuccess`. -/
def message (token networkId : String) (size : UInt32) (descriptors : List DHDescriptor)
    (enableStep : EnableStep) : List Value :=
  ⟨.token, token⟩ :: ⟨.string, networkId⟩ :: ⟨.uint32, size⟩ ::
    (descriptors.flatMap itemValues ++ [⟨.uint32, enableStepCode enableStep⟩])

/-- All of the values can be written into one parcel. -/
def Fits (vs : List Value) : Prop := (ops.writeAll vs ops.empty).isSome

/-- The list in a parcel is announced too long, or ends before it was to. -/
def Malformed (values : P → List Value) (data : P) : Prop :=
  ∃ token networkId size rest,
    values data = ⟨.token, token⟩ :: ⟨.string, networkId⟩ :: ⟨.uint32, size⟩ :: rest ∧
      (MAX_DH_DESCRIPTOR_ARRAY_SIZE < size ∨
        ¬∃ (descriptors : List DHDescriptor) (tail : List Value),
          descriptors.length = size.toNat ∧ rest = descriptors.flatMap itemValues ++ tail)

/-! ## The proxy, value by value -/

section Proofs

variable {ops} {values : P → List Value} {data data' : P} {descriptors : List DHDescriptor}
variable {proxy : Proxy} {stub : Stub} {networkId : String} {enableStep : EnableStep}

theorem toOption_write (k : Kind) (v : k.Val) (err : Int) (data : P) :
    (write ops k v err data).toOption = ops.write k v data := by
  unfold DescriptorIpc.write
  cases ops.write k v data with
  | none => rfl
  | some data => rfl

theorem toOption_bind {α β : Type _} (x : Except Int α) (f : α → Except Int β) :
    (x >>= f).toOption = x.toOption.bind fun a => (f a).toOption := by
  cases x with
  | error e => rfl
  | ok a => rfl

theorem toOption_writeDescriptor (data : P) (d : DHDescriptor) :
    (writeDescriptor ops data d).toOption = ops.writeAll (itemValues d) data := by
  rw [writeDescriptor, toOption_bind, toOption_write, itemValues, Ops.writeAll_cons]
  refine congrArg _ (funext fun q => ?_)
  rw [toOption_write, Ops.writeAll_singleton]

theorem toOption_foldlM : ∀ (descriptors : List DHDescriptor) (data : P),
    (descriptors.foldlM (writeDescriptor ops) data).toOption =
      ops.writeAll (descriptors.flatMap itemValues) data
  | [], _ => rfl
  | d :: descriptors, data => by
    rw [List.foldlM_cons, toOption_bind, toOption_writeDescriptor, List.flatMap_cons,
      Ops.writeAll_append]
    exact congrArg _ (funext fun q => toOption_foldlM descriptors q)

theorem toOption_writeDescriptors (data : P) :
    (writeDescriptors ops data descriptors).toOption =
      if MAX_DH_DESCRIPTOR_ARRAY_SIZE < UInt32.ofNat descriptors.length then none
      else ops.writeAll (⟨.uint32, UInt32.ofNat descriptors.length⟩ ::
        (descriptors.take (UInt32.ofNat descriptors.length).toNat).flatMap itemValues) data := by
  unfold writeDescriptors
  dsimp only
  split_ifs with hsize
  · rfl
  · rw [toOption_bind, toOption_write, Ops.writeAll_cons]
    exact congrArg _ (funext fun q => toOption_foldlM _ q)

/-- A request is sent if its list is not too long, by its size in 32 bits, and all of it fits. -/
theorem onSuccess_eq (hremote : proxy.remote = true) :
    onSuccess ops proxy networkId descriptors enableStep =
      if MAX_DH_DESCRIPTOR_ARRAY_SIZE < UInt32.ofNat descriptors.length then none
      else (ops.writeAll (message proxy.GetDescriptor networkId (UInt32.ofNat descriptors.length)
        (descriptors.take (UInt32.ofNat descriptors.length).toNat) enableStep) ops.empty).map
          (ON_SUCCESS, ·) := by
  unfold onSuccess
  rw [if_neg (not_not.2 hremote)]
  simp only [toOption_writeDescriptors]
  split_ifs with hsize
  · simp
  · rw [message, Ops.writeAll_cons, Option.map_bind]
    refine congrArg _ (funext fun data => ?_)
    rw [Function.comp_apply, Ops.writeAll_cons, Option.map_bind]
    refine congrArg _ (funext fun data => ?_)
    rw [Function.comp_apply, ← List.cons_append, Ops.writeAll_append, Option.map_bind]
    refine congrArg _ (funext fun data => ?_)
    rw [Function.comp_apply, Ops.writeAll_singleton]
    exact Option.map_eq_bind.symm

/-- An error is sent if it fits. -/
theorem onError_eq (hremote : proxy.remote = true) (error : Int32) :
    onError ops proxy networkId error =
      (ops.writeAll [⟨.token, proxy.GetDescriptor⟩, ⟨.string, networkId⟩, ⟨.int32, error⟩]
        ops.empty).map (ON_ERROR, ·) := by
  unfold onError
  rw [if_neg (not_not.2 hremote), Ops.writeAll_cons, Option.map_bind]
  refine congrArg _ (funext fun data => ?_)
  rw [Function.comp_apply, Ops.writeAll_cons, Option.map_bind]
  refine congrArg _ (funext fun data => ?_)
  rw [Function.comp_apply, Ops.writeAll_singleton]
  exact Option.map_eq_bind.symm

/-! ## The stub, value by value -/

/-- A descriptor as the client has it. -/
def received (d : DHDescriptor) : DHDescriptor := ⟨d.id, d.dhType, "", 0⟩

theorem readMany_eq (h : Lawful ops values) :
    ∀ (descriptors : List DHDescriptor) {data : P} {rest : List Value},
      values data = descriptors.flatMap itemValues ++ rest →
        (readMany (readDescriptor ops) descriptors.length data).1 = descriptors.map received ∧
          values (readMany (readDescriptor ops) descriptors.length data).2 = rest
  | [], _, _, hd => ⟨rfl, hd⟩
  | d :: descriptors, data, rest, hd => by
    rw [List.flatMap_cons, List.append_assoc] at hd
    obtain ⟨htype, hd⟩ := h.read_cons hd
    obtain ⟨hid, hd⟩ := h.read_cons hd
    have hone : (readDescriptor ops data).1 = received d := by
      simp only [readDescriptor, htype, hid]
      rfl
    obtain ⟨hmany, hrest⟩ := readMany_eq h descriptors hd
    exact ⟨congrArg₂ List.cons hone hmany, hrest⟩

/-- A list that is not too long is read as it is. -/
theorem readDescriptors_eq (h : Lawful ops values) {size : UInt32} {rest : List Value}
    (hmax : ¬MAX_DH_DESCRIPTOR_ARRAY_SIZE < size) (hsize : descriptors.length = size.toNat)
    (hd : values data = ⟨.uint32, size⟩ :: (descriptors.flatMap itemValues ++ rest)) :
    (readDescriptors ops data).2.1 = descriptors.map received ∧
      values (readDescriptors ops data).2.2 = rest := by
  obtain ⟨hread, hd⟩ := h.read_cons hd
  unfold readDescriptors
  dsimp only
  rw [hread, Option.getD_some, if_neg hmax, ← hsize]
  exact readMany_eq h descriptors hd

/-- A message of a proxy makes the client run `OnSuccess`, with the list that is in it. -/
theorem ran_of_message (h : Lawful ops values) {size : UInt32}
    (hmax : ¬MAX_DH_DESCRIPTOR_ARRAY_SIZE < size) (hsize : descriptors.length = size.toNat)
    (hd : values data = message stub.GetDescriptor networkId size descriptors enableStep) :
    (stub.onRemoteRequest ops ON_SUCCESS data).1 =
      [.onSuccess networkId (descriptors.map received) (enableStepCode enableStep)] := by
  obtain ⟨htoken, hd⟩ := h.read_cons hd
  obtain ⟨hid, hd⟩ := h.read_cons hd
  obtain ⟨hlist, hrest⟩ := readDescriptors_eq h hmax hsize hd
  obtain ⟨hstep, -⟩ := h.read_cons hrest
  unfold Stub.onRemoteRequest
  dsimp only
  rw [if_neg (not_not.2 (by rw [htoken]; rfl)), if_pos rfl, hid, hlist, hstep]
  rfl

/-- An error reaches the client if it fits. -/
theorem deliver_onError (h : Lawful ops values) (hremote : proxy.remote = true)
    (htoken : proxy.GetDescriptor = stub.GetDescriptor) {error : Int32}
    (hfits : Fits ops [⟨.token, proxy.GetDescriptor⟩, ⟨.string, networkId⟩, ⟨.int32, error⟩]) :
    stub.deliver ops (onError ops proxy networkId error) = [.onError networkId error] := by
  obtain ⟨data, hdata⟩ := Option.isSome_iff_exists.1 hfits
  rw [onError_eq hremote, hdata]
  have hvalues := h.values_writeAll hdata
  rw [h.values_empty, htoken] at hvalues
  obtain ⟨hread, hvalues⟩ := h.read_cons hvalues
  obtain ⟨hid, hvalues⟩ := h.read_cons hvalues
  obtain ⟨herror, -⟩ := h.read_cons hvalues
  change (stub.onRemoteRequest ops ON_ERROR data).1 = _
  unfold Stub.onRemoteRequest
  dsimp only
  rw [if_neg (not_not.2 (by rw [hread]; rfl)), if_neg (by decide), if_pos rfl, hid, herror]
  rfl

/-- Lists are given to the client for every parcel with the token and the code, and for no
other. -/
theorem withheld_iff (code : UInt32) (data : P) :
    Withheld (stub.onRemoteRequest ops code data).1 ↔
      (ops.read .token data).1.getD "" ≠ stub.GetDescriptor ∨ code ≠ ON_SUCCESS := by
  unfold Stub.onRemoteRequest
  dsimp only
  split_ifs with htoken hcode herror
  · exact iff_of_true (fun _ _ _ h => absurd h List.not_mem_nil) (.inl htoken)
  · refine iff_of_false (fun h => h _ _ _ (List.mem_singleton_self _)) ?_
    rintro (htoken' | hcode')
    · exact htoken htoken'
    · exact hcode' hcode
  · refine iff_of_true (fun _ _ _ h => ?_) (.inr hcode)
    exact ClientCall.noConfusion (List.mem_singleton.1 h)
  · exact iff_of_true (fun _ _ _ h => absurd h List.not_mem_nil) (.inr hcode)

theorem Answered.ne_nil {ran : List ClientCall} (h : Answered networkId descriptors enableStep ran) :
    ran ≠ [] := by
  rcases h with ⟨received, rfl, -⟩ | ⟨error, rfl⟩
  · exact List.cons_ne_nil _ _
  · exact List.cons_ne_nil _ _

/-- The list that the client has is the one that was sent, if it was sent as a whole. -/
theorem answered_take_iff {n : ℕ} :
    Answered networkId descriptors enableStep
      [.onSuccess networkId ((descriptors.take n).map received) (enableStepCode enableStep)] ↔
        descriptors.length ≤ n := by
  constructor
  · rintro (⟨received', hran, hitems⟩ | ⟨error, hran⟩)
    · obtain ⟨-, rfl, -⟩ := ClientCall.onSuccess.inj (List.singleton_injective hran)
      have hlength := congrArg List.length hitems
      simp only [List.length_map, List.length_take] at hlength
      omega
    · exact ClientCall.noConfusion (List.singleton_injective hran)
  · intro hn
    refine .inl ⟨_, rfl, ?_⟩
    rw [List.take_of_length_le hn, List.map_map]
    rfl

theorem toNat_size (hsize : descriptors.length ≤ MAX_DH_DESCRIPTOR_ARRAY_SIZE.toNat) :
    (UInt32.ofNat descriptors.length).toNat = descriptors.length :=
  UInt32.toNat_ofNat_of_lt' (hsize.trans_lt (by decide))

/-- What the client is told, if the request fits. -/
theorem deliver_onSuccess_iff (h : Lawful ops values) (hremote : proxy.remote = true)
    (htoken : proxy.GetDescriptor = stub.GetDescriptor) :
    Answered networkId descriptors enableStep
        (stub.deliver ops (onSuccess ops proxy networkId descriptors enableStep)) ↔
      descriptors.length ≤ MAX_DH_DESCRIPTOR_ARRAY_SIZE.toNat ∧
        Fits ops (message proxy.GetDescriptor networkId (UInt32.ofNat descriptors.length)
          descriptors enableStep) := by
  rw [onSuccess_eq hremote]
  split_ifs with hmax
  · refine iff_of_false (fun hanswered => hanswered.ne_nil rfl) fun hsize => ?_
    have hle := UInt32.lt_iff_toNat_lt.1 hmax
    rw [toNat_size hsize.1] at hle
    exact absurd hsize.1 hle.not_ge
  · have hle : (UInt32.ofNat descriptors.length).toNat ≤ MAX_DH_DESCRIPTOR_ARRAY_SIZE.toNat :=
      not_lt.1 fun hlt => hmax (UInt32.lt_iff_toNat_lt.2 hlt)
    cases hdata : ops.writeAll (message proxy.GetDescriptor networkId
        (UInt32.ofNat descriptors.length)
        (descriptors.take (UInt32.ofNat descriptors.length).toNat) enableStep) ops.empty with
    | none =>
      refine iff_of_false (fun hanswered => hanswered.ne_nil rfl) fun ⟨hsize, hfits⟩ => ?_
      rw [toNat_size hsize, List.take_length] at hdata
      rw [Fits, hdata] at hfits
      exact Bool.noConfusion hfits
    | some data =>
      have hvalues := h.values_writeAll hdata
      rw [h.values_empty, List.nil_append, htoken] at hvalues
      have hlength : (descriptors.take (UInt32.ofNat descriptors.length).toNat).length =
          (UInt32.ofNat descriptors.length).toNat := by
        rw [List.length_take, UInt32.toNat_ofNat']
        exact min_eq_left (Nat.mod_le _ _)
      have hran := ran_of_message h hmax hlength hvalues
      rw [Option.map_some, Stub.deliver, hran, answered_take_iff]
      constructor
      · intro hwhole
        have hsize := hwhole.trans hle
        rw [toNat_size hsize, List.take_length] at hdata
        exact ⟨hsize, by rw [Fits, hdata]; rfl⟩
      · intro hsize
        exact (toNat_size hsize.1).ge

end Proofs

/-- **Descriptors for a client.** -/
theorem descriptors_answered_iff {P : Type*} {ops : Ops P} {values : P → List Value}
    (h : Lawful ops values) (stub : Stub) :
    (∀ (proxy : Proxy) (networkId : String) (descriptors : List DHDescriptor)
        (enableStep : EnableStep), proxy.remote = true → proxy.GetDescriptor = stub.GetDescriptor →
        (Answered networkId descriptors enableStep
            (stub.deliver ops (onSuccess ops proxy networkId descriptors enableStep)) ↔
          descriptors.length ≤ MAX_DH_DESCRIPTOR_ARRAY_SIZE.toNat ∧
            Fits ops (message proxy.GetDescriptor networkId (UInt32.ofNat descriptors.length)
              descriptors enableStep))) ∧
      ∀ (code : UInt32) (data : P),
        (Malformed values data → Withheld (stub.onRemoteRequest ops code data).1) ↔
          ¬Malformed values data ∨ (ops.read .token data).1.getD "" ≠ stub.GetDescriptor ∨
            code ≠ ON_SUCCESS := by
  constructor
  · intro proxy networkId descriptors enableStep hremote htoken
    exact deliver_onSuccess_iff h hremote htoken
  · intro code data
    rw [withheld_iff, imp_iff_not_or]

def clientProxy : Proxy := ⟨"callback", true⟩

def clientStub : Stub := ⟨"callback", 5, fun _ => 305⟩

def audioDescriptor : DHDescriptor := ⟨"audio", 2, "", 0⟩

/-- One descriptor is told. -/
theorem descriptors_answered_one :
    Answered "A" [audioDescriptor] .ENABLE_SINK
      (clientStub.deliver listOps (onSuccess listOps clientProxy "A" [audioDescriptor]
        .ENABLE_SINK)) :=
  ((descriptors_answered_iff lawful_listOps clientStub).1 clientProxy "A" [audioDescriptor]
    .ENABLE_SINK rfl rfl).2 ⟨by decide, by rfl⟩

/-- 4097 descriptors are not told to the client, and it hears of no error. It is told of a list that
is announced with 4097 descriptors, as an empty one. -/
theorem descriptors_not_answered :
    (¬∀ descriptors : List DHDescriptor, Answered "A" descriptors .ENABLE_SOURCE
      (clientStub.deliver listOps (onSuccess listOps clientProxy "A" descriptors
        .ENABLE_SOURCE))) ∧
      ¬∀ data : List Value, Malformed id data →
        Withheld (clientStub.onRemoteRequest listOps ON_SUCCESS data).1 := by
  constructor
  · intro h
    have hsize : (List.replicate 4097 audioDescriptor).length ≤ 4096 :=
      ((deliver_onSuccess_iff lawful_listOps rfl rfl).1 (h (List.replicate 4097 audioDescriptor))).1
    rw [List.length_replicate] at hsize
    omega
  · intro h
    have hlong : Malformed id
        [⟨.token, "callback"⟩, ⟨.string, "A"⟩, ⟨.uint32, 4097⟩, ⟨.uint32, 1⟩] :=
      ⟨"callback", "A", 4097, [⟨.uint32, 1⟩], rfl, .inl (by decide)⟩
    exact h _ hlong "A" [] 1 (List.mem_singleton_self _)

end DescriptorCallback

end DHFwk
