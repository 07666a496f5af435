import DHFwk.RemoteCalls

/-!
# Calls of listeners in other processes

What happens to hardware, what is published and what a user has granted is told to listeners of
other processes, over an interface for each. The proxy of a listener writes the arguments of a
method into a parcel and sends it under the number of the method. The stub in the other process
reads them back and calls the listener. The methods return nothing : what is not sent, or is lost,
is only logged.

Of a descriptor only the type and the id are sent (`Callback.received`). What a listener is called
with over a run is what was told to it, in that order, less what is not sent or does not arrive,
and whatever comes from anyone else calls a method of its own interface, with arguments that its
proxy would have taken for a message too (`listeners_hear`).
-/

set_option linter.unusedSectionVars false

namespace DHFwk

open Wire

namespace ListenerCalls

abbrev DHDescriptor := DescriptorIpc.DHDescriptor

/-! ## Parcels -/

/-- What the parcels of listeners hold. -/
inductive Kind
  | token | uint16 | uint32 | string
  deriving DecidableEq, Repr

abbrev Kind.Val : Kind → Type
  | .token => String
  | .uint16 => UInt16
  | .uint32 => UInt32
  | .string => String

abbrev Parcel := List (Item Kind.Val)

/-- What is read of an empty parcel. -/
def Kind.unread : (k : Kind) → Kind.Val k
  | .token => ""
  | .uint16 => 0
  | .uint32 => 0
  | .string => ""

def ofUint16 (v : UInt16) : Item Kind.Val := ⟨.uint16, v⟩

def ofUint32 (v : UInt32) : Item Kind.Val := ⟨.uint32, v⟩

def ofString (v : String) : Item Kind.Val := ⟨.string, v⟩

/-! ## Interfaces -/

inductive Interface
  | IHDSinkStatusListener | IHDSourceStatusListener | IPublisherListener | IAccessListener
  | IAuthorizationResultCallback
  deriving DecidableEq, Repr

def Interface.GetDescriptor : Interface → String
  | .IHDSinkStatusListener =>
    "ohos.DistributedHardware.DistributedHardwareFwk.IHDSinkStatusListener"
  | .IHDSourceStatusListener =>
    "ohos.DistributedHardware.DistributedHardwareFwk.IHDSourceStatusListener"
  | .IPublisherListener => "ohos.DistributedHardware.DistributedHardwareFwk.IPublisherListener"
  | .IAccessListener => "ohos.DistributedHardware.DistributedHardwareFwk.IAccessListener"
  | .IAuthorizationResultCallback =>
    "ohos.DistributedHardware.DistributedHardwareFwk.IAuthorizationResultCallback"

abbrev ON_ENABLE : UInt32 := 0
abbrev ON_DISABLE : UInt32 := 1
abbrev ON_MESSAGE : UInt32 := 0
abbrev ON_REQUEST_HARDWARE_ACCESS : UInt32 := 0
abbrev ON_AUTHORIZATION_RESULT : UInt32 := 0

theorem ON_DISABLE_ne : ON_DISABLE ≠ ON_ENABLE := by decide

structure AuthDeviceInfo where
  networkId : String
  deviceName : String
  deviceType : UInt16
  deriving DecidableEq, Repr

/-- The methods of the listeners. -/
inductive Callback
  | sinkOnEnable (dhDescriptor : DHDescriptor)
  | sinkOnDisable (dhDescriptor : DHDescriptor)
  | sourceOnEnable (networkId : String) (dhDescriptor : DHDescriptor)
  | sourceOnDisable (networkId : String) (dhDescriptor : DHDescriptor)
  | onMessage (topic : UInt32) (message : String)
  | onRequestHardwareAccess (requestId : String) (info : AuthDeviceInfo) (dhType : UInt32)
      (pkgName : String)
  | onAuthorizationResult (networkId requestId : String)
  deriving DecidableEq, Repr

def Callback.interface : Callback → Interface
  | .sinkOnEnable _ => .IHDSinkStatusListener
  | .sinkOnDisable _ => .IHDSinkStatusListener
  | .sourceOnEnable .. => .IHDSourceStatusListener
  | .sourceOnDisable .. => .IHDSourceStatusListener
  | .onMessage .. => .IPublisherListener
  | .onRequestHardwareAccess .. => .IAccessListener
  | .onAuthorizationResult .. => .IAuthorizationResultCallback

/-! ## The proxies -/

/-- The proxy of a listener. `remote` says whether there is a remote object. -/
structure Proxy where
  remote : Bool
  /-- Whether a value still fits into the parcel. -/
  fits : Parcel → Item Kind.Val → Bool

/-- What `SendRequest` is called with. -/
structure Message where
  code : UInt32
  data : Parcel

namespace Proxy

variable (proxy : Proxy)

/-- The body of the methods : nothing is sent if a check fails or a value does not fit. -/
def message (interface : Interface) (checks : List Bool) (args : List (Item Kind.Val))
    (code : UInt32) : Option Message :=
  if ¬checks.all id then none
  else
    match writeItems proxy.fits
        (((⟨.token, interface.GetDescriptor⟩ : Item Kind.Val) :: args).map (·, ())) [] with
    | .ok data => some { code, data }
    | .error _ => none

def sinkOnEnable (dhDescriptor : DHDescriptor) : Option Message :=
  proxy.message .IHDSinkStatusListener [proxy.remote]
    [ofUint32 dhDescriptor.dhType, ofString dhDescriptor.id] ON_ENABLE

def sinkOnDisable (dhDescriptor : DHDescriptor) : Option Message :=
  proxy.message .IHDSinkStatusListener [proxy.remote]
    [ofUint32 dhDescriptor.dhType, ofString dhDescriptor.id] ON_DISABLE

def sourceOnEnable (networkId : String) (dhDescriptor : DHDescriptor) : Option Message :=
  proxy.message .IHDSourceStatusListener [isIdLengthValid networkId, proxy.remote]
    [ofString networkId, ofUint32 dhDescriptor.dhType, ofString dhDescriptor.id] ON_ENABLE

def sourceOnDisable (networkId : String) (dhDescriptor : DHDescriptor) : Option Message :=
  proxy.message .IHDSourceStatusListener [isIdLengthValid networkId, proxy.remote]
    [ofString networkId, ofUint32 dhDescriptor.dhType, ofString dhDescriptor.id] ON_DISABLE

def onMessage (topic : UInt32) (message : String) : Option Message :=
  proxy.message .IPublisherListener
    [proxy.remote, Remote.validTopic topic, isMessageLengthValid message]
    [ofUint32 topic, ofString message] ON_MESSAGE

/-- `WriteDeviceInfo`. -/
def deviceInfo (info : AuthDeviceInfo) : List (Item Kind.Val) :=
  [ofString info.networkId, ofString info.deviceName, ofUint16 info.deviceType]

def onRequestHardwareAccess (requestId : String) (info : AuthDeviceInfo) (dhType : UInt32)
    (pkgName : String) : Option Message :=
  proxy.message .IAccessListener [proxy.remote]
    (ofString requestId :: deviceInfo info ++ [ofUint32 dhType, ofString pkgName])
    ON_REQUEST_HARDWARE_ACCESS

def onAuthorizationResult (networkId requestId : String) : Option Message :=
  proxy.message .IAuthorizationResultCallback [proxy.remote]
    [ofString networkId, ofString requestId] ON_AUTHORIZATION_RESULT

def prepare : Callback → Option Message
  | .sinkOnEnable dhDescriptor => proxy.sinkOnEnable dhDescriptor
  | .sinkOnDisable dhDescriptor => proxy.sinkOnDisable dhDescriptor
  | .sourceOnEnable networkId dhDescriptor => proxy.sourceOnEnable networkId dhDescriptor
  | .sourceOnDisable networkId dhDescriptor => proxy.sourceOnDisable networkId dhDescriptor
  | .onMessage topic message => proxy.onMessage topic message
  | .onRequestHardwareAccess requestId info dhType pkgName =>
    proxy.onRequestHardwareAccess requestId info dhType pkgName
  | .onAuthorizationResult networkId requestId => proxy.onAuthorizationResult networkId requestId

end Proxy

/-! ## The stubs -/

/-- The stub of a listener, and the parcels of the IPC library. -/
structure Stub where
  reading : Reading Kind.Val
  ERR_INVALID_DATA : { code : Int // code ≠ DH_FWK_SUCCESS }
  /-- `IPCObjectStub::OnRemoteRequest`. -/
  otherRequest : UInt32 → Parcel → Int

namespace Stub

variable (stub : Stub)

def readToken (data : Parcel) : String × Parcel := stub.reading.read .token data

def readUint16 (data : Parcel) : UInt16 × Parcel := stub.reading.read .uint16 data

def readUint32 (data : Parcel) : UInt32 × Parcel := stub.reading.read .uint32 data

def readString (data : Parcel) : String × Parcel := stub.reading.read .string data

/-- The type and the id of a descriptor. -/
def readDescriptor (data : Parcel) : DHDescriptor × Parcel :=
  let (dhType, data) := stub.readUint32 data
  let (id, data) := stub.readString data
  (⟨id, dhType, "", 0⟩, data)

/-- `HDSinkStatusListenerStub`. What `OnRemoteRequest` of a stub gives is what it returns, and the
method of the listener that it calls, if any. -/
def sinkRequest (code : UInt32) (data : Parcel) : Int × Option Callback :=
  let (dhDescriptor, data) := stub.readDescriptor data
  if code = ON_ENABLE then (DH_FWK_SUCCESS, some (.sinkOnEnable dhDescriptor))
  else if code = ON_DISABLE then (DH_FWK_SUCCESS, some (.sinkOnDisable dhDescriptor))
  else (stub.otherRequest code data, none)

/-- `HDSourceStatusListenerStub`. -/
def sourceRequest (code : UInt32) (data : Parcel) : Int × Option Callback :=
  let (networkId, data) := stub.readString data
  let (dhDescriptor, data) := stub.readDescriptor data
  if code = ON_ENABLE then (DH_FWK_SUCCESS, some (.sourceOnEnable networkId dhDescriptor))
  else if code = ON_DISABLE then (DH_FWK_SUCCESS, some (.sourceOnDisable networkId dhDescriptor))
  else (stub.otherRequest code data, none)

/-- `PublisherListenerStub`. -/
def publisherRequest (code : UInt32) (data : Parcel) : Int × Option Callback :=
  if code = ON_MESSAGE then
    let (topic, data) := stub.readUint32 data
    if ¬Remote.validTopic topic then (stub.ERR_INVALID_DATA, none)
    else
      let (message, _) := stub.readString data
      if message = "" ∨ message.utf8ByteSize > MAX_MESSAGE_LEN then (stub.ERR_INVALID_DATA, none)
      else (DH_FWK_SUCCESS, some (.onMessage topic message))
  else (stub.otherRequest code data, none)

def readDeviceInfo (data : Parcel) : AuthDeviceInfo × Parcel :=
  let (networkId, data) := stub.readString data
  let (deviceName, data) := stub.readString data
  let (deviceType, data) := stub.readUint16 data
  (⟨networkId, deviceName, deviceType⟩, data)

/-- `AccessListenerStub`. -/
def accessRequest (code : UInt32) (data : Parcel) : Int × Option Callback :=
  if code = ON_REQUEST_HARDWARE_ACCESS then
    let (requestId, data) := stub.readString data
    let (info, data) := stub.readDeviceInfo data
    let (dhType, data) := stub.readUint32 data
    let (pkgName, _) := stub.readString data
    (DH_FWK_SUCCESS, some (.onRequestHardwareAccess requestId info dhType pkgName))
  else (stub.otherRequest code data, none)

/-- `AuthorizationResultCallbackStub`. -/
def authorizationRequest (code : UInt32) (data : Parcel) : Int × Option Callback :=
  if code = ON_AUTHORIZATION_RESULT then
    let (networkId, data) := stub.readString data
    let (requestId, _) := stub.readString data
    (DH_FWK_SUCCESS, some (.onAuthorizationResult networkId requestId))
  else (stub.otherRequest code data, none)

def request : Interface → UInt32 → Parcel → Int × Option Callback
  | .IHDSinkStatusListener => stub.sinkRequest
  | .IHDSourceStatusListener => stub.sourceRequest
  | .IPublisherListener => stub.publisherRequest
  | .IAccessListener => stub.accessRequest
  | .IAuthorizationResultCallback => stub.authorizationRequest

/-- `OnRemoteRequest` of the stub of an interface. -/
def onRemoteRequest (interface : Interface) (code : UInt32) (data : Parcel) :
    Int × Option Callback :=
  let (token, data) := stub.readToken data
  if token ≠ interface.GetDescriptor then (stub.ERR_INVALID_DATA, none)
  else stub.request interface code data

end Stub

/-! ## What is told -/

/-- What is told to a listener, and whether the request arrives. -/
structure Telling where
  proxy : Proxy
  callback : Callback
  arrives : Bool
  stub : Stub

/-- What the listener is called with. -/
def Telling.called (t : Telling) : Option Callback :=
  match t.proxy.prepare t.callback with
  | none => none
  | some message =>
    if t.arrives then
      (t.stub.onRemoteRequest t.callback.interface message.code message.data).2
    else none

namespace Callback

/-- What the other side makes of the arguments. -/
def received : Callback → Callback
  | .sinkOnEnable d => .sinkOnEnable ⟨d.id, d.dhType, "", 0⟩
  | .sinkOnDisable d => .sinkOnDisable ⟨d.id, d.dhType, "", 0⟩
  | .sourceOnEnable networkId d => .sourceOnEnable networkId ⟨d.id, d.dhType, "", 0⟩
  | .sourceOnDisable networkId d => .sourceOnDisable networkId ⟨d.id, d.dhType, "", 0⟩
  | callback => callback

/-- The arguments are taken. -/
def isValid : Callback → Bool
  | .sourceOnEnable networkId _ => isIdLengthValid networkId
  | .sourceOnDisable networkId _ => isIdLengthValid networkId
  | .onMessage topic message => Remote.validTopic topic && isMessageLengthValid message
  | _ => true

/-- The arguments, as they are written. -/
def items : Callback → List (Item Kind.Val)
  | .sinkOnEnable d => [ofUint32 d.dhType, ofString d.id]
  | .sinkOnDisable d => [ofUint32 d.dhType, ofString d.id]
  | .sourceOnEnable networkId d => [ofString networkId, ofUint32 d.dhType, ofString d.id]
  | .sourceOnDisable networkId d => [ofString networkId, ofUint32 d.dhType, ofString d.id]
  | .onMessage topic message => [ofUint32 topic, ofString message]
  | .onRequestHardwareAccess requestId info dhType pkgName =>
    ofString requestId :: Proxy.deviceInfo info ++ [ofUint32 dhType, ofString pkgName]
  | .onAuthorizationResult networkId requestId => [ofString networkId, ofString requestId]

/-- The number of the method. -/
def code : Callback → UInt32
  | .sinkOnEnable _ => ON_ENABLE
  | .sinkOnDisable _ => ON_DISABLE
  | .sourceOnEnable .. => ON_ENABLE
  | .sourceOnDisable .. => ON_DISABLE
  | .onMessage .. => ON_MESSAGE
  | .onRequestHardwareAccess .. => ON_REQUEST_HARDWARE_ACCESS
  | .onAuthorizationResult .. => ON_AUTHORIZATION_RESULT

/-- The parcel of a call. -/
def parcel (callback : Callback) : Parcel :=
  ⟨.token, callback.interface.GetDescriptor⟩ :: callback.items

end Callback

/-- The call is sent, and arrives. -/
def Telling.isCarried (t : Telling) : Bool :=
  t.proxy.remote && t.callback.isValid && fitsItems t.proxy.fits t.callback.parcel [] && t.arrives

namespace Proxy

variable (proxy : Proxy)

theorem message_eq (interface : Interface) (checks : List Bool) (args : List (Item Kind.Val))
    (code : UInt32) :
    proxy.message interface checks args code =
      if checks.all id && fitsItems proxy.fits (⟨.token, interface.GetDescriptor⟩ :: args) [] then
        some ⟨code, ⟨.token, interface.GetDescriptor⟩ :: args⟩
      else none := by
  unfold message
  rw [writeItems_map]
  cases checks.all id
  · rfl
  · cases fitsItems proxy.fits (⟨.token, interface.GetDescriptor⟩ :: args) [] <;> rfl

/-- A method sends its parcel under its number, or nothing. -/
theorem prepare_eq (callback : Callback) :
    proxy.prepare callback =
      if proxy.remote && callback.isValid && fitsItems proxy.fits callback.parcel [] then
        some ⟨callback.code, callback.parcel⟩
      else none := by
  cases callback with
  | sinkOnEnable | sinkOnDisable | onRequestHardwareAccess | onAuthorizationResult =>
    refine (proxy.message_eq ..).trans (if_congr ?_ rfl rfl)
    simp [Callback.isValid, Callback.parcel, Callback.items, Callback.interface]
  | sourceOnEnable | sourceOnDisable =>
    refine (proxy.message_eq ..).trans (if_congr ?_ rfl rfl)
    simp [Callback.isValid, Callback.parcel, Callback.items, Callback.interface,
      and_comm (a := proxy.remote = true)]
  | onMessage =>
    refine (proxy.message_eq ..).trans (if_congr ?_ rfl rfl)
    simp [Callback.isValid, Callback.parcel, Callback.items, Callback.interface]

end Proxy

namespace Stub

variable (stub : Stub)

@[simp] theorem readUint16_ofUint16 (v : UInt16) (rest : Parcel) :
    stub.readUint16 (ofUint16 v :: rest) = (v, rest) := stub.reading.read_cons ..

@[simp] theorem readUint32_ofUint32 (v : UInt32) (rest : Parcel) :
    stub.readUint32 (ofUint32 v :: rest) = (v, rest) := stub.reading.read_cons ..

@[simp] theorem readString_ofString (v : String) (rest : Parcel) :
    stub.readString (ofString v :: rest) = (v, rest) := stub.reading.read_cons ..

/-- The listener is called with what was written. -/
theorem onRemoteRequest_parcel (callback : Callback) (h : callback.isValid = true) :
    stub.onRemoteRequest callback.interface callback.code callback.parcel =
      (DH_FWK_SUCCESS, some callback.received) := by
  have htoken : stub.readToken callback.parcel =
      (callback.interface.GetDescriptor, callback.items) := stub.reading.read_cons ..
  unfold onRemoteRequest
  rw [htoken]
  dsimp only
  rw [if_neg (not_not.2 rfl)]
  cases callback with
  | onMessage topic message =>
    obtain ⟨htopic, hmessage⟩ := (Bool.and_eq_true _ _).mp h
    have hlength : ¬(message = "" ∨ message.utf8ByteSize > MAX_MESSAGE_LEN) := by
      simpa [isMessageLengthValid] using hmessage
    simp [request, publisherRequest, Callback.interface, Callback.items, Callback.code,
      Callback.received, htopic, hlength]
  | _ =>
    simp [request, sinkRequest, sourceRequest, accessRequest, authorizationRequest,
      readDescriptor, readDeviceInfo, Proxy.deviceInfo, Callback.interface, Callback.items,
      Callback.code, Callback.received, ON_DISABLE_ne]

theorem ite_called {p : Prop} [Decidable p] {a : Int × Option Callback} {ret : Int}
    {callback : Callback} (h : (if p then a else (ret, none)).2 = some callback) :
    p ∧ a.2 = some callback := by
  split_ifs at h with hp
  exact ⟨hp, h⟩

/-- From any parcel a listener is called with a method of its own interface, and only with a topic
and a message that are valid. -/
theorem onRemoteRequest_called {interface : Interface} {code : UInt32} {data : Parcel}
    {callback : Callback} (h : (stub.onRemoteRequest interface code data).2 = some callback) :
    (stub.readToken data).1 = interface.GetDescriptor ∧ callback.interface = interface ∧
      callback.code = code ∧
        ∀ topic message, callback = .onMessage topic message →
          Remote.validTopic topic = true ∧ isMessageLengthValid message = true := by
  unfold onRemoteRequest at h
  dsimp only at h
  split_ifs at h with htoken
  refine ⟨not_not.1 htoken, ?_⟩
  cases interface with
  | IHDSinkStatusListener =>
    simp only [request, sinkRequest] at h
    split_ifs at h with hcode hcode'
    · obtain rfl := Option.some.inj h
      exact ⟨rfl, hcode.symm, fun _ _ hne => nomatch hne⟩
    · obtain rfl := Option.some.inj h
      exact ⟨rfl, hcode'.symm, fun _ _ hne => nomatch hne⟩
  | IHDSourceStatusListener =>
    simp only [request, sourceRequest] at h
    split_ifs at h with hcode hcode'
    · obtain rfl := Option.some.inj h
      exact ⟨rfl, hcode.symm, fun _ _ hne => nomatch hne⟩
    · obtain rfl := Option.some.inj h
      exact ⟨rfl, hcode'.symm, fun _ _ hne => nomatch hne⟩
  | IPublisherListener =>
    obtain ⟨hcode, h⟩ := ite_called h
    dsimp only at h
    split_ifs at h with htopic hlength
    obtain rfl := Option.some.inj h
    refine ⟨rfl, hcode.symm, ?_⟩
    rintro _ _ ⟨rfl, rfl⟩
    exact ⟨htopic, by simpa [isMessageLengthValid] using hlength⟩
  | IAccessListener =>
    obtain ⟨hcode, h⟩ := ite_called h
    obtain rfl := Option.some.inj h
    exact ⟨rfl, hcode.symm, fun _ _ hne => nomatch hne⟩
  | IAuthorizationResultCallback =>
    obtain ⟨hcode, h⟩ := ite_called h
    obtain rfl := Option.some.inj h
    exact ⟨rfl, hcode.symm, fun _ _ hne => nomatch hne⟩

end Stub

/-- What is told is called with its arguments if it is carried, and not at all otherwise. -/
theorem Telling.called_eq (t : Telling) :
    t.called = if t.isCarried then some t.callback.received else none := by
  unfold called isCarried
  rw [t.proxy.prepare_eq]
  cases hsent : t.proxy.remote && t.callback.isValid &&
      fitsItems t.proxy.fits t.callback.parcel [] with
  | false => rfl
  | true =>
    have hvalid : t.callback.isValid = true := by
      simp only [Bool.and_eq_true] at hsent
      exact hsent.1.2
    rw [if_pos rfl]
    dsimp only
    rw [t.stub.onRemoteRequest_parcel t.callback hvalid, Bool.true_and]

/-- **What listeners hear.** Over any run of what is told to a listener, it is called with what is
carried, in that order, and from any parcel of anyone else with a method of its own interface, and
with a topic and a message that are valid. -/
theorem listeners_hear (tellings : List Telling) (stub : Stub) (interface : Interface)
    (code : UInt32) (data : Parcel) :
    tellings.filterMap Telling.called =
        (tellings.filter Telling.isCarried).map (fun t => t.callback.received) ∧
      ∀ callback ∈ (stub.onRemoteRequest interface code data).2,
        (stub.readToken data).1 = interface.GetDescriptor ∧ callback.interface = interface ∧
          callback.code = code ∧
            ∀ topic message, callback = .onMessage topic message →
              Remote.validTopic topic = true ∧ isMessageLengthValid message = true := by
  refine ⟨?_, fun callback h => stub.onRemoteRequest_called h⟩
  have hcalled : Telling.called =
      fun t : Telling => if t.isCarried then some t.callback.received else none :=
    funext Telling.called_eq
  rw [hcalled]
  induction tellings with
  | nil => rfl
  | cons t tellings ih =>
    cases hcarried : t.isCarried with
    | true => simp [hcarried, ih]
    | false => simp [hcarried, ih]

end ListenerCalls

end DHFwk
