import DHFwk.DescriptorIpc
import DHFwk.Wire

/-!
# The requests of other processes

`DistributedHardwareStub` takes the requests of the service, each under a number of its own. It
looks at the token of the interface, at whether the caller is on this device, and in the handler of
the request at the caller's permission, and for some at what kind of program the caller is. Then
it reads the arguments, turns some of them down, and calls the service (`Op`), which is any
function that answers and has a state.

Whatever is in the parcel, and whatever the service does, a request reaches the service exactly if
its caller may make it (`Permits`) and its arguments are not turned down (`arguments`), and the
others leave no trace : a run without them has the same replies.
-/

set_option linter.unusedSectionVars false

namespace DHFwk

open Wire

namespace Remote

abbrev DHDescriptor := DescriptorIpc.DHDescriptor

abbrev ERR_DH_FWK_SERVICE_WRITE_INFO_FAIL : Int := -10807
abbrev ERR_DH_FWK_ACCESS_PERMISSION_CHECK_FAIL : Int := -11200
abbrev ERR_DH_FWK_IS_SYSTEM_HAP_CHECK_FAIL : Int := -11201
abbrev ERR_DH_FWK_IS_LOCAL_PROCESS_FAIL : Int := -11202

/-- `DHTopic::TOPIC_MIN` and `TOPIC_MAX`. -/
abbrev TOPIC_MIN : UInt32 := 0
abbrev TOPIC_MAX : UInt32 := 13

/-- `QueryLocalSysSpecType::MIN` and `MAX`. -/
abbrev SPEC_MIN : UInt32 := 0
abbrev SPEC_MAX : UInt32 := 5

/-! ## Parcels -/

/-- What a parcel holds. -/
inductive Kind
  | token | int32 | uint32 | string | bool | object
  deriving DecidableEq, Repr

/-- A remote object may be null. -/
abbrev Kind.Val (R : Type) : Kind → Type
  | .token => String
  | .int32 => Int32
  | .uint32 => UInt32
  | .string => String
  | .bool => Bool
  | .object => Option R

abbrev Parcel (R : Type) := List (Item (Kind.Val R))

/-- What is read of an empty parcel. -/
def Kind.unread (R : Type) : (k : Kind) → Kind.Val R k
  | .token => ""
  | .int32 => 0
  | .uint32 => 0
  | .string => ""
  | .bool => false
  | .object => none

/-! ## Requests -/

/-- `DHMsgInterfaceCode`. -/
inductive Code
  | REG_PUBLISHER_LISTNER | UNREG_PUBLISHER_LISTENER | PUBLISH_MESSAGE | INIT_CTL_CEN
  | RELEASE_CTL_CEN | CREATE_CTL_CEN_CHANNEL | NOTIFY_AV_EVENT | REGISTER_CTL_CEN_CALLBACK
  | QUERY_LOCAL_SYS_SPEC | PAUSE_DISTRIBUTED_HARDWARE | RESUME_DISTRIBUTED_HARDWARE
  | STOP_DISTRIBUTED_HARDWARE | GET_DISTRIBUTED_HARDWARE | REG_DH_SINK_STATUS_LISTNER
  | UNREG_DH_SINK_STATUS_LISTNER | REG_DH_SOURCE_STATUS_LISTNER | UNREG_DH_SOURCE_STATUS_LISTNER
  | ENABLE_SINK | DISABLE_SINK | ENABLE_SOURCE | DISABLE_SOURCE | LOAD_HDF | UNLOAD_HDF
  | NOTIFY_SOURCE_DEVICE_REMOTE_DMSDP_STARTED | INIT_SINK_DMSDP
  | NOTIFY_SINK_DEVICE_REMOTE_DMSDP_STARTED | REGISTER_HARDWARE_ACCESS_LISTENER
  | UNREGISTER_HARDWARE_ACCESS_LISTENER | SET_AUTHORIZATION_RESULT
  deriving DecidableEq, Repr

def Code.number : Code → UInt32
  | .REG_PUBLISHER_LISTNER => 48001
  | .UNREG_PUBLISHER_LISTENER => 48002
  | .PUBLISH_MESSAGE => 48003
  | .INIT_CTL_CEN => 48004
  | .RELEASE_CTL_CEN => 48005
  | .CREATE_CTL_CEN_CHANNEL => 48006
  | .NOTIFY_AV_EVENT => 48007
  | .REGISTER_CTL_CEN_CALLBACK => 48008
  | .QUERY_LOCAL_SYS_SPEC => 48009
  | .PAUSE_DISTRIBUTED_HARDWARE => 480010
  | .RESUME_DISTRIBUTED_HARDWARE => 480011
  | .STOP_DISTRIBUTED_HARDWARE => 480012
  | .GET_DISTRIBUTED_HARDWARE => 480013
  | .REG_DH_SINK_STATUS_LISTNER => 480014
  | .UNREG_DH_SINK_STATUS_LISTNER => 480015
  | .REG_DH_SOURCE_STATUS_LISTNER => 480016
  | .UNREG_DH_SOURCE_STATUS_LISTNER => 480017
  | .ENABLE_SINK => 480018
  | .DISABLE_SINK => 480019
  | .ENABLE_SOURCE => 480020
  | .DISABLE_SOURCE => 480021
  | .LOAD_HDF => 480022
  | .UNLOAD_HDF => 480023
  | .NOTIFY_SOURCE_DEVICE_REMOTE_DMSDP_STARTED => 1
  | .INIT_SINK_DMSDP => 0
  | .NOTIFY_SINK_DEVICE_REMOTE_DMSDP_STARTED => 1212
  | .REGISTER_HARDWARE_ACCESS_LISTENER => 480024
  | .UNREGISTER_HARDWARE_ACCESS_LISTENER => 480025
  | .SET_AUTHORIZATION_RESULT => 480026

def Code.all : List Code :=
  [.REG_PUBLISHER_LISTNER, .UNREG_PUBLISHER_LISTENER, .PUBLISH_MESSAGE, .INIT_CTL_CEN,
    .RELEASE_CTL_CEN, .CREATE_CTL_CEN_CHANNEL, .NOTIFY_AV_EVENT, .REGISTER_CTL_CEN_CALLBACK,
    .QUERY_LOCAL_SYS_SPEC, .PAUSE_DISTRIBUTED_HARDWARE, .RESUME_DISTRIBUTED_HARDWARE,
    .STOP_DISTRIBUTED_HARDWARE, .GET_DISTRIBUTED_HARDWARE, .REG_DH_SINK_STATUS_LISTNER,
    .UNREG_DH_SINK_STATUS_LISTNER, .REG_DH_SOURCE_STATUS_LISTNER, .UNREG_DH_SOURCE_STATUS_LISTNER,
    .ENABLE_SINK, .DISABLE_SINK, .ENABLE_SOURCE, .DISABLE_SOURCE, .LOAD_HDF, .UNLOAD_HDF,
    .NOTIFY_SOURCE_DEVICE_REMOTE_DMSDP_STARTED, .INIT_SINK_DMSDP,
    .NOTIFY_SINK_DEVICE_REMOTE_DMSDP_STARTED, .REGISTER_HARDWARE_ACCESS_LISTENER,
    .UNREGISTER_HARDWARE_ACCESS_LISTENER, .SET_AUTHORIZATION_RESULT]

/-- The request of a number, if there is one. -/
def Code.ofNumber (code : UInt32) : Option Code :=
  Code.all.find? fun c => c.number = code

theorem Code.ofNumber_number (c : Code) : Code.ofNumber c.number = some c := by
  cases c <;> decide

theorem Code.number_of_ofNumber {code : UInt32} {c : Code} (h : Code.ofNumber code = some c) :
    c.number = code := by
  simpa using List.find?_some h

/-- The three requests that another device may make. -/
def Code.isRpc : Code → Bool
  | .NOTIFY_SOURCE_DEVICE_REMOTE_DMSDP_STARTED => true
  | .INIT_SINK_DMSDP => true
  | .NOTIFY_SINK_DEVICE_REMOTE_DMSDP_STARTED => true
  | _ => false

/-- `AVTransEvent`. -/
structure AVTransEvent where
  type : UInt32
  content : String
  peerDevId : String
  deriving DecidableEq, Repr

/-- The calls of the service. -/
inductive Op (R : Type)
  | registerPublisherListener (topic : UInt32) (listener : R)
  | unregisterPublisherListener (topic : UInt32) (listener : R)
  | publishMessage (topic : UInt32) (msg : String)
  | queryLocalSysSpec (spec : UInt32)
  | initializeAVCenter (transRole : UInt32)
  | releaseAVCenter (engineId : Int32)
  | createControlChannel (engineId : Int32) (peerDevId : String)
  | notifyAVCenter (engineId : Int32) (event : AVTransEvent)
  | registerCtlCenterCallback (engineId : Int32) (callback : R)
  | notifySourceRemoteSinkStarted (udid : String)
  | pauseDistributedHardware (dhType : UInt32) (networkId : String)
  | resumeDistributedHardware (dhType : UInt32) (networkId : String)
  | stopDistributedHardware (dhType : UInt32) (networkId : String)
  | getDistributedHardware (networkId : String) (enableStep : UInt32) (callback : R)
  | registerDHStatusSinkListener (listener : R)
  | unregisterDHStatusSinkListener (listener : R)
  | registerDHStatusSourceListener (networkId : String) (listener : R)
  | unregisterDHStatusSourceListener (networkId : String) (listener : R)
  | enableSink (descriptors : List DHDescriptor)
  | disableSink (descriptors : List DHDescriptor)
  | enableSource (networkId : String) (descriptors : List DHDescriptor)
  | disableSource (networkId : String) (descriptors : List DHDescriptor)
  | loadDistributedHDF (dhType : UInt32)
  | unLoadDistributedHDF (dhType : UInt32)
  | addDeathRecipient (dhType : UInt32) (remote : R)
  | removeDeathRecipient (dhType : UInt32) (remote : R)
  | loadSinkDMSDPService (udid : String)
  | notifySinkRemoteSourceStarted (udid : String)
  | registerHardwareAccessListener (dhType : UInt32) (callback : R) (timeOut : Int32)
      (pkgName : String)
  | unregisterHardwareAccessListener (dhType : UInt32) (callback : R) (pkgName : String)
  | setAuthorizationResult (dhType : UInt32) (requestId : String) (granted : Bool)
  deriving DecidableEq, Repr

/-- What the service answers : a code, and for some calls an id or a text. -/
structure Answer where
  ret : Int32 := 0
  engineId : Int32 := 0
  text : String := ""
  deriving DecidableEq, Repr

/-- The service, and `HdfOperateManager` for the two calls about death recipients. -/
abbrev Service (R S : Type) := Op R → S → Answer × S

/-! ## The stub -/

/-- The stub, with what it asks about the caller, and the parcels of the IPC library. -/
structure Stub (R : Type) where
  GetDescriptor : String
  isLocalCalling : Bool
  hasAccessDHPermission : Bool
  isSystemHap : Bool
  isNativeSA : Bool
  reading : Reading (Kind.Val R)
  /-- Whether a value still fits into the reply. -/
  fits : Parcel R → Item (Kind.Val R) → Bool
  ERR_INVALID_DATA : { code : Int // code ≠ DH_FWK_SUCCESS }
  /-- `IPCObjectStub::OnRemoteRequest`. -/
  otherRequest : UInt32 → Parcel R → Int × Parcel R

/-- What a request returns, its reply, and the state of the service behind it. -/
structure Served (R S : Type) where
  ret : Int
  reply : Parcel R
  state : S

def validTopic (topic : UInt32) : Bool := !(topic ≤ TOPIC_MIN || TOPIC_MAX ≤ topic)

def validQueryLocalSpec (spec : UInt32) : Bool := !(spec ≤ SPEC_MIN || SPEC_MAX ≤ spec)

namespace Stub

variable {R S : Type} (stub : Stub R) (service : Service R S)

def readToken (data : Parcel R) : String × Parcel R := stub.reading.read .token data

def readInt32 (data : Parcel R) : Int32 × Parcel R := stub.reading.read .int32 data

def readUint32 (data : Parcel R) : UInt32 × Parcel R := stub.reading.read .uint32 data

def readString (data : Parcel R) : String × Parcel R := stub.reading.read .string data

def readBool (data : Parcel R) : Bool × Parcel R := stub.reading.read .bool data

def readRemoteObject (data : Parcel R) : Option R × Parcel R := stub.reading.read .object data

def readDescriptor (data : Parcel R) : DHDescriptor × Parcel R :=
  let (dhType, data) := stub.readInt32 data
  let (id, data) := stub.readString data
  let (customParams, data) := stub.readString data
  let (firstCallingTokenId, data) := stub.readUint32 data
  (⟨id, dhType.toUInt32, customParams, firstCallingTokenId⟩, data)

/-- `ReadDescriptors`, whose code is not looked at. -/
def readDescriptors (data : Parcel R) : List DHDescriptor :=
  let (size, data) := stub.readInt32 data
  if DescriptorIpc.MAX_DH_DESCRIPTOR_ARRAY_SIZE.toInt32 < size then []
  else (Parcel.readMany stub.readDescriptor size.toInt.toNat data).1

/-- The service is called, and its code is the reply. -/
def answer (r : Answer × S) : Served R S :=
  match writeItems stub.fits [(⟨.int32, r.1.ret⟩, ERR_DH_FWK_SERVICE_WRITE_INFO_FAIL)] [] with
  | .ok reply => ⟨DH_FWK_SUCCESS, reply, r.2⟩
  | .error e => ⟨e, [], r.2⟩

/-- A reply whose write is not looked at. -/
def unchecked (v : Item (Kind.Val R)) : Parcel R := if stub.fits [] v then [v] else []

/-- A request that is turned down. -/
def refuse (ret : Int) (s : S) : Served R S := ⟨ret, [], s⟩

/-- `HasAccessDHPermission`, which every handler of this device begins with. -/
def withAccess (s : S) (body : Served R S) : Served R S :=
  if ¬stub.hasAccessDHPermission then refuse ERR_DH_FWK_ACCESS_PERMISSION_CHECK_FAIL s else body

/-- The body of the handlers of a topic. -/
def withTopic (s : S) (data : Parcel R) (body : UInt32 → Parcel R → Served R S) : Served R S :=
  stub.withAccess s <|
    let (topic, data) := stub.readUint32 data
    if ¬validTopic topic then
      ⟨ERR_DH_FWK_PARA_INVALID, stub.unchecked ⟨.int32, ERR_DH_FWK_PARA_INVALID.toInt32⟩, s⟩
    else body topic data

/-- The body of the handlers of a listener of a topic. -/
def publisherListener (op : UInt32 → R → Op R) (data : Parcel R) (s : S) : Served R S :=
  stub.withTopic s data fun topic data =>
    match (stub.readRemoteObject data).1 with
    | none =>
      ⟨ERR_DH_FWK_PARA_INVALID, stub.unchecked ⟨.int32, ERR_DH_FWK_PARA_INVALID.toInt32⟩, s⟩
    | some listener =>
      ⟨DH_FWK_SUCCESS, stub.unchecked ⟨.int32, 0⟩, (service (op topic listener) s).2⟩

def registerPublisherListenerInner (data : Parcel R) (s : S) : Served R S :=
  stub.publisherListener service .registerPublisherListener data s

def unregisterPublisherListenerInner (data : Parcel R) (s : S) : Served R S :=
  stub.publisherListener service .unregisterPublisherListener data s

def publishMessageInner (data : Parcel R) (s : S) : Served R S :=
  stub.withTopic s data fun topic data =>
    let (message, _) := stub.readString data
    ⟨DH_FWK_SUCCESS, stub.unchecked ⟨.int32, 0⟩,
      (service (.publishMessage topic message) s).2⟩

def queryLocalSysSpecInner (data : Parcel R) (s : S) : Served R S :=
  stub.withAccess s <|
    let (specInt, _) := stub.readUint32 data
    if ¬validQueryLocalSpec specInt then
      ⟨ERR_DH_FWK_PARA_INVALID, stub.unchecked ⟨.int32, ERR_DH_FWK_PARA_INVALID.toInt32⟩, s⟩
    else
      let (res, s) := service (.queryLocalSysSpec specInt) s
      ⟨DH_FWK_SUCCESS, stub.unchecked ⟨.string, res.text⟩, s⟩

def initializeAVCenterInner (data : Parcel R) (s : S) : Served R S :=
  stub.withAccess s <|
    let (transRole, _) := stub.readUint32 data
    let (res, s) := service (.initializeAVCenter transRole) s
    match writeItems stub.fits [(⟨.int32, res.engineId⟩, ERR_DH_FWK_SERVICE_WRITE_INFO_FAIL),
        (⟨.int32, res.ret⟩, ERR_DH_FWK_SERVICE_WRITE_INFO_FAIL)] [] with
    | .ok reply => ⟨DH_FWK_SUCCESS, reply, s⟩
    | .error e => ⟨e, [], s⟩

def releaseAVCenterInner (data : Parcel R) (s : S) : Served R S :=
  stub.withAccess s <|
    let (engineId, _) := stub.readInt32 data
    stub.answer (service (.releaseAVCenter engineId) s)

def createControlChannelInner (data : Parcel R) (s : S) : Served R S :=
  stub.withAccess s <|
    let (engineId, data) := stub.readInt32 data
    let (peerDevId, _) := stub.readString data
    stub.answer (service (.createControlChannel engineId peerDevId) s)

def notifyAVCenterInner (data : Parcel R) (s : S) : Served R S :=
  stub.withAccess s <|
    let (engineId, data) := stub.readInt32 data
    let (type, data) := stub.readUint32 data
    let (content, data) := stub.readString data
    let (peerDevId, _) := stub.readString data
    stub.answer (service (.notifyAVCenter engineId ⟨type, content, peerDevId⟩) s)

/-- A listener or callback that may not be null. -/
def withObject (s : S) (data : Parcel R) (body : R → Parcel R → Served R S) : Served R S :=
  match stub.readRemoteObject data with
  | (none, _) => refuse ERR_DH_FWK_PARA_INVALID s
  | (some object, data) => body object data

def registerControlCenterCallbackInner (data : Parcel R) (s : S) : Served R S :=
  stub.withAccess s <|
    let (engineId, data) := stub.readInt32 data
    stub.withObject s data fun callback _ =>
      stub.answer (service (.registerCtlCenterCallback engineId callback) s)

/-- The body of the three handlers that another device may reach. -/
def withUdid (op : String → Op R) (data : Parcel R) (s : S) : Served R S :=
  let (udid, _) := stub.readString data
  if ¬isIdLengthValid udid then refuse ERR_DH_FWK_PARA_INVALID s
  else stub.answer (service (op udid) s)

def handleNotifySourceRemoteSinkStarted (data : Parcel R) (s : S) : Served R S :=
  stub.withUdid service .notifySourceRemoteSinkStarted data s

def handleLoadSinkDMSDPService (data : Parcel R) (s : S) : Served R S :=
  stub.withUdid service .loadSinkDMSDPService data s

def handleNotifySinkRemoteSourceStarted (data : Parcel R) (s : S) : Served R S :=
  stub.withUdid service .notifySinkRemoteSourceStarted data s

/-- The body of the handlers that pause, resume and stop. -/
def ofTypeAndDevice (isHap : Bool) (op : UInt32 → String → Op R) (data : Parcel R) (s : S) :
    Served R S :=
  if ¬isHap then refuse ERR_DH_FWK_IS_SYSTEM_HAP_CHECK_FAIL s
  else
    stub.withAccess s <|
      let (dhType, data) := stub.readInt32 data
      let (networkId, _) := stub.readString data
      stub.answer (service (op dhType.toUInt32 networkId) s)

def pauseDistributedHardwareInner (data : Parcel R) (s : S) : Served R S :=
  stub.ofTypeAndDevice service stub.isSystemHap .pauseDistributedHardware data s

def resumeDistributedHardwareInner (data : Parcel R) (s : S) : Served R S :=
  stub.ofTypeAndDevice service stub.isSystemHap .resumeDistributedHardware data s

/-- Other than pausing, this is open to native services. -/
def stopDistributedHardwareInner (data : Parcel R) (s : S) : Served R S :=
  stub.ofTypeAndDevice service (stub.isSystemHap || stub.isNativeSA) .stopDistributedHardware data s

def getDistributedHardwareInner (data : Parcel R) (s : S) : Served R S :=
  stub.withAccess s <|
    let (networkId, data) := stub.readString data
    let (enableStep, data) := stub.readUint32 data
    stub.withObject s data fun callback _ =>
      stub.answer (service (.getDistributedHardware networkId enableStep callback) s)

/-- The body of the handlers of a listener of the sink. -/
def sinkListener (op : R → Op R) (data : Parcel R) (s : S) : Served R S :=
  stub.withAccess s <| stub.withObject s data fun listener _ =>
    stub.answer (service (op listener) s)

def registerDHStatusSinkListenerInner (data : Parcel R) (s : S) : Served R S :=
  stub.sinkListener service .registerDHStatusSinkListener data s

def unregisterDHStatusSinkListenerInner (data : Parcel R) (s : S) : Served R S :=
  stub.sinkListener service .unregisterDHStatusSinkListener data s

/-- The body of the handlers of a listener of the source. -/
def sourceListener (op : String → R → Op R) (data : Parcel R) (s : S) : Served R S :=
  stub.withAccess s <|
    let (networkId, data) := stub.readString data
    stub.withObject s data fun listener _ => stub.answer (service (op networkId listener) s)

def registerDHStatusSourceListenerInner (data : Parcel R) (s : S) : Served R S :=
  stub.sourceListener service .registerDHStatusSourceListener data s

def unregisterDHStatusSourceListenerInner (data : Parcel R) (s : S) : Served R S :=
  stub.sourceListener service .unregisterDHStatusSourceListener data s

def enableSinkInner (data : Parcel R) (s : S) : Served R S :=
  stub.withAccess s <| stub.answer (service (.enableSink (stub.readDescriptors data)) s)

def disableSinkInner (data : Parcel R) (s : S) : Served R S :=
  stub.withAccess s <| stub.answer (service (.disableSink (stub.readDescriptors data)) s)

def enableSourceInner (data : Parcel R) (s : S) : Served R S :=
  stub.withAccess s <|
    let (networkId, data) := stub.readString data
    stub.answer (service (.enableSource networkId (stub.readDescriptors data)) s)

def disableSourceInner (data : Parcel R) (s : S) : Served R S :=
  stub.withAccess s <|
    let (networkId, data) := stub.readString data
    stub.answer (service (.disableSource networkId (stub.readDescriptors data)) s)

end Stub

section Hdf

variable {R S : Type} (service : Service R S)

/-- A load, with the caller as a death recipient. What cannot be watched is unloaded. -/
def loadAndWatch (dhType : UInt32) (remoteObj : Option R) (s : S) : Answer × S :=
  let (res, s) := service (.loadDistributedHDF dhType) s
  match remoteObj with
  | none => (res, s)
  | some remoteObj =>
    if res.ret = 0 then
      let (res, s) := service (.addDeathRecipient dhType remoteObj) s
      if res.ret = 0 then (res, s) else (res, (service (.unLoadDistributedHDF dhType) s).2)
    else (res, s)

/-- An unload, after which the caller is no longer watched. -/
def unLoadAndUnwatch (dhType : UInt32) (remoteObj : Option R) (s : S) : Answer × S :=
  let (res, s) := service (.unLoadDistributedHDF dhType) s
  match remoteObj with
  | none => (res, s)
  | some remoteObj =>
    if res.ret = 0 then service (.removeDeathRecipient dhType remoteObj) s else (res, s)

end Hdf

namespace Stub

variable {R S : Type} (stub : Stub R) (service : Service R S)

def loadDistributedHDFInner (data : Parcel R) (s : S) : Served R S :=
  stub.withAccess s <|
    let (dhType, data) := stub.readUint32 data
    stub.answer (loadAndWatch service dhType (stub.readRemoteObject data).1 s)

def unLoadDistributedHDFInner (data : Parcel R) (s : S) : Served R S :=
  stub.withAccess s <|
    let (dhType, data) := stub.readUint32 data
    stub.answer (unLoadAndUnwatch service dhType (stub.readRemoteObject data).1 s)

def registerHardwareAccessListenerInner (data : Parcel R) (s : S) : Served R S :=
  stub.withAccess s <|
    let (dhType, data) := stub.readUint32 data
    stub.withObject s data fun callback data =>
      let (timeOut, data) := stub.readInt32 data
      let (pkgName, _) := stub.readString data
      stub.answer (service (.registerHardwareAccessListener dhType callback timeOut pkgName) s)

def unregisterHardwareAccessListenerInner (data : Parcel R) (s : S) : Served R S :=
  stub.withAccess s <|
    let (dhType, data) := stub.readUint32 data
    stub.withObject s data fun callback data =>
      let (pkgName, _) := stub.readString data
      stub.answer (service (.unregisterHardwareAccessListener dhType callback pkgName) s)

/-- There is no reply. -/
def setAuthorizationResultInner (data : Parcel R) (s : S) : Served R S :=
  stub.withAccess s <|
    let (dhType, data) := stub.readUint32 data
    let (requestId, data) := stub.readString data
    let (granted, _) := stub.readBool data
    ⟨DH_FWK_SUCCESS, [], (service (.setAuthorizationResult dhType requestId granted) s).2⟩

/-- The handlers of `OnRemoteRequest`, `OnRemoteRequestEx` and `OnRemoteRequestRPC`. -/
def handle (code : Code) (data : Parcel R) (s : S) : Served R S :=
  match code with
  | .REG_PUBLISHER_LISTNER => stub.registerPublisherListenerInner service data s
  | .UNREG_PUBLISHER_LISTENER => stub.unregisterPublisherListenerInner service data s
  | .PUBLISH_MESSAGE => stub.publishMessageInner service data s
  | .INIT_CTL_CEN => stub.initializeAVCenterInner service data s
  | .RELEASE_CTL_CEN => stub.releaseAVCenterInner service data s
  | .CREATE_CTL_CEN_CHANNEL => stub.createControlChannelInner service data s
  | .NOTIFY_AV_EVENT => stub.notifyAVCenterInner service data s
  | .REGISTER_CTL_CEN_CALLBACK => stub.registerControlCenterCallbackInner service data s
  | .QUERY_LOCAL_SYS_SPEC => stub.queryLocalSysSpecInner service data s
  | .PAUSE_DISTRIBUTED_HARDWARE => stub.pauseDistributedHardwareInner service data s
  | .RESUME_DISTRIBUTED_HARDWARE => stub.resumeDistributedHardwareInner service data s
  | .STOP_DISTRIBUTED_HARDWARE => stub.stopDistributedHardwareInner service data s
  | .GET_DISTRIBUTED_HARDWARE => stub.getDistributedHardwareInner service data s
  | .REG_DH_SINK_STATUS_LISTNER => stub.registerDHStatusSinkListenerInner service data s
  | .UNREG_DH_SINK_STATUS_LISTNER => stub.unregisterDHStatusSinkListenerInner service data s
  | .REG_DH_SOURCE_STATUS_LISTNER => stub.registerDHStatusSourceListenerInner service data s
  | .UNREG_DH_SOURCE_STATUS_LISTNER => stub.unregisterDHStatusSourceListenerInner service data s
  | .ENABLE_SINK => stub.enableSinkInner service data s
  | .DISABLE_SINK => stub.disableSinkInner service data s
  | .ENABLE_SOURCE => stub.enableSourceInner service data s
  | .DISABLE_SOURCE => stub.disableSourceInner service data s
  | .LOAD_HDF => stub.loadDistributedHDFInner service data s
  | .UNLOAD_HDF => stub.unLoadDistributedHDFInner service data s
  | .NOTIFY_SOURCE_DEVICE_REMOTE_DMSDP_STARTED =>
    stub.handleNotifySourceRemoteSinkStarted service data s
  | .INIT_SINK_DMSDP => stub.handleLoadSinkDMSDPService service data s
  | .NOTIFY_SINK_DEVICE_REMOTE_DMSDP_STARTED =>
    stub.handleNotifySinkRemoteSourceStarted service data s
  | .REGISTER_HARDWARE_ACCESS_LISTENER => stub.registerHardwareAccessListenerInner service data s
  | .UNREGISTER_HARDWARE_ACCESS_LISTENER =>
    stub.unregisterHardwareAccessListenerInner service data s
  | .SET_AUTHORIZATION_RESULT => stub.setAuthorizationResultInner service data s

def onRemoteRequest (code : UInt32) (data : Parcel R) (s : S) : Served R S :=
  let (token, data) := stub.readToken data
  if token ≠ stub.GetDescriptor then refuse stub.ERR_INVALID_DATA s
  else if ¬(Code.ofNumber code).any Code.isRpc ∧ ¬stub.isLocalCalling then
    refuse ERR_DH_FWK_IS_LOCAL_PROCESS_FAIL s
  else
    match Code.ofNumber code with
    | some code => stub.handle service code data s
    | none =>
      let (ret, reply) := stub.otherRequest code data
      ⟨ret, reply, s⟩

end Stub

/-! ## What a request asks for -/

/-- What is done for a request. -/
inductive Action (R : Type)
  | call (op : Op R)
  | load (dhType : UInt32) (remoteObj : Option R)
  | unLoad (dhType : UInt32) (remoteObj : Option R)
  deriving DecidableEq, Repr

def Action.run {R S : Type} (service : Service R S) : Action R → S → Answer × S
  | .call op => service op
  | .load dhType remoteObj => loadAndWatch service dhType remoteObj
  | .unLoad dhType remoteObj => unLoadAndUnwatch service dhType remoteObj

/-- The kinds of programs that a request is for. -/
def Stub.isCaller {R : Type} (stub : Stub R) : Code → Bool
  | .PAUSE_DISTRIBUTED_HARDWARE => stub.isSystemHap
  | .RESUME_DISTRIBUTED_HARDWARE => stub.isSystemHap
  | .STOP_DISTRIBUTED_HARDWARE => stub.isSystemHap || stub.isNativeSA
  | _ => true

namespace Stub

variable {R S : Type} (stub : Stub R) (service : Service R S)

/-- The caller may make the request. -/
def Permits (code : Code) : Prop :=
  code.isRpc = true ∨
    stub.isLocalCalling = true ∧ stub.hasAccessDHPermission = true ∧ stub.isCaller code = true

instance (code : Code) : Decidable (stub.Permits code) := inferInstanceAs (Decidable (_ ∨ _))

/-- Why a handler turns its caller down. -/
def refusal (code : Code) : Option Int :=
  if code.isRpc then none
  else if ¬stub.isCaller code then some ERR_DH_FWK_IS_SYSTEM_HAP_CHECK_FAIL
  else if ¬stub.hasAccessDHPermission then some ERR_DH_FWK_ACCESS_PERMISSION_CHECK_FAIL
  else none

/-- The arguments of a request. There are none if they are turned down. -/
def arguments (code : Code) (data : Parcel R) : Option (Action R) :=
  match code with
  | .REG_PUBLISHER_LISTNER =>
    let (topic, data) := stub.readUint32 data
    if ¬validTopic topic then none
    else (stub.readRemoteObject data).1.map fun l => .call (.registerPublisherListener topic l)
  | .UNREG_PUBLISHER_LISTENER =>
    let (topic, data) := stub.readUint32 data
    if ¬validTopic topic then none
    else (stub.readRemoteObject data).1.map fun l => .call (.unregisterPublisherListener topic l)
  | .PUBLISH_MESSAGE =>
    let (topic, data) := stub.readUint32 data
    if ¬validTopic topic then none
    else some (.call (.publishMessage topic (stub.readString data).1))
  | .INIT_CTL_CEN => some (.call (.initializeAVCenter (stub.readUint32 data).1))
  | .RELEASE_CTL_CEN => some (.call (.releaseAVCenter (stub.readInt32 data).1))
  | .CREATE_CTL_CEN_CHANNEL =>
    let (engineId, data) := stub.readInt32 data
    some (.call (.createControlChannel engineId (stub.readString data).1))
  | .NOTIFY_AV_EVENT =>
    let (engineId, data) := stub.readInt32 data
    let (type, data) := stub.readUint32 data
    let (content, data) := stub.readString data
    some (.call (.notifyAVCenter engineId ⟨type, content, (stub.readString data).1⟩))
  | .REGISTER_CTL_CEN_CALLBACK =>
    let (engineId, data) := stub.readInt32 data
    (stub.readRemoteObject data).1.map fun c => .call (.registerCtlCenterCallback engineId c)
  | .QUERY_LOCAL_SYS_SPEC =>
    let (specInt, _) := stub.readUint32 data
    if ¬validQueryLocalSpec specInt then none else some (.call (.queryLocalSysSpec specInt))
  | .PAUSE_DISTRIBUTED_HARDWARE =>
    let (dhType, data) := stub.readInt32 data
    some (.call (.pauseDistributedHardware dhType.toUInt32 (stub.readString data).1))
  | .RESUME_DISTRIBUTED_HARDWARE =>
    let (dhType, data) := stub.readInt32 data
    some (.call (.resumeDistributedHardware dhType.toUInt32 (stub.readString data).1))
  | .STOP_DISTRIBUTED_HARDWARE =>
    let (dhType, data) := stub.readInt32 data
    some (.call (.stopDistributedHardware dhType.toUInt32 (stub.readString data).1))
  | .GET_DISTRIBUTED_HARDWARE =>
    let (networkId, data) := stub.readString data
    let (enableStep, data) := stub.readUint32 data
    (stub.readRemoteObject data).1.map fun c =>
      .call (.getDistributedHardware networkId enableStep c)
  | .REG_DH_SINK_STATUS_LISTNER =>
    (stub.readRemoteObject data).1.map fun l => .call (.registerDHStatusSinkListener l)
  | .UNREG_DH_SINK_STATUS_LISTNER =>
    (stub.readRemoteObject data).1.map fun l => .call (.unregisterDHStatusSinkListener l)
  | .REG_DH_SOURCE_STATUS_LISTNER =>
    let (networkId, data) := stub.readString data
    (stub.readRemoteObject data).1.map fun l => .call (.registerDHStatusSourceListener networkId l)
  | .UNREG_DH_SOURCE_STATUS_LISTNER =>
    let (networkId, data) := stub.readString data
    (stub.readRemoteObject data).1.map fun l =>
      .call (.unregisterDHStatusSourceListener networkId l)
  | .ENABLE_SINK => some (.call (.enableSink (stub.readDescriptors data)))
  | .DISABLE_SINK => some (.call (.disableSink (stub.readDescriptors data)))
  | .ENABLE_SOURCE =>
    let (networkId, data) := stub.readString data
    some (.call (.enableSource networkId (stub.readDescriptors data)))
  | .DISABLE_SOURCE =>
    let (networkId, data) := stub.readString data
    some (.call (.disableSource networkId (stub.readDescriptors data)))
  | .LOAD_HDF =>
    let (dhType, data) := stub.readUint32 data
    some (.load dhType (stub.readRemoteObject data).1)
  | .UNLOAD_HDF =>
    let (dhType, data) := stub.readUint32 data
    some (.unLoad dhType (stub.readRemoteObject data).1)
  | .NOTIFY_SOURCE_DEVICE_REMOTE_DMSDP_STARTED =>
    let (udid, _) := stub.readString data
    if ¬isIdLengthValid udid then none else some (.call (.notifySourceRemoteSinkStarted udid))
  | .INIT_SINK_DMSDP =>
    let (udid, _) := stub.readString data
    if ¬isIdLengthValid udid then none else some (.call (.loadSinkDMSDPService udid))
  | .NOTIFY_SINK_DEVICE_REMOTE_DMSDP_STARTED =>
    let (udid, _) := stub.readString data
    if ¬isIdLengthValid udid then none else some (.call (.notifySinkRemoteSourceStarted udid))
  | .REGISTER_HARDWARE_ACCESS_LISTENER =>
    let (dhType, data) := stub.readUint32 data
    let (callback, data) := stub.readRemoteObject data
    let (timeOut, data) := stub.readInt32 data
    callback.map fun c =>
      .call (.registerHardwareAccessListener dhType c timeOut (stub.readString data).1)
  | .UNREGISTER_HARDWARE_ACCESS_LISTENER =>
    let (dhType, data) := stub.readUint32 data
    let (callback, data) := stub.readRemoteObject data
    callback.map fun c =>
      .call (.unregisterHardwareAccessListener dhType c (stub.readString data).1)
  | .SET_AUTHORIZATION_RESULT =>
    let (dhType, data) := stub.readUint32 data
    let (requestId, data) := stub.readString data
    some (.call (.setAuthorizationResult dhType requestId (stub.readBool data).1))

/-- How a request is answered once the service has answered. -/
def respond (code : Code) (r : Answer × S) : Served R S :=
  match code with
  | .REG_PUBLISHER_LISTNER | .UNREG_PUBLISHER_LISTENER | .PUBLISH_MESSAGE =>
    ⟨DH_FWK_SUCCESS, stub.unchecked ⟨.int32, 0⟩, r.2⟩
  | .QUERY_LOCAL_SYS_SPEC => ⟨DH_FWK_SUCCESS, stub.unchecked ⟨.string, r.1.text⟩, r.2⟩
  | .SET_AUTHORIZATION_RESULT => ⟨DH_FWK_SUCCESS, [], r.2⟩
  | .INIT_CTL_CEN =>
    match writeItems stub.fits [(⟨.int32, r.1.engineId⟩, ERR_DH_FWK_SERVICE_WRITE_INFO_FAIL),
        (⟨.int32, r.1.ret⟩, ERR_DH_FWK_SERVICE_WRITE_INFO_FAIL)] [] with
    | .ok reply => ⟨DH_FWK_SUCCESS, reply, r.2⟩
    | .error e => ⟨e, [], r.2⟩
  | _ => stub.answer r

/-- The reply of a handler that turns its arguments down. -/
def turnedDown (code : Code) : Parcel R :=
  match code with
  | .REG_PUBLISHER_LISTNER | .UNREG_PUBLISHER_LISTENER | .PUBLISH_MESSAGE
  | .QUERY_LOCAL_SYS_SPEC => stub.unchecked ⟨.int32, ERR_DH_FWK_PARA_INVALID.toInt32⟩
  | _ => []

/-- What is done for arguments, which there are none of if they are turned down. -/
def serve (code : Code) (action : Option (Action R)) (s : S) : Served R S :=
  match action with
  | none => ⟨ERR_DH_FWK_PARA_INVALID, stub.turnedDown code, s⟩
  | some action => stub.respond code (action.run service s)

theorem withAccess_of_access (haccess : stub.hasAccessDHPermission = true) (s : S)
    (body : Served R S) : stub.withAccess s body = body := if_neg (not_not.2 haccess)

/-- A check of the arguments. -/
theorem serve_ite (code : Code) (c : Prop) [Decidable c] (action : Option (Action R)) (s : S) :
    stub.serve service code (if c then none else action) s =
      if c then ⟨ERR_DH_FWK_PARA_INVALID, stub.turnedDown code, s⟩
      else stub.serve service code action s := by
  split
  · rfl
  · rfl

theorem withObject_eq (code : Code) (op : R → Parcel R → Op R) (data : Parcel R) (s : S)
    (hanswer : ∀ r : Answer × S, stub.respond code r = stub.answer r)
    (hdown : stub.turnedDown code = []) :
    stub.withObject s data (fun object data => stub.answer (service (op object data) s)) =
      stub.serve service code
        ((stub.readRemoteObject data).1.map fun object =>
          .call (op object (stub.readRemoteObject data).2)) s := by
  unfold withObject serve
  rcases stub.readRemoteObject data with ⟨_ | object, rest⟩
  · dsimp only [Option.map_none]
    rw [hdown]
    rfl
  · exact (hanswer _).symm

theorem publisherListener_eq (code : Code) (op : UInt32 → R → Op R) (data : Parcel R) (s : S)
    (haccess : stub.hasAccessDHPermission = true)
    (hanswer : ∀ r : Answer × S,
      stub.respond code r = ⟨DH_FWK_SUCCESS, stub.unchecked ⟨.int32, 0⟩, r.2⟩)
    (hdown : stub.turnedDown code = stub.unchecked ⟨.int32, ERR_DH_FWK_PARA_INVALID.toInt32⟩) :
    stub.publisherListener service op data s =
      stub.serve service code
        (if ¬validTopic (stub.readUint32 data).1 then none
        else (stub.readRemoteObject (stub.readUint32 data).2).1.map fun l =>
          .call (op (stub.readUint32 data).1 l)) s := by
  refine (stub.withAccess_of_access haccess _ _).trans ?_
  rw [serve_ite, hdown]
  refine if_congr Iff.rfl rfl ?_
  unfold readUint32
  dsimp only
  rcases stub.readRemoteObject (stub.reading.read .uint32 data).2 with ⟨_ | listener, rest⟩
  · exact congrArg (fun reply => (⟨ERR_DH_FWK_PARA_INVALID, reply, s⟩ : Served R S)) hdown.symm
  · exact (hanswer _).symm

theorem handle_eq_serve {code : Code} (data : Parcel R) (s : S)
    (haccess : stub.hasAccessDHPermission = true) (hcaller : stub.isCaller code = true) :
    stub.handle service code data s =
      stub.serve service code (stub.arguments code data) s := by
  have h : ∀ (s : S) (body : Served R S), stub.withAccess s body = body :=
    stub.withAccess_of_access haccess
  cases code with
  | REG_PUBLISHER_LISTNER | UNREG_PUBLISHER_LISTENER =>
    exact stub.publisherListener_eq service _ _ _ _ haccess (fun _ => rfl) rfl
  | PUBLISH_MESSAGE | QUERY_LOCAL_SYS_SPEC =>
    refine (h _ _).trans ?_
    dsimp only [arguments]
    rw [serve_ite]
    rfl
  | REGISTER_CTL_CEN_CALLBACK | GET_DISTRIBUTED_HARDWARE | REG_DH_SINK_STATUS_LISTNER
  | UNREG_DH_SINK_STATUS_LISTNER | REG_DH_SOURCE_STATUS_LISTNER | UNREG_DH_SOURCE_STATUS_LISTNER
  | REGISTER_HARDWARE_ACCESS_LISTENER | UNREGISTER_HARDWARE_ACCESS_LISTENER =>
    exact (h _ _).trans (stub.withObject_eq service _ _ _ _ (fun _ => rfl) rfl)
  | PAUSE_DISTRIBUTED_HARDWARE | RESUME_DISTRIBUTED_HARDWARE | STOP_DISTRIBUTED_HARDWARE =>
    exact (if_neg (not_not.2 hcaller)).trans (h _ _)
  | NOTIFY_SOURCE_DEVICE_REMOTE_DMSDP_STARTED | INIT_SINK_DMSDP
  | NOTIFY_SINK_DEVICE_REMOTE_DMSDP_STARTED =>
    dsimp only [arguments]
    rw [serve_ite]
    rfl
  | _ => exact h _ _

theorem handle_eq_serve_of_isRpc {code : Code} (data : Parcel R) (s : S)
    (hrpc : code.isRpc = true) :
    stub.handle service code data s =
      stub.serve service code (stub.arguments code data) s := by
  cases code with
  | NOTIFY_SOURCE_DEVICE_REMOTE_DMSDP_STARTED | INIT_SINK_DMSDP
  | NOTIFY_SINK_DEVICE_REMOTE_DMSDP_STARTED =>
    dsimp only [arguments]
    rw [serve_ite]
    rfl
  | _ => exact absurd hrpc (by decide)

theorem handle_eq_refuse_of_caller {code : Code} (data : Parcel R) (s : S)
    (hcaller : ¬stub.isCaller code = true) :
    stub.handle service code data s = refuse ERR_DH_FWK_IS_SYSTEM_HAP_CHECK_FAIL s := by
  cases code with
  | PAUSE_DISTRIBUTED_HARDWARE | RESUME_DISTRIBUTED_HARDWARE | STOP_DISTRIBUTED_HARDWARE =>
    exact if_pos hcaller
  | _ => exact absurd rfl hcaller

theorem handle_eq_refuse {code : Code} (data : Parcel R) (s : S) (hrpc : ¬code.isRpc = true)
    (hcaller : stub.isCaller code = true) (haccess : ¬stub.hasAccessDHPermission = true) :
    stub.handle service code data s = refuse ERR_DH_FWK_ACCESS_PERMISSION_CHECK_FAIL s := by
  cases code with
  | PAUSE_DISTRIBUTED_HARDWARE | RESUME_DISTRIBUTED_HARDWARE | STOP_DISTRIBUTED_HARDWARE =>
    exact (if_neg (not_not.2 hcaller)).trans (if_pos haccess)
  | NOTIFY_SOURCE_DEVICE_REMOTE_DMSDP_STARTED | INIT_SINK_DMSDP
  | NOTIFY_SINK_DEVICE_REMOTE_DMSDP_STARTED => exact absurd rfl hrpc
  | _ => exact if_pos haccess

/-- What a handler does, once for all of them. -/
theorem handle_eq (code : Code) (data : Parcel R) (s : S) :
    stub.handle service code data s =
      match stub.refusal code with
      | some e => refuse e s
      | none => stub.serve service code (stub.arguments code data) s := by
  unfold refusal
  by_cases hrpc : code.isRpc = true
  · rw [if_pos hrpc]
    exact stub.handle_eq_serve_of_isRpc service data s hrpc
  · rw [if_neg hrpc]
    by_cases hcaller : stub.isCaller code = true
    · rw [if_neg (not_not.2 hcaller)]
      by_cases haccess : stub.hasAccessDHPermission = true
      · rw [if_neg (not_not.2 haccess)]
        exact stub.handle_eq_serve service data s haccess hcaller
      · rw [if_pos haccess]
        exact stub.handle_eq_refuse service data s hrpc hcaller haccess
    · rw [if_pos hcaller]
      exact stub.handle_eq_refuse_of_caller service data s hcaller

end Stub

/-- A request reaches the service. -/
def Stub.Reaches {R : Type} (stub : Stub R) (code : UInt32) (data : Parcel R) : Prop :=
  (stub.readToken data).1 = stub.GetDescriptor ∧ ∃ c ∈ Code.ofNumber code,
    stub.Permits c ∧ (stub.arguments c (stub.readToken data).2).isSome = true

instance {R : Type} (stub : Stub R) (code : UInt32) (data : Parcel R) :
    Decidable (stub.Reaches code data) := inferInstanceAs (Decidable (_ ∧ _))

namespace Stub

variable {R S : Type} (stub : Stub R) (service : Service R S)

theorem refusal_eq_none_iff {code : Code}
    (hlocal : code.isRpc = true ∨ stub.isLocalCalling = true) :
    stub.refusal code = none ↔ stub.Permits code := by
  unfold refusal Permits
  grind

theorem refusal_ne_success {code : Code} {e : Int} (h : stub.refusal code = some e) :
    e ≠ DH_FWK_SUCCESS := by
  unfold refusal at h
  split at h
  · exact nomatch h
  · split at h
    · cases h
      decide
    · split at h
      · cases h
        decide
      · exact nomatch h

@[simp] theorem answer_state (r : Answer × S) : (stub.answer r).state = r.2 := by
  unfold answer
  split
  · rfl
  · rfl

@[simp] theorem respond_state (code : Code) (r : Answer × S) :
    (stub.respond code r).state = r.2 := by
  cases code with
  | INIT_CTL_CEN =>
    dsimp only [respond]
    split
    · rfl
    · rfl
  | REG_PUBLISHER_LISTNER | UNREG_PUBLISHER_LISTENER | PUBLISH_MESSAGE | QUERY_LOCAL_SYS_SPEC
  | SET_AUTHORIZATION_RESULT => rfl
  | _ => exact stub.answer_state r

/-- A request that reaches the service is one action of it. -/
theorem onRemoteRequest_of_reaches {code : UInt32} {c : Code} {data : Parcel R}
    {action : Action R} (htoken : (stub.readToken data).1 = stub.GetDescriptor)
    (hcode : Code.ofNumber code = some c) (hpermits : stub.Permits c)
    (haction : stub.arguments c (stub.readToken data).2 = some action) (s : S) :
    stub.onRemoteRequest service code data s = stub.respond c (action.run service s) := by
  have hlocal : c.isRpc = true ∨ stub.isLocalCalling = true := hpermits.imp_right And.left
  unfold onRemoteRequest
  dsimp only
  rw [if_neg (not_not.2 htoken), hcode, if_neg (by simpa [or_iff_not_imp_left] using hlocal)]
  dsimp only
  rw [handle_eq, (stub.refusal_eq_none_iff hlocal).2 hpermits, haction]
  rfl

/-- Any other request leaves the service as it is, and a handler answers it with an error. -/
theorem onRemoteRequest_of_not_reaches {code : UInt32} {data : Parcel R}
    (h : ¬stub.Reaches code data) (s : S) :
    (stub.onRemoteRequest service code data s).state = s ∧ ∀ c ∈ Code.ofNumber code,
      (stub.onRemoteRequest service code data s).ret ≠ DH_FWK_SUCCESS ∧
        ((stub.onRemoteRequest service code data s).reply = [] ∨
          (stub.onRemoteRequest service code data s).reply = stub.turnedDown c) := by
  unfold onRemoteRequest
  dsimp only
  split
  · exact ⟨rfl, fun _ _ => ⟨stub.ERR_INVALID_DATA.2, .inl rfl⟩⟩
  · rename_i htoken
    split
    · exact ⟨rfl, fun _ _ =>
        ⟨show ERR_DH_FWK_IS_LOCAL_PROCESS_FAIL ≠ DH_FWK_SUCCESS by decide, .inl rfl⟩⟩
    · rename_i hlocal
      cases hcode : Code.ofNumber code with
      | none => exact ⟨rfl, fun _ hc => nomatch hc⟩
      | some c =>
        rw [hcode] at hlocal
        have hlocal' : c.isRpc = true ∨ stub.isLocalCalling = true := by
          simpa [or_iff_not_imp_left] using hlocal
        dsimp only
        rw [handle_eq]
        cases hrefusal : stub.refusal c with
        | some e => exact ⟨rfl, fun _ _ => ⟨stub.refusal_ne_success hrefusal, .inl rfl⟩⟩
        | none =>
          cases harguments : stub.arguments c (stub.readToken data).2 with
          | none =>
            refine ⟨rfl, fun c' hc' => ?_⟩
            obtain rfl : c = c' := Option.some.inj hc'
            exact ⟨show ERR_DH_FWK_PARA_INVALID ≠ DH_FWK_SUCCESS by decide, .inr rfl⟩
          | some action =>
            refine absurd ⟨not_not.1 htoken, c, hcode,
              (stub.refusal_eq_none_iff hlocal').1 hrefusal, ?_⟩ h
            rw [harguments]
            rfl

end Stub

/-- A service that keeps the calls it gets. -/
def logged {R : Type} (answers : Op R → Answer) : Service R (List (Op R)) :=
  fun op log => (answers op, log ++ [op])

theorem Action.run_logged {R : Type} (answers : Op R → Answer) (action : Action R)
    (log : List (Op R)) : ∃ op ops, (action.run (logged answers) log).2 = log ++ op :: ops := by
  cases action with
  | call op => exact ⟨op, [], rfl⟩
  | load dhType remoteObj =>
    refine ⟨.loadDistributedHDF dhType, ?_⟩
    unfold run loadAndWatch logged
    dsimp only
    split
    · exact ⟨[], rfl⟩
    · split
      · split
        · exact ⟨[.addDeathRecipient dhType _], List.append_assoc ..⟩
        · exact ⟨[.addDeathRecipient dhType _, .unLoadDistributedHDF dhType],
            by rw [List.append_assoc, List.append_assoc]; rfl⟩
      · exact ⟨[], rfl⟩
  | unLoad dhType remoteObj =>
    refine ⟨.unLoadDistributedHDF dhType, ?_⟩
    unfold run unLoadAndUnwatch logged
    dsimp only
    split
    · exact ⟨[], rfl⟩
    · split
      · exact ⟨[.removeDeathRecipient dhType _], List.append_assoc ..⟩
      · exact ⟨[], rfl⟩

theorem Stub.reaches_iff {R : Type} (stub : Stub R) (answers : Op R → Answer) (code : UInt32)
    (data : Parcel R) (log : List (Op R)) :
    (stub.onRemoteRequest (logged answers) code data log).state ≠ log ↔
      stub.Reaches code data := by
  constructor
  · intro h
    by_contra hreaches
    exact h (stub.onRemoteRequest_of_not_reaches _ hreaches log).1
  · rintro ⟨htoken, c, hcode, hpermits, hsome⟩
    obtain ⟨action, haction⟩ := Option.isSome_iff_exists.1 hsome
    rw [stub.onRemoteRequest_of_reaches _ htoken hcode hpermits haction]
    rw [respond_state]
    obtain ⟨op, ops, hlog⟩ := action.run_logged answers log
    rw [hlog]
    simp

/-! ## Runs of requests -/

/-- A request, and the stub as its caller meets it. -/
structure Incoming (R : Type) where
  stub : Stub R
  code : UInt32
  data : Parcel R

variable {R S : Type}

def Incoming.Reaches (q : Incoming R) : Prop := q.stub.Reaches q.code q.data

instance (q : Incoming R) : Decidable q.Reaches := inferInstanceAs (Decidable (q.stub.Reaches _ _))

/-- Requests one after the other, with what each returns and its reply. -/
def serveAll (service : Service R S) :
    List (Incoming R) → S → List (Incoming R × Int × Parcel R) × S
  | [], s => ([], s)
  | q :: qs, s =>
    let served := q.stub.onRemoteRequest service q.code q.data s
    let (rs, s) := serveAll service qs served.state
    ((q, served.ret, served.reply) :: rs, s)

/-- The requests that do not reach the service are not seen by the others. -/
theorem serveAll_filter (service : Service R S) : ∀ (qs : List (Incoming R)) (s : S),
    serveAll service (qs.filter fun q => q.Reaches) s =
      ((serveAll service qs s).1.filter fun r => r.1.Reaches, (serveAll service qs s).2)
  | [], _ => rfl
  | q :: qs, s => by
    by_cases hq : q.Reaches
    · rw [List.filter_cons, if_pos (decide_eq_true hq), serveAll, serveAll, serveAll_filter]
      dsimp only
      rw [List.filter_cons, if_pos (decide_eq_true hq)]
    · rw [List.filter_cons, if_neg (by simpa using hq), serveAll_filter, serveAll]
      dsimp only
      rw [List.filter_cons, if_neg (by simpa using hq),
        (q.stub.onRemoteRequest_of_not_reaches service hq s).1]
end Remote

end DHFwk
