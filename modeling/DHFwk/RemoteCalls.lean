import DHFwk.Publisher
import DHFwk.RemoteRequests

/-!
# Calls of other processes

A client calls the service through `DistributedHardwareProxy`. A method checks its arguments and
the remote object, writes the token and the arguments into a parcel, sends it and reads the reply.

`remote` puts the proxy, the link and the stub together. Seen from the service, the calls of
clients are calls made on the spot (`remote_refines`) : those that are turned down on either side,
or that the link loses, change nothing, and the others arrive with the arguments of the client
(`Attempt.action`). What the client is told says less : for three calls nobody waits for the reply,
and the handlers of the publisher do not pass on what the service answers (`told_isSuccess_iff`).
-/

set_option linter.unusedSectionVars false

namespace DHFwk

open Wire

namespace Remote

abbrev ERR_DH_FWK_SERVICE_IPC_SEND_REQUEST_FAIL : Int := -10801
abbrev ERR_DH_FWK_SERVICE_WRITE_TOKEN_FAIL : Int := -10805
abbrev ERR_DH_FWK_SERVICE_REMOTE_IS_NULL : Int := -10806
abbrev ERR_DH_FWK_PUBLISHER_LISTENER_IS_NULL : Int := -10808
abbrev ERR_DH_FWK_SERVICE_MSG_INVALID : Int := -10809
abbrev ERR_DH_FWK_AVTRANS_CALLBACK_IS_NULL : Int := -10810
abbrev ERR_DH_FWK_STATUS_LISTENER_IS_NULL : Int := -10812
abbrev ERR_DH_AVT_SERVICE_REMOTE_IS_NULL : Int := -80017
abbrev ERR_DH_AVT_SERVICE_WRITE_TOKEN_FAIL : Int := -80018
abbrev ERR_DH_AVT_SERVICE_WRITE_INFO_FAIL : Int := -80019
abbrev ERR_DH_AVT_SERVICE_IPC_SEND_REQUEST_FAIL : Int := -80019

/-! ## The calls of a client -/

/-- The methods of the proxy. A listener may be null. -/
inductive Call (R : Type)
  | registerPublisherListener (topic : UInt32) (listener : Option R)
  | unregisterPublisherListener (topic : UInt32) (listener : Option R)
  | publishMessage (topic : UInt32) (msg : String)
  | queryLocalSysSpec (spec : UInt32)
  | initializeAVCenter (transRole : UInt32)
  | releaseAVCenter (engineId : Int32)
  | createControlChannel (engineId : Int32) (peerDevId : String)
  | notifyAVCenter (engineId : Int32) (event : AVTransEvent)
  | registerCtlCenterCallback (engineId : Int32) (callback : Option R)
  | notifySourceRemoteSinkStarted (deviceId : String)
  | pauseDistributedHardware (dhType : UInt32) (networkId : String)
  | resumeDistributedHardware (dhType : UInt32) (networkId : String)
  | stopDistributedHardware (dhType : UInt32) (networkId : String)
  | getDistributedHardware (networkId : String) (enableStep : UInt32) (callback : Option R)
  | registerDHStatusSinkListener (listener : Option R)
  | unregisterDHStatusSinkListener (listener : Option R)
  | registerDHStatusSourceListener (networkId : String) (listener : Option R)
  | unregisterDHStatusSourceListener (networkId : String) (listener : Option R)
  | enableSink (descriptors : List DHDescriptor)
  | disableSink (descriptors : List DHDescriptor)
  | enableSource (networkId : String) (descriptors : List DHDescriptor)
  | disableSource (networkId : String) (descriptors : List DHDescriptor)
  | loadDistributedHDF (dhType : UInt32)
  | unLoadDistributedHDF (dhType : UInt32)
  | loadSinkDMSDPService (udid : String)
  | notifySinkRemoteSourceStarted (udid : String)
  | registerHardwareAccessListener (dhType : UInt32) (callback : Option R) (timeOut : Int32)
      (pkgName : String)
  | unregisterHardwareAccessListener (dhType : UInt32) (callback : Option R) (pkgName : String)
  | setAuthorizationResult (dhType : UInt32) (requestId : String) (granted : Bool)
  deriving DecidableEq, Repr

/-! ## The proxy -/

/-- The proxy of a client. `remote` says whether there is a remote object. -/
structure Proxy (R : Type) where
  GetDescriptor : String
  remote : Bool
  hdfDeathListenerStub_ : R
  /-- Whether a value still fits into the parcel. -/
  fits : Parcel R → Item (Kind.Val R) → Bool

/-- What `SendRequest` is called with. -/
structure Message (R : Type) where
  code : Code
  data : Parcel R
  /-- `MessageOption::TF_ASYNC`. -/
  isAsync : Bool := false

/-- An argument, and the error if it cannot be written. -/
abbrev Write (R : Type) := Item (Kind.Val R) × Int

section Writes

variable {R : Type}

def ofInt32 (v : Int32) : Item (Kind.Val R) := ⟨.int32, v⟩

def ofUint32 (v : UInt32) : Item (Kind.Val R) := ⟨.uint32, v⟩

def ofString (v : String) : Item (Kind.Val R) := ⟨.string, v⟩

def ofBool (v : Bool) : Item (Kind.Val R) := ⟨.bool, v⟩

def ofObject (v : Option R) : Item (Kind.Val R) := ⟨.object, v⟩

end Writes

namespace Proxy

variable {R : Type} (proxy : Proxy R)

/-- The body of the methods : what may be wrong, each with its error, then the token and the
arguments. -/
def message (checks : List (Bool × Int)) (tokenFail : Int) (writes : List (Write R))
    (code : Code) : Except Int (Message R) :=
  match checks.find? Prod.fst with
  | some (_, e) => .error e
  | none =>
    match writeItems proxy.fits ((⟨.token, proxy.GetDescriptor⟩, tokenFail) :: writes) [] with
    | .ok data => .ok { code, data }
    | .error e => .error e

/-- The body of the methods whose writes fail with the errors of the framework. -/
def fwkMessage (checks : List (Bool × Int)) (args : List (Item (Kind.Val R)))
    (code : Code) : Except Int (Message R) :=
  proxy.message checks ERR_DH_FWK_SERVICE_WRITE_TOKEN_FAIL
    (args.map (·, ERR_DH_FWK_SERVICE_WRITE_INFO_FAIL)) code

def registerPublisherListener (topic : UInt32) (listener : Option R) : Except Int (Message R) :=
  proxy.fwkMessage [(listener.isNone, ERR_DH_FWK_PUBLISHER_LISTENER_IS_NULL),
    (!proxy.remote, ERR_DH_FWK_SERVICE_REMOTE_IS_NULL),
    (!validTopic topic, ERR_DH_FWK_PARA_INVALID)] [ofUint32 topic, ofObject listener]
    .REG_PUBLISHER_LISTNER

def unregisterPublisherListener (topic : UInt32) (listener : Option R) :
    Except Int (Message R) :=
  proxy.fwkMessage [(listener.isNone, ERR_DH_FWK_PUBLISHER_LISTENER_IS_NULL),
    (!proxy.remote, ERR_DH_FWK_SERVICE_REMOTE_IS_NULL),
    (!validTopic topic, ERR_DH_FWK_PARA_INVALID)] [ofUint32 topic, ofObject listener]
    .UNREG_PUBLISHER_LISTENER

def publishMessage (topic : UInt32) (msg : String) : Except Int (Message R) :=
  proxy.fwkMessage [(!proxy.remote, ERR_DH_FWK_SERVICE_REMOTE_IS_NULL),
    (!validTopic topic, ERR_DH_FWK_PARA_INVALID),
    (!isMessageLengthValid msg, ERR_DH_FWK_SERVICE_MSG_INVALID)] [ofUint32 topic, ofString msg]
    .PUBLISH_MESSAGE

/-- The errors are not told : the method returns an empty text. -/
def queryLocalSysSpec (spec : UInt32) : Except Int (Message R) :=
  proxy.fwkMessage [(!proxy.remote, ERR_DH_FWK_SERVICE_REMOTE_IS_NULL),
    (!validQueryLocalSpec spec, ERR_DH_FWK_PARA_INVALID)] [ofUint32 spec] .QUERY_LOCAL_SYS_SPEC

/-- The body of most other methods. -/
def avtMessage (checks : List (Bool × Int)) (args : List (Item (Kind.Val R))) (code : Code) :
    Except Int (Message R) :=
  proxy.message checks ERR_DH_AVT_SERVICE_WRITE_TOKEN_FAIL
    (args.map (·, ERR_DH_AVT_SERVICE_WRITE_INFO_FAIL)) code

/-- `Remote()` is null. -/
def noRemote : Bool × Int := (!proxy.remote, ERR_DH_AVT_SERVICE_REMOTE_IS_NULL)

def initializeAVCenter (transRole : UInt32) : Except Int (Message R) :=
  proxy.avtMessage [proxy.noRemote] [ofUint32 transRole] .INIT_CTL_CEN

/-- Nobody waits for the reply. -/
def async (message : Except Int (Message R)) : Except Int (Message R) :=
  message.map fun m => { m with isAsync := true }

def releaseAVCenter (engineId : Int32) : Except Int (Message R) :=
  async (proxy.avtMessage [proxy.noRemote] [ofInt32 engineId] .RELEASE_CTL_CEN)

def createControlChannel (engineId : Int32) (peerDevId : String) : Except Int (Message R) :=
  async (proxy.avtMessage [proxy.noRemote] [ofInt32 engineId, ofString peerDevId]
    .CREATE_CTL_CEN_CHANNEL)

def notifyAVCenter (engineId : Int32) (event : AVTransEvent) : Except Int (Message R) :=
  async (proxy.avtMessage [proxy.noRemote]
    [ofInt32 engineId, ofUint32 event.type, ofString event.content, ofString event.peerDevId]
    .NOTIFY_AV_EVENT)

def registerCtlCenterCallback (engineId : Int32) (callback : Option R) :
    Except Int (Message R) :=
  proxy.avtMessage [proxy.noRemote, (callback.isNone, ERR_DH_FWK_AVTRANS_CALLBACK_IS_NULL)]
    [ofInt32 engineId, ofObject callback] .REGISTER_CTL_CEN_CALLBACK

def notifySourceRemoteSinkStarted (deviceId : String) : Except Int (Message R) :=
  proxy.fwkMessage [proxy.noRemote] [ofString deviceId] .NOTIFY_SOURCE_DEVICE_REMOTE_DMSDP_STARTED

/-- The id is looked at before the remote object. -/
def invalidId (networkId : String) : Bool × Int :=
  (!isIdLengthValid networkId, ERR_DH_FWK_PARA_INVALID)

def pauseDistributedHardware (dhType : UInt32) (networkId : String) : Except Int (Message R) :=
  proxy.avtMessage [invalidId networkId, proxy.noRemote]
    [ofInt32 dhType.toInt32, ofString networkId] .PAUSE_DISTRIBUTED_HARDWARE

def resumeDistributedHardware (dhType : UInt32) (networkId : String) : Except Int (Message R) :=
  proxy.avtMessage [invalidId networkId, proxy.noRemote]
    [ofInt32 dhType.toInt32, ofString networkId] .RESUME_DISTRIBUTED_HARDWARE

def stopDistributedHardware (dhType : UInt32) (networkId : String) : Except Int (Message R) :=
  proxy.avtMessage [invalidId networkId, proxy.noRemote]
    [ofInt32 dhType.toInt32, ofString networkId] .STOP_DISTRIBUTED_HARDWARE

/-- The methods whose last argument is an object, with an error of its own. -/
def objectMessage (checks : List (Bool × Int)) (args : List (Item (Kind.Val R)))
    (object : Option R) (code : Code) : Except Int (Message R) :=
  proxy.message checks ERR_DH_AVT_SERVICE_WRITE_TOKEN_FAIL
    (args.map (·, ERR_DH_AVT_SERVICE_WRITE_INFO_FAIL) ++
      [(ofObject object, ERR_DH_FWK_SERVICE_WRITE_INFO_FAIL)]) code

def getDistributedHardware (networkId : String) (enableStep : UInt32) (callback : Option R) :
    Except Int (Message R) :=
  proxy.objectMessage [invalidId networkId, (callback.isNone, ERR_DH_FWK_PARA_INVALID),
    proxy.noRemote] [ofString networkId, ofUint32 enableStep] callback .GET_DISTRIBUTED_HARDWARE

def nullListener (listener : Option R) : Bool × Int :=
  (listener.isNone, ERR_DH_FWK_STATUS_LISTENER_IS_NULL)

def registerDHStatusSinkListener (listener : Option R) : Except Int (Message R) :=
  proxy.objectMessage [nullListener listener, proxy.noRemote] [] listener
    .REG_DH_SINK_STATUS_LISTNER

def unregisterDHStatusSinkListener (listener : Option R) : Except Int (Message R) :=
  proxy.objectMessage [nullListener listener, proxy.noRemote] [] listener
    .UNREG_DH_SINK_STATUS_LISTNER

def registerDHStatusSourceListener (networkId : String) (listener : Option R) :
    Except Int (Message R) :=
  proxy.objectMessage [nullListener listener, invalidId networkId, proxy.noRemote]
    [ofString networkId] listener .REG_DH_SOURCE_STATUS_LISTNER

def unregisterDHStatusSourceListener (networkId : String) (listener : Option R) :
    Except Int (Message R) :=
  proxy.objectMessage [nullListener listener, invalidId networkId, proxy.noRemote]
    [ofString networkId] listener .UNREG_DH_SOURCE_STATUS_LISTNER

def descriptorItems (descriptor : DHDescriptor) : List (Item (Kind.Val R)) :=
  [ofInt32 descriptor.dhType.toInt32, ofString descriptor.id, ofString descriptor.customParams,
    ofUint32 descriptor.firstCallingTokenId]

/-- `WriteDescriptors` ; the loop goes up to the size as it was cut to 32 bits. -/
def writeDescriptors (data : Parcel R) (descriptors : List DHDescriptor) :
    Except Int (Parcel R) :=
  let size := Int32.ofNat descriptors.length
  if DescriptorIpc.MAX_DH_DESCRIPTOR_ARRAY_SIZE.toInt32 < size then .error ERR_DH_FWK_PARA_INVALID
  else
    writeItems proxy.fits
      ((ofInt32 size :: (descriptors.take size.toInt.toNat).flatMap descriptorItems).map
        (·, ERR_DH_AVT_SERVICE_WRITE_INFO_FAIL)) data

/-- The descriptors are written behind the rest. -/
def withDescriptors (message : Except Int (Message R)) (descriptors : List DHDescriptor) :
    Except Int (Message R) :=
  match message with
  | .error e => .error e
  | .ok message =>
    match proxy.writeDescriptors message.data descriptors with
    | .ok data => .ok { message with data }
    | .error _ => .error ERR_DH_AVT_SERVICE_WRITE_INFO_FAIL

def enableSink (descriptors : List DHDescriptor) : Except Int (Message R) :=
  proxy.withDescriptors (proxy.avtMessage [proxy.noRemote] [] .ENABLE_SINK) descriptors

def disableSink (descriptors : List DHDescriptor) : Except Int (Message R) :=
  proxy.withDescriptors (proxy.avtMessage [proxy.noRemote] [] .DISABLE_SINK) descriptors

def enableSource (networkId : String) (descriptors : List DHDescriptor) :
    Except Int (Message R) :=
  proxy.withDescriptors (proxy.avtMessage [invalidId networkId, proxy.noRemote]
    [ofString networkId] .ENABLE_SOURCE) descriptors

def disableSource (networkId : String) (descriptors : List DHDescriptor) :
    Except Int (Message R) :=
  proxy.withDescriptors (proxy.avtMessage [invalidId networkId, proxy.noRemote]
    [ofString networkId] .DISABLE_SOURCE) descriptors

def loadDistributedHDF (dhType : UInt32) : Except Int (Message R) :=
  proxy.avtMessage [proxy.noRemote] [ofUint32 dhType, ofObject (some proxy.hdfDeathListenerStub_)]
    .LOAD_HDF

def unLoadDistributedHDF (dhType : UInt32) : Except Int (Message R) :=
  proxy.avtMessage [proxy.noRemote] [ofUint32 dhType, ofObject (some proxy.hdfDeathListenerStub_)]
    .UNLOAD_HDF

def loadSinkDMSDPService (udid : String) : Except Int (Message R) :=
  proxy.fwkMessage [proxy.noRemote] [ofString udid] .INIT_SINK_DMSDP

def notifySinkRemoteSourceStarted (udid : String) : Except Int (Message R) :=
  proxy.fwkMessage [proxy.noRemote] [ofString udid] .NOTIFY_SINK_DEVICE_REMOTE_DMSDP_STARTED

def registerHardwareAccessListener (dhType : UInt32) (callback : Option R) (timeOut : Int32)
    (pkgName : String) : Except Int (Message R) :=
  proxy.fwkMessage [nullListener callback, proxy.noRemote]
    [ofUint32 dhType, ofObject callback, ofInt32 timeOut, ofString pkgName]
    .REGISTER_HARDWARE_ACCESS_LISTENER

def unregisterHardwareAccessListener (dhType : UInt32) (callback : Option R)
    (pkgName : String) : Except Int (Message R) :=
  proxy.fwkMessage [nullListener callback, proxy.noRemote]
    [ofUint32 dhType, ofObject callback, ofString pkgName] .UNREGISTER_HARDWARE_ACCESS_LISTENER

/-- The method returns nothing, whatever fails. -/
def setAuthorizationResult (dhType : UInt32) (requestId : String) (granted : Bool) :
    Except Int (Message R) :=
  proxy.avtMessage [proxy.noRemote] [ofUint32 dhType, ofString requestId, ofBool granted]
    .SET_AUTHORIZATION_RESULT

/-- A method up to `SendRequest`. -/
def prepare : Call R → Except Int (Message R)
  | .registerPublisherListener topic listener => proxy.registerPublisherListener topic listener
  | .unregisterPublisherListener topic listener => proxy.unregisterPublisherListener topic listener
  | .publishMessage topic msg => proxy.publishMessage topic msg
  | .queryLocalSysSpec spec => proxy.queryLocalSysSpec spec
  | .initializeAVCenter transRole => proxy.initializeAVCenter transRole
  | .releaseAVCenter engineId => proxy.releaseAVCenter engineId
  | .createControlChannel engineId peerDevId => proxy.createControlChannel engineId peerDevId
  | .notifyAVCenter engineId event => proxy.notifyAVCenter engineId event
  | .registerCtlCenterCallback engineId callback =>
    proxy.registerCtlCenterCallback engineId callback
  | .notifySourceRemoteSinkStarted deviceId => proxy.notifySourceRemoteSinkStarted deviceId
  | .pauseDistributedHardware dhType networkId => proxy.pauseDistributedHardware dhType networkId
  | .resumeDistributedHardware dhType networkId => proxy.resumeDistributedHardware dhType networkId
  | .stopDistributedHardware dhType networkId => proxy.stopDistributedHardware dhType networkId
  | .getDistributedHardware networkId enableStep callback =>
    proxy.getDistributedHardware networkId enableStep callback
  | .registerDHStatusSinkListener listener => proxy.registerDHStatusSinkListener listener
  | .unregisterDHStatusSinkListener listener => proxy.unregisterDHStatusSinkListener listener
  | .registerDHStatusSourceListener networkId listener =>
    proxy.registerDHStatusSourceListener networkId listener
  | .unregisterDHStatusSourceListener networkId listener =>
    proxy.unregisterDHStatusSourceListener networkId listener
  | .enableSink descriptors => proxy.enableSink descriptors
  | .disableSink descriptors => proxy.disableSink descriptors
  | .enableSource networkId descriptors => proxy.enableSource networkId descriptors
  | .disableSource networkId descriptors => proxy.disableSource networkId descriptors
  | .loadDistributedHDF dhType => proxy.loadDistributedHDF dhType
  | .unLoadDistributedHDF dhType => proxy.unLoadDistributedHDF dhType
  | .loadSinkDMSDPService udid => proxy.loadSinkDMSDPService udid
  | .notifySinkRemoteSourceStarted udid => proxy.notifySinkRemoteSourceStarted udid
  | .registerHardwareAccessListener dhType callback timeOut pkgName =>
    proxy.registerHardwareAccessListener dhType callback timeOut pkgName
  | .unregisterHardwareAccessListener dhType callback pkgName =>
    proxy.unregisterHardwareAccessListener dhType callback pkgName
  | .setAuthorizationResult dhType requestId granted =>
    proxy.setAuthorizationResult dhType requestId granted

end Proxy

/-! ## The way to the service and back -/

/-- What the IPC library tells the client. -/
structure Ipc (R : Type) where
  reading : Reading (Kind.Val R)
  unread_int32 : reading.unread .int32 = (0 : Int32)
  /-- What `SendRequest` returns for what a handler returned and its reply. -/
  status : Int → Parcel R → Int
  status_success : ∀ reply, status DH_FWK_SUCCESS reply = DescriptorIpc.NO_ERROR
  /-- An error without a reply is the error of `SendRequest`. -/
  status_error : ∀ ret, ret ≠ DH_FWK_SUCCESS → status ret [] ≠ DescriptorIpc.NO_ERROR

/-- What becomes of a message : it fails, it is served but `SendRequest` fails, or it is served. -/
inductive Delivery
  | fails | replyLost | arrives
  deriving DecidableEq, Repr

/-- What a client is told. -/
inductive Told
  | code (ret : Int)
  | engine (engineId : Int32) (ret : Int)
  | text (specStr : String)
  | nothing
  deriving DecidableEq, Repr

namespace Call

variable {R : Type}

/-- What a method returns with an error. -/
def failed (call : Call R) (e : Int) : Told :=
  match call with
  | .queryLocalSysSpec _ => .text ""
  | .setAuthorizationResult .. => .nothing
  | _ => .code e

/-- The error for a message that is not sent. -/
def sendFail (call : Call R) : Int :=
  match call with
  | .registerPublisherListener .. | .unregisterPublisherListener .. | .publishMessage .. =>
    ERR_DH_FWK_SERVICE_IPC_SEND_REQUEST_FAIL
  | _ => ERR_DH_AVT_SERVICE_IPC_SEND_REQUEST_FAIL

/-- What a method reads of the reply. -/
def replied (call : Call R) (ipc : Ipc R) (reply : Parcel R) : Told :=
  match call with
  | .queryLocalSysSpec _ => .text (ipc.reading.read .string reply).1
  | .setAuthorizationResult .. => .nothing
  | .initializeAVCenter _ =>
    let (engineId, reply) := ipc.reading.read .int32 reply
    .engine engineId (Int32.toInt (ipc.reading.read .int32 reply).1)
  | _ => .code (Int32.toInt (ipc.reading.read .int32 reply).1)

end Call

/-- A call of a client, the stub as it meets it, and what becomes of its message. -/
structure Attempt (R : Type) where
  proxy : Proxy R
  call : Call R
  delivery : Delivery
  stub : Stub R

section Remote

variable {R S : Type} (ipc : Ipc R) (service : Service R S)

/-- A call from the method of the proxy to what it returns, with the service behind it. -/
def remote (attempt : Attempt R) (s : S) : Told × S :=
  match attempt.proxy.prepare attempt.call with
  | .error e => (attempt.call.failed e, s)
  | .ok message =>
    let served := attempt.stub.onRemoteRequest service message.code.number message.data s
    match attempt.delivery with
    | .fails => (attempt.call.failed attempt.call.sendFail, s)
    | .replyLost => (attempt.call.failed attempt.call.sendFail, served.state)
    | .arrives =>
      if message.isAsync then (attempt.call.replied ipc [], served.state)
      else if ipc.status served.ret served.reply ≠ DescriptorIpc.NO_ERROR then
        (attempt.call.failed attempt.call.sendFail, served.state)
      else (attempt.call.replied ipc served.reply, served.state)

end Remote

/-! ## What a call asks for -/

namespace Call

variable {R : Type}

def code : Call R → Code
  | .registerPublisherListener .. => .REG_PUBLISHER_LISTNER
  | .unregisterPublisherListener .. => .UNREG_PUBLISHER_LISTENER
  | .publishMessage .. => .PUBLISH_MESSAGE
  | .queryLocalSysSpec .. => .QUERY_LOCAL_SYS_SPEC
  | .initializeAVCenter .. => .INIT_CTL_CEN
  | .releaseAVCenter .. => .RELEASE_CTL_CEN
  | .createControlChannel .. => .CREATE_CTL_CEN_CHANNEL
  | .notifyAVCenter .. => .NOTIFY_AV_EVENT
  | .registerCtlCenterCallback .. => .REGISTER_CTL_CEN_CALLBACK
  | .notifySourceRemoteSinkStarted .. => .NOTIFY_SOURCE_DEVICE_REMOTE_DMSDP_STARTED
  | .pauseDistributedHardware .. => .PAUSE_DISTRIBUTED_HARDWARE
  | .resumeDistributedHardware .. => .RESUME_DISTRIBUTED_HARDWARE
  | .stopDistributedHardware .. => .STOP_DISTRIBUTED_HARDWARE
  | .getDistributedHardware .. => .GET_DISTRIBUTED_HARDWARE
  | .registerDHStatusSinkListener .. => .REG_DH_SINK_STATUS_LISTNER
  | .unregisterDHStatusSinkListener .. => .UNREG_DH_SINK_STATUS_LISTNER
  | .registerDHStatusSourceListener .. => .REG_DH_SOURCE_STATUS_LISTNER
  | .unregisterDHStatusSourceListener .. => .UNREG_DH_SOURCE_STATUS_LISTNER
  | .enableSink .. => .ENABLE_SINK
  | .disableSink .. => .DISABLE_SINK
  | .enableSource .. => .ENABLE_SOURCE
  | .disableSource .. => .DISABLE_SOURCE
  | .loadDistributedHDF .. => .LOAD_HDF
  | .unLoadDistributedHDF .. => .UNLOAD_HDF
  | .loadSinkDMSDPService .. => .INIT_SINK_DMSDP
  | .notifySinkRemoteSourceStarted .. => .NOTIFY_SINK_DEVICE_REMOTE_DMSDP_STARTED
  | .registerHardwareAccessListener .. => .REGISTER_HARDWARE_ACCESS_LISTENER
  | .unregisterHardwareAccessListener .. => .UNREGISTER_HARDWARE_ACCESS_LISTENER
  | .setAuthorizationResult .. => .SET_AUTHORIZATION_RESULT

/-- The three calls whose reply nobody waits for. -/
def isAsync : Call R → Bool
  | .releaseAVCenter .. | .createControlChannel .. | .notifyAVCenter .. => true
  | _ => false

/-- The arguments are those that the proxy lets through. -/
def isValid : Call R → Bool
  | .registerPublisherListener topic listener => listener.isSome && validTopic topic
  | .unregisterPublisherListener topic listener => listener.isSome && validTopic topic
  | .publishMessage topic msg => validTopic topic && isMessageLengthValid msg
  | .queryLocalSysSpec spec => validQueryLocalSpec spec
  | .registerCtlCenterCallback _ callback => callback.isSome
  | .pauseDistributedHardware _ networkId => isIdLengthValid networkId
  | .resumeDistributedHardware _ networkId => isIdLengthValid networkId
  | .stopDistributedHardware _ networkId => isIdLengthValid networkId
  | .getDistributedHardware networkId _ callback => isIdLengthValid networkId && callback.isSome
  | .registerDHStatusSinkListener listener => listener.isSome
  | .unregisterDHStatusSinkListener listener => listener.isSome
  | .registerDHStatusSourceListener networkId listener =>
    listener.isSome && isIdLengthValid networkId
  | .unregisterDHStatusSourceListener networkId listener =>
    listener.isSome && isIdLengthValid networkId
  | .enableSink descriptors => sizeFits descriptors
  | .disableSink descriptors => sizeFits descriptors
  | .enableSource networkId descriptors => isIdLengthValid networkId && sizeFits descriptors
  | .disableSource networkId descriptors => isIdLengthValid networkId && sizeFits descriptors
  | .registerHardwareAccessListener _ callback .. => callback.isSome
  | .unregisterHardwareAccessListener _ callback _ => callback.isSome
  | _ => true
where
  sizeFits (descriptors : List DHDescriptor) : Bool :=
    !(DescriptorIpc.MAX_DH_DESCRIPTOR_ARRAY_SIZE.toInt32 < Int32.ofNat descriptors.length)

/-- The arguments are those that the stub lets through, of the ones that the proxy does. -/
def isAccepted : Call R → Bool
  | .notifySourceRemoteSinkStarted udid => isIdLengthValid udid
  | .loadSinkDMSDPService udid => isIdLengthValid udid
  | .notifySinkRemoteSourceStarted udid => isIdLengthValid udid
  | _ => true

/-- The descriptors that are written. They are all of them, if there are fewer than 2³¹. -/
def written (descriptors : List DHDescriptor) : List DHDescriptor :=
  descriptors.take (Int32.ofNat descriptors.length).toInt.toNat

/-- The arguments as they are written. -/
def items (hdfDeathListenerStub_ : R) : Call R → List (Item (Kind.Val R))
  | .registerPublisherListener topic listener => [ofUint32 topic, ofObject listener]
  | .unregisterPublisherListener topic listener => [ofUint32 topic, ofObject listener]
  | .publishMessage topic msg => [ofUint32 topic, ofString msg]
  | .queryLocalSysSpec spec => [ofUint32 spec]
  | .initializeAVCenter transRole => [ofUint32 transRole]
  | .releaseAVCenter engineId => [ofInt32 engineId]
  | .createControlChannel engineId peerDevId => [ofInt32 engineId, ofString peerDevId]
  | .notifyAVCenter engineId event =>
    [ofInt32 engineId, ofUint32 event.type, ofString event.content, ofString event.peerDevId]
  | .registerCtlCenterCallback engineId callback => [ofInt32 engineId, ofObject callback]
  | .notifySourceRemoteSinkStarted deviceId => [ofString deviceId]
  | .pauseDistributedHardware dhType networkId => [ofInt32 dhType.toInt32, ofString networkId]
  | .resumeDistributedHardware dhType networkId => [ofInt32 dhType.toInt32, ofString networkId]
  | .stopDistributedHardware dhType networkId => [ofInt32 dhType.toInt32, ofString networkId]
  | .getDistributedHardware networkId enableStep callback =>
    [ofString networkId, ofUint32 enableStep, ofObject callback]
  | .registerDHStatusSinkListener listener => [ofObject listener]
  | .unregisterDHStatusSinkListener listener => [ofObject listener]
  | .registerDHStatusSourceListener networkId listener => [ofString networkId, ofObject listener]
  | .unregisterDHStatusSourceListener networkId listener =>
    [ofString networkId, ofObject listener]
  | .enableSink descriptors => ofDescriptors descriptors
  | .disableSink descriptors => ofDescriptors descriptors
  | .enableSource networkId descriptors => ofString networkId :: ofDescriptors descriptors
  | .disableSource networkId descriptors => ofString networkId :: ofDescriptors descriptors
  | .loadDistributedHDF dhType => [ofUint32 dhType, ofObject (some hdfDeathListenerStub_)]
  | .unLoadDistributedHDF dhType => [ofUint32 dhType, ofObject (some hdfDeathListenerStub_)]
  | .loadSinkDMSDPService udid => [ofString udid]
  | .notifySinkRemoteSourceStarted udid => [ofString udid]
  | .registerHardwareAccessListener dhType callback timeOut pkgName =>
    [ofUint32 dhType, ofObject callback, ofInt32 timeOut, ofString pkgName]
  | .unregisterHardwareAccessListener dhType callback pkgName =>
    [ofUint32 dhType, ofObject callback, ofString pkgName]
  | .setAuthorizationResult dhType requestId granted =>
    [ofUint32 dhType, ofString requestId, ofBool granted]
where
  ofDescriptors (descriptors : List DHDescriptor) : List (Item (Kind.Val R)) :=
    ofInt32 (Int32.ofNat descriptors.length) ::
      (written descriptors).flatMap Proxy.descriptorItems

/-- What the service is asked to do. -/
def action (hdfDeathListenerStub_ : R) : Call R → Option (Action R)
  | .registerPublisherListener topic listener =>
    listener.map fun l => .call (.registerPublisherListener topic l)
  | .unregisterPublisherListener topic listener =>
    listener.map fun l => .call (.unregisterPublisherListener topic l)
  | .publishMessage topic msg => some (.call (.publishMessage topic msg))
  | .queryLocalSysSpec spec => some (.call (.queryLocalSysSpec spec))
  | .initializeAVCenter transRole => some (.call (.initializeAVCenter transRole))
  | .releaseAVCenter engineId => some (.call (.releaseAVCenter engineId))
  | .createControlChannel engineId peerDevId =>
    some (.call (.createControlChannel engineId peerDevId))
  | .notifyAVCenter engineId event => some (.call (.notifyAVCenter engineId event))
  | .registerCtlCenterCallback engineId callback =>
    callback.map fun c => .call (.registerCtlCenterCallback engineId c)
  | .notifySourceRemoteSinkStarted deviceId =>
    some (.call (.notifySourceRemoteSinkStarted deviceId))
  | .pauseDistributedHardware dhType networkId =>
    some (.call (.pauseDistributedHardware dhType networkId))
  | .resumeDistributedHardware dhType networkId =>
    some (.call (.resumeDistributedHardware dhType networkId))
  | .stopDistributedHardware dhType networkId =>
    some (.call (.stopDistributedHardware dhType networkId))
  | .getDistributedHardware networkId enableStep callback =>
    callback.map fun c => .call (.getDistributedHardware networkId enableStep c)
  | .registerDHStatusSinkListener listener =>
    listener.map fun l => .call (.registerDHStatusSinkListener l)
  | .unregisterDHStatusSinkListener listener =>
    listener.map fun l => .call (.unregisterDHStatusSinkListener l)
  | .registerDHStatusSourceListener networkId listener =>
    listener.map fun l => .call (.registerDHStatusSourceListener networkId l)
  | .unregisterDHStatusSourceListener networkId listener =>
    listener.map fun l => .call (.unregisterDHStatusSourceListener networkId l)
  | .enableSink descriptors => some (.call (.enableSink (written descriptors)))
  | .disableSink descriptors => some (.call (.disableSink (written descriptors)))
  | .enableSource networkId descriptors =>
    some (.call (.enableSource networkId (written descriptors)))
  | .disableSource networkId descriptors =>
    some (.call (.disableSource networkId (written descriptors)))
  | .loadDistributedHDF dhType => some (.load dhType (some hdfDeathListenerStub_))
  | .unLoadDistributedHDF dhType => some (.unLoad dhType (some hdfDeathListenerStub_))
  | .loadSinkDMSDPService udid => some (.call (.loadSinkDMSDPService udid))
  | .notifySinkRemoteSourceStarted udid => some (.call (.notifySinkRemoteSourceStarted udid))
  | .registerHardwareAccessListener dhType callback timeOut pkgName =>
    callback.map fun c => .call (.registerHardwareAccessListener dhType c timeOut pkgName)
  | .unregisterHardwareAccessListener dhType callback pkgName =>
    callback.map fun c => .call (.unregisterHardwareAccessListener dhType c pkgName)
  | .setAuthorizationResult dhType requestId granted =>
    some (.call (.setAuthorizationResult dhType requestId granted))

end Call

/-! ## The messages of the proxy -/

namespace Proxy

variable {R : Type} (proxy : Proxy R)

/-- What a method does, by whether its message can be made. -/
def Prepared (ok : Prop) (message : Message R) (r : Except Int (Message R)) : Prop :=
  (ok → r = .ok message) ∧ (¬ok → ∃ e, e ≠ DH_FWK_SUCCESS ∧ r = .error e)

theorem Prepared.congr {ok ok' : Prop} {message : Message R} {r : Except Int (Message R)}
    (h : Prepared ok message r) (hok : ok' ↔ ok) : Prepared ok' message r :=
  ⟨fun h' => h.1 (hok.1 h'), fun h' => h.2 (mt hok.2 h')⟩

theorem Prepared.async {ok : Prop} {code : Code} {data : Parcel R} {r : Except Int (Message R)}
    (h : Prepared ok { code, data } r) :
    Prepared ok { code, data, isAsync := true } (async r) := by
  refine ⟨fun hok => ?_, fun hok => ?_⟩
  · rw [h.1 hok]
    rfl
  · obtain ⟨e, he, heq⟩ := h.2 hok
    exact ⟨e, he, by rw [heq]; rfl⟩

theorem message_prepared (checks : List (Bool × Int)) (tokenFail : Int) (writes : List (Write R))
    (code : Code) (hchecks : ∀ c ∈ checks, c.2 ≠ DH_FWK_SUCCESS)
    (htoken : tokenFail ≠ DH_FWK_SUCCESS) (hwrites : ∀ w ∈ writes, w.2 ≠ DH_FWK_SUCCESS) :
    Prepared (checks.all (!·.1) = true ∧
        fitsItems proxy.fits (⟨.token, proxy.GetDescriptor⟩ :: writes.map Prod.fst) [] = true)
      { code, data := ⟨.token, proxy.GetDescriptor⟩ :: writes.map Prod.fst }
      (proxy.message checks tokenFail writes code) := by
  unfold message
  cases hfind : checks.find? Prod.fst with
  | some c =>
    have hc := List.mem_of_find?_eq_some hfind
    refine ⟨fun h => ?_, fun _ => ⟨c.2, hchecks c hc, rfl⟩⟩
    have hfalse := List.all_eq_true.1 h.1 c hc
    rw [List.find?_some hfind] at hfalse
    exact absurd hfalse (by decide)
  | none =>
    have hall : checks.all (!·.1) = true := by
      refine List.all_eq_true.2 fun c hc => ?_
      rw [Bool.eq_false_of_not_eq_true (List.find?_eq_none.1 hfind c hc)]
      rfl
    dsimp only
    refine ⟨fun h => ?_, fun h => ?_⟩
    · rw [writeItems_eq _ _ _ h.2]
      rfl
    · have hfits := Bool.eq_false_of_not_eq_true fun hf => h ⟨hall, hf⟩
      obtain ⟨e, ⟨v, hmem⟩, heq⟩ := writeItems_eq_error
        (show fitsItems proxy.fits ((((⟨.token, proxy.GetDescriptor⟩, tokenFail) : Write R) ::
          writes).map Prod.fst) [] = false from hfits)
      rw [heq]
      refine ⟨e, ?_, rfl⟩
      obtain hv | hv := List.mem_cons.1 hmem
      · rw [(Prod.mk.inj hv).2]
        exact htoken
      · exact hwrites _ hv

theorem forall_mem_map_ne (args : List (Item (Kind.Val R))) {e : Int} (he : e ≠ DH_FWK_SUCCESS) :
    ∀ w ∈ args.map (·, e), w.2 ≠ DH_FWK_SUCCESS := List.forall_mem_map.2 fun _ _ => he

theorem avtMessage_prepared (checks : List (Bool × Int)) (args : List (Item (Kind.Val R)))
    (code : Code) (hchecks : ∀ c ∈ checks, c.2 ≠ DH_FWK_SUCCESS) :
    Prepared (checks.all (!·.1) = true ∧
        fitsItems proxy.fits (⟨.token, proxy.GetDescriptor⟩ :: args) [] = true)
      { code, data := ⟨.token, proxy.GetDescriptor⟩ :: args }
      (proxy.avtMessage checks args code) := by
  have h := proxy.message_prepared checks ERR_DH_AVT_SERVICE_WRITE_TOKEN_FAIL
    (args.map (·, ERR_DH_AVT_SERVICE_WRITE_INFO_FAIL)) code hchecks (by decide)
    (forall_mem_map_ne args (by decide))
  rwa [map_fst_map] at h

theorem fwkMessage_prepared (checks : List (Bool × Int)) (args : List (Item (Kind.Val R)))
    (code : Code) (hchecks : ∀ c ∈ checks, c.2 ≠ DH_FWK_SUCCESS) :
    Prepared (checks.all (!·.1) = true ∧
        fitsItems proxy.fits (⟨.token, proxy.GetDescriptor⟩ :: args) [] = true)
      { code, data := ⟨.token, proxy.GetDescriptor⟩ :: args }
      (proxy.fwkMessage checks args code) := by
  have h := proxy.message_prepared checks ERR_DH_FWK_SERVICE_WRITE_TOKEN_FAIL
    (args.map (·, ERR_DH_FWK_SERVICE_WRITE_INFO_FAIL)) code hchecks (by decide)
    (forall_mem_map_ne args (by decide))
  rwa [map_fst_map] at h

theorem objectMessage_prepared (checks : List (Bool × Int)) (args : List (Item (Kind.Val R)))
    (object : Option R) (code : Code) (hchecks : ∀ c ∈ checks, c.2 ≠ DH_FWK_SUCCESS) :
    Prepared (checks.all (!·.1) = true ∧
        fitsItems proxy.fits (⟨.token, proxy.GetDescriptor⟩ :: (args ++ [ofObject object])) [] =
          true)
      { code, data := ⟨.token, proxy.GetDescriptor⟩ :: (args ++ [ofObject object]) }
      (proxy.objectMessage checks args object code) := by
  have h := proxy.message_prepared checks ERR_DH_AVT_SERVICE_WRITE_TOKEN_FAIL
    (args.map (·, ERR_DH_AVT_SERVICE_WRITE_INFO_FAIL) ++
      [(ofObject object, ERR_DH_FWK_SERVICE_WRITE_INFO_FAIL)]) code hchecks (by decide)
    (List.forall_mem_append.2 ⟨forall_mem_map_ne args (by decide),
      forall_mem_map_ne [ofObject object] (by decide)⟩)
  rwa [List.map_append, map_fst_map] at h

theorem Prepared.withDescriptors {ok : Prop} {code : Code} {data : Parcel R}
    {r : Except Int (Message R)} (h : Prepared ok { code, data } r)
    (descriptors : List DHDescriptor) :
    Prepared (ok ∧ Call.isValid.sizeFits descriptors = true ∧
        fitsItems proxy.fits (Call.items.ofDescriptors descriptors) data = true)
      { code, data := data ++ Call.items.ofDescriptors descriptors }
      (proxy.withDescriptors r descriptors) := by
  unfold Proxy.withDescriptors
  by_cases hok : ok
  · rw [h.1 hok]
    have hsize : Call.isValid.sizeFits descriptors = true ↔
        ¬DescriptorIpc.MAX_DH_DESCRIPTOR_ARRAY_SIZE.toInt32 < Int32.ofNat descriptors.length := by
      simp [Call.isValid.sizeFits]
    have hwrite : proxy.writeDescriptors data descriptors =
        if DescriptorIpc.MAX_DH_DESCRIPTOR_ARRAY_SIZE.toInt32 < Int32.ofNat descriptors.length then
          .error ERR_DH_FWK_PARA_INVALID
        else writeItems proxy.fits ((Call.items.ofDescriptors descriptors).map
          (·, ERR_DH_AVT_SERVICE_WRITE_INFO_FAIL)) data := rfl
    rw [writeItems_map] at hwrite
    dsimp only
    rw [hwrite, hsize]
    refine ⟨fun h' => ?_, fun h' => ⟨ERR_DH_AVT_SERVICE_WRITE_INFO_FAIL, by decide, ?_⟩⟩
    · rw [if_neg h'.2.1, if_pos h'.2.2]
    · by_cases hmax : DescriptorIpc.MAX_DH_DESCRIPTOR_ARRAY_SIZE.toInt32 <
          Int32.ofNat descriptors.length
      · rw [if_pos hmax]
      · rw [if_neg hmax, if_neg fun hfits => h' ⟨hok, hmax, hfits⟩]
  · obtain ⟨e, he, heq⟩ := h.2 hok
    rw [heq]
    exact ⟨fun h' => absurd h'.1 hok, fun _ => ⟨e, he, rfl⟩⟩

theorem fitsItems_token (fits : Parcel R → Item (Kind.Val R) → Bool) (v : Item (Kind.Val R))
    (ws : List (Item (Kind.Val R))) :
    fitsItems fits (v :: ws) [] = (fitsItems fits [v] [] && fitsItems fits ws [v]) :=
  fitsItems_append fits [v] ws []

theorem fitsItems_token_cons (fits : Parcel R → Item (Kind.Val R) → Bool)
    (v w : Item (Kind.Val R)) (ws : List (Item (Kind.Val R))) :
    fitsItems fits (v :: w :: ws) [] = (fitsItems fits [v, w] [] && fitsItems fits ws [v, w]) :=
  fitsItems_append fits [v, w] ws []

theorem prepare_prepared (call : Call R) :
    Prepared (proxy.remote = true ∧ call.isValid = true ∧
        fitsItems proxy.fits (⟨.token, proxy.GetDescriptor⟩ ::
          call.items proxy.hdfDeathListenerStub_) [] = true)
      { code := call.code
        data := ⟨.token, proxy.GetDescriptor⟩ :: call.items proxy.hdfDeathListenerStub_
        isAsync := call.isAsync } (proxy.prepare call) := by
  cases call with
  | enableSink descriptors | disableSink descriptors =>
    exact ((proxy.avtMessage_prepared _ [] _ (by simp [noRemote])).withDescriptors proxy
      descriptors).congr (by
        rw [Call.items, fitsItems_token]
        simp [noRemote, Call.isValid, and_assoc, and_left_comm])
  | enableSource networkId descriptors | disableSource networkId descriptors =>
    exact ((proxy.avtMessage_prepared _ [ofString networkId] _ (by
      simp [noRemote, invalidId])).withDescriptors proxy descriptors).congr (by
        rw [Call.items, fitsItems_token_cons]
        simp [noRemote, invalidId, Call.isValid, and_assoc, and_left_comm])
  | releaseAVCenter | createControlChannel | notifyAVCenter =>
    exact ((proxy.avtMessage_prepared _ _ _ (by simp [noRemote])).congr
      (by simp [noRemote, Call.isValid, Call.items])).async
  | registerPublisherListener | unregisterPublisherListener | publishMessage
  | queryLocalSysSpec | notifySourceRemoteSinkStarted | loadSinkDMSDPService
  | notifySinkRemoteSourceStarted | registerHardwareAccessListener
  | unregisterHardwareAccessListener =>
    exact (proxy.fwkMessage_prepared _ _ _ (by simp [noRemote, nullListener])).congr (by
      simp [noRemote, nullListener, Call.isValid, Call.items, and_assoc, and_left_comm])
  | getDistributedHardware | registerDHStatusSinkListener | unregisterDHStatusSinkListener
  | registerDHStatusSourceListener | unregisterDHStatusSourceListener =>
    exact (proxy.objectMessage_prepared _ _ _ _ (by
      simp [noRemote, nullListener, invalidId])).congr (by
        simp [noRemote, nullListener, invalidId, Call.isValid, Call.items, and_assoc,
          and_left_comm])
  | _ =>
    exact (proxy.avtMessage_prepared _ _ _ (by simp [noRemote, invalidId])).congr (by
      simp [noRemote, invalidId, Call.isValid, Call.items, and_assoc, and_left_comm])
end Proxy

/-! ## What the stub makes of them -/

namespace Stub

variable {R : Type} (stub : Stub R)

@[simp] theorem readInt32_ofInt32 (v : Int32) (rest : Parcel R) :
    stub.readInt32 (ofInt32 v :: rest) = (v, rest) := stub.reading.read_cons ..

@[simp] theorem readUint32_ofUint32 (v : UInt32) (rest : Parcel R) :
    stub.readUint32 (ofUint32 v :: rest) = (v, rest) := stub.reading.read_cons ..

@[simp] theorem readString_ofString (v : String) (rest : Parcel R) :
    stub.readString (ofString v :: rest) = (v, rest) := stub.reading.read_cons ..

@[simp] theorem readBool_ofBool (v : Bool) (rest : Parcel R) :
    stub.readBool (ofBool v :: rest) = (v, rest) := stub.reading.read_cons ..

@[simp] theorem readRemoteObject_ofObject (v : Option R) (rest : Parcel R) :
    stub.readRemoteObject (ofObject v :: rest) = (v, rest) := stub.reading.read_cons ..

theorem readDescriptor_takes : Takes stub.readDescriptor Proxy.descriptorItems := by
  intro descriptor rest
  simp [readDescriptor, Proxy.descriptorItems]

/-- What is written of a list is as long as the size in front of it. -/
theorem length_written (descriptors : List DHDescriptor) :
    (Call.written descriptors).length = (Int32.ofNat descriptors.length).toInt.toNat := by
  have hle : (Int32.ofNat descriptors.length).toInt ≤ descriptors.length := by
    change (BitVec.ofNat 32 descriptors.length).toInt ≤ descriptors.length
    simp only [BitVec.toInt, BitVec.toNat_ofNat]
    omega
  rw [Call.written, List.length_take]
  omega

theorem readDescriptors_ofDescriptors {descriptors : List DHDescriptor}
    (h : Call.isValid.sizeFits descriptors = true) :
    stub.readDescriptors (Call.items.ofDescriptors descriptors) = Call.written descriptors := by
  have hmax : ¬DescriptorIpc.MAX_DH_DESCRIPTOR_ARRAY_SIZE.toInt32 <
      Int32.ofNat descriptors.length := by simpa [Call.isValid.sizeFits] using h
  unfold readDescriptors Call.items.ofDescriptors
  rw [readInt32_ofInt32]
  dsimp only
  have hmany := stub.readDescriptor_takes.many (Call.written descriptors) []
  rw [List.append_nil, length_written] at hmany
  rw [if_neg hmax, hmany]

/-- What the stub reads of the arguments of a client. -/
theorem arguments_items (call : Call R) (hdfDeathListenerStub_ : R) (h : call.isValid = true) :
    stub.arguments call.code (call.items hdfDeathListenerStub_) =
      if call.isAccepted then call.action hdfDeathListenerStub_ else none := by
  cases call with
  | notifySourceRemoteSinkStarted udid | loadSinkDMSDPService udid
  | notifySinkRemoteSourceStarted udid =>
    by_cases hid : isIdLengthValid udid = true
    · simp [arguments, Call.code, Call.items, Call.isAccepted, Call.action, hid]
    · simp [arguments, Call.code, Call.items, Call.isAccepted, hid]
  | _ =>
    simp_all [arguments, Call.code, Call.items, Call.isAccepted, Call.action, Call.isValid,
      readDescriptors_ofDescriptors]

end Stub

theorem Call.isSome_action {R : Type} (call : Call R) (hdfDeathListenerStub_ : R)
    (h : call.isValid = true) : (call.action hdfDeathListenerStub_).isSome = true := by
  cases call with
  | _ => simp_all [Call.isValid, Call.action]

/-! ## Attempts -/

namespace Attempt

variable {R S : Type} (ipc : Ipc R) (service : Service R S) (attempt : Attempt R)

/-- The method gets as far as `SendRequest`. -/
def isSent : Bool :=
  attempt.proxy.remote && attempt.call.isValid &&
    fitsItems attempt.proxy.fits (⟨.token, attempt.proxy.GetDescriptor⟩ ::
      attempt.call.items attempt.proxy.hdfDeathListenerStub_) []

/-- The stub calls the service for the message. -/
def isServed : Bool :=
  attempt.call.isAccepted && attempt.proxy.GetDescriptor = attempt.stub.GetDescriptor &&
    attempt.stub.Permits attempt.call.code

/-- What the service is asked to do, if anything comes of the attempt. -/
def action : Option (Action R) :=
  if attempt.isSent ∧ attempt.delivery ≠ .fails ∧ attempt.isServed then
    attempt.call.action attempt.proxy.hdfDeathListenerStub_
  else none

def message : Message R where
  code := attempt.call.code
  data := ⟨.token, attempt.proxy.GetDescriptor⟩ ::
    attempt.call.items attempt.proxy.hdfDeathListenerStub_
  isAsync := attempt.call.isAsync

theorem prepare_prepared :
    Proxy.Prepared (attempt.isSent = true) attempt.message
      (attempt.proxy.prepare attempt.call) :=
  (attempt.proxy.prepare_prepared attempt.call).congr (by simp [isSent, and_assoc])

variable {attempt}

theorem isValid_of_isSent (h : attempt.isSent = true) : attempt.call.isValid = true := by
  simp only [isSent, Bool.and_eq_true] at h
  exact h.1.2

/-- A message that the stub serves. -/
theorem onRemoteRequest_of_isServed (hsent : attempt.isSent = true)
    (hserved : attempt.isServed = true) {action : Action R}
    (haction : attempt.call.action attempt.proxy.hdfDeathListenerStub_ = some action) (s : S) :
    attempt.stub.onRemoteRequest service attempt.message.code.number attempt.message.data s =
      attempt.stub.respond attempt.call.code (action.run service s) := by
  simp only [isServed, Bool.and_eq_true, decide_eq_true_eq] at hserved
  have hread : attempt.stub.readToken attempt.message.data = (attempt.proxy.GetDescriptor,
      attempt.call.items attempt.proxy.hdfDeathListenerStub_) := attempt.stub.reading.read_cons ..
  refine attempt.stub.onRemoteRequest_of_reaches service ?_ (Code.ofNumber_number _) hserved.2 ?_ s
  · rw [hread]
    exact hserved.1.2
  · rw [hread]
    dsimp only
    rw [attempt.stub.arguments_items _ _ (isValid_of_isSent hsent), if_pos hserved.1.1, haction]

theorem not_reaches_of_not_isServed (hsent : attempt.isSent = true)
    (hserved : ¬attempt.isServed = true) :
    ¬attempt.stub.Reaches attempt.message.code.number attempt.message.data := by
  have hread : attempt.stub.readToken attempt.message.data = (attempt.proxy.GetDescriptor,
      attempt.call.items attempt.proxy.hdfDeathListenerStub_) := attempt.stub.reading.read_cons ..
  rintro ⟨htoken, c, hc, hpermits, hsome⟩
  obtain rfl : attempt.call.code = c :=
    Option.some.inj ((Code.ofNumber_number _).symm.trans hc)
  rw [hread] at htoken hsome
  dsimp only at htoken hsome
  rw [attempt.stub.arguments_items _ _ (isValid_of_isSent hsent)] at hsome
  refine hserved ?_
  simp only [isServed, Bool.and_eq_true, decide_eq_true_eq]
  refine ⟨⟨?_, htoken⟩, hpermits⟩
  by_contra haccepted
  rw [if_neg haccepted] at hsome
  exact nomatch hsome

/-- What an attempt leaves of the service. -/
theorem remote_state (attempt : Attempt R) (s : S) :
    (remote ipc service attempt s).2 =
      match attempt.action with
      | none => s
      | some action => (action.run service s).2 := by
  unfold remote action
  by_cases hsent : attempt.isSent = true
  · rw [attempt.prepare_prepared.1 hsent]
    obtain ⟨action, haction⟩ := Option.isSome_iff_exists.1
      (attempt.call.isSome_action attempt.proxy.hdfDeathListenerStub_ (isValid_of_isSent hsent))
    have hstate : (attempt.stub.onRemoteRequest service attempt.message.code.number
        attempt.message.data s).state =
          if attempt.isServed then (action.run service s).2 else s := by
      by_cases hserved : attempt.isServed = true
      · rw [onRemoteRequest_of_isServed service hsent hserved haction, Stub.respond_state,
          if_pos hserved]
      · rw [if_neg hserved]
        exact (attempt.stub.onRemoteRequest_of_not_reaches service
          (not_reaches_of_not_isServed hsent hserved) s).1
    rw [haction]
    dsimp only
    rw [hstate]
    cases hdelivery : attempt.delivery with
    | fails => simp
    | replyLost => by_cases hserved : attempt.isServed = true <;> simp [hsent, hserved]
    | arrives =>
      by_cases hserved : attempt.isServed = true <;> simp [hsent, hserved, apply_ite Prod.snd]
  · obtain ⟨e, -, heq⟩ := attempt.prepare_prepared.2 hsent
    rw [heq, if_neg fun h => hsent h.1]

end Attempt

/-- In any run of calls of clients the service is left as the calls leave it that arrive, made one
after the other on the spot. -/
theorem remote_refines {R S : Type} (ipc : Ipc R) (service : Service R S)
    (attempts : List (Attempt R)) (s : S) :
    attempts.foldl (fun s attempt => (remote ipc service attempt s).2) s =
      (attempts.filterMap Attempt.action).foldl (fun s action => (action.run service s).2) s := by
  rw [List.foldl_filterMap]
  refine congrArg (fun f => attempts.foldl f s) ?_
  funext s attempt
  rw [Attempt.remote_state]
  cases attempt.action with
  | none => rfl
  | some action => rfl
/-! ## What a client is told -/

namespace Call

variable {R : Type}

/-- The method returns a code. -/
def hasCode : Call R → Bool
  | .queryLocalSysSpec _ | .setAuthorizationResult .. => false
  | _ => true

/-- The stub answers these with success, whatever the service does. -/
def isBlind : Call R → Bool
  | .registerPublisherListener .. | .unregisterPublisherListener .. | .publishMessage .. => true
  | _ => false

/-- The reply to a call that is answered by the service. -/
def reply (call : Call R) (answer : Answer) : Parcel R :=
  match call with
  | .initializeAVCenter _ => [ofInt32 answer.engineId, ofInt32 answer.ret]
  | _ => [ofInt32 answer.ret]

end Call

def Told.isSuccess : Told → Bool
  | .code ret => ret = DH_FWK_SUCCESS
  | .engine _ ret => ret = DH_FWK_SUCCESS
  | _ => false

section Told

variable {R S : Type} (ipc : Ipc R)

theorem Call.failed_isSuccess (call : Call R) {e : Int} (he : e ≠ DH_FWK_SUCCESS) :
    (call.failed e).isSuccess = false := by
  cases call with
  | queryLocalSysSpec | setAuthorizationResult => rfl
  | _ => exact decide_eq_false he

theorem Call.failed_sendFail (call : Call R) :
    (call.failed call.sendFail).isSuccess = false := by
  refine call.failed_isSuccess ?_
  unfold sendFail
  split
  · decide
  · decide
  · decide
  · decide

/-- A reply with nothing in it reads as success. -/
theorem Call.replied_nil {call : Call R} (hcode : call.hasCode = true) :
    (call.replied ipc []).isSuccess = true := by
  have hread : ipc.reading.read .int32 [] = ((0 : Int32), []) := by
    rw [ipc.reading.read_nil, ipc.unread_int32]
  cases call with
  | queryLocalSysSpec | setAuthorizationResult => exact nomatch hcode
  | initializeAVCenter =>
    unfold replied
    rw [hread]
    dsimp only
    rw [hread]
    rfl
  | _ =>
    unfold replied
    rw [hread]
    rfl

theorem Call.replied_reply {call : Call R} (hcode : call.hasCode = true) (answer : Answer) :
    (call.replied ipc (call.reply answer)).isSuccess = true ↔ answer.ret = 0 := by
  have hzero : decide (answer.ret.toInt = DH_FWK_SUCCESS) = true ↔ answer.ret = 0 := by
    rw [decide_eq_true_iff]
    exact Int32.toInt_inj (y := 0)
  cases call with
  | queryLocalSysSpec | setAuthorizationResult => exact nomatch hcode
  | _ => simpa [replied, reply, ofInt32, Told.isSuccess] using hzero

theorem Stub.turnedDown_told (stub : Stub R) {call : Call R} (hcode : call.hasCode = true) :
    stub.turnedDown call.code = [] ∨
      (call.replied ipc (stub.turnedDown call.code)).isSuccess = false := by
  cases call with
  | queryLocalSysSpec | setAuthorizationResult => exact nomatch hcode
  | registerPublisherListener | unregisterPublisherListener | publishMessage =>
    unfold turnedDown Call.code unchecked
    dsimp only
    split
    · refine .inr ?_
      unfold Call.replied
      rw [ipc.reading.read_cons]
      show decide (ERR_DH_FWK_PARA_INVALID.toInt32.toInt = DH_FWK_SUCCESS) = false
      decide
    · exact .inl rfl
  | _ => exact .inl rfl

theorem Stub.answer_reply (stub : Stub R) (r : Answer × S) :
    stub.answer r = if fitsItems stub.fits [ofInt32 r.1.ret] [] then
        ⟨DH_FWK_SUCCESS, [ofInt32 r.1.ret], r.2⟩
      else ⟨ERR_DH_FWK_SERVICE_WRITE_INFO_FAIL, [], r.2⟩ := by
  have hwrite := writeItems_map stub.fits ERR_DH_FWK_SERVICE_WRITE_INFO_FAIL [ofInt32 r.1.ret] []
  unfold answer
  rw [show writeItems stub.fits [(⟨.int32, r.1.ret⟩, ERR_DH_FWK_SERVICE_WRITE_INFO_FAIL)] [] = _
    from hwrite]
  by_cases hfits : fitsItems stub.fits [ofInt32 r.1.ret] [] = true
  · rw [if_pos hfits, if_pos hfits]
    rfl
  · rw [if_neg hfits, if_neg hfits]

theorem Stub.respond_reply (stub : Stub R) {call : Call R} (hcode : call.hasCode = true)
    (hblind : call.isBlind = false) (r : Answer × S) :
    stub.respond call.code r = if fitsItems stub.fits (call.reply r.1) [] then
        ⟨DH_FWK_SUCCESS, call.reply r.1, r.2⟩
      else ⟨ERR_DH_FWK_SERVICE_WRITE_INFO_FAIL, [], r.2⟩ := by
  cases call with
  | queryLocalSysSpec | setAuthorizationResult => exact nomatch hcode
  | registerPublisherListener | unregisterPublisherListener | publishMessage =>
    exact nomatch hblind
  | initializeAVCenter =>
    have hwrite := writeItems_map stub.fits ERR_DH_FWK_SERVICE_WRITE_INFO_FAIL
      [ofInt32 r.1.engineId, ofInt32 r.1.ret] []
    unfold respond Call.code Call.reply
    dsimp only
    rw [show writeItems stub.fits [(⟨.int32, r.1.engineId⟩, ERR_DH_FWK_SERVICE_WRITE_INFO_FAIL),
      (⟨.int32, r.1.ret⟩, ERR_DH_FWK_SERVICE_WRITE_INFO_FAIL)] [] = _ from hwrite]
    by_cases hfits : fitsItems stub.fits [ofInt32 r.1.engineId, ofInt32 r.1.ret] [] = true
    · rw [if_pos hfits, if_pos hfits]
      rfl
    · rw [if_neg hfits, if_neg hfits]
  | _ => exact stub.answer_reply r

/-- What the client makes of what the handler of a call returned. -/
def Attempt.told (attempt : Attempt R) (served : Served R S) : Told :=
  if ipc.status served.ret served.reply ≠ DescriptorIpc.NO_ERROR then
    attempt.call.failed attempt.call.sendFail
  else attempt.call.replied ipc served.reply

theorem Attempt.told_error {attempt : Attempt R} {served : Served R S}
    (hret : served.ret ≠ DH_FWK_SUCCESS) (hreply : served.reply = [] ∨
      (attempt.call.replied ipc served.reply).isSuccess = false) :
    (attempt.told ipc served).isSuccess = false := by
  unfold told
  split
  · exact attempt.call.failed_sendFail
  · rename_i hstatus
    obtain hnil | hfalse := hreply
    · rw [hnil] at hstatus
      exact absurd (ipc.status_error _ hret) hstatus
    · exact hfalse

theorem Attempt.told_of_not_isServed (service : Service R S) {attempt : Attempt R}
    (hcode : attempt.call.hasCode = true) (hsent : attempt.isSent = true)
    (hserved : ¬attempt.isServed = true) (s : S) :
    (attempt.told ipc (attempt.stub.onRemoteRequest service attempt.message.code.number
      attempt.message.data s)).isSuccess = false := by
  obtain ⟨-, herror⟩ := attempt.stub.onRemoteRequest_of_not_reaches service
    (not_reaches_of_not_isServed hsent hserved) s
  obtain ⟨hret, hreply⟩ := herror attempt.call.code (Code.ofNumber_number _)
  refine told_error ipc hret ?_
  obtain hnil | hdown := hreply
  · exact .inl hnil
  · rw [hdown]
    exact attempt.stub.turnedDown_told ipc hcode

/-- Where the handler answers with success. -/
theorem Attempt.told_success {attempt : Attempt R} (reply : Parcel R) (s : S) :
    attempt.told ipc ⟨DH_FWK_SUCCESS, reply, s⟩ = attempt.call.replied ipc reply := by
  unfold told
  rw [ipc.status_success, if_neg (not_not.2 rfl)]

theorem Attempt.told_blind {attempt : Attempt R} (hblind : attempt.call.isBlind = true)
    (r : Answer × S) :
    (attempt.told ipc (attempt.stub.respond attempt.call.code r)).isSuccess = true := by
  unfold told
  cases hcall : attempt.call with
  | registerPublisherListener | unregisterPublisherListener | publishMessage =>
    unfold Call.code Stub.respond Stub.unchecked
    dsimp only
    rw [ipc.status_success, if_neg (not_not.2 rfl)]
    split
    · unfold Call.replied
      rw [ipc.reading.read_cons]
      rfl
    · exact Call.replied_nil ipc rfl
  | _ =>
    rw [hcall] at hblind
    exact nomatch hblind

/-- What an answer of the service tells the client. -/
theorem Attempt.told_respond {attempt : Attempt R} (hcode : attempt.call.hasCode = true)
    (hblind : attempt.call.isBlind = false) (r : Answer × S) :
    (attempt.told ipc (attempt.stub.respond attempt.call.code r)).isSuccess = true ↔
      fitsItems attempt.stub.fits (attempt.call.reply r.1) [] = true ∧ r.1.ret = 0 := by
  rw [attempt.stub.respond_reply hcode hblind]
  by_cases hfits : fitsItems attempt.stub.fits (attempt.call.reply r.1) [] = true
  · rw [if_pos hfits, told_success, Call.replied_reply ipc hcode, and_iff_right hfits]
  · rw [if_neg hfits, told_error ipc
      (show ERR_DH_FWK_SERVICE_WRITE_INFO_FAIL ≠ DH_FWK_SUCCESS by decide) (.inl rfl)]
    exact iff_of_false (by decide) fun h => hfits h.1

/-- A library whose reads are strict, and whose replies carry the errors that come alone. -/
def Ipc.strict (R : Type) : Ipc R where
  reading := Wire.strict (Kind.unread R)
  unread_int32 := rfl
  status ret reply := if reply.isEmpty then ret else DescriptorIpc.NO_ERROR
  status_success reply := by
    split
    · rfl
    · rfl
  status_error ret h := h

/-- A release by a caller without the permission. -/
def refusedRelease : Attempt Unit where
  proxy :=
    { GetDescriptor := "ohos.distributedhardware.fwk"
      remote := true
      hdfDeathListenerStub_ := ()
      fits := fun _ _ => true }
  call := .releaseAVCenter 1
  delivery := .arrives
  stub :=
    { GetDescriptor := "ohos.distributedhardware.fwk"
      isLocalCalling := true
      hasAccessDHPermission := false
      isSystemHap := true
      isNativeSA := false
      reading := Wire.strict (Kind.unread Unit)
      fits := fun _ _ => true
      ERR_INVALID_DATA := ⟨5, Int.ofNat_ne_zero.2 (Nat.succ_ne_zero 4)⟩
      otherRequest := fun _ data => (0, data) }

end Told

end Remote

end DHFwk
