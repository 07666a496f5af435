import DHFwk.Runs
import DHFwk.Table
import DHFwk.Text
import DHFwk.AVTypes
import Mathlib.Data.String.Basic

/-!
# The channels to other devices

`SoftbusChannelAdapter` keeps sessions and listeners under keys, the name of the channel and its
device with a `_` between (`channelKey`). What arrives on a session goes to the listeners of
every key that the session is under.

When a session is opened, its event goes to every listener whose key contains the name of the
channel, whatever the device of that key is; and if a peer opened it, the session is put under
these keys too. A session may also get an id that is still under another key, and a device with a
`_` is not what is behind the last one. Else each key has a session of its own device, so data is
sent to the device it is for, and what arrives goes to listeners of the device that it comes from
or of all devices (`routed_iff`).
-/

set_option linter.unusedSectionVars false

namespace DHFwk

open Runs

abbrev SENDER_CONTROL_SESSION_NAME_SUFFIX : String := "sender.avtrans.control"
abbrev RECEIVER_CONTROL_SESSION_NAME_SUFFIX : String := "receiver.avtrans.control"
abbrev SENDER_DATA_SESSION_NAME_SUFFIX : String := "sender.avtrans.data"
abbrev RECEIVER_DATA_SESSION_NAME_SUFFIX : String := "receiver.avtrans.data"
abbrev INVALID_SESSION_ID : Int := -1
abbrev DSOFTBUS_INPUT_MAX_RECV_DATA_LEN : ℕ := 104857600

/-! ## Names and keys -/

def LOCAL_TO_PEER_SESSION_NAME_MAP : List (String × String) :=
  [(OWNER_NAME_D_MIC ++ "_" ++ SENDER_CONTROL_SESSION_NAME_SUFFIX,
      OWNER_NAME_D_MIC ++ "_" ++ RECEIVER_CONTROL_SESSION_NAME_SUFFIX),
    (OWNER_NAME_D_MIC ++ "_" ++ RECEIVER_CONTROL_SESSION_NAME_SUFFIX,
      OWNER_NAME_D_MIC ++ "_" ++ SENDER_CONTROL_SESSION_NAME_SUFFIX),
    (OWNER_NAME_D_SPEAKER ++ "_" ++ SENDER_CONTROL_SESSION_NAME_SUFFIX,
      OWNER_NAME_D_SPEAKER ++ "_" ++ RECEIVER_CONTROL_SESSION_NAME_SUFFIX),
    (OWNER_NAME_D_SPEAKER ++ "_" ++ RECEIVER_CONTROL_SESSION_NAME_SUFFIX,
      OWNER_NAME_D_SPEAKER ++ "_" ++ SENDER_CONTROL_SESSION_NAME_SUFFIX),
    (OWNER_NAME_D_SCREEN ++ "_" ++ SENDER_CONTROL_SESSION_NAME_SUFFIX,
      OWNER_NAME_D_SCREEN ++ "_" ++ RECEIVER_CONTROL_SESSION_NAME_SUFFIX),
    (OWNER_NAME_D_SCREEN ++ "_" ++ RECEIVER_CONTROL_SESSION_NAME_SUFFIX,
      OWNER_NAME_D_SCREEN ++ "_" ++ SENDER_CONTROL_SESSION_NAME_SUFFIX),
    (OWNER_NAME_D_VIRMODEM_MIC ++ "_" ++ SENDER_CONTROL_SESSION_NAME_SUFFIX,
      OWNER_NAME_D_VIRMODEM_MIC ++ "_" ++ RECEIVER_CONTROL_SESSION_NAME_SUFFIX),
    (OWNER_NAME_D_VIRMODEM_MIC ++ "_" ++ RECEIVER_CONTROL_SESSION_NAME_SUFFIX,
      OWNER_NAME_D_VIRMODEM_MIC ++ "_" ++ SENDER_CONTROL_SESSION_NAME_SUFFIX),
    (OWNER_NAME_D_VIRMODEM_SPEAKER ++ "_" ++ SENDER_CONTROL_SESSION_NAME_SUFFIX,
      OWNER_NAME_D_VIRMODEM_SPEAKER ++ "_" ++ RECEIVER_CONTROL_SESSION_NAME_SUFFIX),
    (OWNER_NAME_D_VIRMODEM_SPEAKER ++ "_" ++ RECEIVER_CONTROL_SESSION_NAME_SUFFIX,
      OWNER_NAME_D_VIRMODEM_SPEAKER ++ "_" ++ SENDER_CONTROL_SESSION_NAME_SUFFIX),
    (AV_SYNC_SENDER_CONTROL_SESSION_NAME, AV_SYNC_RECEIVER_CONTROL_SESSION_NAME),
    (AV_SYNC_RECEIVER_CONTROL_SESSION_NAME, AV_SYNC_SENDER_CONTROL_SESSION_NAME),
    (OWNER_NAME_D_MIC ++ "_" ++ SENDER_DATA_SESSION_NAME_SUFFIX,
      OWNER_NAME_D_MIC ++ "_" ++ RECEIVER_DATA_SESSION_NAME_SUFFIX),
    (OWNER_NAME_D_MIC ++ "_" ++ RECEIVER_DATA_SESSION_NAME_SUFFIX,
      OWNER_NAME_D_MIC ++ "_" ++ SENDER_DATA_SESSION_NAME_SUFFIX),
    (OWNER_NAME_D_SPEAKER ++ "_" ++ SENDER_DATA_SESSION_NAME_SUFFIX,
      OWNER_NAME_D_SPEAKER ++ "_" ++ RECEIVER_DATA_SESSION_NAME_SUFFIX),
    (OWNER_NAME_D_SPEAKER ++ "_" ++ RECEIVER_DATA_SESSION_NAME_SUFFIX,
      OWNER_NAME_D_SPEAKER ++ "_" ++ SENDER_DATA_SESSION_NAME_SUFFIX),
    (OWNER_NAME_D_SCREEN ++ "_" ++ SENDER_DATA_SESSION_NAME_SUFFIX,
      OWNER_NAME_D_SCREEN ++ "_" ++ RECEIVER_DATA_SESSION_NAME_SUFFIX),
    (OWNER_NAME_D_SCREEN ++ "_" ++ RECEIVER_DATA_SESSION_NAME_SUFFIX,
      OWNER_NAME_D_SCREEN ++ "_" ++ SENDER_DATA_SESSION_NAME_SUFFIX),
    (OWNER_NAME_D_VIRMODEM_MIC ++ "_" ++ SENDER_DATA_SESSION_NAME_SUFFIX,
      OWNER_NAME_D_VIRMODEM_MIC ++ "_" ++ RECEIVER_DATA_SESSION_NAME_SUFFIX),
    (OWNER_NAME_D_VIRMODEM_MIC ++ "_" ++ RECEIVER_DATA_SESSION_NAME_SUFFIX,
      OWNER_NAME_D_VIRMODEM_MIC ++ "_" ++ SENDER_DATA_SESSION_NAME_SUFFIX),
    (OWNER_NAME_D_VIRMODEM_SPEAKER ++ "_" ++ SENDER_DATA_SESSION_NAME_SUFFIX,
      OWNER_NAME_D_VIRMODEM_SPEAKER ++ "_" ++ RECEIVER_DATA_SESSION_NAME_SUFFIX),
    (OWNER_NAME_D_VIRMODEM_SPEAKER ++ "_" ++ RECEIVER_DATA_SESSION_NAME_SUFFIX,
      OWNER_NAME_D_VIRMODEM_SPEAKER ++ "_" ++ SENDER_DATA_SESSION_NAME_SUFFIX)]

def findSessNameByPeerSessName (peerSessionName : String) : String :=
  ((LOCAL_TO_PEER_SESSION_NAME_MAP.find? fun item => item.1 = peerSessionName).map
    Prod.snd).getD ""

def getOwnerFromSessName (sessName : String) : String :=
  match Text.find ['_'] sessName.toList with
  | some position => String.ofList (sessName.toList.take position)
  | none =>
    if sessName = AV_SYNC_SENDER_CONTROL_SESSION_NAME ∨
        sessName = AV_SYNC_RECEIVER_CONTROL_SESSION_NAME then sessName
    else ""

/-- The key of a channel, in each of the maps. -/
def channelKey (sessName peerDevId : String) : String :=
  sessName ++ "_" ++ peerDevId

/-- What is behind the last `_` of a key. -/
def keyDevice (key : String) : Option String :=
  (Text.afterLast '_' key.toList).map String.ofList

/-- `key.find(name)` finds something. -/
def contains (key name : String) : Bool :=
  name.toList <:+: key.toList

theorem keyDevice_eq_some_iff {key devId : String} :
    keyDevice key = some devId ↔
      (∃ sessName, key = channelKey sessName devId) ∧ '_' ∉ devId.toList := by
  rw [keyDevice, Option.map_eq_some_iff]
  constructor
  · rintro ⟨b, hb, rfl⟩
    obtain ⟨⟨a, ha⟩, hnot⟩ := Text.afterLast_eq_some_iff.1 hb
    rw [String.toList_ofList]
    refine ⟨⟨String.ofList a, String.toList_inj.1 ?_⟩, hnot⟩
    rw [ha, channelKey]
    simp
  · rintro ⟨⟨sessName, rfl⟩, hnot⟩
    refine ⟨devId.toList, Text.afterLast_eq_some_iff.2 ⟨⟨sessName.toList, ?_⟩, hnot⟩,
      String.ofList_toList⟩
    rw [channelKey]
    simp

/-! ## The adapter -/

/-- A session of the softbus, with the device that it was opened with. -/
structure Session where
  peerDevId : String
  live : Bool
  deriving DecidableEq, Repr

/-- What a listener is told : an event of a channel, `EVENT_DATA_RECEIVED`, or a stream. -/
inductive Arrival
  | event (type : ChannelEvent) (content peerDevId : String)
  | data (content peerDevId : String)
  | stream
  deriving DecidableEq, Repr

/-- What goes to the listener that is under a key, and the device of its session. -/
structure Delivery where
  key : String
  peer : Option String
  arrival : Arrival
  deriving DecidableEq, Repr

/-- `SoftbusChannelAdapter`, with the sessions there are and were, and what went to listeners. A
key with a null listener is as one that is absent. -/
structure SoftbusChannelAdapter where
  devId2SessIdMap_ : Table String Int := ∅
  listenerMap_ : Table String ℕ := ∅
  serverMap_ : Table String Int := ∅
  sessions : Table Int Session := ∅
  delivered : List Delivery := []

namespace SoftbusChannelAdapter

/-- The device that a session was opened with. -/
def deviceOf (s : SoftbusChannelAdapter) (sessionId : Int) : Option String :=
  (s.sessions.lookup sessionId).map Session.peerDevId

/-- A session is there. -/
def opened (sessionId : Int) (peerDevId : String) (s : SoftbusChannelAdapter) :
    SoftbusChannelAdapter :=
  { s with sessions := s.sessions.set sessionId ⟨peerDevId, true⟩ }

/-- `Shutdown` of the softbus, or what it tells of a session. -/
def shutdown (sessionId : Int) (s : SoftbusChannelAdapter) : SoftbusChannelAdapter :=
  match s.sessions.lookup sessionId with
  | none => s
  | some session =>
    { s with sessions := s.sessions.set sessionId { session with live := false } }

/-- What arrives on a session goes to some keys. Its thread looks up the listener of the key. -/
def deliver (sessionId : Int) (keys : List String) (arrival : String → Arrival)
    (s : SoftbusChannelAdapter) : SoftbusChannelAdapter :=
  { s with delivered := s.delivered ++ keys.map fun key =>
      ⟨key, s.deviceOf sessionId, arrival key⟩ }

/-- `insert` of a map. -/
def insertNew (key : String) (id : Int) (map : Table String Int) : Table String Int :=
  if (map.lookup key).isSome then map else map.set key id

def createChannelServer (pkgName sessName : String) (socketId ret : Int)
    (s : SoftbusChannelAdapter) : Int × SoftbusChannelAdapter :=
  if pkgName = "" then (ERR_DH_AVT_INVALID_PARAM, s)
  else if sessName = "" then (ERR_DH_AVT_INVALID_PARAM, s)
  else if (s.serverMap_.lookup (pkgName ++ "_" ++ sessName)).isSome then (DH_AVT_SUCCESS, s)
  else if socketId < 0 then (ERR_DH_AVT_SESSION_ERROR, s)
  else if ret ≠ 0 then (ERR_DH_AVT_SESSION_ERROR, s)
  else (DH_AVT_SUCCESS,
    { s with serverMap_ := insertNew (pkgName ++ "_" ++ sessName) socketId s.serverMap_ })

/-- Shut down what is under the first key that contains a text, and erase it. -/
def removeFirst (text : String) (map : Table String Int) : Int × Table String Int :=
  match map.sortedKeys.find? fun key => contains key text with
  | none => (INVALID_SESSION_ID, map)
  | some key => ((map.lookup key).getD INVALID_SESSION_ID, map.remove key)

def removeChannelServer (pkgName sessName : String) (s : SoftbusChannelAdapter) :
    Int × SoftbusChannelAdapter :=
  if pkgName = "" then (ERR_DH_AVT_INVALID_PARAM, s)
  else if sessName = "" then (ERR_DH_AVT_INVALID_PARAM, s)
  else
    let server := removeFirst (pkgName ++ "_" ++ sessName) s.serverMap_
    let session := removeFirst sessName s.devId2SessIdMap_
    let s := { s with serverMap_ := server.2 }.shutdown server.1
    (DH_AVT_SUCCESS, { s with devId2SessIdMap_ := session.2 }.shutdown session.1)

def getSessIdBySessName (sessName peerDevId : String) (s : SoftbusChannelAdapter) : Int :=
  (s.devId2SessIdMap_.lookup (channelKey sessName peerDevId)).getD (-1)

/-- The keys of listeners that contain the name of a channel. -/
def listenerKeys (mySessName : String) (s : SoftbusChannelAdapter) : List String :=
  s.listenerMap_.keys.filter fun key => contains key mySessName

def sendEventChannelOPened (mySessName peerDevId : String) (sessionId : Int)
    (s : SoftbusChannelAdapter) : SoftbusChannelAdapter :=
  s.deliver sessionId (s.listenerKeys mySessName) fun _ =>
    .event .EVENT_CHANNEL_OPENED mySessName peerDevId

/-- A call of `OpenSoftbusChannel` gets a session : `Socket` returns `socketId`, `Bind` `ret`. -/
def Opens (mySessName peerSessName peerDevId : String) (socketId ret : Int)
    (s : SoftbusChannelAdapter) : Prop :=
  mySessName ≠ "" ∧ peerSessName ≠ "" ∧ peerDevId ≠ "" ∧
    s.getSessIdBySessName mySessName peerDevId ≤ 0 ∧ 0 ≤ socketId ∧ ret = DH_AVT_SUCCESS

def openSoftbusChannel (mySessName peerSessName peerDevId : String) (socketId ret : Int)
    (s : SoftbusChannelAdapter) : Int × SoftbusChannelAdapter :=
  if mySessName = "" then (ERR_DH_AVT_INVALID_PARAM, s)
  else if peerSessName = "" then (ERR_DH_AVT_INVALID_PARAM, s)
  else if peerDevId = "" then (ERR_DH_AVT_INVALID_PARAM, s)
  else if 0 < s.getSessIdBySessName mySessName peerDevId then (ERR_DH_AVT_SESSION_HAS_OPENED, s)
  else if socketId < 0 then (ERR_DH_AVT_SESSION_ERROR, s)
  else if ret ≠ DH_AVT_SUCCESS then (ERR_DH_AVT_SESSION_ERROR, s)
  else
    let s := s.opened socketId peerDevId
    (DH_AVT_SUCCESS, { s with
      devId2SessIdMap_ :=
        insertNew (channelKey mySessName peerDevId) socketId s.devId2SessIdMap_ }
      |>.sendEventChannelOPened mySessName peerDevId socketId)

def closeSoftbusChannel (sessName peerDevId : String) (s : SoftbusChannelAdapter) :
    Int × SoftbusChannelAdapter :=
  if sessName = "" then (ERR_DH_AVT_INVALID_PARAM, s)
  else if peerDevId = "" then (ERR_DH_AVT_INVALID_PARAM, s)
  else
    let s := s.shutdown (s.getSessIdBySessName sessName peerDevId)
    (DH_AVT_SUCCESS, { s with
      devId2SessIdMap_ := s.devId2SessIdMap_.remove (channelKey sessName peerDevId) })

/-- The device that `SendBytes` and `SendStream` transmit to. -/
def transmit (sessionId : Int) (s : SoftbusChannelAdapter) : Option String :=
  ((s.sessions.lookup sessionId).filter Session.live).map Session.peerDevId

/-- What `SendBytesData` and `SendStreamData` do, of data that is valid or not : what they
return, and the device the data goes to. -/
def sendData (valid : Bool) (sessName peerDevId : String) (ret : Int)
    (s : SoftbusChannelAdapter) : Int × Option String :=
  if sessName = "" then (ERR_DH_AVT_INVALID_PARAM, none)
  else if peerDevId = "" then (ERR_DH_AVT_INVALID_PARAM, none)
  else if ¬valid then (ERR_DH_AVT_INVALID_PARAM, none)
  else if s.getSessIdBySessName sessName peerDevId < 0 then (ERR_DH_AVT_SEND_DATA_FAILED, none)
  else (if ret ≠ DH_AVT_SUCCESS then ERR_DH_AVT_SEND_DATA_FAILED else DH_AVT_SUCCESS,
    s.transmit (s.getSessIdBySessName sessName peerDevId))

def sendBytesData (sessName peerDevId data : String) (ret : Int) (s : SoftbusChannelAdapter) :
    Int × Option String :=
  s.sendData (data ≠ "") sessName peerDevId ret

def sendStreamData (sessName peerDevId : String) (data ext : Bool) (ret : Int)
    (s : SoftbusChannelAdapter) : Int × Option String :=
  s.sendData (data && ext) sessName peerDevId ret

def registerChannelListener (sessName peerDevId : String) (listener : Option ℕ)
    (s : SoftbusChannelAdapter) : Int × SoftbusChannelAdapter :=
  if sessName = "" then (ERR_DH_AVT_INVALID_PARAM, s)
  else if peerDevId = "" then (ERR_DH_AVT_INVALID_PARAM, s)
  else match listener with
  | none => (ERR_DH_AVT_INVALID_PARAM, s)
  | some listener => (DH_AVT_SUCCESS,
    { s with listenerMap_ := s.listenerMap_.set (channelKey sessName peerDevId) listener })

def unRegisterChannelListener (sessName peerDevId : String) (s : SoftbusChannelAdapter) :
    Int × SoftbusChannelAdapter :=
  if sessName = "" then (ERR_DH_AVT_INVALID_PARAM, s)
  else if peerDevId = "" then (ERR_DH_AVT_INVALID_PARAM, s)
  else (DH_AVT_SUCCESS,
    { s with listenerMap_ := s.listenerMap_.remove (channelKey sessName peerDevId) })

/-- A call of `OnSoftbusChannelOpened` is taken. -/
def Takes (peerSessionName peerDevId : String) : Prop :=
  peerSessionName ≠ "" ∧ peerDevId ≠ "" ∧ findSessNameByPeerSessName peerSessionName ≠ ""

/-- `OnSoftbusChannelOpened`, but for the access of audio codecs. -/
def onSoftbusChannelOpened (peerSessionName : String) (sessionId : Int) (peerDevId : String)
    (result : Int) (s : SoftbusChannelAdapter) : Int × SoftbusChannelAdapter :=
  if peerSessionName = "" then (ERR_DH_AVT_INVALID_PARAM, s)
  else if peerDevId = "" then (ERR_DH_AVT_INVALID_PARAM, s)
  else if findSessNameByPeerSessName peerSessionName = "" then (ERR_DH_AVT_INVALID_PARAM, s)
  else
    let mySessionName := findSessNameByPeerSessName peerSessionName
    let type := if result = 0 then ChannelEvent.EVENT_CHANNEL_OPENED else .EVENT_CHANNEL_OPEN_FAIL
    let s := s.deliver sessionId (s.listenerKeys mySessionName) fun _ =>
      .event type mySessionName peerDevId
    let map := (s.listenerKeys mySessionName).foldl
      (fun map key => (map.remove key).set key sessionId) s.devId2SessIdMap_
    (DH_AVT_SUCCESS, { s with
      devId2SessIdMap_ := insertNew (channelKey mySessionName peerDevId) sessionId map })

/-- The keys that a session is under, in their order. -/
def keysOf (sessionId : Int) (s : SoftbusChannelAdapter) : List String :=
  s.devId2SessIdMap_.sortedKeys.filter fun key => s.devId2SessIdMap_.lookup key = some sessionId

def getPeerDevIdBySessId (sessionId : Int) (s : SoftbusChannelAdapter) : String :=
  (((s.keysOf sessionId).filterMap keyDevice).find? (· ≠ AV_TRANS_SPECIAL_DEVICE_ID)).getD ""

def onSoftbusChannelClosed (sessionId : Int) (s : SoftbusChannelAdapter) :
    SoftbusChannelAdapter :=
  let peerDevId := s.getPeerDevIdBySessId sessionId
  let keys := s.keysOf sessionId
  let s := s.deliver sessionId keys fun key =>
    .event .EVENT_CHANNEL_CLOSED (getOwnerFromSessName key) peerDevId
  { s with devId2SessIdMap_ := keys.foldl (fun map key => map.remove key) s.devId2SessIdMap_ }

/-- `OnSoftbusBytesReceived`. What is to go to the keys `dropped` is dropped, as there are too many
threads at work. -/
def onSoftbusBytesReceived (sessionId : Int) (data : String) (dropped : List String)
    (s : SoftbusChannelAdapter) : SoftbusChannelAdapter :=
  if data = "" then s
  else if DSOFTBUS_INPUT_MAX_RECV_DATA_LEN < data.utf8ByteSize then s
  else s.deliver sessionId ((s.keysOf sessionId).filter (· ∉ dropped)) fun _ =>
    .data data (s.getPeerDevIdBySessId sessionId)

/-- `OnSoftbusStreamReceived` stops at the first key without a listener. -/
def onSoftbusStreamReceived (sessionId : Int) (data ext : Bool) (s : SoftbusChannelAdapter) :
    SoftbusChannelAdapter :=
  if ¬data then s
  else if ¬ext then s
  else s.deliver sessionId
    ((s.keysOf sessionId).takeWhile fun key => (s.listenerMap_.lookup key).isSome) fun _ => .stream

end SoftbusChannelAdapter

/-- What happens next. `onSoftbusChannelOpened` and `onSoftbusChannelClosed` are what the softbus
tells of a session, which is there, or not any more, from then on. -/
inductive ChannelStep
  | createChannelServer (pkgName sessName : String) (socketId ret : Int)
  | removeChannelServer (pkgName sessName : String)
  | openSoftbusChannel (mySessName peerSessName peerDevId : String) (socketId ret : Int)
  | closeSoftbusChannel (sessName peerDevId : String)
  | registerChannelListener (sessName peerDevId : String) (listener : Option ℕ)
  | unRegisterChannelListener (sessName peerDevId : String)
  | onSoftbusChannelOpened (peerSessionName : String) (sessionId : Int) (peerDevId : String)
    (result : Int)
  | onSoftbusChannelClosed (sessionId : Int)
  | onSoftbusBytesReceived (sessionId : Int) (data : String) (dropped : List String)
  | onSoftbusStreamReceived (sessionId : Int) (data ext : Bool)
  deriving DecidableEq, Repr

namespace SoftbusChannelAdapter

def step (s : SoftbusChannelAdapter) : ChannelStep → SoftbusChannelAdapter
  | .createChannelServer pkgName sessName socketId ret =>
    (s.createChannelServer pkgName sessName socketId ret).2
  | .removeChannelServer pkgName sessName => (s.removeChannelServer pkgName sessName).2
  | .openSoftbusChannel mySessName peerSessName peerDevId socketId ret =>
    (s.openSoftbusChannel mySessName peerSessName peerDevId socketId ret).2
  | .closeSoftbusChannel sessName peerDevId => (s.closeSoftbusChannel sessName peerDevId).2
  | .registerChannelListener sessName peerDevId listener =>
    (s.registerChannelListener sessName peerDevId listener).2
  | .unRegisterChannelListener sessName peerDevId =>
    (s.unRegisterChannelListener sessName peerDevId).2
  | .onSoftbusChannelOpened peerSessionName sessionId peerDevId result =>
    ((s.opened sessionId peerDevId).onSoftbusChannelOpened peerSessionName sessionId peerDevId
      result).2
  | .onSoftbusChannelClosed sessionId =>
    (s.onSoftbusChannelClosed sessionId).shutdown sessionId
  | .onSoftbusBytesReceived sessionId data dropped =>
    s.onSoftbusBytesReceived sessionId data dropped
  | .onSoftbusStreamReceived sessionId data ext => s.onSoftbusStreamReceived sessionId data ext

/-- Each key has a session of its device, so data goes to the device that it is sent to; and what
arrived on a session went to listeners of its device, or of all devices. -/
structure Routed (s : SoftbusChannelAdapter) : Prop where
  opened : ∀ sessName devId sessionId, '_' ∉ devId.toList → devId ≠ AV_TRANS_SPECIAL_DEVICE_ID →
    s.devId2SessIdMap_.lookup (channelKey sessName devId) = some sessionId →
      s.deviceOf sessionId = some devId
  bytes : ∀ sessName devId data ret, '_' ∉ devId.toList → devId ≠ AV_TRANS_SPECIAL_DEVICE_ID →
    ∀ peer ∈ (s.sendBytesData sessName devId data ret).2, peer = devId
  stream : ∀ sessName devId data ext ret, '_' ∉ devId.toList →
    devId ≠ AV_TRANS_SPECIAL_DEVICE_ID →
      ∀ peer ∈ (s.sendStreamData sessName devId data ext ret).2, peer = devId
  arrived : ∀ x ∈ s.delivered, ∀ sessName devId, '_' ∉ devId.toList →
    x.key = channelKey sessName devId → devId = AV_TRANS_SPECIAL_DEVICE_ID ∨ x.peer = some devId

/-- The device of a key is the peer, or all devices. -/
def RightFor (peer : Option String) (key : String) : Prop :=
  ∀ devId ∈ keyDevice key, devId = AV_TRANS_SPECIAL_DEVICE_ID ∨ peer = some devId

instance (peer : Option String) (key : String) : Decidable (RightFor peer key) :=
  inferInstanceAs (Decidable (∀ devId ∈ keyDevice key, _))

instance (mySessName peerSessName peerDevId : String) (socketId ret : Int)
    (s : SoftbusChannelAdapter) :
    Decidable (s.Opens mySessName peerSessName peerDevId socketId ret) :=
  inferInstanceAs (Decidable (_ ∧ _))

instance (peerSessionName peerDevId : String) : Decidable (Takes peerSessionName peerDevId) :=
  inferInstanceAs (Decidable (_ ∧ _))

/-- The keys that get a new session, or its event : those of listeners that contain the name of the
channel, and its own if there is none yet. -/
def newKeys (mySessName peerDevId : String) (s : SoftbusChannelAdapter) : List String :=
  s.listenerKeys mySessName ++
    if (s.devId2SessIdMap_.lookup (channelKey mySessName peerDevId)).isSome then []
    else [channelKey mySessName peerDevId]

/-- When a session is opened, the keys that already have its id, and those that it gets, are right
for its device. -/
def InPlace (s : SoftbusChannelAdapter) : ChannelStep → Prop
  | .openSoftbusChannel mySessName peerSessName peerDevId socketId ret =>
    s.Opens mySessName peerSessName peerDevId socketId ret →
      ∀ key ∈ s.keysOf socketId ++ s.newKeys mySessName peerDevId, RightFor (some peerDevId) key
  | .onSoftbusChannelOpened peerSessionName sessionId peerDevId _ =>
    (∀ key ∈ s.keysOf sessionId, RightFor (some peerDevId) key) ∧
      (Takes peerSessionName peerDevId →
        ∀ key ∈ s.newKeys (findSessNameByPeerSessName peerSessionName) peerDevId,
          RightFor (some peerDevId) key)
  | _ => True

instance InPlace.decidable (s : SoftbusChannelAdapter) : ∀ l, Decidable (s.InPlace l)
  | .openSoftbusChannel mySessName peerSessName peerDevId socketId ret => inferInstanceAs
      (Decidable (s.Opens mySessName peerSessName peerDevId socketId ret →
        ∀ key ∈ s.keysOf socketId ++ s.newKeys mySessName peerDevId,
          RightFor (some peerDevId) key))
  | .onSoftbusChannelOpened peerSessionName sessionId peerDevId _ => inferInstanceAs (Decidable
      ((∀ key ∈ s.keysOf sessionId, RightFor (some peerDevId) key) ∧
        (Takes peerSessionName peerDevId →
          ∀ key ∈ s.newKeys (findSessNameByPeerSessName peerSessionName) peerDevId,
            RightFor (some peerDevId) key)))
  | .createChannelServer .. => isTrue trivial
  | .removeChannelServer .. => isTrue trivial
  | .closeSoftbusChannel .. => isTrue trivial
  | .registerChannelListener .. => isTrue trivial
  | .unRegisterChannelListener .. => isTrue trivial
  | .onSoftbusChannelClosed .. => isTrue trivial
  | .onSoftbusBytesReceived .. => isTrue trivial
  | .onSoftbusStreamReceived .. => isTrue trivial

/-- What `Routed` says of keys. -/
structure Placed (s : SoftbusChannelAdapter) : Prop where
  mapped : ∀ key sessionId, s.devId2SessIdMap_.lookup key = some sessionId →
    RightFor (s.deviceOf sessionId) key
  arrived : ∀ x ∈ s.delivered, RightFor x.peer x.key

variable {s : SoftbusChannelAdapter}

/-! ## What the keys say -/

theorem rightFor_iff {peer : Option String} {key : String} :
    RightFor peer key ↔ ∀ sessName devId, '_' ∉ devId.toList → key = channelKey sessName devId →
      devId = AV_TRANS_SPECIAL_DEVICE_ID ∨ peer = some devId := by
  constructor
  · intro h sessName devId hnot hkey
    exact h devId (keyDevice_eq_some_iff.2 ⟨⟨sessName, hkey⟩, hnot⟩)
  · intro h devId hdev
    obtain ⟨⟨sessName, hkey⟩, hnot⟩ := keyDevice_eq_some_iff.1 hdev
    exact h sessName devId hnot hkey

/-- Data goes to the device that the session under the key was opened with. -/
theorem deviceOf_of_sendData {valid : Bool} {sessName devId peer : String} {ret : Int}
    (h : (s.sendData valid sessName devId ret).2 = some peer) :
    ∃ sessionId, s.devId2SessIdMap_.lookup (channelKey sessName devId) = some sessionId ∧
      s.deviceOf sessionId = some peer := by
  have hsent : ¬s.getSessIdBySessName sessName devId < 0 ∧
      s.transmit (s.getSessIdBySessName sessName devId) = some peer := by
    unfold sendData at h
    split_ifs at h with _ _ _ hfound
    all_goals exact ⟨hfound, h⟩
  obtain ⟨hfound, htransmit⟩ := hsent
  obtain ⟨session, hsession, hpeer⟩ := Option.map_eq_some_iff.1 htransmit
  have hlookup := (Option.filter_eq_some_iff.1 hsession).1
  rw [getSessIdBySessName] at hfound hlookup
  cases hid : s.devId2SessIdMap_.lookup (channelKey sessName devId) with
  | none =>
    rw [hid] at hfound
    exact absurd (by decide) hfound
  | some sessionId =>
    rw [hid, Option.getD_some] at hlookup
    refine ⟨sessionId, rfl, ?_⟩
    rw [deviceOf, hlookup, Option.map_some, hpeer]

theorem routed_iff_placed : s.Routed ↔ s.Placed := by
  constructor
  · intro h
    refine ⟨fun key sessionId hlookup => rightFor_iff.2 fun sessName devId hnot hkey => ?_,
      fun x hx => rightFor_iff.2 fun sessName devId hnot => h.arrived x hx sessName devId hnot⟩
    rw [or_iff_not_imp_left]
    intro hspecial
    exact h.opened sessName devId sessionId hnot hspecial (hkey ▸ hlookup)
  · intro h
    have hopened : ∀ sessName devId sessionId, '_' ∉ devId.toList →
        devId ≠ AV_TRANS_SPECIAL_DEVICE_ID →
          s.devId2SessIdMap_.lookup (channelKey sessName devId) = some sessionId →
            s.deviceOf sessionId = some devId := by
      intro sessName devId sessionId hnot hspecial hlookup
      exact (rightFor_iff.1 (h.mapped _ sessionId hlookup) sessName devId hnot rfl).resolve_left
        hspecial
    have hsends : ∀ valid sessName devId ret, '_' ∉ devId.toList →
        devId ≠ AV_TRANS_SPECIAL_DEVICE_ID →
          ∀ peer ∈ (s.sendData valid sessName devId ret).2, peer = devId := by
      intro valid sessName devId ret hnot hspecial peer hpeer
      obtain ⟨sessionId, hlookup, hdevice⟩ := deviceOf_of_sendData hpeer
      exact Option.some.inj
        (hdevice.symm.trans (hopened sessName devId sessionId hnot hspecial hlookup))
    exact ⟨hopened, fun sessName devId data ret => hsends _ sessName devId ret,
      fun sessName devId data ext ret => hsends _ sessName devId ret,
      fun x hx sessName devId hnot => rightFor_iff.1 (h.arrived x hx) sessName devId hnot⟩

/-! ## Steps that open no session -/

@[simp] theorem deviceOf_shutdown (sessionId id : Int) :
    (s.shutdown sessionId).deviceOf id = s.deviceOf id := by
  unfold shutdown
  cases h : s.sessions.lookup sessionId with
  | none => rfl
  | some session =>
    rw [deviceOf, Table.lookup_set]
    split_ifs with hid
    · rw [hid, deviceOf, h]
      rfl
    · rfl

@[simp] theorem devId2SessIdMap_shutdown (sessionId : Int) :
    (s.shutdown sessionId).devId2SessIdMap_ = s.devId2SessIdMap_ := by
  unfold shutdown
  split <;> rfl

@[simp] theorem delivered_shutdown (sessionId : Int) :
    (s.shutdown sessionId).delivered = s.delivered := by
  unfold shutdown
  split <;> rfl

@[simp] theorem deviceOf_opened (sessionId : Int) (peerDevId : String) (id : Int) :
    (s.opened sessionId peerDevId).deviceOf id =
      if id = sessionId then some peerDevId else s.deviceOf id := by
  rw [deviceOf, opened, Table.lookup_set]
  split_ifs <;> rfl

theorem mem_keysOf {sessionId : Int} {key : String} :
    key ∈ s.keysOf sessionId ↔ s.devId2SessIdMap_.lookup key = some sessionId := by
  rw [keysOf, List.mem_filter, Table.mem_sortedKeys]
  constructor
  · rintro ⟨-, h⟩
    exact of_decide_eq_true h
  · intro h
    exact ⟨⟨sessionId, h⟩, decide_eq_true h⟩

/-- A state with fewer keys, the same devices and nothing new delivered. -/
theorem Placed.of_subset (h : s.Placed) {s' : SoftbusChannelAdapter}
    (hmap : ∀ key sessionId, s'.devId2SessIdMap_.lookup key = some sessionId →
      s.devId2SessIdMap_.lookup key = some sessionId)
    (hdev : ∀ sessionId, s'.deviceOf sessionId = s.deviceOf sessionId)
    (hdel : s'.delivered = s.delivered) : s'.Placed where
  mapped key sessionId hlookup := by
    rw [hdev]
    exact h.mapped key sessionId (hmap key sessionId hlookup)
  arrived := by
    rw [hdel]
    exact h.arrived

/-- What is delivered to keys of the session. -/
theorem Placed.deliver (h : s.Placed) {sessionId : Int} {keys : List String}
    (hkeys : ∀ key ∈ keys, key ∈ s.keysOf sessionId) (arrival : String → Arrival) :
    (s.deliver sessionId keys arrival).Placed where
  mapped := h.mapped
  arrived := by
    intro x hx
    rcases List.mem_append.1 hx with hx | hx
    · exact h.arrived x hx
    · obtain ⟨key, hkey, rfl⟩ := List.mem_map.1 hx
      exact h.mapped key sessionId (mem_keysOf.1 (hkeys key hkey))

theorem lookup_of_removeFirst {text key : String} {map : Table String Int} {id : Int}
    (h : (removeFirst text map).2.lookup key = some id) : map.lookup key = some id := by
  unfold removeFirst at h
  split at h
  · exact h
  · rw [Table.lookup_remove] at h
    split_ifs at h
    exact h

theorem lookup_of_foldl_remove {key : String} {id : Int} : ∀ {keys : List String}
    {map : Table String Int},
    (keys.foldl (fun map key => map.remove key) map).lookup key = some id → map.lookup key = some id
  | [], _, h => h
  | key' :: keys, map, h => by
    have hrest : (map.remove key').lookup key = some id := lookup_of_foldl_remove h
    rw [Table.lookup_remove] at hrest
    split_ifs at hrest
    exact hrest

theorem Placed.removeChannelServer (h : s.Placed) (pkgName sessName : String) :
    (s.removeChannelServer pkgName sessName).2.Placed := by
  unfold SoftbusChannelAdapter.removeChannelServer
  split_ifs
  · exact h
  · exact h
  · refine h.of_subset (fun key sessionId hlookup => ?_) (fun sessionId => ?_) ?_
    · rw [devId2SessIdMap_shutdown] at hlookup
      exact lookup_of_removeFirst hlookup
    · rw [deviceOf_shutdown]
      exact deviceOf_shutdown _ _
    · rw [delivered_shutdown]
      exact delivered_shutdown _

theorem Placed.closeSoftbusChannel (h : s.Placed) (sessName peerDevId : String) :
    (s.closeSoftbusChannel sessName peerDevId).2.Placed := by
  unfold SoftbusChannelAdapter.closeSoftbusChannel
  split_ifs
  · exact h
  · exact h
  · refine h.of_subset (fun key sessionId hlookup => ?_) (deviceOf_shutdown _)
      (delivered_shutdown _)
    dsimp only at hlookup
    rw [devId2SessIdMap_shutdown, Table.lookup_remove] at hlookup
    split_ifs at hlookup
    exact hlookup

theorem Placed.onSoftbusChannelClosed (h : s.Placed) (sessionId : Int) :
    ((s.onSoftbusChannelClosed sessionId).shutdown sessionId).Placed := by
  have hdeliver : (s.deliver sessionId (s.keysOf sessionId) fun key => .event
      .EVENT_CHANNEL_CLOSED (getOwnerFromSessName key)
      (s.getPeerDevIdBySessId sessionId)).Placed := h.deliver (fun _ hkey => hkey) _
  refine hdeliver.of_subset (fun key id hlookup => ?_) (fun id => ?_) ?_
  · rw [devId2SessIdMap_shutdown] at hlookup
    exact lookup_of_foldl_remove hlookup
  · rw [deviceOf_shutdown]
    rfl
  · rw [delivered_shutdown]
    rfl

theorem Placed.step_of_kept (h : s.Placed) : ∀ l,
    (∀ mySessName peerSessName peerDevId socketId ret,
      l ≠ .openSoftbusChannel mySessName peerSessName peerDevId socketId ret) →
    (∀ peerSessionName sessionId peerDevId result,
      l ≠ .onSoftbusChannelOpened peerSessionName sessionId peerDevId result) →
    (s.step l).Placed
  | .createChannelServer pkgName sessName socketId ret, _, _ => by
    rw [SoftbusChannelAdapter.step, SoftbusChannelAdapter.createChannelServer]
    split_ifs
    all_goals exact ⟨h.mapped, h.arrived⟩
  | .removeChannelServer pkgName sessName, _, _ => h.removeChannelServer pkgName sessName
  | .openSoftbusChannel .., hopen, _ => absurd rfl (hopen _ _ _ _ _)
  | .closeSoftbusChannel sessName peerDevId, _, _ => h.closeSoftbusChannel sessName peerDevId
  | .registerChannelListener sessName peerDevId listener, _, _ => by
    rw [SoftbusChannelAdapter.step]
    unfold SoftbusChannelAdapter.registerChannelListener
    cases listener
    all_goals
      split_ifs
      all_goals exact ⟨h.mapped, h.arrived⟩
  | .unRegisterChannelListener sessName peerDevId, _, _ => by
    rw [SoftbusChannelAdapter.step, SoftbusChannelAdapter.unRegisterChannelListener]
    split_ifs
    all_goals exact ⟨h.mapped, h.arrived⟩
  | .onSoftbusChannelOpened .., _, hopened => absurd rfl (hopened _ _ _ _)
  | .onSoftbusChannelClosed sessionId, _, _ => h.onSoftbusChannelClosed sessionId
  | .onSoftbusBytesReceived sessionId data dropped, _, _ => by
    rw [SoftbusChannelAdapter.step, SoftbusChannelAdapter.onSoftbusBytesReceived]
    split_ifs
    · exact h
    · exact h
    · exact h.deliver (fun _ hkey => List.mem_of_mem_filter hkey) _
  | .onSoftbusStreamReceived sessionId data ext, _, _ => by
    rw [SoftbusChannelAdapter.step, SoftbusChannelAdapter.onSoftbusStreamReceived]
    split_ifs
    · exact h.deliver (fun _ hkey => (List.takeWhile_sublist _).subset hkey) _
    · exact h
    · exact h

/-! ## Steps that open a session -/

theorem lookup_insertNew (key : String) (id : Int) (map : Table String Int) (key' : String) :
    (insertNew key id map).lookup key' =
      if key' = key ∧ map.lookup key = none then some id else map.lookup key' := by
  unfold insertNew
  cases h : map.lookup key with
  | none =>
    rw [if_neg (by simp), Table.lookup_set]
    simp
  | some id' => simp

theorem lookup_foldl_set (sessionId : Int) (key : String) : ∀ (keys : List String)
    (map : Table String Int),
    (keys.foldl (fun map key => (map.remove key).set key sessionId) map).lookup key =
      if key ∈ keys then some sessionId else map.lookup key
  | [], map => by simp
  | key' :: keys, map => by
    rw [List.foldl_cons, lookup_foldl_set sessionId key keys, Table.lookup_set, Table.lookup_remove]
    simp only [List.mem_cons]
    by_cases hmem : key ∈ keys
    · rw [if_pos hmem, if_pos (Or.inr hmem)]
    · by_cases heq : key = key'
      · rw [if_neg hmem, if_pos heq, if_pos (Or.inl heq)]
      · rw [if_neg hmem, if_neg heq, if_neg heq, if_neg (not_or.2 ⟨heq, hmem⟩)]

/-- A session is opened, and the keys `new` get it, or are told of it. -/
theorem Placed.opened_iff (h : s.Placed) {s' : SoftbusChannelAdapter} {sessionId : Int}
    {peerDevId : String} {new : List String}
    (hdev : ∀ id, s'.deviceOf id = if id = sessionId then some peerDevId else s.deviceOf id)
    (hmap : ∀ key id, s'.devId2SessIdMap_.lookup key = some id →
      (id = sessionId ∧ key ∈ new) ∨ s.devId2SessIdMap_.lookup key = some id)
    (hdel : ∀ x ∈ s'.delivered, x ∈ s.delivered ∨ x.key ∈ new ∧ x.peer = some peerDevId)
    (hnew : ∀ key ∈ s.keysOf sessionId ++ new, s'.devId2SessIdMap_.lookup key = some sessionId ∨
      ∃ x ∈ s'.delivered, x.key = key ∧ x.peer = some peerDevId) :
    s'.Placed ↔ ∀ key ∈ s.keysOf sessionId ++ new, RightFor (some peerDevId) key := by
  constructor
  · intro h' key hkey
    rcases hnew key hkey with hlookup | ⟨x, hx, rfl, hpeer⟩
    · have hright := h'.mapped key sessionId hlookup
      rwa [hdev, if_pos rfl] at hright
    · rw [← hpeer]
      exact h'.arrived x hx
  · intro hright
    refine ⟨fun key id hlookup => ?_, fun x hx => ?_⟩
    · rw [hdev]
      rcases hmap key id hlookup with ⟨rfl, hkey⟩ | hlookup
      · rw [if_pos rfl]
        exact hright key (List.mem_append_right _ hkey)
      · split_ifs with hid
        · subst hid
          exact hright key (List.mem_append_left _ (mem_keysOf.2 hlookup))
        · exact h.mapped key id hlookup
    · rcases hdel x hx with hx | ⟨hkey, hpeer⟩
      · exact h.arrived x hx
      · rw [hpeer]
        exact hright x.key (List.mem_append_right _ hkey)

theorem mem_newKeys {mySessName peerDevId key : String} :
    key ∈ s.newKeys mySessName peerDevId ↔ key ∈ s.listenerKeys mySessName ∨
      key = channelKey mySessName peerDevId ∧
        s.devId2SessIdMap_.lookup (channelKey mySessName peerDevId) = none := by
  rw [newKeys, List.mem_append]
  refine or_congr_right ?_
  cases s.devId2SessIdMap_.lookup (channelKey mySessName peerDevId) <;> simp

/-- What is delivered to listeners when a session is opened. -/
theorem mem_delivered_opened {sessionId : Int} {peerDevId : String} {keys : List String}
    {arrival : String → Arrival} {x : Delivery}
    (hx : x ∈ ((s.opened sessionId peerDevId).deliver sessionId keys arrival).delivered) :
    x ∈ s.delivered ∨ x.key ∈ keys ∧ x.peer = some peerDevId := by
  refine (List.mem_append.1 hx).imp_right fun hx => ?_
  obtain ⟨key, hkey, rfl⟩ := List.mem_map.1 hx
  exact ⟨hkey, by rw [deviceOf_opened, if_pos rfl]⟩

theorem Placed.openSoftbusChannel_iff (h : s.Placed)
    (mySessName peerSessName peerDevId : String) (socketId ret : Int) :
    (s.openSoftbusChannel mySessName peerSessName peerDevId socketId ret).2.Placed ↔
      (s.Opens mySessName peerSessName peerDevId socketId ret →
        ∀ key ∈ s.keysOf socketId ++ s.newKeys mySessName peerDevId,
          RightFor (some peerDevId) key) := by
  by_cases hopens : s.Opens mySessName peerSessName peerDevId socketId ret
  · rw [imp_iff_right hopens]
    obtain ⟨hmy, hpeer, hdev, hexist, hsocket, hret⟩ := hopens
    rw [openSoftbusChannel, if_neg hmy, if_neg hpeer, if_neg hdev, if_neg hexist.not_gt,
      if_neg hsocket.not_gt, if_neg (not_not.2 hret)]
    refine h.opened_iff (fun id => deviceOf_opened socketId peerDevId id) (fun key id hlookup => ?_)
      (fun x hx => ?_) (fun key hkey => ?_)
    · replace hlookup := (lookup_insertNew _ _ _ _).symm.trans hlookup
      split_ifs at hlookup with hown
      · exact .inl ⟨(Option.some.inj hlookup).symm, mem_newKeys.2 (.inr hown)⟩
      · exact .inr hlookup
    · exact (mem_delivered_opened hx).imp_right (And.imp_left fun hkey =>
        mem_newKeys.2 (.inl hkey))
    · rcases List.mem_append.1 hkey with hkey | hkey
      · refine .inl ((lookup_insertNew _ _ _ _).trans ?_)
        split_ifs
        · rfl
        · exact mem_keysOf.1 hkey
      · rcases mem_newKeys.1 hkey with hkey | hown
        · refine .inr ⟨_, List.mem_append_right _ (List.mem_map_of_mem hkey), rfl, ?_⟩
          exact (deviceOf_opened socketId peerDevId socketId).trans (if_pos rfl)
        · exact .inl ((lookup_insertNew _ _ _ _).trans (if_pos hown))
  · refine iff_of_true ?_ fun hopens' => absurd hopens' hopens
    unfold openSoftbusChannel
    split_ifs with hmy hpeer hdev hexist hsocket hret
    all_goals first
      | exact h
      | exact absurd ⟨hmy, hpeer, hdev, not_lt.1 hexist, not_lt.1 hsocket, not_not.1 hret⟩ hopens

/-- The map after a session was put under the keys that are new to it. -/
theorem lookup_insertNew_foldl_set (mySessionName peerDevId : String) (sessionId : Int)
    (key : String) :
    (insertNew (channelKey mySessionName peerDevId) sessionId
        ((s.listenerKeys mySessionName).foldl
          (fun map key => (map.remove key).set key sessionId) s.devId2SessIdMap_)).lookup key =
      if key ∈ s.newKeys mySessionName peerDevId then some sessionId
      else s.devId2SessIdMap_.lookup key := by
  rw [lookup_insertNew, lookup_foldl_set, lookup_foldl_set]
  by_cases hlistener : key ∈ s.listenerKeys mySessionName
  · rw [if_pos hlistener, if_pos (mem_newKeys.2 (.inl hlistener)), ite_self]
  · rw [if_neg hlistener]
    refine if_congr ?_ rfl rfl
    rw [mem_newKeys, or_iff_right hlistener]
    refine and_congr_right fun hkey => ?_
    rw [← hkey, if_neg hlistener]

theorem onSoftbusChannelOpened_of_not_takes {peerSessionName peerDevId : String}
    (h : ¬Takes peerSessionName peerDevId) (sessionId result : Int) :
    (s.onSoftbusChannelOpened peerSessionName sessionId peerDevId result).2 = s := by
  unfold onSoftbusChannelOpened
  split_ifs with hpeer hdev hmy
  all_goals first
    | rfl
    | exact absurd ⟨hpeer, hdev, hmy⟩ h

theorem Placed.onSoftbusChannelOpened_iff (h : s.Placed) (peerSessionName : String)
    (sessionId : Int) (peerDevId : String) (result : Int) :
    ((s.opened sessionId peerDevId).onSoftbusChannelOpened peerSessionName sessionId peerDevId
      result).2.Placed ↔
      (∀ key ∈ s.keysOf sessionId, RightFor (some peerDevId) key) ∧
        (Takes peerSessionName peerDevId →
          ∀ key ∈ s.newKeys (findSessNameByPeerSessName peerSessionName) peerDevId,
            RightFor (some peerDevId) key) := by
  by_cases htakes : Takes peerSessionName peerDevId
  · rw [imp_iff_right htakes, ← List.forall_mem_append]
    obtain ⟨hpeer, hdev, hmy⟩ := htakes
    have hlookup := lookup_insertNew_foldl_set (s := s)
      (findSessNameByPeerSessName peerSessionName) peerDevId sessionId
    rw [onSoftbusChannelOpened, if_neg hpeer, if_neg hdev, if_neg hmy]
    refine h.opened_iff (fun id => deviceOf_opened sessionId peerDevId id) (fun key id hkey => ?_)
      (fun x hx => ?_) (fun key hkey => .inl ((hlookup key).trans ?_))
    · replace hkey := (hlookup key).symm.trans hkey
      split_ifs at hkey with hnew
      · exact .inl ⟨(Option.some.inj hkey).symm, hnew⟩
      · exact .inr hkey
    · exact (mem_delivered_opened hx).imp_right (And.imp_left fun hkey =>
        mem_newKeys.2 (.inl hkey))
    · split_ifs with hnew
      · rfl
      · exact mem_keysOf.1 ((List.mem_append.1 hkey).resolve_right hnew)
  · rw [and_iff_left fun htakes' => absurd htakes' htakes,
      onSoftbusChannelOpened_of_not_takes htakes]
    have hopened : (s.opened sessionId peerDevId).Placed ↔
        ∀ key ∈ s.keysOf sessionId ++ [], RightFor (some peerDevId) key := h.opened_iff
      (fun id => deviceOf_opened sessionId peerDevId id) (fun key id hkey => .inr hkey)
      (fun x hx => .inl hx)
      (fun key hkey => .inl (mem_keysOf.1 ((List.mem_append.1 hkey).resolve_right
        List.not_mem_nil)))
    rw [hopened, List.append_nil]

/-! ## Where data goes -/

theorem Placed.step_iff (h : s.Placed) (l : ChannelStep) : (s.step l).Placed ↔ s.InPlace l := by
  cases l with
  | openSoftbusChannel mySessName peerSessName peerDevId socketId ret =>
    exact h.openSoftbusChannel_iff mySessName peerSessName peerDevId socketId ret
  | onSoftbusChannelOpened peerSessionName sessionId peerDevId result =>
    exact h.onSoftbusChannelOpened_iff peerSessionName sessionId peerDevId result
  | _ => exact iff_of_true (h.step_of_kept _ nofun nofun) trivial

theorem placed_init : Placed {} where
  mapped _ _ h := absurd h (Table.lookup_empty_ne_some _ _)
  arrived := nofun

/-- Data and what arrives stay with their device in every state of a run exactly if each session
that is opened in it is opened in place. -/
theorem routed_iff (ls : List ChannelStep) :
    (∀ pre post, ls = pre ++ post → (pre.foldl step {}).Routed) ↔ Along step InPlace {} ls := by
  rw [along_iff (J := fun _ => True) (fun _ _ _ => trivial) (fun s l _ h => h.step_iff l) ls
    trivial placed_init]
  simp only [routed_iff_placed]

-- With a listener for all devices, a phone and a tablet are told apart.
example : Along step InPlace {} [
    .registerChannelListener AV_SYNC_RECEIVER_CONTROL_SESSION_NAME AV_TRANS_SPECIAL_DEVICE_ID
      (some 0),
    .onSoftbusChannelOpened AV_SYNC_SENDER_CONTROL_SESSION_NAME 1 "phone" 0,
    .onSoftbusChannelOpened AV_SYNC_SENDER_CONTROL_SESSION_NAME 2 "tablet" 0,
    .onSoftbusBytesReceived 1 "frame" [], .onSoftbusChannelClosed 2] := by
  decide +kernel

/-- A phone and then a tablet open the control channel of a microphone. What is sent to the phone
goes to the tablet. -/
theorem not_routed :
    ((List.foldl step {} [
      .registerChannelListener "ohos.dhardware.daudio.dmic_receiver.avtrans.control" "phone"
        (some 0),
      .registerChannelListener "ohos.dhardware.daudio.dmic_receiver.avtrans.control" "tablet"
        (some 1),
      .onSoftbusChannelOpened "ohos.dhardware.daudio.dmic_sender.avtrans.control" 1 "phone" 0,
      .onSoftbusChannelOpened "ohos.dhardware.daudio.dmic_sender.avtrans.control" 2 "tablet"
        0]).sendBytesData "ohos.dhardware.daudio.dmic_receiver.avtrans.control" "phone" "frame"
        0).2 = some "tablet" ∧
      ¬∀ pre post, [
        .registerChannelListener "ohos.dhardware.daudio.dmic_receiver.avtrans.control" "phone"
          (some 0),
        .registerChannelListener "ohos.dhardware.daudio.dmic_receiver.avtrans.control" "tablet"
          (some 1),
        .onSoftbusChannelOpened "ohos.dhardware.daudio.dmic_sender.avtrans.control" 1 "phone" 0,
        .onSoftbusChannelOpened "ohos.dhardware.daudio.dmic_sender.avtrans.control" 2 "tablet" 0] =
          pre ++ post → (pre.foldl step {}).Routed := by
  refine ⟨by decide +kernel, fun h => ?_⟩
  have hpeer := (h _ [] (List.append_nil _).symm).bytes
    "ohos.dhardware.daudio.dmic_receiver.avtrans.control" "phone" "frame" 0 (by decide)
    (by decide) "tablet" (by decide +kernel)
  exact absurd hpeer (by decide)

end SoftbusChannelAdapter

end DHFwk
