import DHFwk.ChannelAdapter

/-!
# What an engine leaves behind

An engine acquires an engine id of the control center, its entry in the listeners of the softbus
adapter and a session, and `Release` gives back one of each : the id `engineId_`, and what is under
the device `peerDevId_`. `Initialize` may fail after it got an id, and the next one overwrites it;
`CreateControlChannel` overwrites the device; and the receivers release nothing while they are idle,
which they are until an `Initialize` went through.

`Tied` says that all that the engine holds can still be reached through these fields. It is kept by
every step that does not overwrite one of them while something hangs on it, and does not leave an
idle receiver with something (`Tidy`). A release gives back all that is tied (`release_clean`).
-/

set_option linter.unusedSectionVars false

namespace DHFwk

open Runs

abbrev ERR_DH_AVT_INIT_FAILED : Int := -80002
abbrev ERR_DH_AVT_CTRL_CENTER_INIT_FAIL : Int := -80020
abbrev ERR_DH_AVT_REGISTER_CALLBACK_FAIL : Int := -80021
abbrev ERR_DH_AVT_NULL_POINTER : Int := -81010

/-- What tells the engines apart. -/
structure EngineKind where
  /-- The ends of the names of its control session and of that of its peer. -/
  suffix : String
  peerSuffix : String
  /-- `Release` does nothing in the state `IDLE`. -/
  skipsIdle : Bool
  /-- An event that the channel is open leaves the state `STARTED`. -/
  keepsStarted : Bool
  /-- `Start` asks the control center for its channel. -/
  opensCenterChannel : Bool
  /-- The code of `Stop` without a pipeline. -/
  stopUnprepared : Int
  /-- `Release` drops the callback. -/
  dropsCallback : Bool
  deriving DecidableEq, Repr

namespace EngineKind

def AVSenderEngine : EngineKind where
  suffix := SENDER_CONTROL_SESSION_NAME_SUFFIX
  peerSuffix := RECEIVER_CONTROL_SESSION_NAME_SUFFIX
  skipsIdle := false
  keepsStarted := false
  opensCenterChannel := true
  stopUnprepared := ERR_DH_AVT_STOP_FAILED
  dropsCallback := true

def AVReceiverEngine : EngineKind where
  suffix := RECEIVER_CONTROL_SESSION_NAME_SUFFIX
  peerSuffix := SENDER_CONTROL_SESSION_NAME_SUFFIX
  skipsIdle := true
  keepsStarted := false
  opensCenterChannel := false
  stopUnprepared := ERR_DH_AVT_START_FAILED
  dropsCallback := false

def AVAudioReceiverEngine : EngineKind where
  suffix := RECEIVER_CONTROL_SESSION_NAME_SUFFIX
  peerSuffix := SENDER_CONTROL_SESSION_NAME_SUFFIX
  skipsIdle := true
  keepsStarted := true
  opensCenterChannel := false
  stopUnprepared := ERR_DH_AVT_START_FAILED
  dropsCallback := false

end EngineKind

/-- An engine of a kind. `self` is the pointer to it; the other pointers are only compared with
null. -/
structure AVEngine where
  kind : EngineKind
  self : ℕ
  ownerName_ : String
  peerDevId_ : String
  engineId_ : Int := 0
  isInitialized_ : Bool := false
  currentState_ : StateId := .IDLE
  pipeline_ : Bool := false
  dhFwkKit_ : Bool := false
  callback : Bool := false
  deriving DecidableEq, Repr

namespace AVEngine

def sessionName_ (e : AVEngine) : String :=
  e.ownerName_ ++ "_" ++ e.kind.suffix

def peerSessName (e : AVEngine) : String :=
  e.ownerName_ ++ "_" ++ e.kind.peerSuffix

/-- The key of the listener and of the session that `Release` looks at. -/
def key (e : AVEngine) : String :=
  channelKey e.sessionName_ e.peerDevId_

end AVEngine

/-- How far `InitPipeline` gets. -/
inductive PipelineInit
  | noFilter | notLinked | linked
  deriving DecidableEq, Repr

/-- What `InitializeAVCenter` does. Where it fails it may have written the id from the reply. -/
inductive CenterAnswer
  | given (engineId : Int)
  | failed (engineId : Option Int)
  deriving DecidableEq, Repr

def CenterAnswer.isGiven : CenterAnswer → Bool
  | .given _ => true
  | .failed _ => false

/-- The id that is written to `engineId_`. -/
def CenterAnswer.written : CenterAnswer → Option Int
  | .given engineId => some engineId
  | .failed engineId => engineId

/-- An engine and the adapter, with the sessions that the engine opened and that are in
`devId2SessIdMap_`, and the engine ids that it was given and has not released. -/
structure EngineWorld where
  engine : AVEngine
  adapter : SoftbusChannelAdapter := {}
  opened : List (String × Int) := []
  unreleased : List Int := []

/-- What happens next to the engine, or to the adapter by others. -/
inductive EngineCall
  | initializeEngine (pipeline : PipelineInit) (center : CenterAnswer) (newCallback : Bool)
    (registerCtlCenterCallback : Int)
  | registerCallback
  | createControlChannel (dstDevIds : List String) (socketId ret : Int)
  | setEngineReady (preparePipeline : Bool)
  | start (pipelineStart : Bool) (createControlChannel : Int)
  | handleBuffer (handled : Bool)
  | stop (pipelineStop : Bool)
  | onChannelEvent (type : ChannelEvent)
  | release
  | destroy
  | others (l : ChannelStep)
  deriving DecidableEq, Repr

/-- The step registers the pointer as a listener. -/
def ChannelStep.Registers (self : ℕ) : ChannelStep → Prop
  | .registerChannelListener _ _ listener => listener = some self
  | _ => False

instance (self : ℕ) : ∀ l : ChannelStep, Decidable (l.Registers self)
  | .registerChannelListener .. => inferInstanceAs (Decidable (_ = _))
  | .createChannelServer .. | .removeChannelServer .. | .openSoftbusChannel ..
  | .closeSoftbusChannel .. | .unRegisterChannelListener .. | .onSoftbusChannelOpened ..
  | .onSoftbusChannelClosed .. | .onSoftbusBytesReceived .. | .onSoftbusStreamReceived .. =>
    inferInstanceAs (Decidable False)

namespace EngineWorld

variable (w : EngineWorld)

/-- Sessions that have left the map are not noted any more. -/
def settle : EngineWorld :=
  { w with opened := w.opened.filter fun e => w.adapter.devId2SessIdMap_.lookup e.1 = some e.2 }

/-- `InitControlCenter`. -/
def initControlCenter (center : CenterAnswer) (newCallback : Bool)
    (registerCtlCenterCallback : Int) : Int × EngineWorld :=
  let w := { w with engine := { w.engine with dhFwkKit_ := true } }
  match center with
  | .failed engineId =>
    let engine := { w.engine with engineId_ := engineId.getD w.engine.engineId_ }
    (ERR_DH_AVT_CTRL_CENTER_INIT_FAIL, { w with engine := engine })
  | .given engineId =>
    let engine := { w.engine with engineId_ := engineId }
    let w := { w with engine := engine, unreleased := engineId :: w.unreleased }
    if ¬newCallback then (ERR_DH_AVT_REGISTER_CALLBACK_FAIL, w)
    else if registerCtlCenterCallback ≠ DH_AVT_SUCCESS then (ERR_DH_AVT_REGISTER_CALLBACK_FAIL, w)
    else (DH_AVT_SUCCESS, w)

/-- `RegisterChannelListener` of the engine itself, for its device. -/
def registerSelf : Int × EngineWorld :=
  let (ret, adapter) := w.adapter.registerChannelListener w.engine.sessionName_ w.engine.peerDevId_
    (some w.engine.self)
  (ret, { w with adapter := adapter })

/-- `Initialize`. -/
def initializeEngine (pipeline : PipelineInit) (center : CenterAnswer) (newCallback : Bool)
    (registerCtlCenterCallback : Int) : Int × EngineWorld :=
  if w.engine.isInitialized_ then (DH_AVT_SUCCESS, w)
  else
    let made := w.engine.pipeline_ || pipeline ≠ .noFilter
    let w := { w with engine := { w.engine with pipeline_ := made } }
    if pipeline ≠ .linked then (ERR_DH_AVT_INIT_FAILED, w)
    else
      let (ret, w) := w.initControlCenter center newCallback registerCtlCenterCallback
      if ret ≠ DH_AVT_SUCCESS then (ERR_DH_AVT_INIT_FAILED, w)
      else
        let (ret, w) := w.registerSelf
        if ret ≠ DH_AVT_SUCCESS then (ERR_DH_AVT_INIT_FAILED, w)
        else
          let engine := { w.engine with isInitialized_ := true, currentState_ := .INITIALIZED }
          (DH_AVT_SUCCESS, { w with engine := engine })

/-- `CreateControlChannel`. -/
def createControlChannel (dstDevIds : List String) (socketId ret : Int) : Int × EngineWorld :=
  match dstDevIds with
  | [] => (ERR_DH_AVT_NULL_POINTER, w)
  | dstDevId :: _ =>
    let w := { w with engine := { w.engine with peerDevId_ := dstDevId } }
    let (registered, w) := w.registerSelf
    if registered ≠ DH_AVT_SUCCESS then (ERR_DH_AVT_CREATE_CHANNEL_FAILED, w)
    else
      let (ret, adapter) := w.adapter.openSoftbusChannel w.engine.sessionName_ w.engine.peerSessName
        w.engine.peerDevId_ socketId ret
      let opened :=
        if ret = DH_AVT_SUCCESS then (w.engine.key, socketId) :: w.opened else w.opened
      let w := { w with adapter := adapter, opened := opened }.settle
      if ret = ERR_DH_AVT_SESSION_HAS_OPENED then (ERR_DH_AVT_CHANNEL_ALREADY_CREATED, w)
      else if ret ≠ DH_AVT_SUCCESS then (ERR_DH_AVT_CREATE_CHANNEL_FAILED, w)
      else (DH_AVT_SUCCESS, w)

/-- The engine goes to a state. -/
def setCurrentState (state : StateId) : EngineWorld :=
  { w with engine := { w.engine with currentState_ := state } }

/-- `SetParameter(ENGINE_READY)`, which runs `PreparePipeline`. -/
def setEngineReady (preparePipeline : Bool) : EngineWorld :=
  if w.engine.currentState_ ≠ .INITIALIZED ∧ w.engine.currentState_ ≠ .CH_CREATED then w
  else if ¬preparePipeline then w
  else w.setCurrentState .CH_CREATED

/-- `Start`. -/
def start (pipelineStart : Bool) (createControlChannel : Int) : Int × EngineWorld :=
  if w.engine.currentState_ ≠ .CH_CREATED then (ERR_DH_AVT_START_FAILED, w)
  else if ¬w.engine.pipeline_ then (ERR_DH_AVT_START_FAILED, w)
  else if ¬pipelineStart then (ERR_DH_AVT_START_FAILED, w)
  else if w.engine.kind.opensCenterChannel ∧ ¬w.engine.dhFwkKit_ then (ERR_DH_AVT_START_FAILED, w)
  else if w.engine.kind.opensCenterChannel ∧ createControlChannel ≠ DH_AVT_SUCCESS then
    (ERR_DH_AVT_CREATE_CHANNEL_FAILED, w)
  else (DH_AVT_SUCCESS, w.setCurrentState .STARTED)

/-- `PushData` of the sender and `HandleOutputBuffer` of the receivers, of which the state is what
matters here. -/
def handleBuffer (handled : Bool) : EngineWorld :=
  if w.engine.currentState_ ≠ .STARTED ∧ w.engine.currentState_ ≠ .PLAYING then w
  else if ¬handled then w
  else w.setCurrentState .PLAYING

/-- `Stop`. -/
def stop (pipelineStop : Bool) : Int × EngineWorld :=
  if ¬w.engine.pipeline_ then (w.engine.kind.stopUnprepared, w)
  else if ¬pipelineStop then (ERR_DH_AVT_STOP_FAILED, w)
  else (DH_AVT_SUCCESS, w.setCurrentState .STOPPED)

/-- `OnChannelEvent`. -/
def onChannelEvent (type : ChannelEvent) : EngineWorld :=
  if ¬w.engine.callback then w
  else match type with
  | .EVENT_CHANNEL_OPENED =>
    if w.engine.kind.keepsStarted ∧ w.engine.currentState_ = .STARTED then w
    else w.setCurrentState .CH_CREATED
  | .EVENT_CHANNEL_OPEN_FAIL => w.setCurrentState .INITIALIZED
  | .EVENT_CHANNEL_CLOSED =>
    if w.engine.currentState_ ≠ .IDLE ∧ w.engine.currentState_ ≠ .INITIALIZED then
      w.setCurrentState .INITIALIZED
    else w

/-- `ReleaseAVCenter` of the kit, which succeeds, if there is the kit. -/
def releaseAVCenter : EngineWorld :=
  if w.engine.dhFwkKit_ then
    { w with unreleased := w.unreleased.filter (· ≠ w.engine.engineId_) }
  else w

/-- `Release`. -/
def release : Int × EngineWorld :=
  if w.engine.kind.skipsIdle ∧ w.engine.currentState_ = .IDLE then (DH_AVT_SUCCESS, w)
  else
    let w := w.releaseAVCenter
    let (_, adapter) := w.adapter.closeSoftbusChannel w.engine.sessionName_ w.engine.peerDevId_
    let (_, adapter) := adapter.unRegisterChannelListener w.engine.sessionName_ w.engine.peerDevId_
    let engine := { w.engine with
      isInitialized_ := false
      pipeline_ := false
      dhFwkKit_ := false
      callback := w.engine.callback && !w.engine.kind.dropsCallback
      currentState_ := .IDLE }
    (DH_AVT_SUCCESS, { w with engine := engine, adapter := adapter }.settle)

/-- The destructor. -/
def destroy : EngineWorld :=
  let w := w.release.2
  { w with engine := { w.engine with pipeline_ := false, dhFwkKit_ := false } }

/-- One step. Nobody else has the pointer. -/
def step : EngineCall → EngineWorld
  | .initializeEngine pipeline center newCallback registerCtlCenterCallback =>
    (w.initializeEngine pipeline center newCallback registerCtlCenterCallback).2
  | .registerCallback => { w with engine := { w.engine with callback := true } }
  | .createControlChannel dstDevIds socketId ret => (w.createControlChannel dstDevIds socketId ret).2
  | .setEngineReady preparePipeline => w.setEngineReady preparePipeline
  | .start pipelineStart createControlChannel => (w.start pipelineStart createControlChannel).2
  | .handleBuffer handled => w.handleBuffer handled
  | .stop pipelineStop => (w.stop pipelineStop).2
  | .onChannelEvent type => w.onChannelEvent type
  | .release => w.release.2
  | .destroy => w.destroy
  | .others l =>
    if l.Registers w.engine.self then w else { w with adapter := w.adapter.step l }.settle

/-- Nothing of the engine is left : no listener points to it, no session that it opened is in the
map, and every id that it was given is released. -/
structure Clean : Prop where
  listener : ∀ key, w.adapter.listenerMap_.lookup key ≠ some w.engine.self
  session : w.opened = []
  engineId : w.unreleased = []

/-- What the engine holds is what its fields name, and an idle receiver holds nothing. -/
structure Tied : Prop where
  listener : ∀ key, w.adapter.listenerMap_.lookup key = some w.engine.self →
    key = w.engine.key ∧ w.engine.peerDevId_ ≠ ""
  session : ∀ e ∈ w.opened, e.1 = w.engine.key ∧ w.engine.peerDevId_ ≠ ""
  engineId : ∀ id ∈ w.unreleased, id = w.engine.engineId_ ∧ w.engine.dhFwkKit_ = true
  idle : w.engine.kind.skipsIdle = true → w.engine.currentState_ = .IDLE → w.Clean

/-- A step that leaves all that the engine holds in reach. -/
def Tidy : EngineCall → Prop
  -- no id is overwritten by another, and an idle receiver that gets one becomes initialized
  | .initializeEngine pipeline center newCallback registerCtlCenterCallback =>
    w.engine.isInitialized_ = false → pipeline = .linked →
      (∀ engineId ∈ center.written, ∀ id ∈ w.unreleased, id = engineId) ∧
        (w.engine.kind.skipsIdle = true → w.engine.currentState_ = .IDLE → center.isGiven = true →
          newCallback = true ∧ registerCtlCenterCallback = DH_AVT_SUCCESS ∧
            w.engine.peerDevId_ ≠ "")
  -- no device is overwritten under which something is held, and an idle receiver registers nothing
  | .createControlChannel dstDevIds _ _ =>
    ∀ dstDevId ∈ dstDevIds.head?,
      (dstDevId ≠ w.engine.peerDevId_ → w.opened = [] ∧
        w.adapter.listenerMap_.lookup w.engine.key ≠ some w.engine.self) ∧
      (w.engine.kind.skipsIdle = true → w.engine.currentState_ = .IDLE → dstDevId = "")
  | _ => True

instance : ∀ l : EngineCall, Decidable (w.Tidy l)
  | .initializeEngine .. =>
    inferInstanceAs (Decidable (_ → _ → (∀ engineId ∈ _, ∀ id ∈ _, _) ∧ (_ → _ → _ → _)))
  | .createControlChannel .. => inferInstanceAs (Decidable (∀ dstDevId ∈ _, (_ → _) ∧ (_ → _ → _)))
  | .registerCallback | .setEngineReady .. | .start .. | .handleBuffer .. | .stop ..
  | .onChannelEvent .. | .release | .destroy | .others .. => inferInstanceAs (Decidable True)

/-- An engine that has just been made. -/
def made (kind : EngineKind) (self : ℕ) (ownerName peerDevId : String)
    (adapter : SoftbusChannelAdapter) : EngineWorld where
  engine := { kind := kind, self := self, ownerName_ := ownerName, peerDevId_ := peerDevId }
  adapter := adapter

end EngineWorld

/-! ## The adapter -/

namespace SoftbusChannelAdapter

@[simp] theorem shutdown_listenerMap_ (s : SoftbusChannelAdapter) (sessionId : Int) :
    (s.shutdown sessionId).listenerMap_ = s.listenerMap_ := by
  unfold shutdown
  split <;> rfl

@[simp] theorem shutdown_devId2SessIdMap_ (s : SoftbusChannelAdapter) (sessionId : Int) :
    (s.shutdown sessionId).devId2SessIdMap_ = s.devId2SessIdMap_ := by
  unfold shutdown
  split <;> rfl

@[simp] theorem closeSoftbusChannel_listenerMap_ (s : SoftbusChannelAdapter)
    (sessName peerDevId : String) :
    (s.closeSoftbusChannel sessName peerDevId).2.listenerMap_ = s.listenerMap_ := by
  unfold closeSoftbusChannel
  split_ifs <;> simp

@[simp] theorem openSoftbusChannel_listenerMap_ (s : SoftbusChannelAdapter)
    (mySessName peerSessName peerDevId : String) (socketId ret : Int) :
    (s.openSoftbusChannel mySessName peerSessName peerDevId socketId ret).2.listenerMap_ =
      s.listenerMap_ := by
  unfold openSoftbusChannel
  split_ifs <;> rfl

/-- Nobody but the owner of a pointer makes a listener of it. -/
theorem lookup_step {self : ℕ} {l : ChannelStep} (hl : ¬l.Registers self)
    {s : SoftbusChannelAdapter} {key : String}
    (h : (s.step l).listenerMap_.lookup key = some self) :
    s.listenerMap_.lookup key = some self := by
  cases l with
  | createChannelServer pkgName sessName socketId ret =>
    simp only [step, createChannelServer] at h
    split_ifs at h <;> exact h
  | removeChannelServer pkgName sessName =>
    simp only [step, removeChannelServer] at h
    split_ifs at h <;> simpa using h
  | openSoftbusChannel mySessName peerSessName peerDevId socketId ret => simpa [step] using h
  | closeSoftbusChannel sessName peerDevId => simpa [step] using h
  | registerChannelListener sessName peerDevId listener =>
    simp only [step, registerChannelListener] at h
    split_ifs at h
    · exact h
    · exact h
    · cases listener with
      | none => exact h
      | some other =>
        have hother : other ≠ self := fun heq => hl (congrArg some heq)
        rw [Table.lookup_set] at h
        split_ifs at h
        · exact absurd (Option.some.inj h) hother
        · exact h
  | unRegisterChannelListener sessName peerDevId =>
    simp only [step, unRegisterChannelListener] at h
    split_ifs at h
    · exact h
    · exact h
    · rw [Table.lookup_remove] at h
      split_ifs at h
      exact h
  | onSoftbusChannelOpened peerSessionName sessionId peerDevId result =>
    simp only [step, onSoftbusChannelOpened] at h
    split_ifs at h <;> exact h
  | onSoftbusChannelClosed sessionId => simpa [step, onSoftbusChannelClosed, deliver] using h
  | onSoftbusBytesReceived sessionId data dropped =>
    simp only [step, onSoftbusBytesReceived] at h
    split_ifs at h <;> exact h
  | onSoftbusStreamReceived sessionId data ext =>
    simp only [step, onSoftbusStreamReceived] at h
    split_ifs at h <;> exact h

end SoftbusChannelAdapter

namespace AVEngine

theorem sessionName_ne_empty (e : AVEngine) : e.sessionName_ ≠ "" := by
  intro h
  have hlist := congrArg String.toList h
  simp [sessionName_] at hlist

end AVEngine

namespace EngineWorld

variable {w : EngineWorld}

/-! ## Release -/

theorem settle_eq_nil (h : ∀ e ∈ w.opened, w.adapter.devId2SessIdMap_.lookup e.1 = none) :
    w.settle.opened = [] := by
  simp only [settle, List.filter_eq_nil_iff, decide_eq_true_iff]
  intro e he heq
  rw [h e he] at heq
  cases heq

theorem mem_settle {e : String × Int} (h : e ∈ w.settle.opened) : e ∈ w.opened :=
  (List.mem_filter.1 h).1

theorem Tied.releaseAVCenter (h : w.Tied) : w.releaseAVCenter.unreleased = [] := by
  unfold EngineWorld.releaseAVCenter
  by_cases hkit : w.engine.dhFwkKit_ = true
  · rw [if_pos hkit]
    refine List.filter_eq_nil_iff.2 fun id hid => ?_
    simpa using (h.engineId id hid).1
  · rw [if_neg hkit]
    exact List.eq_nil_iff_forall_not_mem.2 fun id hid => hkit (h.engineId id hid).2

theorem releaseAVCenter_engine (w : EngineWorld) : w.releaseAVCenter.engine = w.engine := by
  unfold releaseAVCenter
  split_ifs <;> rfl

theorem releaseAVCenter_adapter (w : EngineWorld) : w.releaseAVCenter.adapter = w.adapter := by
  unfold releaseAVCenter
  split_ifs <;> rfl

theorem releaseAVCenter_opened (w : EngineWorld) : w.releaseAVCenter.opened = w.opened := by
  unfold releaseAVCenter
  split_ifs <;> rfl

/-- After the channel is closed and the listener is taken out, nothing is under the key. -/
theorem lookup_closed {peerDevId : String} (s : SoftbusChannelAdapter) {sessName : String}
    (hname : sessName ≠ "") (hpeer : peerDevId ≠ "") :
    let s' := ((s.closeSoftbusChannel sessName peerDevId).2.unRegisterChannelListener sessName
      peerDevId).2
    s'.listenerMap_ = s.listenerMap_.remove (channelKey sessName peerDevId) ∧
      s'.devId2SessIdMap_ = s.devId2SessIdMap_.remove (channelKey sessName peerDevId) := by
  simp [SoftbusChannelAdapter.unRegisterChannelListener, SoftbusChannelAdapter.closeSoftbusChannel,
    hname, hpeer]

theorem closed_of_empty (s : SoftbusChannelAdapter) (sessName : String) :
    ((s.closeSoftbusChannel sessName "").2.unRegisterChannelListener sessName "").2 = s := by
  simp [SoftbusChannelAdapter.unRegisterChannelListener, SoftbusChannelAdapter.closeSoftbusChannel]

/-- What is tied is given back. -/
theorem Tied.release (h : w.Tied) : w.release.2.Clean := by
  unfold EngineWorld.release
  by_cases hidle : w.engine.kind.skipsIdle = true ∧ w.engine.currentState_ = .IDLE
  · rw [if_pos hidle]
    exact h.idle hidle.1 hidle.2
  rw [if_neg hidle]
  simp only [releaseAVCenter_engine, releaseAVCenter_adapter]
  by_cases hpeer : w.engine.peerDevId_ = ""
  · simp only [hpeer, closed_of_empty]
    refine ⟨fun key hkey => (h.listener key hkey).2 hpeer, settle_eq_nil fun e he => ?_,
      h.releaseAVCenter⟩
    rw [releaseAVCenter_opened] at he
    exact absurd hpeer (h.session e he).2
  · obtain ⟨hlisteners, hsessions⟩ :=
      lookup_closed w.adapter w.engine.sessionName_ne_empty hpeer
    refine ⟨fun key hkey => ?_, settle_eq_nil fun e he => ?_, h.releaseAVCenter⟩
    · simp only [settle, hlisteners] at hkey
      rw [Table.lookup_remove] at hkey
      split_ifs at hkey with hne
      exact hne (h.listener key hkey).1
    · rw [releaseAVCenter_opened] at he
      rw [hsessions, (h.session e he).1]
      exact Table.lookup_remove_self _ _

/-! ## The steps -/

/-- The engine comes to another state. -/
theorem Tied.setCurrentState (h : w.Tied) {state : StateId} (hstate : state ≠ .IDLE) :
    (w.setCurrentState state).Tied :=
  ⟨h.listener, h.session, h.engineId, fun _ hidle => absurd hidle hstate⟩

theorem Tied.setEngineReady (h : w.Tied) (preparePipeline : Bool) :
    (w.setEngineReady preparePipeline).Tied := by
  unfold EngineWorld.setEngineReady
  split_ifs
  · exact h
  · exact h.setCurrentState nofun
  · exact h

theorem Tied.start (h : w.Tied) (pipelineStart : Bool) (createControlChannel : Int) :
    (w.start pipelineStart createControlChannel).2.Tied := by
  unfold EngineWorld.start
  split_ifs <;> first | exact h | exact h.setCurrentState nofun

theorem Tied.handleBuffer (h : w.Tied) (handled : Bool) : (w.handleBuffer handled).Tied := by
  unfold EngineWorld.handleBuffer
  split_ifs
  · exact h
  · exact h.setCurrentState nofun
  · exact h

theorem Tied.stop (h : w.Tied) (pipelineStop : Bool) : (w.stop pipelineStop).2.Tied := by
  unfold EngineWorld.stop
  split_ifs <;> first | exact h | exact h.setCurrentState nofun

theorem Tied.onChannelEvent (h : w.Tied) (type : ChannelEvent) : (w.onChannelEvent type).Tied := by
  unfold EngineWorld.onChannelEvent
  by_cases hcallback : w.engine.callback = true
  swap
  · rwa [if_pos hcallback]
  rw [if_neg (not_not.2 hcallback)]
  cases type with
  | EVENT_CHANNEL_OPENED =>
    dsimp only
    split_ifs
    · exact h
    · exact h.setCurrentState nofun
  | EVENT_CHANNEL_OPEN_FAIL => exact h.setCurrentState nofun
  | EVENT_CHANNEL_CLOSED =>
    dsimp only
    split_ifs
    · exact h.setCurrentState nofun
    · exact h

/-- The engine is made the listener of its device, if that has a name. -/
theorem registerSelf_cases (w : EngineWorld) :
    (w.engine.peerDevId_ = "" ∧ w.registerSelf.1 ≠ DH_AVT_SUCCESS ∧ w.registerSelf.2 = w) ∨
      (w.engine.peerDevId_ ≠ "" ∧ w.registerSelf.1 = DH_AVT_SUCCESS ∧
        w.registerSelf.2 = { w with adapter := { w.adapter with
          listenerMap_ := w.adapter.listenerMap_.set w.engine.key w.engine.self } }) := by
  unfold registerSelf SoftbusChannelAdapter.registerChannelListener
  rw [if_neg w.engine.sessionName_ne_empty]
  by_cases hpeer : w.engine.peerDevId_ = ""
  · left
    rw [if_pos hpeer]
    exact ⟨hpeer, by simp, rfl⟩
  · right
    rw [if_neg hpeer]
    exact ⟨hpeer, rfl, rfl⟩

/-- What `InitControlCenter` leaves : the id is overwritten, and one that is given is noted. -/
theorem initControlCenter_cases (w : EngineWorld) (center : CenterAnswer) (newCallback : Bool)
    (registerCtlCenterCallback : Int) :
    (w.initControlCenter center newCallback registerCtlCenterCallback).2.engine =
        { w.engine with
          dhFwkKit_ := true, engineId_ := center.written.getD w.engine.engineId_ } ∧
      (w.initControlCenter center newCallback registerCtlCenterCallback).2.adapter = w.adapter ∧
      (w.initControlCenter center newCallback registerCtlCenterCallback).2.opened = w.opened ∧
      ((center.isGiven = false ∧
          (w.initControlCenter center newCallback registerCtlCenterCallback).1 ≠ DH_AVT_SUCCESS ∧
          (w.initControlCenter center newCallback registerCtlCenterCallback).2.unreleased =
            w.unreleased) ∨
        (center.isGiven = true ∧
          ((w.initControlCenter center newCallback registerCtlCenterCallback).1 = DH_AVT_SUCCESS ↔
            newCallback = true ∧ registerCtlCenterCallback = DH_AVT_SUCCESS) ∧
          (w.initControlCenter center newCallback registerCtlCenterCallback).2.unreleased =
            center.written.getD w.engine.engineId_ :: w.unreleased)) := by
  cases center with
  | failed engineId => exact ⟨rfl, rfl, rfl, .inl ⟨rfl, by simp [initControlCenter], rfl⟩⟩
  | given engineId =>
    unfold initControlCenter
    dsimp only
    split_ifs with hnew hregister
    · exact ⟨rfl, rfl, rfl, .inr ⟨rfl, by simp [hnew, hregister], rfl⟩⟩
    · exact ⟨rfl, rfl, rfl, .inr ⟨rfl, by simp [hnew, not_not.1 hregister], rfl⟩⟩
    · exact ⟨rfl, rfl, rfl, .inr ⟨rfl, by simp [hnew], rfl⟩⟩

/-- An engine that knows the ids it was given still does, where no other overwrites them. -/
theorem unreleased_initControlCenter (w : EngineWorld) {center : CenterAnswer}
    (newCallback : Bool) (registerCtlCenterCallback : Int)
    (hknown : ∀ id ∈ w.unreleased, id = w.engine.engineId_)
    (hwritten : ∀ engineId ∈ center.written, ∀ id ∈ w.unreleased, id = engineId) :
    let w' := (w.initControlCenter center newCallback registerCtlCenterCallback).2
    ∀ id ∈ w'.unreleased, id = w'.engine.engineId_ ∧ w'.engine.dhFwkKit_ = true := by
  intro w' id hmem
  have hkept : ∀ id ∈ w.unreleased, id = center.written.getD w.engine.engineId_ := by
    intro id hid
    cases hcenter : center.written with
    | none => exact hknown id hid
    | some engineId => exact hwritten engineId hcenter id hid
  obtain ⟨hengine, -, -, hcases⟩ :=
    initControlCenter_cases w center newCallback registerCtlCenterCallback
  rw [hengine]
  refine ⟨?_, rfl⟩
  obtain ⟨-, -, hun⟩ | ⟨-, -, hun⟩ := hcases
  · exact hkept id (hun ▸ hmem)
  · rw [hun] at hmem
    exact (List.mem_cons.1 hmem).elim (fun heq => heq) (hkept _)

/-- Listeners and sessions under the key of the device stay in reach, those that were there and
those that come. -/
theorem Tied.reach (h : w.Tied) {w' : EngineWorld} (hself : w'.engine.self = w.engine.self)
    (hkey : w'.engine.key = w.engine.key) (hpeer : w'.engine.peerDevId_ = w.engine.peerDevId_)
    (hlistener : ∀ key, w'.adapter.listenerMap_.lookup key = some w.engine.self →
      w.adapter.listenerMap_.lookup key = some w.engine.self ∨
        key = w.engine.key ∧ w.engine.peerDevId_ ≠ "")
    (hopened : ∀ e ∈ w'.opened, e ∈ w.opened ∨ e.1 = w.engine.key ∧ w.engine.peerDevId_ ≠ "")
    (hid : ∀ id ∈ w'.unreleased, id = w'.engine.engineId_ ∧ w'.engine.dhFwkKit_ = true)
    (hidle : w'.engine.kind.skipsIdle = true → w'.engine.currentState_ = .IDLE → w'.Clean) :
    w'.Tied := by
  refine ⟨fun key hk => ?_, fun e he => ?_, hid, hidle⟩
  · rw [hself] at hk
    rw [hkey, hpeer]
    exact (hlistener key hk).elim (h.listener key) id
  · rw [hkey, hpeer]
    exact (hopened e he).elim (h.session e) id

theorem Tied.initializeEngine (h : w.Tied) {pipeline : PipelineInit} {center : CenterAnswer}
    {newCallback : Bool} {registerCtlCenterCallback : Int}
    (htidy : w.Tidy (.initializeEngine pipeline center newCallback registerCtlCenterCallback)) :
    (w.initializeEngine pipeline center newCallback registerCtlCenterCallback).2.Tied := by
  unfold EngineWorld.initializeEngine
  by_cases hinit : w.engine.isInitialized_ = true
  · rwa [if_pos hinit]
  rw [if_neg hinit]
  dsimp only
  by_cases hlinked : pipeline = .linked
  swap
  · rw [if_pos hlinked]
    exact ⟨h.listener, h.session, h.engineId, fun hskips hidle =>
      ⟨(h.idle hskips hidle).listener, (h.idle hskips hidle).session,
        (h.idle hskips hidle).engineId⟩⟩
  rw [if_neg (not_not.2 hlinked)]
  obtain ⟨hwritten, hgiven⟩ := htidy (by simpa using hinit) hlinked
  obtain ⟨w1, hw1⟩ : ∃ w1 : EngineWorld,
      w1 = { w with engine := { w.engine with
        pipeline_ := w.engine.pipeline_ || pipeline ≠ .noFilter } } := ⟨_, rfl⟩
  rw [← hw1]
  have hid := w1.unreleased_initControlCenter newCallback
    registerCtlCenterCallback (by rw [hw1]; exact fun id hmem => (h.engineId id hmem).1)
    (by rw [hw1]; exact hwritten)
  obtain ⟨hengine, hadapter, hopened, hcases⟩ :=
    initControlCenter_cases w1 center newCallback registerCtlCenterCallback
  obtain ⟨⟨ret, w2⟩, hw2⟩ : ∃ r, w1.initControlCenter center newCallback
      registerCtlCenterCallback = r := ⟨_, rfl⟩
  rw [hw2] at hid hengine hadapter hopened hcases ⊢
  dsimp only at hid hengine hadapter hopened hcases ⊢
  rw [hw1] at hengine hadapter hopened hcases
  dsimp only at hengine hadapter hopened hcases
  by_cases hret : ret = DH_AVT_SUCCESS
  · rw [if_neg (not_not.2 hret)]
    obtain ⟨hpeer, hfailed, hw3⟩ | ⟨hpeer, hdone, hw3⟩ := registerSelf_cases w2
    · rw [if_pos hfailed, hw3]
      refine h.reach (by rw [hengine]) (by rw [hengine]; rfl) (by rw [hengine])
        (fun key hk => .inl (hadapter ▸ hk)) (fun e he => .inl (hopened ▸ he)) hid fun hskips hidle => ?_
      rw [hengine] at hskips hidle hpeer
      obtain ⟨-, hne, -⟩ | ⟨hcenter, -, -⟩ := hcases
      · exact absurd hret hne
      · exact absurd hpeer (hgiven hskips hidle hcenter).2.2
    · rw [if_neg (not_not.2 hdone), hw3]
      have hkey : w2.engine.key = w.engine.key := by rw [hengine]; rfl
      have hself : w2.engine.self = w.engine.self := by rw [hengine]
      have hdev : w2.engine.peerDevId_ = w.engine.peerDevId_ := by rw [hengine]
      refine h.reach hself hkey hdev (fun key hk => ?_) (fun e he => .inl (hopened ▸ he)) hid
        fun _ hidle => nomatch hidle
      dsimp only at hk
      rw [Table.lookup_set, hadapter, hkey] at hk
      split_ifs at hk with heq
      · exact .inr ⟨heq, hdev ▸ hpeer⟩
      · exact .inl hk
  · rw [if_pos hret]
    refine h.reach (by rw [hengine]) (by rw [hengine]; rfl) (by rw [hengine])
      (fun key hk => .inl (hadapter ▸ hk)) (fun e he => .inl (hopened ▸ he)) hid fun hskips hidle => ?_
    rw [hengine] at hskips hidle
    obtain ⟨-, -, hun⟩ | ⟨hcenter, hsuccess, -⟩ := hcases
    · have hclean := h.idle hskips hidle
      refine ⟨fun key hk => hclean.listener key ?_, ?_, hun.trans hclean.engineId⟩
      · rw [hengine, hadapter] at hk
        exact hk
      · rw [hopened]
        exact hclean.session
    · have hall := hgiven hskips hidle hcenter
      exact absurd (hsuccess.2 ⟨hall.1, hall.2.1⟩) hret

/-- The device may be overwritten when nothing hangs on it. -/
theorem Tied.setPeer (h : w.Tied) {dstDevId : String}
    (hfree : dstDevId ≠ w.engine.peerDevId_ → w.opened = [] ∧
      w.adapter.listenerMap_.lookup w.engine.key ≠ some w.engine.self) :
    EngineWorld.Tied { w with engine := { w.engine with peerDevId_ := dstDevId } } := by
  by_cases hsame : dstDevId = w.engine.peerDevId_
  · subst hsame
    exact h
  obtain ⟨hopened, hlistener⟩ := hfree hsame
  have hnone : ∀ key, w.adapter.listenerMap_.lookup key ≠ some w.engine.self := by
    intro key hkey
    rw [(h.listener key hkey).1] at hkey
    exact hlistener hkey
  refine ⟨fun key hkey => absurd hkey (hnone key), fun e he => ?_, h.engineId, fun hskips hidle => ?_⟩
  · rw [show w.opened = [] from hopened] at he
    cases he
  · exact ⟨hnone, hopened, (h.idle hskips hidle).engineId⟩

theorem Tied.createControlChannel (h : w.Tied) {dstDevIds : List String} {socketId ret : Int}
    (htidy : w.Tidy (.createControlChannel dstDevIds socketId ret)) :
    (w.createControlChannel dstDevIds socketId ret).2.Tied := by
  cases dstDevIds with
  | nil => exact h
  | cons dstDevId rest =>
    obtain ⟨hfree, hactive⟩ := htidy dstDevId rfl
    have h1 := h.setPeer hfree
    unfold EngineWorld.createControlChannel
    dsimp only
    obtain ⟨w1, hw1⟩ : ∃ w1 : EngineWorld,
        w1 = { w with engine := { w.engine with peerDevId_ := dstDevId } } := ⟨_, rfl⟩
    rw [← hw1] at h1 ⊢
    obtain ⟨-, hfailed, hw2⟩ | ⟨hpeer, hdone, hw2⟩ := registerSelf_cases w1
    · rw [if_pos hfailed, hw2]
      exact h1
    rw [if_neg (not_not.2 hdone), hw2]
    dsimp only
    generalize hopen : SoftbusChannelAdapter.openSoftbusChannel _ _ _ _ _ _ = r
    have hlisteners : r.2.listenerMap_ = w1.adapter.listenerMap_.set w1.engine.key w1.engine.self := by
      rw [← hopen]
      simp
    have htied : (settle { w1 with
        adapter := r.2
        opened := if r.1 = DH_AVT_SUCCESS then (w1.engine.key, socketId) :: w1.opened
          else w1.opened }).Tied := by
      refine h1.reach rfl rfl rfl (fun key hkey => ?_) (fun e he => ?_) h1.engineId
        fun hskips hidle => ?_
      · have hkey' : r.2.listenerMap_.lookup key = some w1.engine.self := hkey
        rw [hlisteners, Table.lookup_set] at hkey'
        split_ifs at hkey' with heq
        · exact .inr ⟨heq, hpeer⟩
        · exact .inl hkey'
      · have he' := mem_settle he
        dsimp only at he'
        split_ifs at he' with hsuccess
        · obtain rfl | hmem := List.mem_cons.1 he'
          · exact .inr ⟨rfl, hpeer⟩
          · exact .inl hmem
        · exact .inl he'
      · rw [hw1] at hpeer
        subst hw1
        exact absurd (hactive hskips hidle) hpeer
    generalize settle _ = w3 at htied ⊢
    split_ifs <;> exact htied

theorem Clean.tied (h : w.Clean) : w.Tied where
  listener key hkey := absurd hkey (h.listener key)
  session e he := by
    rw [h.session] at he
    cases he
  engineId id hid := by
    rw [h.engineId] at hid
    cases hid
  idle _ _ := h

/-- Dropping the pipeline and the kit of an engine that holds nothing. -/
theorem Tied.destroy (h : w.Tied) : w.destroy.Clean :=
  ⟨h.release.listener, h.release.session, h.release.engineId⟩

/-- What others do to the adapter takes nothing from an engine's reach. -/
theorem Tied.others (h : w.Tied) {l : ChannelStep} (hl : ¬l.Registers w.engine.self) :
    (settle { w with adapter := w.adapter.step l }).Tied := by
  have hlistener : ∀ key, (w.adapter.step l).listenerMap_.lookup key = some w.engine.self →
      w.adapter.listenerMap_.lookup key = some w.engine.self :=
    fun _ => SoftbusChannelAdapter.lookup_step hl
  refine h.reach rfl rfl rfl (fun key hkey => .inl (hlistener key hkey))
    (fun e he => ?_) h.engineId fun hskips hidle => ?_
  · have hmem := mem_settle he
    exact .inl hmem
  have hclean := h.idle hskips hidle
  refine ⟨fun key hkey => hclean.listener key (hlistener key hkey), ?_, hclean.engineId⟩
  refine List.eq_nil_iff_forall_not_mem.2 fun e he => ?_
  have hmem := mem_settle he
  rw [hclean.session] at hmem
  cases hmem

theorem Tied.step {l : EngineCall} (h : w.Tied) (htidy : w.Tidy l) : (w.step l).Tied := by
  cases l with
  | initializeEngine pipeline center newCallback registerCtlCenterCallback =>
    exact h.initializeEngine htidy
  | registerCallback =>
    exact ⟨h.listener, h.session, h.engineId, fun hskips hidle =>
      ⟨(h.idle hskips hidle).listener, (h.idle hskips hidle).session,
        (h.idle hskips hidle).engineId⟩⟩
  | createControlChannel dstDevIds socketId ret => exact h.createControlChannel htidy
  | setEngineReady preparePipeline => exact h.setEngineReady preparePipeline
  | start pipelineStart createControlChannel => exact h.start pipelineStart createControlChannel
  | handleBuffer handled => exact h.handleBuffer handled
  | stop pipelineStop => exact h.stop pipelineStop
  | onChannelEvent type => exact h.onChannelEvent type
  | release => exact h.release.tied
  | destroy => exact h.destroy.tied
  | others l =>
    change (if l.Registers w.engine.self then w
      else settle { w with adapter := w.adapter.step l }).Tied
    split_ifs with hl
    · exact h
    · exact h.others hl

/-! ## Runs -/

variable {kind : EngineKind} {self : ℕ} {ownerName peerDevId : String}
  {adapter : SoftbusChannelAdapter}

theorem tied_made (hnew : ∀ key, adapter.listenerMap_.lookup key ≠ some self) :
    (made kind self ownerName peerDevId adapter).Tied :=
  Clean.tied ⟨hnew, rfl, rfl⟩

/-- In a run that keeps all in reach, an engine that is released, or destroyed, leaves nothing
behind. -/
theorem release_clean (hnew : ∀ key, adapter.listenerMap_.lookup key ≠ some self)
    {ls : List EngineCall}
    (hrun : Along EngineWorld.step EngineWorld.Tidy
      (made kind self ownerName peerDevId adapter) ls)
    {before after : List EngineCall} {l : EngineCall} (hls : ls = before ++ l :: after)
    (hl : l = .release ∨ l = .destroy) :
    ((before ++ [l]).foldl EngineWorld.step
      (made kind self ownerName peerDevId adapter)).Clean := by
  subst hls
  have hstep : ∀ (w : EngineWorld) (l : EngineCall), w.Tied → w.Tidy l → (w.step l).Tied :=
    fun _ _ h htidy => h.step htidy
  have htied := Along.invariant hstep (tied_made hnew) hrun.of_append.1
  rw [List.foldl_append]
  obtain rfl | rfl := hl
  · exact htied.release
  · exact htied.destroy

/-- A receiver that streams, and is released. -/
def streamed : List EngineCall :=
  [.initializeEngine .linked (.given 7) true DH_AVT_SUCCESS, .registerCallback,
    .createControlChannel ["dev"] 3 0, .onChannelEvent .EVENT_CHANNEL_OPENED, .start true 0,
    .handleBuffer true, .stop true]

theorem release_clean_streamed :
    (streamed.foldl EngineWorld.step (made .AVReceiverEngine 1 "camera" "dev" {})).unreleased = [7] ∧
      ((streamed ++ [EngineCall.release]).foldl EngineWorld.step
        (made .AVReceiverEngine 1 "camera" "dev" {})).Clean := by
  have hrun : Along EngineWorld.step EngineWorld.Tidy
      (made .AVReceiverEngine 1 "camera" "dev" {}) (streamed ++ EngineCall.release :: []) := by decide
  exact ⟨by decide, release_clean (fun _ => Table.lookup_empty_ne_some _ _) hrun rfl (.inl rfl)⟩

/-- The callback of the control center is not accepted : the receiver stays idle, and its release
does not release the id. -/
theorem release_keeps_id :
    let calls : List EngineCall :=
      [.initializeEngine .linked (.given 7) true ERR_DH_AVT_REGISTER_CALLBACK_FAIL, .release]
    ¬(calls.foldl EngineWorld.step (made .AVReceiverEngine 1 "camera" "dev" {})).Clean :=
  fun h => absurd h.engineId (by decide)

end EngineWorld

end DHFwk
