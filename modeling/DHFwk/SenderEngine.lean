import DHFwk.SyncManager
import DHFwk.AVTypes
import Mathlib.Data.List.Count

/-!
# A sender engine, its pipeline and its stream

An `AVSenderEngine` starts and stops its pipeline, and tells the sync manager of its stream : it
adds it with the first data that is pushed, and removes it when it stops. Its state tells which
of this has been done.

`Agrees` is that the pipeline runs and the stream is in the list exactly as the state has it. A
start whose control channel fails leaves the pipeline running; a push that fails leaves the
stream in the list, and the next one adds it again; a release leaves it there too; and a channel
event sets the state of an engine that is at work, and nothing else. Every other step keeps the
three in agreement (`engine_agrees_iff`). The number of entries that is kept beside the list is
that of the entries in it (`entries_eq_count`).
-/

set_option linter.unusedSectionVars false

namespace DHFwk

open Runs

abbrev VIDEO_FORMAT_JEPG : String := "jpeg"

/-- A pipeline is running from a start to a stop. -/
structure PipelineCore where
  isRunning : Bool := false
  deriving DecidableEq, Repr

structure AVInputFilter where
  videoPixelFormat : String := ""
  deriving DecidableEq, Repr

/-- What the engines of both kinds start with. A pointer that is only compared with null is a
truth value. -/
structure SenderBase where
  engineId_ : Int
  peerDevId_ : String
  currentState_ : StateId := .INITIALIZED
  pipeline_ : Option PipelineCore := some {}
  dhFwkKit_ : Bool := true
  deriving DecidableEq, Repr

/-- `AVSenderEngine`, by default as `Initialize` leaves it. -/
structure AVSenderEngine extends SenderBase where
  ownerName_ : String
  avInput_ : Option AVInputFilter := some {}
  avOutput_ : Bool := true
  senderCallback_ : Bool := true
  deriving DecidableEq, Repr

/-! ## The calls -/

/-- `Start` of both kinds of engines. `createControlChannel` is the call of the kit, which may
change the state `center` of what it calls. -/
def SenderBase.start {C : Type} (pipelineStart : Bool) (createControlChannel : C → Int × C)
    (center : C) (s : SenderBase) : Int × C × SenderBase :=
  if s.currentState_ ≠ .CH_CREATED then (ERR_DH_AVT_START_FAILED, center, s)
  else
    match s.pipeline_ with
    | none => (ERR_DH_AVT_START_FAILED, center, s)
    | some _ =>
      if ¬pipelineStart then (ERR_DH_AVT_START_FAILED, center, s)
      else
        let s := { s with pipeline_ := some { isRunning := true } }
        if ¬s.dhFwkKit_ then (ERR_DH_AVT_START_FAILED, center, s)
        else
          let (ret, center) := createControlChannel center
          if ret ≠ DH_AVT_SUCCESS then (ERR_DH_AVT_CREATE_CHANNEL_FAILED, center, s)
          else (DH_AVT_SUCCESS, center, { s with currentState_ := .STARTED })

/-- A start ends before the pipeline is started, or with a pipeline that is running : without the
kit, or with what the control channel gives. -/
theorem SenderBase.start_cases {C : Type} (pipelineStart : Bool)
    (createControlChannel : C → Int × C) (center : C) (s : SenderBase) :
    (¬(s.currentState_ = .CH_CREATED ∧ s.pipeline_ ≠ none ∧ pipelineStart = true) ∧
        s.start pipelineStart createControlChannel center =
          (ERR_DH_AVT_START_FAILED, center, s)) ∨
      ((s.currentState_ = .CH_CREATED ∧ s.pipeline_ ≠ none ∧ pipelineStart = true) ∧
        ((s.dhFwkKit_ = false ∧ s.start pipelineStart createControlChannel center =
            (ERR_DH_AVT_START_FAILED, center, { s with pipeline_ := some ⟨true⟩ })) ∨
          (s.dhFwkKit_ = true ∧ (createControlChannel center).1 ≠ DH_AVT_SUCCESS ∧
            s.start pipelineStart createControlChannel center =
              (ERR_DH_AVT_CREATE_CHANNEL_FAILED, (createControlChannel center).2,
                { s with pipeline_ := some ⟨true⟩ })) ∨
          (s.dhFwkKit_ = true ∧ (createControlChannel center).1 = DH_AVT_SUCCESS ∧
            s.start pipelineStart createControlChannel center =
              (DH_AVT_SUCCESS, (createControlChannel center).2,
                { s with pipeline_ := some ⟨true⟩, currentState_ := .STARTED })))) := by
  unfold SenderBase.start
  by_cases hstate : s.currentState_ = .CH_CREATED
  · rw [if_neg (not_not.2 hstate)]
    cases hpipeline : s.pipeline_ with
    | none => exact .inl ⟨fun h => h.2.1 rfl, rfl⟩
    | some pipeline =>
      cases pipelineStart with
      | false => exact .inl ⟨fun h => Bool.false_ne_true h.2.2, rfl⟩
      | true =>
        refine .inr ⟨⟨hstate, nofun, rfl⟩, ?_⟩
        cases hkit : s.dhFwkKit_ with
        | false => exact .inl ⟨rfl, by simp⟩
        | true =>
          by_cases hret : (createControlChannel center).1 = DH_AVT_SUCCESS
          · exact .inr (.inr ⟨rfl, hret, by simp [hret]⟩)
          · exact .inr (.inl ⟨rfl, hret, by simp [hret]⟩)
  · exact .inl ⟨fun h => hstate h.1, if_pos hstate⟩

namespace AVSenderEngine

/-- `setParameters` tells whether the parameters of the filters are set, `prepare` whether the
pipeline is prepared. -/
def preparePipeline (setParameters prepare : Bool) (s : AVSenderEngine) : Int × AVSenderEngine :=
  if s.currentState_ ≠ .INITIALIZED ∧ s.currentState_ ≠ .CH_CREATED then
    (ERR_DH_AVT_PREPARE_FAILED, s)
  else if s.avInput_ = none ∨ ¬s.avOutput_ then (ERR_DH_AVT_PREPARE_FAILED, s)
  else if ¬setParameters then (ERR_DH_AVT_SET_PARAM_FAILED, s)
  else if ¬prepare then (ERR_DH_AVT_PREPARE_FAILED, s)
  else (DH_AVT_SUCCESS, { s with currentState_ := .CH_CREATED })

/-- `SetParameter(ENGINE_READY)`. -/
def setEngineReady (setParameters prepare : Bool) (s : AVSenderEngine) : Int × AVSenderEngine :=
  if s.avInput_ = none ∨ ¬s.avOutput_ ∨ s.pipeline_ = none then (ERR_DH_AVT_SETUP_FAILED, s)
  else (DH_AVT_SUCCESS, (s.preparePipeline setParameters prepare).2)

def start {C : Type} (pipelineStart : Bool) (createControlChannel : C → Int × C) (center : C)
    (s : AVSenderEngine) : Int × C × AVSenderEngine :=
  let (ret, center, base) := s.toSenderBase.start pipelineStart createControlChannel center
  (ret, center, { s with toSenderBase := base })

/-- The scene type of the stream; `none` where the owner is not known, or the filter of a camera
is gone. -/
def sceneType (s : AVSenderEngine) : Option String :=
  if s.ownerName_ = OWNER_NAME_D_MIC then some SCENE_TYPE_D_MIC
  else if s.ownerName_ = OWNER_NAME_D_SPEAKER then some SCENE_TYPE_D_SPEAKER
  else if s.ownerName_ = OWNER_NAME_D_SCREEN then some SCENE_TYPE_D_SCREEN
  else if s.ownerName_ = OWNER_NAME_D_CAMERA then
    s.avInput_.map fun avInput =>
      if avInput.videoPixelFormat = VIDEO_FORMAT_JEPG then SCENE_TYPE_D_CAMERA_PIC
      else SCENE_TYPE_D_CAMERA_STR
  else none

/-- The stream that `NotifyStreamChange` tells of. -/
def stream (s : AVSenderEngine) : Option AVStreamInfo :=
  if s.dhFwkKit_ then s.sceneType.map fun sceneType => ⟨sceneType, s.peerDevId_⟩ else none

def release (s : AVSenderEngine) : AVSenderEngine :=
  { s with
    pipeline_ := none
    dhFwkKit_ := false
    avInput_ := none
    avOutput_ := false
    senderCallback_ := false
    currentState_ := .IDLE }

def onChannelEvent (type : ChannelEvent) (s : AVSenderEngine) : AVSenderEngine :=
  if ¬s.senderCallback_ then s
  else
    match type with
    | .EVENT_CHANNEL_OPENED => { s with currentState_ := .CH_CREATED }
    | .EVENT_CHANNEL_OPEN_FAIL => { s with currentState_ := .INITIALIZED }
    | .EVENT_CHANNEL_CLOSED =>
      if s.currentState_ ≠ .IDLE ∧ s.currentState_ ≠ .INITIALIZED then
        { s with currentState_ := .INITIALIZED }
      else s

/-- The pipeline was started and not stopped. -/
def isRunning (s : AVSenderEngine) : Bool :=
  s.pipeline_.any PipelineCore.isRunning

/-- The engine is `STARTED` or `PLAYING`. -/
def isActive (s : AVSenderEngine) : Bool :=
  s.currentState_ = .STARTED || s.currentState_ = .PLAYING

end AVSenderEngine

/-- An engine, the sync manager, and the number of entries for its stream that the engine has put
into the list and that were not removed since. -/
structure StreamingEngine where
  engine : AVSenderEngine
  manager : AVSyncManager := {}
  entries : ℕ := 0
  deriving DecidableEq, Repr

/-- One call of an engine, and what others answer to it. -/
inductive EngineStep
  | setEngineReady (setParameters prepare : Bool)
  | start (pipelineStart : Bool) (createControlChannel : Int)
  | pushData (hisBuffer pushData : Bool)
  | stop (pipelineStop : Bool)
  | release
  | onChannelEvent (type : ChannelEvent)
  deriving DecidableEq, Repr

namespace StreamingEngine

/-- `NotifyStreamChange(EVENT_ADD_STREAM)`. -/
def addStream (s : StreamingEngine) : StreamingEngine :=
  match s.engine.stream with
  | none => s
  | some stream =>
    { s with manager := s.manager.addStreamInfo stream, entries := s.entries + 1 }

/-- `NotifyStreamChange(EVENT_REMOVE_STREAM)` : all entries for the stream are removed. -/
def removeStream (s : StreamingEngine) : StreamingEngine :=
  match s.engine.stream with
  | none => s
  | some stream => { s with manager := s.manager.removeStreamInfo stream, entries := 0 }

/-- `hisBuffer` tells whether the buffer is converted, `pushData` whether the input filter takes
it. -/
def pushData (hisBuffer pushData : Bool) (s : StreamingEngine) : Int × StreamingEngine :=
  let currentState := s.engine.currentState_
  if currentState ≠ .STARTED ∧ currentState ≠ .PLAYING then (ERR_DH_AVT_PUSH_DATA_FAILED, s)
  else
    let s := if currentState = .STARTED then s.addStream else s
    if s.engine.avInput_ = none then (ERR_DH_AVT_PUSH_DATA_FAILED, s)
    else if ¬hisBuffer then (ERR_DH_AVT_PUSH_DATA_FAILED, s)
    else if ¬pushData then (ERR_DH_AVT_PUSH_DATA_FAILED, s)
    else (DH_AVT_SUCCESS, { s with engine.currentState_ := .PLAYING })

def stop (pipelineStop : Bool) (s : StreamingEngine) : Int × StreamingEngine :=
  match s.engine.pipeline_ with
  | none => (ERR_DH_AVT_STOP_FAILED, s)
  | some _ =>
    if ¬pipelineStop then (ERR_DH_AVT_STOP_FAILED, s)
    else
      let s := { s with engine.pipeline_ := some { isRunning := false } }
      (DH_AVT_SUCCESS, { s with engine.currentState_ := .STOPPED }.removeStream)

def step (s : StreamingEngine) : EngineStep → StreamingEngine
  | .setEngineReady setParameters prepare =>
    { s with engine := (s.engine.setEngineReady setParameters prepare).2 }
  | .start pipelineStart createControlChannel =>
    { s with
      engine := (s.engine.start pipelineStart (fun _ => (createControlChannel, ())) ()).2.2 }
  | .pushData hisBuffer pushData => (s.pushData hisBuffer pushData).2
  | .stop pipelineStop => (s.stop pipelineStop).2
  | .release => { s with engine := s.engine.release }
  | .onChannelEvent type => { s with engine := s.engine.onChannelEvent type }

/-- State, pipeline and stream list agree. -/
structure Agrees (s : StreamingEngine) : Prop where
  stream : s.entries = if s.engine.currentState_ = .PLAYING then 1 else 0
  pipeline : s.engine.isRunning = s.engine.isActive

/-- The control channel of a pipeline that starts is created, the first data is pushed, a
playing engine is not released, and channel events find an engine that is not at work. -/
def Follows (s : StreamingEngine) : EngineStep → Prop
  | .setEngineReady .. => True
  | .start pipelineStart createControlChannel =>
    s.engine.currentState_ = .CH_CREATED → s.engine.pipeline_ ≠ none → pipelineStart = true →
      createControlChannel = DH_AVT_SUCCESS
  | .pushData hisBuffer pushData =>
    s.engine.currentState_ = .STARTED → hisBuffer = true ∧ pushData = true
  | .stop _ => True
  | .release => s.engine.currentState_ ≠ .PLAYING
  | .onChannelEvent _ => s.engine.senderCallback_ = true → s.engine.isActive = false

instance Follows.decidable (s : StreamingEngine) : ∀ l, Decidable (s.Follows l)
  | .setEngineReady .. => isTrue trivial
  | .start pipelineStart createControlChannel => inferInstanceAs (Decidable
      (s.engine.currentState_ = .CH_CREATED → s.engine.pipeline_ ≠ none → pipelineStart = true →
        createControlChannel = DH_AVT_SUCCESS))
  | .pushData hisBuffer pushData => inferInstanceAs (Decidable
      (s.engine.currentState_ = .STARTED → hisBuffer = true ∧ pushData = true))
  | .stop _ => isTrue trivial
  | .release => inferInstanceAs (Decidable (s.engine.currentState_ ≠ .PLAYING))
  | .onChannelEvent _ => inferInstanceAs (Decidable
      (s.engine.senderCallback_ = true → s.engine.isActive = false))

/-- While it has a pipeline, an engine has its filters and the kit, and its stream is known. -/
def Whole (stream : AVStreamInfo) (s : StreamingEngine) : Prop :=
  s.engine.pipeline_ ≠ none → s.engine.avInput_ ≠ none ∧ s.engine.avOutput_ = true ∧
    s.engine.dhFwkKit_ = true ∧ s.engine.stream = some stream

variable {s : StreamingEngine} {stream : AVStreamInfo}

/-! ## What the calls change -/

/-- Only a state is set. -/
theorem setEngineReady_cases (setParameters prepare : Bool) (engine : AVSenderEngine) :
    (engine.setEngineReady setParameters prepare).2 = engine ∨
      (engine.currentState_ = .INITIALIZED ∨ engine.currentState_ = .CH_CREATED) ∧
        (engine.setEngineReady setParameters prepare).2 =
          { engine with currentState_ := .CH_CREATED } := by
  unfold AVSenderEngine.setEngineReady AVSenderEngine.preparePipeline
  by_cases hstate : engine.currentState_ ≠ .INITIALIZED ∧ engine.currentState_ ≠ .CH_CREATED
  · rw [if_pos hstate]
    split_ifs <;> exact .inl rfl
  · rw [if_neg hstate]
    rw [not_and_or, not_not, not_not] at hstate
    split_ifs
    all_goals first | exact .inl rfl | exact .inr ⟨hstate, rfl⟩

theorem start_cases (s : StreamingEngine) (pipelineStart : Bool) (createControlChannel : Int) :
    s.step (.start pipelineStart createControlChannel) = s ∨
      s.engine.pipeline_ ≠ none ∧
        (s.step (.start pipelineStart createControlChannel) =
            { s with engine.pipeline_ := some ⟨true⟩ } ∨
          s.step (.start pipelineStart createControlChannel) =
            { s with engine.pipeline_ := some ⟨true⟩, engine.currentState_ := .STARTED }) := by
  simp only [step, AVSenderEngine.start]
  rcases s.engine.toSenderBase.start_cases pipelineStart
    (fun _ => (createControlChannel, ())) () with ⟨-, h⟩ | ⟨⟨-, hpipeline, -⟩, h⟩
  · exact .inl (by rw [h])
  · rcases h with ⟨-, h⟩ | ⟨-, -, h⟩ | ⟨-, -, h⟩
    · exact .inr ⟨hpipeline, .inl (by rw [h])⟩
    · exact .inr ⟨hpipeline, .inl (by rw [h])⟩
    · exact .inr ⟨hpipeline, .inr (by rw [h])⟩

theorem addStream_engine (s : StreamingEngine) : s.addStream.engine = s.engine := by
  unfold addStream
  split <;> rfl

theorem removeStream_engine (s : StreamingEngine) : s.removeStream.engine = s.engine := by
  unfold removeStream
  split <;> rfl

theorem addStream_entries (h : s.engine.stream = some stream) :
    s.addStream.entries = s.entries + 1 := by
  rw [addStream, h]

theorem removeStream_entries (h : s.engine.stream = some stream) :
    s.removeStream.entries = 0 := by
  rw [removeStream, h]

theorem pushData_of_not_active (h : s.engine.isActive = false) (hisBuffer pushData : Bool) :
    s.step (.pushData hisBuffer pushData) = s := by
  rw [AVSenderEngine.isActive, Bool.or_eq_false_iff, decide_eq_false_iff_not,
    decide_eq_false_iff_not] at h
  simp only [step, StreamingEngine.pushData, if_pos (show _ ∧ _ from h)]

/-- The first data adds the stream, whatever becomes of the push. -/
theorem pushData_of_active (h : s.engine.isActive = true) (havInput : s.engine.avInput_ ≠ none)
    (hisBuffer pushData : Bool) :
    s.step (.pushData hisBuffer pushData) =
      let s' := if s.engine.currentState_ = .STARTED then s.addStream else s
      if hisBuffer = true ∧ pushData = true then { s' with engine.currentState_ := .PLAYING }
      else s' := by
  have hstate : ¬(s.engine.currentState_ ≠ .STARTED ∧ s.engine.currentState_ ≠ .PLAYING) := by
    rw [AVSenderEngine.isActive, Bool.or_eq_true, decide_eq_true_eq, decide_eq_true_eq] at h
    rwa [not_and_or, not_not, not_not]
  have hfilter : (if s.engine.currentState_ = .STARTED then s.addStream else s).engine.avInput_ ≠
      none := by
    split_ifs
    · rwa [addStream_engine]
    · exact havInput
  simp only [step, StreamingEngine.pushData, if_neg hstate, if_neg hfilter]
  cases hisBuffer <;> cases pushData <;> rfl

theorem pushData_engine (s : StreamingEngine) (hisBuffer pushData : Bool) :
    (s.step (.pushData hisBuffer pushData)).engine = s.engine ∨
      (s.step (.pushData hisBuffer pushData)).engine =
        { s.engine with currentState_ := .PLAYING } := by
  have hadd : (if s.engine.currentState_ = .STARTED then s.addStream else s).engine = s.engine := by
    split_ifs
    · exact s.addStream_engine
    · rfl
  simp only [step, StreamingEngine.pushData]
  generalize (if s.engine.currentState_ = .STARTED then s.addStream else s) = s' at hadd ⊢
  rw [← hadd]
  split_ifs
  · exact .inl hadd.symm
  all_goals first | exact .inl rfl | exact .inr rfl

theorem stop_cases (s : StreamingEngine) (pipelineStop : Bool) :
    s.step (.stop pipelineStop) = s ∨ s.engine.pipeline_ ≠ none ∧
      s.step (.stop pipelineStop) =
        { s with
          engine.pipeline_ := some ⟨false⟩
          engine.currentState_ := .STOPPED : StreamingEngine }.removeStream := by
  simp only [step, stop]
  cases s.engine.pipeline_ with
  | none => exact .inl rfl
  | some pipeline =>
    cases pipelineStop with
    | false => exact .inl rfl
    | true => exact .inr ⟨nofun, rfl⟩

theorem onChannelEvent_cases (s : StreamingEngine) (type : ChannelEvent) :
    s.step (.onChannelEvent type) = s ∧
        (s.engine.isActive = true → s.engine.senderCallback_ = false) ∨
      s.engine.senderCallback_ = true ∧
        (s.step (.onChannelEvent type) = { s with engine.currentState_ := .CH_CREATED } ∨
          s.step (.onChannelEvent type) = { s with engine.currentState_ := .INITIALIZED }) := by
  simp only [step, AVSenderEngine.onChannelEvent]
  cases hcallback : s.engine.senderCallback_ with
  | false => exact .inl ⟨rfl, fun _ => rfl⟩
  | true =>
    rw [if_neg (not_not.2 rfl)]
    cases type with
    | EVENT_CHANNEL_OPENED => exact .inr ⟨rfl, .inl rfl⟩
    | EVENT_CHANNEL_OPEN_FAIL => exact .inr ⟨rfl, .inr rfl⟩
    | EVENT_CHANNEL_CLOSED =>
      dsimp only
      split_ifs with hstate
      · exact .inr ⟨rfl, .inr rfl⟩
      · refine .inl ⟨rfl, fun hactive => ?_⟩
        rw [not_and_or, not_not, not_not] at hstate
        rcases hstate with hstate | hstate <;> simp [AVSenderEngine.isActive, hstate] at hactive

/-- A step leaves an engine that has a pipeline its filters and the kit. -/
theorem Whole.step (h : s.Whole stream) (l : EngineStep) : (s.step l).Whole stream := by
  cases l with
  | setEngineReady setParameters prepare =>
    simp only [StreamingEngine.step]
    rcases setEngineReady_cases setParameters prepare s.engine with heq | ⟨-, heq⟩
    · rw [heq]
      exact h
    · rw [heq]
      exact h
  | start pipelineStart createControlChannel =>
    rcases s.start_cases pipelineStart createControlChannel with heq | ⟨hpipeline, heq | heq⟩
    · rw [heq]
      exact h
    · rw [heq]
      exact fun _ => h hpipeline
    · rw [heq]
      exact fun _ => h hpipeline
  | pushData hisBuffer pushData =>
    unfold Whole
    rcases s.pushData_engine hisBuffer pushData with heq | heq
    · rw [heq]
      exact h
    · rw [heq]
      exact h
  | stop pipelineStop =>
    rcases s.stop_cases pipelineStop with heq | ⟨hpipeline, heq⟩
    · rw [heq]
      exact h
    · rw [heq, Whole, removeStream_engine]
      exact fun _ => h hpipeline
  | release => exact fun hpipeline => (hpipeline rfl).elim
  | onChannelEvent type =>
    rcases s.onChannelEvent_cases type with ⟨heq, -⟩ | ⟨-, heq | heq⟩
    · rw [heq]
      exact h
    · rw [heq]
      exact h
    · rw [heq]
      exact h

/-! ## Which steps keep the agreement -/

/-- An engine that is not at work has no stream in the list, and its pipeline does not run. -/
theorem Agrees.idle (h : s.Agrees) (hactive : s.engine.isActive = false) :
    s.entries = 0 ∧ s.engine.isRunning = false := by
  refine ⟨?_, h.pipeline.trans hactive⟩
  rw [h.stream, if_neg]
  intro hplaying
  simp [AVSenderEngine.isActive, hplaying] at hactive

/-- The state of an engine that does not run is set to one in which it is not at work. -/
theorem Agrees.set_idle (h : s.Agrees) (hactive : s.engine.isActive = false)
    {currentState_ : StateId} (hstate : currentState_ ≠ .STARTED ∧ currentState_ ≠ .PLAYING) :
    Agrees { s with engine.currentState_ := currentState_ } where
  stream := by
    rw [if_neg hstate.2]
    exact (h.idle hactive).1
  pipeline := by
    refine (h.idle hactive).2.trans ?_
    simp [AVSenderEngine.isActive, hstate]

/-- The state of an engine that is at work is not set to such a one alone. -/
theorem not_agrees_set (h : s.Agrees) (hactive : s.engine.isActive = true)
    {currentState_ : StateId} (hstate : currentState_ ≠ .STARTED ∧ currentState_ ≠ .PLAYING) :
    ¬Agrees { s with engine.currentState_ := currentState_ } := by
  intro hnext
  have hrunning : s.engine.isRunning = false := by
    refine hnext.pipeline.trans ?_
    simp [AVSenderEngine.isActive, hstate]
  rw [h.pipeline, hactive] at hrunning
  exact Bool.false_ne_true hrunning.symm

theorem Agrees.setEngineReady (h : s.Agrees) (setParameters prepare : Bool) :
    (s.step (.setEngineReady setParameters prepare)).Agrees := by
  simp only [step]
  rcases setEngineReady_cases setParameters prepare s.engine with heq | ⟨hstate, heq⟩
  · rw [heq]
    exact h
  · rw [heq]
    refine h.set_idle ?_ ⟨nofun, nofun⟩
    rcases hstate with hstate | hstate <;> simp [AVSenderEngine.isActive, hstate]

theorem Agrees.start (h : s.Agrees) (hwhole : s.Whole stream) (pipelineStart : Bool)
    (createControlChannel : Int) :
    (s.step (.start pipelineStart createControlChannel)).Agrees ↔
      s.Follows (.start pipelineStart createControlChannel) := by
  simp only [step, AVSenderEngine.start, Follows]
  rcases s.engine.toSenderBase.start_cases pipelineStart
    (fun _ => (createControlChannel, ())) () with
    ⟨hnot, heq⟩ | ⟨⟨hstate, hpipeline, hstart⟩, hcases⟩
  · rw [heq]
    exact iff_of_true h fun hstate hpipeline hstart => (hnot ⟨hstate, hpipeline, hstart⟩).elim
  have hactive : s.engine.isActive = false := by simp [AVSenderEngine.isActive, hstate]
  rcases hcases with ⟨hkit, -⟩ | ⟨-, hret, heq⟩ | ⟨-, hret, heq⟩
  · rw [(hwhole hpipeline).2.2.1] at hkit
    exact absurd hkit.symm Bool.false_ne_true
  · rw [heq]
    refine iff_of_false (fun hnext => ?_) fun hok => hret (hok hstate hpipeline hstart)
    exact absurd (hnext.pipeline.trans hactive) (by simp [AVSenderEngine.isRunning])
  · rw [heq]
    refine iff_of_true ⟨?_, ?_⟩ fun _ _ _ => hret
    · exact (h.idle hactive).1
    · rfl

theorem Agrees.pushData (h : s.Agrees) (hwhole : s.Whole stream) (hisBuffer pushData : Bool) :
    (s.step (.pushData hisBuffer pushData)).Agrees ↔ s.Follows (.pushData hisBuffer pushData) := by
  cases hactive : s.engine.isActive with
  | false =>
    rw [pushData_of_not_active hactive]
    refine iff_of_true h fun hstarted => ?_
    simp [AVSenderEngine.isActive, hstarted] at hactive
  | true =>
    have hrunning : s.engine.isRunning = true := h.pipeline.trans hactive
    have hpipeline : s.engine.pipeline_ ≠ none := by
      intro hnone
      simp [AVSenderEngine.isRunning, hnone] at hrunning
    obtain ⟨hinput, -, -, hstream⟩ := hwhole hpipeline
    rw [pushData_of_active hactive hinput]
    by_cases hstarted : s.engine.currentState_ = .STARTED
    · have hentries : s.addStream.entries = 1 := by
        rw [addStream_entries hstream, h.stream, hstarted]
        rfl
      simp only [Follows, hstarted, if_true, true_imp_iff]
      split_ifs with hok
      · refine iff_of_true ⟨hentries, ?_⟩ hok
        simp only [AVSenderEngine.isRunning, addStream_engine]
        exact hrunning
      · refine iff_of_false (fun hnext => ?_) hok
        have := hnext.stream
        rw [addStream_engine, hstarted, hentries] at this
        simp at this
    · refine iff_of_true ?_ fun hstarted' => (hstarted hstarted').elim
      have hplaying : s.engine.currentState_ = .PLAYING := by
        simpa [AVSenderEngine.isActive, hstarted] using hactive
      have hsame : ({ s with engine.currentState_ := .PLAYING } : StreamingEngine) = s := by
        rw [← hplaying]
      simp only [if_neg hstarted, hsame, ite_self]
      exact h

theorem Agrees.stop (h : s.Agrees) (hwhole : s.Whole stream) (pipelineStop : Bool) :
    (s.step (.stop pipelineStop)).Agrees := by
  rcases s.stop_cases pipelineStop with heq | ⟨hpipeline, heq⟩
  · rw [heq]
    exact h
  · rw [heq]
    refine ⟨?_, ?_⟩
    · rw [removeStream_engine]
      exact removeStream_entries (hwhole hpipeline).2.2.2
    · rw [removeStream_engine]
      rfl

theorem Agrees.release (h : s.Agrees) : (s.step .release).Agrees ↔ s.Follows .release := by
  constructor
  · intro hnext hplaying
    have hentries : s.entries = 0 := hnext.stream
    rw [h.stream, if_pos hplaying] at hentries
    exact absurd hentries one_ne_zero
  · intro hstate
    refine ⟨?_, rfl⟩
    rw [StreamingEngine.step, h.stream, if_neg hstate]
    rfl

theorem Agrees.onChannelEvent (h : s.Agrees) (type : ChannelEvent) :
    (s.step (.onChannelEvent type)).Agrees ↔ s.Follows (.onChannelEvent type) := by
  simp only [Follows]
  rcases s.onChannelEvent_cases type with ⟨heq, hcallback⟩ | ⟨hcallback, heq⟩
  · rw [heq]
    refine iff_of_true h fun hset => ?_
    by_contra hactive
    rw [hcallback (Bool.eq_true_of_not_eq_false hactive)] at hset
    exact Bool.false_ne_true hset
  · cases hactive : s.engine.isActive with
    | false =>
      refine iff_of_true ?_ fun _ => rfl
      rcases heq with heq | heq
      · rw [heq]
        exact h.set_idle hactive ⟨nofun, nofun⟩
      · rw [heq]
        exact h.set_idle hactive ⟨nofun, nofun⟩
    | true =>
      refine iff_of_false ?_ fun hok => Bool.false_ne_true (hok hcallback).symm
      rcases heq with heq | heq
      · rw [heq]
        exact not_agrees_set h hactive ⟨nofun, nofun⟩
      · rw [heq]
        exact not_agrees_set h hactive ⟨nofun, nofun⟩

theorem Agrees.step_iff (h : s.Agrees) (hwhole : s.Whole stream) :
    ∀ l, (s.step l).Agrees ↔ s.Follows l
  | .setEngineReady setParameters prepare =>
    iff_of_true (h.setEngineReady setParameters prepare) trivial
  | .start pipelineStart createControlChannel => h.start hwhole pipelineStart createControlChannel
  | .pushData hisBuffer pushData => h.pushData hwhole hisBuffer pushData
  | .stop pipelineStop => iff_of_true (h.stop hwhole pipelineStop) trivial
  | .release => h.release
  | .onChannelEvent type => h.onChannelEvent type

/-- An engine as it is initialized, with a manager that may know other streams. -/
def initial (ownerName_ peerDevId_ : String) (engineId_ : Int) (videoPixelFormat : String)
    (senderCallback_ : Bool) (manager : AVSyncManager) : StreamingEngine where
  engine :=
    { engineId_ := engineId_
      peerDevId_ := peerDevId_
      ownerName_ := ownerName_
      avInput_ := some ⟨videoPixelFormat⟩
      senderCallback_ := senderCallback_ }
  manager := manager

theorem agrees_initial (ownerName_ peerDevId_ : String) (engineId_ : Int)
    (videoPixelFormat : String) (senderCallback_ : Bool) (manager : AVSyncManager) :
    (initial ownerName_ peerDevId_ engineId_ videoPixelFormat senderCallback_ manager).Agrees :=
  ⟨rfl, rfl⟩

/-- The stream of each of the four owners is known. -/
theorem stream_initial {ownerName_ : String} (howner : ownerName_ ∈ [OWNER_NAME_D_MIC,
      OWNER_NAME_D_SPEAKER, OWNER_NAME_D_SCREEN, OWNER_NAME_D_CAMERA]) (peerDevId_ : String)
    (engineId_ : Int) (videoPixelFormat : String) (senderCallback_ : Bool)
    (manager : AVSyncManager) :
    ∃ stream, (initial ownerName_ peerDevId_ engineId_ videoPixelFormat senderCallback_
      manager).engine.stream = some stream := by
  have hscene : (initial ownerName_ peerDevId_ engineId_ videoPixelFormat senderCallback_
      manager).engine.sceneType.isSome = true := by
    simp only [List.mem_cons, List.not_mem_nil, or_false] at howner
    unfold AVSenderEngine.sceneType
    split_ifs with hmic hspeaker hscreen hcamera
    · rfl
    · rfl
    · rfl
    · rfl
    · rcases howner with h | h | h | h
      · exact (hmic h).elim
      · exact (hspeaker h).elim
      · exact (hscreen h).elim
      · exact (hcamera h).elim
  obtain ⟨sceneType, hsome⟩ := Option.isSome_iff_exists.1 hscene
  exact ⟨⟨sceneType, peerDevId_⟩, by rw [AVSenderEngine.stream, hsome]; rfl⟩

/-- State, pipeline and stream list of an engine agree after every call of a run exactly if its
calls follow each other so. -/
theorem engine_agrees_iff {ownerName_ : String} (howner : ownerName_ ∈ [OWNER_NAME_D_MIC,
      OWNER_NAME_D_SPEAKER, OWNER_NAME_D_SCREEN, OWNER_NAME_D_CAMERA]) (peerDevId_ : String)
    (engineId_ : Int) (videoPixelFormat : String) (senderCallback_ : Bool)
    (manager : AVSyncManager) (ls : List EngineStep) :
    Along step Follows
        (initial ownerName_ peerDevId_ engineId_ videoPixelFormat senderCallback_ manager) ls ↔
      ∀ pre post, ls = pre ++ post →
        (pre.foldl step (initial ownerName_ peerDevId_ engineId_ videoPixelFormat senderCallback_
          manager)).Agrees := by
  obtain ⟨stream, hstream⟩ :=
    stream_initial howner peerDevId_ engineId_ videoPixelFormat senderCallback_ manager
  exact along_iff (fun _ l (h : Whole stream _) => h.step l) (fun _ l hwhole h => h.step_iff hwhole l)
    ls (fun _ => ⟨nofun, rfl, rfl, hstream⟩) (agrees_initial ..)

theorem engine_agrees_iff_mic : Along step Follows
      (initial OWNER_NAME_D_MIC "tv" 1000 "" true {})
      [.setEngineReady true true, .start true 0, .pushData true true, .stop true, .release] ↔
    ∀ pre post,
      [EngineStep.setEngineReady true true, .start true 0, .pushData true true, .stop true,
        .release] = pre ++ post →
      (pre.foldl step (initial OWNER_NAME_D_MIC "tv" 1000 "" true {})).Agrees :=
  engine_agrees_iff (by decide) "tv" 1000 "" true {} _

/-- After a start without a control channel, a push that fails, a release without a stop and a
channel event of a playing microphone, the three do not agree. -/
theorem engine_not_agrees :
    let mic := initial OWNER_NAME_D_MIC "tv" 1000 "" true {}
    ¬([EngineStep.setEngineReady true true, .start true ERR_DH_AVT_CREATE_CHANNEL_FAILED].foldl
        step mic).Agrees ∧
      ¬([EngineStep.setEngineReady true true, .start true 0, .pushData true false].foldl
        step mic).Agrees ∧
      ¬([EngineStep.setEngineReady true true, .start true 0, .pushData true true, .release].foldl
        step mic).Agrees ∧
      ¬([EngineStep.setEngineReady true true, .start true 0, .pushData true true,
        .onChannelEvent .EVENT_CHANNEL_CLOSED].foldl step mic).Agrees :=
  ⟨fun h => absurd h.pipeline (by decide), fun h => absurd h.stream (by decide +kernel),
    fun h => absurd h.stream (by decide +kernel), fun h => absurd h.pipeline (by decide +kernel)⟩

/-! ## The entries are those of the list -/

/-- The stream of an engine does not change, save that it is gone when it is released. -/
theorem stream_step (s : StreamingEngine) (l : EngineStep) :
    (s.step l).engine.stream = s.engine.stream ∨ (s.step l).engine.stream = none := by
  cases l with
  | setEngineReady setParameters prepare =>
    simp only [step]
    rcases setEngineReady_cases setParameters prepare s.engine with heq | ⟨-, heq⟩
    · rw [heq]
      exact .inl rfl
    · rw [heq]
      exact .inl rfl
  | start pipelineStart createControlChannel =>
    rcases s.start_cases pipelineStart createControlChannel with heq | ⟨-, heq | heq⟩
    · rw [heq]
      exact .inl rfl
    · rw [heq]
      exact .inl rfl
    · rw [heq]
      exact .inl rfl
  | pushData hisBuffer pushData =>
    rcases s.pushData_engine hisBuffer pushData with heq | heq
    · rw [heq]
      exact .inl rfl
    · rw [heq]
      exact .inl rfl
  | stop pipelineStop =>
    rcases s.stop_cases pipelineStop with heq | ⟨-, heq⟩
    · rw [heq]
      exact .inl rfl
    · rw [heq, removeStream_engine]
      exact .inl rfl
  | release => exact .inr rfl
  | onChannelEvent type =>
    rcases s.onChannelEvent_cases type with ⟨heq, -⟩ | ⟨-, heq | heq⟩
    · rw [heq]
      exact .inl rfl
    · rw [heq]
      exact .inl rfl
    · rw [heq]
      exact .inl rfl

/-- The entries of the engine are those that the list has for its stream. -/
structure Counted (stream : AVStreamInfo) (s : StreamingEngine) : Prop where
  entries : s.entries = s.manager.streamInfoList_.count stream
  same : ∀ stream', s.engine.stream = some stream' → stream' = stream

theorem Counted.addStream (h : s.Counted stream) :
    s.addStream.entries = s.addStream.manager.streamInfoList_.count stream := by
  unfold StreamingEngine.addStream
  cases hstream : s.engine.stream with
  | none => exact h.entries
  | some stream' =>
    obtain rfl := h.same stream' hstream
    simp only [AVSyncManager.addStreamInfo_streamInfoList, List.count_append,
      List.count_singleton_self, h.entries]

theorem Counted.removeStream (h : s.Counted stream) :
    s.removeStream.entries = s.removeStream.manager.streamInfoList_.count stream := by
  unfold StreamingEngine.removeStream
  cases hstream : s.engine.stream with
  | none => exact h.entries
  | some stream' =>
    obtain rfl := h.same stream' hstream
    have hnone : stream' ∉ AVSyncManager.without stream' s.manager.streamInfoList_ := by
      simp [AVSyncManager.without]
    simp only [AVSyncManager.removeStreamInfo_streamInfoList, List.count_eq_zero.2 hnone]

theorem Counted.step (h : s.Counted stream) (l : EngineStep) : (s.step l).Counted stream := by
  refine ⟨?_, fun stream' hstream => ?_⟩
  · cases l with
    | setEngineReady setParameters prepare => exact h.entries
    | start pipelineStart createControlChannel => exact h.entries
    | pushData hisBuffer pushData =>
      simp only [StreamingEngine.step, StreamingEngine.pushData]
      split_ifs
      all_goals first | exact h.entries | exact h.addStream
    | stop pipelineStop =>
      rcases s.stop_cases pipelineStop with heq | ⟨-, heq⟩
      · rw [heq]
        exact h.entries
      · rw [heq]
        exact Counted.removeStream ⟨h.entries, h.same⟩
    | release => exact h.entries
    | onChannelEvent type => exact h.entries
  · rcases s.stream_step l with heq | heq
    · exact h.same stream' (heq.symm.trans hstream)
    · rw [heq] at hstream
      cases hstream

/-- After every run of an engine whose stream the manager did not know, the entries are those of
the list. -/
theorem entries_eq_count {ownerName_ peerDevId_ : String} {engineId_ : Int}
    {videoPixelFormat : String} {senderCallback_ : Bool} {manager : AVSyncManager}
    (hstream : (initial ownerName_ peerDevId_ engineId_ videoPixelFormat senderCallback_
      manager).engine.stream = some stream) (hnew : stream ∉ manager.streamInfoList_)
    (ls : List EngineStep) :
    (ls.foldl step (initial ownerName_ peerDevId_ engineId_ videoPixelFormat senderCallback_
        manager)).entries =
      (ls.foldl step (initial ownerName_ peerDevId_ engineId_ videoPixelFormat senderCallback_
        manager)).manager.streamInfoList_.count stream := by
  have hinit : (initial ownerName_ peerDevId_ engineId_ videoPixelFormat senderCallback_
      manager).Counted stream :=
    ⟨(List.count_eq_zero.2 hnew).symm, fun stream' h => Option.some.inj (h.symm.trans hstream)⟩
  exact (foldl_invariant (fun _ l h => h.step l) ls hinit).entries

end StreamingEngine

end DHFwk
