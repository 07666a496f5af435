import DHFwk.EnabledDevices
import DHFwk.SourceHardware

/-!
# Recovery of a component

When the process of a component dies, `DoRecover` unloads the type on both sides, zeroes its
counts, and pushes enable tasks : for the hardware in the meta records, as at the start, and for
the callers that are recorded as enabled. The record knows the hardware and the caller, not the
parameters that came with the first request.

`Recovering` interleaves the phases of `DoRecover` with the tasks. After a whole recovery whose
component calls succeed the callers are enabled as before and the hardware of the active ones was
enabled again once with its parameters, exactly if there were no parameters, the checks that an
enable makes pass again, and the automatic enables are those that were in force
(`recovery_repeats_iff`). Parameters are lost (`recovery_loses_params`).
-/

set_option linter.unusedSectionVars false

namespace DHFwk

open Runs

/-! ## What is enabled -/

/-- How the component was asked to enable a piece of hardware. -/
structure EnableRequest where
  isActive : Bool
  customParams : String
  deriving DecidableEq, Repr

/-- The source component : the request in force for each piece of hardware, and the calls of
`Enable` that were made. -/
structure SourceLog where
  inForce : DHType → DHStatusSourceEnableInfoKey → Option EnableRequest := fun _ _ => none
  enabled : List (DHType × DHStatusSourceEnableInfoKey × EnableRequest) := []

namespace SourceLog

variable (w : SourceLog) (t : DHType) (k : DHStatusSourceEnableInfoKey)

/-- A piece of hardware gets another request, or none. -/
def put (r : Option EnableRequest) : SourceLog :=
  { w with inForce := fun t' k' => if t' = t ∧ k' = k then r else w.inForce t' k' }

/-- No hardware of a type has a request. -/
def typeOff : SourceLog :=
  { w with inForce := fun t' k' => if t' = t then none else w.inForce t' k' }

/-- A call of `Enable`, which puts its request in force. -/
def enable (r : EnableRequest) : SourceLog :=
  { w.put t k (some r) with enabled := w.enabled ++ [(t, k, r)] }

/-- The parameters of the calls of `Enable` for a piece of hardware. -/
def params : List String :=
  (w.enabled.filter fun e => e.1 = t ∧ e.2.1 = k).map fun e => e.2.2.customParams

end SourceLog

/-- The inner calls with these outcomes, and what the component makes of them. The extension of
the modem is not the component. -/
def SourceOutcome.logCalls (o : SourceOutcome) : SourceCalls SourceLog where
  initCompSource _ := fun w => (o.init, w)
  uninitCompSource t _ := fun w => (o.uninit, w.typeOff t)
  startSource _ := fun w => (o.start, w)
  stopSource t := fun w => (o.stop, if o.stop = DH_FWK_SUCCESS then w.typeOff t else w)
  waitForResult
    | .START_SOURCE, _ | .START_SINK, _ => fun w => (o.startReady, w)
    | .STOP_SOURCE, _ | .STOP_SINK, _ => fun w => (o.stopReady, w)
  enable networkId _ dhId t isActive customParams := fun w =>
    (o.enable, if o.enable = DH_FWK_SUCCESS then
      w.enable t { networkId := networkId, dhId := dhId } ⟨isActive, customParams⟩ else w)
  disable networkId _ dhId t := fun w =>
    (o.disable, if o.disable = DH_FWK_SUCCESS then
      w.put t { networkId := networkId, dhId := dhId } none else w)
  modemEnable _ _ _ := fun w => (o.modemEnable, w)
  modemDisable _ _ _ := fun w => (o.modemDisable, w)

/-- The component manager with what its source components were asked for. -/
abbrev LoggedManager (L L' : Type) :=
  ComponentManager L L' SourceLog (List SinkOffCall)

/-- One operation of a run, what it is told, and how its inner calls turn out. -/
structure LoggedStep where
  op : ComponentOp
  queries : Queries
  sourceOutcome : SourceOutcome
  sinkOutcome : SinkOutcome

namespace LoggedManager

variable {L L' : Type}

/-- Nothing is recorded and nothing is enabled. -/
def init : LoggedManager L L' where
  source := { world := {} }
  sink := { world := [] }

/-- Run one operation. -/
def step (m : LoggedManager L L') (l : LoggedStep) : LoggedManager L L' :=
  (l.op.run l.queries l.sourceOutcome.logCalls l.sinkOutcome.calls m).2

/-- The manager with no calls listed. -/
def quiet (m : LoggedManager L L') : LoggedManager L L' :=
  { m with source.world.enabled := [] }

/-- A piece of hardware is on because of an active caller, whose request reached the component
with these parameters. -/
def OnFor (m : LoggedManager L L') (t : DHType) (k : DHStatusSourceEnableInfoKey)
    (customParams : String) : Prop :=
  m.source.world.inForce t k = some ⟨true, customParams⟩ ∧
    ∃ c : DHStatusCtrlKey, c.isActive = true ∧ (m.source.status t).enableState k c = .ENABLED

end LoggedManager

/-! ## What recovery finds -/

/-- A meta record, as far as recovery reads it. -/
structure MetaHardware where
  udidHash : String
  dhId : String
  dhType : DHType
  deriving DecidableEq, Repr

/-- What recovery and its tasks find, which stays as it is : the ids of the local device, its meta
records and those of all devices, the ids that go with a udid hash, and the answers to the checks. -/
structure RecoverEnv where
  dev : Devices
  localNetworkId : String
  localUuid : String
  localUdid : String
  /-- `GetMetaCapInfosByUdidHash` of the local device. -/
  metaCapInfos : List (Option MetaHardware)
  globalMetaInfoMap_ : List MetaHardware
  getUUIDByDeviceId : String → String
  getNetworkIdByUUID : String → String
  getUDIDByNetworkId : String → String
  queries : Queries
  checkSinkConfigStart : DHType → Int × Bool
  checkDemandStart : (udid uuid : String) → DHType → Int × Bool
  appendTokenIdToParams : (customParams : String) → (firstCallingTokenId : ℕ) → String

namespace RecoverEnv

variable (env : RecoverEnv) (t : DHType)

/-- The answers that a task gets : every call of a component succeeds. -/
def answers : TaskAnswers SourceLog (List SinkOffCall) where
  queries := env.queries
  sourceCalls := ({} : SourceOutcome).logCalls
  sinkCalls := ({} : SinkOutcome).calls
  checkSinkConfigStart := env.checkSinkConfigStart
  checkDemandStart := env.checkDemandStart
  appendTokenIdToParams := env.appendTokenIdToParams
  isDeserted := false

/-- The tasks of `RecoverAutoEnableSink`. -/
def autoSinkTasks : List HardwareParam :=
  env.metaCapInfos.filterMap fun localMetaInfo => match localMetaInfo with
    | none => none
    | some info =>
      if info.dhType = t then some
        { networkId := env.localNetworkId, uuid := env.localUuid, udid := env.localUdid,
          dhId := info.dhId, dhType := info.dhType }
      else none

/-- The tasks of `RecoverAutoEnableSource`. -/
def autoSourceTasks : List HardwareParam :=
  (env.globalMetaInfoMap_.filter fun info => info.dhType = t).filterMap fun info =>
    let uuid := env.getUUIDByDeviceId info.udidHash
    if uuid = "" then none
    else
      let networkId := env.getNetworkIdByUUID uuid
      if networkId = "" then none
      else some
        { networkId := networkId, uuid := uuid, udid := env.getUDIDByNetworkId networkId,
          dhId := info.dhId, dhType := info.dhType }

end RecoverEnv

/-- The tasks of `RecoverActiveEnableSink`. -/
def activeSinkTasks {L W : Type} (m : SinkManager L W) (t : DHType) : List HardwareParam :=
  (m.recoverTasks t).map fun e =>
    { dhId := e.1, dhType := t, effectSink := true, callingUid := e.2.uid, callingPid := e.2.pid }

/-- The tasks of `RecoverActiveEnableSource`. -/
def activeSourceTasks {L W : Type} (m : SourceManager L W) (t : DHType) : List HardwareParam :=
  (m.recoverTasks t).map fun e =>
    { networkId := e.1.networkId, dhId := e.1.dhId, dhType := t, effectSource := true,
      callingUid := e.2.uid, callingPid := e.2.pid }

/-! ## Recovery -/

/-- What `DoRecover` does next. -/
inductive RecoverPhase
  | resetSink | resetSource | autoSink | autoSource | activeSink | activeSource | recovered
  deriving DecidableEq, Repr

/-- A recovery under way, with the tasks that are queued and those that were executed. -/
structure Recovering (L L' : Type) where
  manager : LoggedManager L L'
  phase : RecoverPhase := .resetSink
  tasks : List HardwareParam := []
  executed : List HardwareParam := []

/-- `DoRecover` goes on, or a task is executed. -/
inductive RecoverStep
  | goOn
  | execute (k : ℕ)
  deriving DecidableEq, Repr

namespace Recovering

variable {L L' : Type} (env : RecoverEnv) (t : DHType)

/-- The component has died, and nothing is done yet. -/
def start (m : LoggedManager L L') : Recovering L L' :=
  { manager := m.quiet }

/-- `DoRecover`, one locked part after the other. -/
def doRecover (s : Recovering L L') : Recovering L L' :=
  -- The tasks of a part are pushed at once : the next one is not read from what a task changes.
  let run (op : ComponentOp) := (env.answers.run s.manager op).2
  match s.phase with
  | .resetSink =>
    { s with manager := run (.sink (.resetSinkEnableStatus t true)), phase := .resetSource }
  | .resetSource =>
    { s with manager := run (.source (.resetSourceEnableStatus t true)), phase := .autoSink }
  | .autoSink => { s with tasks := s.tasks ++ env.autoSinkTasks t, phase := .autoSource }
  | .autoSource => { s with tasks := s.tasks ++ env.autoSourceTasks t, phase := .activeSink }
  | .activeSink =>
    { s with
      manager := run (.sink (.recoverActiveEnableSink t))
      tasks := s.tasks ++ activeSinkTasks s.manager.sink t
      phase := .activeSource }
  | .activeSource =>
    { s with
      manager := run (.source (.recoverActiveEnableSource t))
      tasks := s.tasks ++ activeSourceTasks s.manager.source t
      phase := .recovered }
  | .recovered => s

def step (s : Recovering L L') : RecoverStep → Recovering L L'
  | .goOn => s.doRecover env t
  | .execute k =>
    match s.tasks[k]? with
    | none => s
    | some p =>
      { s with
        manager := (registerHardware env.dev env.answers p s.manager).2
        tasks := s.tasks.eraseIdx k
        executed := s.executed ++ [p] }

/-- `DoRecover` is through, and all its tasks were executed. -/
def IsComplete (s : Recovering L L') : Prop :=
  s.phase = .recovered ∧ s.tasks = []

instance (s : Recovering L L') : Decidable s.IsComplete :=
  inferInstanceAs (Decidable (_ ∧ _))

end Recovering

/-! ## What is asked of a recovery -/

/-- From `m` to `m'` the hardware of type `t` that was on for an active caller is enabled again
once, with the parameters that were in force, and the callers are enabled as before. -/
structure Repeats {L L' : Type} (t : DHType) (m m' : LoggedManager L L') : Prop where
  enabled : ∀ k customParams, m.OnFor t k customParams →
    m'.source.world.params t k = [customParams]
  callers : ∀ dhId u, m'.Enabled dhId u ↔ m.Enabled dhId u

namespace RecoverEnv

variable (env : RecoverEnv)

/-- The checks of `EnableSourceInternal` or `EnableSinkInternal` pass for a piece of hardware. -/
def admits (t : DHType) (networkId dhId : String) : HardwareSide → Bool
  | .source =>
    checkEnableSourceParam env.queries networkId { id := dhId, dhType := t } = DH_FWK_SUCCESS
  | .sink =>
    env.queries.isDHTypeSupport t &&
      checkAudioConfigGate env.queries env.queries.getLocalNetworkId { id := dhId, dhType := t }
        "sink" = DH_FWK_SUCCESS

/-- An automatic task is for this side, and the check before it says that it is to enable. -/
def starts (p : HardwareParam) : HardwareSide → Bool
  | .source => env.dev.localUdid ≠ p.udid ∧
      env.checkDemandStart p.udid p.uuid p.dhType = (DH_FWK_SUCCESS, true)
  | .sink => env.dev.localUdid = p.udid ∧
      env.checkSinkConfigStart p.dhType = (DH_FWK_SUCCESS, true)

/-- The automatic tasks of a recovery. -/
def autoTasks (t : DHType) : List HardwareParam :=
  env.autoSinkTasks t ++ env.autoSourceTasks t

end RecoverEnv

/-- The side of a use. -/
def HardwareUse.side : HardwareUse → HardwareSide
  | .source .. => .source
  | .sink .. => .sink

/-- The type of a use. -/
def HardwareUse.dhType : HardwareUse → DHType
  | .source t _ _ | .sink t _ => t

/-- The caller of a use. -/
def HardwareUse.caller : HardwareUse → DHStatusCtrlKey
  | .source _ _ c | .sink _ c => c

/-- The networkId of a use; a sink is on the local device. -/
def HardwareUse.networkId : HardwareUse → String
  | .source _ n _ => n
  | .sink _ _ => ""

/-- Recovery can repeat what is in force : no hardware is on with parameters, the hardware of the
active callers passes the checks again, and the automatic uses are those for which an automatic
task passes its checks. -/
structure Repeatable {L L' : Type} (env : RecoverEnv) (t : DHType) (m : LoggedManager L L') :
    Prop where
  params : ∀ k customParams, m.OnFor t k customParams → customParams = ""
  active : ∀ dhId (u : HardwareUse), u.dhType = t → u.caller.isActive = true →
    m.Enabled dhId u → env.admits t u.networkId dhId u.side = true
  auto : ∀ dhId (u : HardwareUse), u.dhType = t → u.caller.isActive = false →
    (m.Enabled dhId u ↔ ∃ p ∈ env.autoTasks t, env.starts p u.side = true ∧
      env.admits t p.networkId p.dhId u.side = true ∧ dhId = p.dhId ∧ u = p.use autoCaller u.side)

/-! ## Calls that succeed -/

section succeeding

variable {L L' : Type} {networkId uuid : String} {d : DHDescriptor} {caller : DHStatusCtrlKey}
  {w : SourceLog}

/-- An enable whose calls succeed finds its caller enabled, adds to the count of its hardware, or
enables the hardware. -/
theorem enableSourceStatus_succeeding (s : DHSourceStatus L) :
    let k : DHStatusSourceEnableInfoKey := { networkId := networkId, dhId := d.id }
    let r := enableSourceStatus ({} : SourceOutcome).logCalls networkId uuid d caller s w
    r.1 = DH_FWK_SUCCESS ∧
      (s.enableState k caller = .ENABLED ∧ r.2 = (s.touch k caller, w) ∨
        s.refEnable k ≠ 0 ∧ r.2 = (s.addRef k caller, w) ∨
        s.refEnable k = 0 ∧ ∃ refLoad w', r.2 = (s.write k caller .ENABLED 1 refLoad, w') ∧
          w'.enabled = w.enabled ++ [(d.dhType, k, ⟨caller.isActive, d.customParams⟩)]) := by
  intro k r
  by_cases henabled : s.enableState k caller = .ENABLED
  · have hr : r = settle .success (s.touch k caller) (s.touch k caller) w := if_pos henabled
    rw [hr]
    exact ⟨rfl, .inl ⟨henabled, rfl⟩⟩
  by_cases hcount : s.refEnable k ≠ 0
  · have hr : r = settle .success (s.touch k caller) (s.addRef k caller) w :=
      (if_neg henabled).trans (if_pos hcount)
    rw [hr]
    exact ⟨rfl, .inr (.inl ⟨hcount, rfl⟩)⟩
  have hzero := not_not.1 hcount
  by_cases hload : s.refLoad ≠ 0
  · have hr : r = settle (({} : SourceOutcome).logCalls.enable networkId uuid d.id d.dhType
        caller.isActive d.customParams) (s.touch k caller) (s.addRef k caller) w :=
      (if_neg henabled).trans ((if_neg hcount).trans (if_pos hload))
    rw [hr]
    refine ⟨rfl, .inr (.inr ⟨hzero, s.refLoad + 1, w.enable d.dhType k _, ?_, rfl⟩)⟩
    rw [DHStatus.addRef, hzero]
    rfl
  · have hr : r = settle (realEnableSource ({} : SourceOutcome).logCalls networkId uuid d
        caller.isActive) (s.touch k caller) (s.firstRef k caller) w :=
      (if_neg henabled).trans ((if_neg hcount).trans (if_neg hload))
    rw [hr]
    exact ⟨rfl, .inr (.inr ⟨hzero, 1, _, rfl, rfl⟩)⟩

/-- The same for a sink, whose code is all that matters. -/
theorem enableSinkStatus_succeeding (s : DHSinkStatus L) (w : List SinkOffCall) :
    (enableSinkStatus ({} : SinkOutcome).calls d caller s w).1 = DH_FWK_SUCCESS := by
  simp only [enableSinkStatus]
  split_ifs
  · rfl
  · rfl
  · have hstart : (({} : SinkOutcome).calls.startSinkAndWait d.dhType w).1 = DH_FWK_SUCCESS := rfl
    exact Call.andThen_fst_eq_zero.2 ⟨hstart, rfl⟩

end succeeding

/-! ## What a task of a recovery does -/

/-- A task that recovery pushes : it is for one side of type `t`, and has no parameters. -/
structure IsRecoverTask (env : RecoverEnv) (t : DHType) (side : HardwareSide) (p : HardwareParam) :
    Prop where
  side : p.side env.dev = some side
  dhType : p.dhType = t
  customParams : p.customParams = ""
  firstCallingTokenId : p.firstCallingTokenId = 0

/-- The enable of a task. -/
def HardwareParam.enableOp (p : HardwareParam) : HardwareSide → ComponentOp
  | .source => .source (.enableSource p.networkId p.descriptor p.caller)
  | .sink => .sink (.enableSink p.descriptor p.caller)

namespace RecoverEnv

variable {L L' : Type} {env : RecoverEnv} {t : DHType} {side : HardwareSide} {p : HardwareParam}
  {m : LoggedManager L L'}

/-- The checks of a task pass. -/
def passes (env : RecoverEnv) (side : HardwareSide) (p : HardwareParam) : Bool :=
  (p.caller.isActive || env.starts p side) && env.admits p.dhType p.networkId p.dhId side

theorem admits_source : env.admits t p.networkId p.dhId .source = true ↔
    checkEnableSourceParam env.queries p.networkId { id := p.dhId, dhType := t } =
      DH_FWK_SUCCESS :=
  decide_eq_true_iff

theorem admits_sink : env.admits t p.networkId p.dhId .sink = true ↔
    env.queries.isDHTypeSupport t = true ∧
      checkAudioConfigGate env.queries env.queries.getLocalNetworkId { id := p.dhId, dhType := t }
        "sink" = DH_FWK_SUCCESS := by
  rw [admits, Bool.and_eq_true, decide_eq_true_iff]

/-- An enable succeeds if its checks pass. -/
theorem run_enableOp_of_admits (h : env.admits p.dhType p.networkId p.dhId side = true) :
    (env.answers.run m (p.enableOp side)).1 = DH_FWK_SUCCESS := by
  cases side with
  | source =>
    have hcheck := admits_source.1 h
    show (m.source.enableSourceInternal env.queries ({} : SourceOutcome).logCalls p.networkId
      p.descriptor p.caller).1 = DH_FWK_SUCCESS
    unfold SourceManager.enableSourceInternal
    dsimp only
    rw [HardwareParam.descriptor, if_neg (not_not.2 hcheck)]
    exact (enableSourceStatus_succeeding _).1
  | sink =>
    obtain ⟨htype, hgate⟩ := admits_sink.1 h
    show (m.sink.enableSinkInternal env.queries ({} : SinkOutcome).calls p.descriptor p.caller).1 =
      DH_FWK_SUCCESS
    unfold SinkManager.enableSinkInternal
    dsimp only
    rw [HardwareParam.descriptor, if_neg (not_not.2 htype), if_neg (not_not.2 hgate)]
    exact enableSinkStatus_succeeding _ _

/-- An enable whose checks fail changes nothing. -/
theorem run_enableOp_of_not_admits (h : ¬ env.admits p.dhType p.networkId p.dhId side = true) :
    (env.answers.run m (p.enableOp side)).2 = m := by
  cases side with
  | source =>
    have hcheck := mt admits_source.2 h
    have hsource : (m.source.enableSourceInternal env.queries ({} : SourceOutcome).logCalls
        p.networkId p.descriptor p.caller).2 = m.source := by
      unfold SourceManager.enableSourceInternal
      dsimp only
      rw [HardwareParam.descriptor, if_pos hcheck]
    exact congrArg (fun source => ({ m with source := source } : LoggedManager L L')) hsource
  | sink =>
    have hsink : (m.sink.enableSinkInternal env.queries ({} : SinkOutcome).calls p.descriptor
        p.caller).2 = m.sink := by
      unfold SinkManager.enableSinkInternal
      dsimp only
      rw [HardwareParam.descriptor]
      by_cases htype : env.queries.isDHTypeSupport p.dhType = true
      · have hgate := fun hgate => h (admits_sink.2 ⟨htype, hgate⟩)
        rw [if_neg (not_not.2 htype), if_pos hgate]
      · rw [if_pos htype]
    exact congrArg (fun sink => ({ m with sink := sink } : LoggedManager L L')) hsink

/-- A check that fails, or says no, leaves things as they are. -/
theorem checked_snd {M : Type} (r : Int × Bool) (err : Int) (m : M) (run : Int × M) :
    (if r.1 ≠ DH_FWK_SUCCESS then (r.1, m) else if ¬r.2 = true then (err, m) else run).2 =
      if r = (DH_FWK_SUCCESS, true) then run.2 else m := by
  obtain ⟨ret, b⟩ := r
  by_cases hret : ret = DH_FWK_SUCCESS
  · cases b <;> simp [hret]
  · simp [hret]

/-- A task makes its enable if the check before it, where there is one, says so. -/
theorem registerHardware_of_starts (h : IsRecoverTask env t side p) :
    (registerHardware env.dev env.answers p m).2 =
      if (p.caller.isActive || env.starts p side) = true then
        (env.answers.run m (p.enableOp side)).2 else m := by
  have hside := h.side
  unfold HardwareParam.side at hside
  unfold registerHardware
  by_cases hactive : p.caller.isActive = true
  · have hd : ({ p.descriptor with
        customParams := if p.firstCallingTokenId ≠ 0 then
          env.answers.appendTokenIdToParams p.customParams p.firstCallingTokenId
          else p.customParams } : DHDescriptor) = p.descriptor := by
      rw [if_neg (not_not.2 h.firstCallingTokenId), h.customParams]
      rfl
    rw [if_pos hactive] at hside ⊢
    rw [hactive, Bool.true_or, if_pos rfl]
    simp only [doActiveEnable]
    rw [hd]
    cases hs : p.effectSink <;> cases hs' : p.effectSource <;> rw [hs, hs'] at hside <;> cases hside
    · rfl
    · rfl
  · rw [if_neg hactive] at hside ⊢
    rw [Bool.eq_false_iff.2 hactive, Bool.false_or]
    have hd : ({ p.descriptor with customParams := p.customParams } : DHDescriptor) =
        p.descriptor := by
      rw [h.customParams]
      rfl
    unfold doAutoEnable
    by_cases hlocal : env.dev.localUdid = p.udid
    · rw [if_pos hlocal] at hside ⊢
      obtain rfl := Option.some.inj hside
      have hstarts : env.starts p .sink = true ↔
          env.answers.checkSinkConfigStart p.dhType = (DH_FWK_SUCCESS, true) :=
        decide_eq_true_iff.trans (and_iff_right hlocal)
      exact (checked_snd _ _ m _).trans (if_congr hstarts.symm rfl rfl)
    · rw [if_neg hlocal] at hside ⊢
      obtain rfl := Option.some.inj hside
      have hstarts : env.starts p .source = true ↔
          env.answers.checkDemandStart p.udid p.uuid p.dhType = (DH_FWK_SUCCESS, true) :=
        decide_eq_true_iff.trans (and_iff_right hlocal)
      rw [hd]
      exact (checked_snd _ _ m _).trans (if_congr hstarts.symm rfl rfl)

/-- A task whose checks pass makes its enable, and one whose checks fail changes nothing. -/
theorem registerHardware_recovers (h : IsRecoverTask env t side p) :
    if env.passes side p = true then
      (env.answers.run m (p.enableOp side)).1 = DH_FWK_SUCCESS ∧
        (registerHardware env.dev env.answers p m).2 = (env.answers.run m (p.enableOp side)).2
    else (registerHardware env.dev env.answers p m).2 = m := by
  rw [registerHardware_of_starts h, passes]
  by_cases hadmits : env.admits p.dhType p.networkId p.dhId side = true
  · rw [hadmits, Bool.and_true]
    split_ifs
    · exact ⟨run_enableOp_of_admits hadmits, rfl⟩
    · rfl
  · rw [Bool.eq_false_iff.2 hadmits, Bool.and_false, if_neg Bool.false_ne_true,
      run_enableOp_of_not_admits hadmits, ite_self]

end RecoverEnv

/-! ## The tasks and their uses -/

/-- The task that recovery pushes for a use of an active caller. -/
def HardwareUse.task (dhId : String) : HardwareUse → HardwareParam
  | .source t n c =>
    { networkId := n, dhId := dhId, dhType := t, effectSource := true, callingUid := c.uid,
      callingPid := c.pid }
  | .sink t c =>
    { dhId := dhId, dhType := t, effectSink := true, callingUid := c.uid, callingPid := c.pid }

/-- A use of an active caller of type `t`, on this side. -/
def HardwareUse.IsActive (t : DHType) (side : HardwareSide) (u : HardwareUse) : Prop :=
  u.dhType = t ∧ u.side = side ∧ u.caller.isActive = true

section tasks

variable {L L' : Type} {env : RecoverEnv} {t : DHType} {side : HardwareSide} {p : HardwareParam}
  {m : LoggedManager L L'} {dhId : String} {u : HardwareUse}

@[simp] theorem HardwareUse.caller_task : (u.task dhId).caller = u.caller := by
  cases u <;> rfl

@[simp] theorem HardwareUse.dhId_task : (u.task dhId).dhId = dhId := by
  cases u <;> rfl

@[simp] theorem HardwareUse.dhType_task : (u.task dhId).dhType = u.dhType := by
  cases u <;> rfl

@[simp] theorem HardwareUse.networkId_task : (u.task dhId).networkId = u.networkId := by
  cases u <;> rfl

@[simp] theorem HardwareUse.use_task : (u.task dhId).use u.caller u.side = u := by
  cases u <;> rfl

theorem HardwareUse.side_use (p : HardwareParam) (c : DHStatusCtrlKey) (side : HardwareSide) :
    (p.use c side).side = side ∧ (p.use c side).dhType = p.dhType ∧ (p.use c side).caller = c := by
  cases side <;> exact ⟨rfl, rfl, rfl⟩

theorem HardwareUse.IsActive.isRecoverTask (h : u.IsActive t side) :
    IsRecoverTask env t side (u.task dhId) := by
  obtain ⟨rfl, rfl, hactive⟩ := h
  refine ⟨?_, dhType_task, by cases u <;> rfl, by cases u <;> rfl⟩
  unfold HardwareParam.side
  rw [if_pos (caller_task.symm ▸ hactive)]
  cases u <;> rfl

theorem mem_activeSinkTasks : p ∈ activeSinkTasks m.sink t ↔
    ∃ dhId u, u.IsActive t .sink ∧ m.Enabled dhId u ∧ p = u.task dhId := by
  simp only [activeSinkTasks, SinkManager.recoverTasks, List.mem_map, Prod.exists,
    DHStatus.mem_activeEnabled]
  constructor
  · rintro ⟨dhId, c, ⟨hactive, hstate⟩, rfl⟩
    exact ⟨dhId, .sink t c, ⟨rfl, rfl, hactive⟩, hstate, rfl⟩
  · rintro ⟨dhId, u, ⟨rfl, hside, hactive⟩, hstate, rfl⟩
    cases u with
    | source => cases hside
    | sink t c => exact ⟨dhId, c, ⟨hactive, hstate⟩, rfl⟩

theorem mem_activeSourceTasks : p ∈ activeSourceTasks m.source t ↔
    ∃ dhId u, u.IsActive t .source ∧ m.Enabled dhId u ∧ p = u.task dhId := by
  simp only [activeSourceTasks, SourceManager.recoverTasks, List.mem_map, Prod.exists,
    DHStatus.mem_activeEnabled]
  constructor
  · rintro ⟨⟨n, dhId⟩, c, ⟨hactive, hstate⟩, rfl⟩
    exact ⟨dhId, .source t n c, ⟨rfl, rfl, hactive⟩, hstate, rfl⟩
  · rintro ⟨dhId, u, ⟨rfl, hside, hactive⟩, hstate, rfl⟩
    cases u with
    | source t n c => exact ⟨⟨n, dhId⟩, c, ⟨hactive, hstate⟩, rfl⟩
    | sink => cases hside

/-- The automatic tasks are of the type, for one side, and of no caller. -/
theorem RecoverEnv.mem_autoTasks (h : p ∈ env.autoTasks t) :
    p.caller = autoCaller ∧ ∃ side, IsRecoverTask env t side p := by
  have hp : p.caller = autoCaller ∧ p.dhType = t ∧ p.customParams = "" ∧
      p.firstCallingTokenId = 0 := by
    rcases List.mem_append.1 h with h | h
    · obtain ⟨info, -, hinfo⟩ := List.mem_filterMap.1 h
      cases info with
      | none => cases hinfo
      | some info =>
        dsimp only at hinfo
        split_ifs at hinfo with ht
        obtain rfl := Option.some.inj hinfo
        exact ⟨rfl, ht, rfl, rfl⟩
    · obtain ⟨info, hmem, hinfo⟩ := List.mem_filterMap.1 h
      have ht : info.dhType = t := of_decide_eq_true (List.mem_filter.1 hmem).2
      dsimp only at hinfo
      split_ifs at hinfo
      obtain rfl := Option.some.inj hinfo
      exact ⟨rfl, ht, rfl, rfl⟩
  obtain ⟨hcaller, ht, hparams, htoken⟩ := hp
  have hside : p.side env.dev = some (if env.dev.localUdid = p.udid then .sink else .source) := by
    unfold HardwareParam.side
    rw [hcaller, if_neg (by decide)]
    split_ifs <;> rfl
  exact ⟨hcaller, _, hside, ht, hparams, htoken⟩

end tasks

/-! ## What a task enables -/

/-- A task enables this use of the hardware of this id. -/
def RecoverEnv.Makes (env : RecoverEnv) (p : HardwareParam) (dhId : String) (u : HardwareUse) :
    Prop :=
  ∃ side, p.side env.dev = some side ∧ env.passes side p = true ∧ dhId = p.dhId ∧
    u = p.use p.caller side

namespace RecoverEnv

variable {L L' : Type} {env : RecoverEnv} {t : DHType} {side : HardwareSide} {p : HardwareParam}
  {m : LoggedManager L L'} {dhId dhId' : String} {u u' : HardwareUse}

theorem makes_iff (h : IsRecoverTask env t side p) : env.Makes p dhId u ↔
    env.passes side p = true ∧ dhId = p.dhId ∧ u = p.use p.caller side := by
  constructor
  · rintro ⟨side', hside, hp⟩
    obtain rfl : side = side' := Option.some.inj (h.side.symm.trans hside)
    exact hp
  · exact fun hp => ⟨side, h.side, hp⟩

/-- What the task of an active use makes is this use. -/
theorem makes_task (h : u'.IsActive t side) : env.Makes (u'.task dhId') dhId u ↔
    (dhId = dhId' ∧ u = u') ∧ env.admits t u'.networkId dhId' u'.side = true := by
  obtain ⟨rfl, rfl, hactive⟩ := h
  have htask : IsRecoverTask env u'.dhType u'.side (u'.task dhId') :=
    HardwareUse.IsActive.isRecoverTask ⟨rfl, rfl, hactive⟩
  simp only [makes_iff htask, passes, HardwareUse.caller_task, hactive, Bool.true_or,
    Bool.true_and, HardwareUse.dhType_task, HardwareUse.networkId_task, HardwareUse.dhId_task,
    HardwareUse.use_task]
  exact and_comm

/-- What the automatic tasks make. -/
theorem exists_autoTasks_makes_iff : (∃ p ∈ env.autoTasks t, env.Makes p dhId u) ↔
    (u.dhType = t ∧ u.caller.isActive = false) ∧ ∃ p ∈ env.autoTasks t,
      env.starts p u.side = true ∧ env.admits t p.networkId p.dhId u.side = true ∧
        dhId = p.dhId ∧ u = p.use autoCaller u.side := by
  constructor
  · rintro ⟨p, hp, hm⟩
    obtain ⟨hcaller, side, htask⟩ := mem_autoTasks hp
    obtain ⟨hpasses, rfl, rfl⟩ := (makes_iff htask).1 hm
    obtain ⟨hside, ht, hc⟩ := HardwareUse.side_use p p.caller side
    rw [passes, hcaller, htask.dhType, Bool.and_eq_true] at hpasses
    rw [hside, hc, ht, htask.dhType, hcaller]
    exact ⟨⟨rfl, rfl⟩, p, hp, hpasses.1, hpasses.2, rfl, rfl⟩
  · rintro ⟨-, p, hp, hstarts, hadmits, rfl, hu⟩
    obtain ⟨hcaller, side, htask⟩ := mem_autoTasks hp
    have hside : p.side env.dev = some u.side := by
      unfold HardwareParam.side
      rw [hcaller, if_neg (by decide)]
      unfold starts at hstarts
      split at hstarts
      · rename_i hs
        rw [hs, if_neg (of_decide_eq_true hstarts).1]
      · rename_i hs
        rw [hs, if_pos (of_decide_eq_true hstarts).1]
    refine ⟨p, hp, u.side, hside, ?_, rfl, hcaller ▸ hu⟩
    rw [passes, hstarts, htask.dhType, hadmits, Bool.or_true, Bool.true_and]

/-- Executing a task adds what it makes. -/
theorem enabled_registerHardware (h : IsRecoverTask env t side p) :
    (registerHardware env.dev env.answers p m).2.Enabled dhId u ↔
      m.Enabled dhId u ∨ env.Makes p dhId u := by
  have hr := registerHardware_recovers (m := m) h
  rw [makes_iff h]
  split_ifs at hr with hp
  · rw [hr.2, and_iff_right hp]
    cases side with
    | source => exact ComponentOp.enabled_of_enableSource hr.1 dhId u
    | sink => exact ComponentOp.enabled_of_enableSink hr.1 dhId u
  · rw [hr]
    exact (or_iff_left fun hm => hp hm.1).symm

end RecoverEnv

/-! ## The counts of a source type -/

/-- The hardware with a count was enabled once, without parameters, the rest was not, and what
has an enabled caller has a count, where its caller does not await its task. -/
structure Recounted {L : Type} (t : DHType) (awaits : Bool → Bool) (s : DHSourceStatus L)
    (w : SourceLog) : Prop where
  counted : ∀ k, s.refEnable k = 0 ∧ w.params t k = [] ∨ 0 < s.refEnable k ∧ w.params t k = [""]
  used : ∀ k c, s.enableState k c = .ENABLED → awaits c.isActive = true ∨ 0 < s.refEnable k

namespace Recounted

variable {L : Type} {t : DHType} {awaits awaits' : Bool → Bool} {s : DHSourceStatus L}
  {w : SourceLog}

/-- After the reset the active callers await their tasks. -/
theorem of_reset (h : w.enabled = []) : Recounted t id s.resetEnableStatus w where
  counted k := .inl ⟨s.refEnable_resetEnableStatus k, by rw [SourceLog.params, h]; rfl⟩
  used k c hc := by
    rw [DHStatus.enableState_resetEnableStatus] at hc
    split_ifs at hc with hactive
    exact .inl hactive

/-- Once the active callers are disabled no caller awaits anything. -/
theorem recover (h : Recounted t id s w) :
    Recounted t awaits s.recoverActiveEnable w where
  counted k := by
    rw [DHStatus.refEnable_recoverActiveEnable]
    exact h.counted k
  used k c hc := by
    rw [DHStatus.enableState_recoverActiveEnable] at hc
    rw [DHStatus.refEnable_recoverActiveEnable]
    split_ifs at hc with hactive
    exact .inr ((h.used k c hc).resolve_left hactive)

/-- It is kept where a caller is enabled and its hardware counted. -/
theorem write (h : Recounted t awaits s w) {k : DHStatusSourceEnableInfoKey}
    {caller : DHStatusCtrlKey} {re rl : Int} {w' : SourceLog}
    (hcount : re = 0 ∧ w'.params t k = [] ∨ 0 < re ∧ w'.params t k = [""])
    (hle : s.refEnable k ≤ re) (hcaller : awaits caller.isActive = true ∨ 0 < re)
    (hw : ∀ k', k' ≠ k → w'.params t k' = w.params t k') :
    Recounted t awaits (s.write k caller .ENABLED re rl) w' where
  counted k' := by
    rw [DHStatus.refEnable_write]
    split_ifs with hk
    · exact hk ▸ hcount
    · exact hw k' hk ▸ h.counted k'
  used k' c hc := by
    rw [DHStatus.refEnable_write]
    split_ifs with hk
    · subst hk
      rcases DHStatus.enabled_write_iff.1 hc with hc | ⟨-, rfl⟩
      · exact (h.used k' c hc).imp_right fun hpos => hpos.trans_le hle
      · exact hcaller
    · rcases DHStatus.enabled_write_iff.1 hc with hc | ⟨hk', -⟩
      · exact h.used k' c hc
      · exact absurd hk' hk

/-- An enable without parameters whose calls succeed keeps it. -/
theorem enable (h : Recounted t awaits s w) {networkId uuid : String} {d : DHDescriptor}
    (ht : d.dhType = t) (hparams : d.customParams = "") (caller : DHStatusCtrlKey) :
    let r := enableSourceStatus ({} : SourceOutcome).logCalls networkId uuid d caller s w
    Recounted t awaits r.2.1 r.2.2 := by
  intro r
  obtain ⟨-, ⟨hstate, hr⟩ | ⟨hcount, hr⟩ | ⟨hzero, refLoad, w', hr, hw⟩⟩ :=
    (enableSourceStatus_succeeding s : r.1 = DH_FWK_SUCCESS ∧ _)
  all_goals
    rw [show r.2 = _ from hr]
  · rw [DHStatus.touch, hstate]
    exact h.write (h.counted _) le_rfl (h.used _ _ hstate) fun _ _ => rfl
  · obtain ⟨hpos, hone⟩ := (h.counted _).resolve_left fun hz => hcount hz.1
    exact h.write (.inr ⟨by omega, hone⟩) (by omega) (.inr (by omega)) fun _ _ => rfl
  · obtain ⟨-, hnil⟩ := (h.counted _).resolve_right fun hp => hp.1.ne' hzero
    have happend : ∀ k', w'.params t k' = w.params t k' ++
        (if k' = ⟨networkId, d.id⟩ then [""] else []) := by
      intro k'
      rw [SourceLog.params, hw, List.filter_append, List.map_append, ← ht, hparams]
      split_ifs with hk'
      · simp [SourceLog.params, hk']
      · simp [SourceLog.params, Ne.symm hk']
    refine h.write (.inr ⟨one_pos, ?_⟩) (hzero ▸ zero_le_one) (.inr one_pos) fun k' hk' => ?_
    · rw [happend, hnil, if_pos rfl]
      rfl
    · rw [happend, if_neg hk', List.append_nil]

/-- Executing a task keeps it. -/
theorem registerHardware {L' : Type} {env : RecoverEnv} {side : HardwareSide} {p : HardwareParam}
    {m : LoggedManager L L'} (h : Recounted t awaits (m.source.status t) m.source.world)
    (htask : IsRecoverTask env t side p) :
    let m' := (registerHardware env.dev env.answers p m).2
    Recounted t awaits (m'.source.status t) m'.source.world := by
  intro m'
  have hr := RecoverEnv.registerHardware_recovers (m := m) htask
  split_ifs at hr with hp
  · have hm' : m' = _ := hr.2
    rw [hm']
    cases side with
    | sink => exact h
    | source =>
      have hcheck : checkEnableSourceParam env.queries p.networkId p.descriptor =
        DH_FWK_SUCCESS := RecoverEnv.admits_source.1 (Bool.and_eq_true_iff.1 hp).2
      have hrun : (env.answers.run m (p.enableOp .source)).2.source = (m.source.put p.dhType <|
          enableSourceStatus ({} : SourceOutcome).logCalls p.networkId
            (env.queries.getUUIDByNetworkId p.networkId) p.descriptor p.caller
            (m.source.status p.dhType) m.source.world).2 := by
        show (m.source.enableSourceInternal env.queries ({} : SourceOutcome).logCalls p.networkId
          p.descriptor p.caller).2 = _
        unfold SourceManager.enableSourceInternal
        dsimp only
        rw [if_neg (not_not.2 hcheck)]
        rfl
      rw [hrun, SourceManager.status_put, if_pos htask.dhType.symm, htask.dhType]
      exact h.enable htask.dhType rfl p.caller
  · have hm' : m' = m := hr
    rw [hm']
    exact h

end Recounted

/-! ## The phases of a recovery -/

namespace RecoverPhase

/-- The callers of type `t` that are still as they were, by side and by whether they are
active. -/
def keeps : RecoverPhase → HardwareSide → Bool → Bool
  | .resetSink, _, _ | .resetSource, .source, _ => true
  | .resetSource, .sink, active | .autoSink, _, active | .autoSource, _, active
  | .activeSink, _, active | .activeSource, .source, active => active
  | .activeSource, .sink, _ | .recovered, _, _ => false

/-- The counts of the source are zeroed. -/
def isReset : RecoverPhase → Bool
  | .resetSink | .resetSource => false
  | _ => true

/-- The tasks that were created. -/
def created {L L' : Type} (env : RecoverEnv) (t : DHType) (m : LoggedManager L L') :
    RecoverPhase → List HardwareParam
  | .resetSink | .resetSource | .autoSink => []
  | .autoSource => env.autoSinkTasks t
  | .activeSink => env.autoTasks t
  | .activeSource => env.autoTasks t ++ activeSinkTasks m.sink t
  | .recovered => env.autoTasks t ++ activeSinkTasks m.sink t ++ activeSourceTasks m.source t

variable {L L' : Type} {env : RecoverEnv} {t : DHType} {m : LoggedManager L L'}

/-- No task is created before the resets are done. -/
theorem created_of_not_isReset {phase : RecoverPhase} (h : phase.isReset = false) :
    phase.created env t m = [] := by
  cases phase with
  | resetSink | resetSource => rfl
  | _ => cases h

/-- What is created is a task of recovery. -/
theorem isRecoverTask_of_mem (phase : RecoverPhase) {p : HardwareParam}
    (h : p ∈ phase.created env t m) : ∃ side, IsRecoverTask env t side p := by
  have hcases : p ∈ env.autoTasks t ∨ p ∈ activeSinkTasks m.sink t ∨
      p ∈ activeSourceTasks m.source t := by
    cases phase with
    | resetSink | resetSource | autoSink => cases h
    | autoSource => exact .inl (List.mem_append_left _ h)
    | activeSink => exact .inl h
    | activeSource => exact (List.mem_append.1 h).imp_right .inl
    | recovered =>
      rcases List.mem_append.1 h with h | h
      · exact (List.mem_append.1 h).imp_right .inl
      · exact .inr (.inr h)
  rcases hcases with hauto | hsink | hsource
  · exact (RecoverEnv.mem_autoTasks hauto).2
  · obtain ⟨dhId, u, hu, -, rfl⟩ := mem_activeSinkTasks.1 hsink
    exact ⟨_, hu.isRecoverTask⟩
  · obtain ⟨dhId, u, hu, -, rfl⟩ := mem_activeSourceTasks.1 hsource
    exact ⟨_, hu.isRecoverTask⟩

end RecoverPhase

/-! ## What the parts of `DoRecover` make of the callers -/

namespace DHStatus

variable {K L : Type} [DecidableEq K] {s : DHStatus K L} {k : K} {c : DHStatusCtrlKey}

theorem enabled_resetEnableStatus_iff : s.resetEnableStatus.enableState k c = .ENABLED ↔
    s.enableState k c = .ENABLED ∧ c.isActive = true := by
  rw [enableState_resetEnableStatus]
  split_ifs with h <;> simp [h]

theorem enabled_recoverActiveEnable_iff : s.recoverActiveEnable.enableState k c = .ENABLED ↔
    s.enableState k c = .ENABLED ∧ c.isActive = false := by
  rw [enableState_recoverActiveEnable]
  split_ifs with h <;> simp [h]

end DHStatus

section parts

variable {L L' W W' : Type} {m m' : ComponentManager L L' W W'} {t : DHType}

/-- The record after the status of a type is updated on the side of the sink. -/
theorem ComponentManager.enabled_of_sink {update : DHSinkStatus L' → DHSinkStatus L'}
    (stays : Bool → Prop) (hsource : m'.source = m.source)
    (hsink : ∀ t', m'.sink.status t' =
      if t' = t then update (m.sink.status t') else m.sink.status t')
    (hupdate : ∀ (s : DHSinkStatus L') k c, (update s).enableState k c = .ENABLED ↔
      s.enableState k c = .ENABLED ∧ stays c.isActive) (dhId : String) (u : HardwareUse) :
    m'.Enabled dhId u ↔
      m.Enabled dhId u ∧ (u.dhType = t → u.side = .sink → stays u.caller.isActive) := by
  cases u with
  | source t' n c =>
    simp [Enabled, hsource, HardwareUse.side]
  | sink t' c =>
    simp only [Enabled, hsink, HardwareUse.dhType, HardwareUse.side, HardwareUse.caller]
    split_ifs with ht <;> simp [ht, hupdate]

/-- The same on the side of the source. -/
theorem ComponentManager.enabled_of_source {update : DHSourceStatus L → DHSourceStatus L}
    (stays : Bool → Prop) (hsink : m'.sink = m.sink)
    (hsource : ∀ t', m'.source.status t' =
      if t' = t then update (m.source.status t') else m.source.status t')
    (hupdate : ∀ (s : DHSourceStatus L) k c, (update s).enableState k c = .ENABLED ↔
      s.enableState k c = .ENABLED ∧ stays c.isActive) (dhId : String) (u : HardwareUse) :
    m'.Enabled dhId u ↔
      m.Enabled dhId u ∧ (u.dhType = t → u.side = .source → stays u.caller.isActive) := by
  cases u with
  | source t' n c =>
    simp only [Enabled, hsource, HardwareUse.dhType, HardwareUse.side, HardwareUse.caller]
    split_ifs with ht <;> simp [ht, hupdate]
  | sink t' c =>
    simp [Enabled, hsink, HardwareUse.side]

end parts

namespace RecoverEnv

variable {L L' : Type} (env : RecoverEnv) (t : DHType) (m : LoggedManager L L') (dhId : String)
  (u : HardwareUse)

theorem enabled_resetSink :
    (env.answers.run m (.sink (.resetSinkEnableStatus t true))).2.Enabled dhId u ↔
      m.Enabled dhId u ∧ (u.dhType = t → u.side = .sink → u.caller.isActive = true) := by
  refine ComponentManager.enabled_of_sink (fun active => active = true) ?_ (fun t' => ?_)
    (fun s k c => DHStatus.enabled_resetEnableStatus_iff) dhId u
  · rfl
  · exact SinkManager.status_resetSinkEnableStatus_eq ..

theorem enabled_resetSource :
    (env.answers.run m (.source (.resetSourceEnableStatus t true))).2.Enabled dhId u ↔
      m.Enabled dhId u ∧ (u.dhType = t → u.side = .source → u.caller.isActive = true) := by
  refine ComponentManager.enabled_of_source (fun active => active = true) ?_ (fun t' => ?_)
    (fun s k c => DHStatus.enabled_resetEnableStatus_iff) dhId u
  · rfl
  · exact SourceManager.status_resetSourceEnableStatus_eq ..

theorem enabled_recoverActiveSink :
    (env.answers.run m (.sink (.recoverActiveEnableSink t))).2.Enabled dhId u ↔
      m.Enabled dhId u ∧ (u.dhType = t → u.side = .sink → u.caller.isActive = false) := by
  refine ComponentManager.enabled_of_sink (fun active => active = false) ?_ (fun t' => ?_)
    (fun s k c => DHStatus.enabled_recoverActiveEnable_iff) dhId u
  · rfl
  · exact SinkManager.status_recoverActiveEnableSink_eq ..

theorem enabled_recoverActiveSource :
    (env.answers.run m (.source (.recoverActiveEnableSource t))).2.Enabled dhId u ↔
      m.Enabled dhId u ∧ (u.dhType = t → u.side = .source → u.caller.isActive = false) := by
  refine ComponentManager.enabled_of_source (fun active => active = false) ?_ (fun t' => ?_)
    (fun s k c => DHStatus.enabled_recoverActiveEnable_iff) dhId u
  · rfl
  · exact SourceManager.status_recoverActiveEnableSource_eq ..

end RecoverEnv

/-! ## A recovery follows its phases -/

/-- A recovery of `m` : its tasks are those created so far, the callers of the type are as they
were where the phase keeps them, with those whose tasks were executed, and the source is counted
anew after its reset. -/
structure Tracks {L L' : Type} (env : RecoverEnv) (t : DHType) (m : LoggedManager L L')
    (s : Recovering L L') : Prop where
  tasks : ∀ p, p ∈ s.tasks ∨ p ∈ s.executed ↔ p ∈ s.phase.created env t m
  enabled : ∀ dhId u, s.manager.Enabled dhId u ↔
    m.Enabled dhId u ∧ (u.dhType = t → s.phase.keeps u.side u.caller.isActive = true) ∨
      ∃ p ∈ s.executed, env.Makes p dhId u
  unlogged : s.phase.isReset = false → s.manager.source.world.enabled = []
  recounted : s.phase.isReset = true → Recounted t (s.phase.keeps .source)
    (s.manager.source.status t) s.manager.source.world

namespace Tracks

variable {L L' : Type} {env : RecoverEnv} {t : DHType} {m : LoggedManager L L'}
  {s : Recovering L L'}

theorem start : Tracks env t m (Recovering.start m) where
  tasks p := by simp [Recovering.start, RecoverPhase.created]
  enabled dhId u := by
    have hquiet : m.quiet.Enabled dhId u ↔ m.Enabled dhId u := by cases u <;> exact Iff.rfl
    simp [Recovering.start, RecoverPhase.keeps, hquiet]
  unlogged _ := rfl
  recounted h := absurd h Bool.false_ne_true

/-- A task that was pushed is one of recovery, on one side. -/
theorem isRecoverTask (h : Tracks env t m s) {p : HardwareParam}
    (hp : p ∈ s.tasks ∨ p ∈ s.executed) : ∃ side, IsRecoverTask env t side p :=
  s.phase.isRecoverTask_of_mem ((h.tasks p).1 hp)

theorem execute (h : Tracks env t m s) (k : ℕ) : Tracks env t m (s.step env t (.execute k)) := by
  simp only [Recovering.step]
  cases hk : s.tasks[k]? with
  | none => exact h
  | some p =>
    obtain ⟨hlt, hget⟩ := List.getElem?_eq_some_iff.1 hk
    obtain ⟨side, htask⟩ := h.isRecoverTask (.inl (hget ▸ List.getElem_mem hlt))
    have hperm : ∀ q, q ∈ s.tasks ↔ q = p ∨ q ∈ s.tasks.eraseIdx k := fun q => by
      rw [← (List.getElem_cons_eraseIdx_perm hlt).mem_iff, List.mem_cons, hget]
    refine ⟨fun q => ?_, fun dhId u => ?_, fun hphase => ?_, fun hphase => ?_⟩
    · rw [← h.tasks q, hperm q]
      simp only [List.mem_append, List.mem_singleton]
      tauto
    · rw [RecoverEnv.enabled_registerHardware htask, h.enabled]
      simp only [List.mem_append, List.mem_singleton, or_and_right, exists_or, exists_eq_left,
        or_assoc]
    · have hp := (h.tasks p).1 (.inl (hget ▸ List.getElem_mem hlt))
      rw [RecoverPhase.created_of_not_isReset hphase] at hp
      exact absurd hp List.not_mem_nil
    · exact (h.recounted hphase).registerHardware htask

/-- What an automatic task makes is the use of no active caller. -/
theorem isActive_of_autoTasks {p : HardwareParam} {dhId : String} {u : HardwareUse}
    (hp : p ∈ env.autoTasks t) (hm : env.Makes p dhId u) : u.caller.isActive = false :=
  (RecoverEnv.exists_autoTasks_makes_iff.1 ⟨p, hp, hm⟩).1.2

/-- What the task of an active caller of a sink makes is the use of a sink. -/
theorem side_of_activeSinkTasks {p : HardwareParam} {dhId : String} {u : HardwareUse}
    (hp : p ∈ activeSinkTasks m.sink t) (hm : env.Makes p dhId u) : u.side = .sink := by
  obtain ⟨dhId', u', hu, -, rfl⟩ := mem_activeSinkTasks.1 hp
  obtain ⟨⟨-, rfl⟩, -⟩ := (RecoverEnv.makes_task hu).1 hm
  exact hu.2.1

/-- The callers after a part of `DoRecover` that lets only some of them stay. -/
theorem enabled_of_stays (h : Tracks env t m s) {m' : LoggedManager L L'} {phase : RecoverPhase}
    (stays : HardwareSide → Bool → Prop)
    (hm' : ∀ dhId u, m'.Enabled dhId u ↔
      s.manager.Enabled dhId u ∧ (u.dhType = t → stays u.side u.caller.isActive))
    (hkeeps : ∀ side active, phase.keeps side active = true ↔
      s.phase.keeps side active = true ∧ stays side active)
    (hmade : ∀ p ∈ s.executed, ∀ dhId u, env.Makes p dhId u → stays u.side u.caller.isActive)
    (dhId : String) (u : HardwareUse) :
    m'.Enabled dhId u ↔
      m.Enabled dhId u ∧ (u.dhType = t → phase.keeps u.side u.caller.isActive = true) ∨
        ∃ p ∈ s.executed, env.Makes p dhId u := by
  rw [hm', h.enabled, or_and_right, and_assoc, hkeeps, forall_and]
  refine or_congr_right (and_iff_left_of_imp ?_)
  rintro ⟨p, hp, hmakes⟩ -
  exact hmade p hp dhId u hmakes

/-- Where the phase keeps a use, and no task that was executed makes it, it is as it was. -/
theorem enabled_iff_of_keeps (h : Tracks env t m s) {dhId : String} {u : HardwareUse}
    (hkeeps : s.phase.keeps u.side u.caller.isActive = true)
    (hmade : ∀ p ∈ s.executed, ¬env.Makes p dhId u) :
    s.manager.Enabled dhId u ↔ m.Enabled dhId u := by
  rw [h.enabled, or_iff_left, and_iff_left fun _ => hkeeps]
  rintro ⟨p, hp, hm⟩
  exact hmade p hp hm

/-- Before the resets are done nothing is executed. -/
theorem executed_eq_nil (h : Tracks env t m s) (hphase : s.phase.isReset = false) :
    s.executed = [] := by
  refine List.eq_nil_iff_forall_not_mem.2 fun p hp => ?_
  have hmem := (h.tasks p).1 (.inr hp)
  rw [RecoverPhase.created_of_not_isReset hphase] at hmem
  exact List.not_mem_nil hmem

section phases

variable {manager : LoggedManager L L'} {tasks executed : List HardwareParam}

theorem resetSink (h : Tracks env t m ⟨manager, .resetSink, tasks, executed⟩) :
    Tracks env t m (Recovering.doRecover env t ⟨manager, .resetSink, tasks, executed⟩) := by
  obtain rfl : executed = [] := h.executed_eq_nil rfl
  have hkeeps : ∀ side active, RecoverPhase.keeps .resetSource side active = true ↔
      RecoverPhase.keeps .resetSink side active = true ∧ (side = .sink → active = true) := by
    intro side active
    cases side <;> simp [RecoverPhase.keeps]
  exact ⟨h.tasks, h.enabled_of_stays (fun side active => side = .sink → active = true)
    (env.enabled_resetSink t manager) hkeeps fun p hp => absurd hp List.not_mem_nil,
    h.unlogged, h.recounted⟩

theorem resetSource (h : Tracks env t m ⟨manager, .resetSource, tasks, executed⟩) :
    Tracks env t m (Recovering.doRecover env t ⟨manager, .resetSource, tasks, executed⟩) := by
  obtain rfl : executed = [] := h.executed_eq_nil rfl
  have hkeeps : ∀ side active, RecoverPhase.keeps .autoSink side active = true ↔
      RecoverPhase.keeps .resetSource side active = true ∧ (side = .source → active = true) := by
    intro side active
    cases side <;> simp [RecoverPhase.keeps]
  refine ⟨h.tasks, h.enabled_of_stays (fun side active => side = .source → active = true)
    (env.enabled_resetSource t manager) hkeeps fun p hp => absurd hp List.not_mem_nil,
    fun hreset => Bool.noConfusion hreset, fun _ => ?_⟩
  have hstatus := manager.source.status_resetSourceEnableStatus env.answers.sourceCalls t true
  have hworld := manager.source.world_resetSourceEnableStatus env.answers.sourceCalls t true
  show Recounted t id
    ((manager.source.resetSourceEnableStatus env.answers.sourceCalls t true).status t)
    (manager.source.resetSourceEnableStatus env.answers.sourceCalls t true).world
  rw [hstatus, hworld]
  exact .of_reset (h.unlogged rfl)

theorem autoSink (h : Tracks env t m ⟨manager, .autoSink, tasks, executed⟩) :
    Tracks env t m (Recovering.doRecover env t ⟨manager, .autoSink, tasks, executed⟩) := by
  refine ⟨fun p => ?_, h.enabled, h.unlogged, h.recounted⟩
  have htasks : p ∈ tasks ∨ p ∈ executed ↔ p ∈ [] := h.tasks p
  show p ∈ tasks ++ env.autoSinkTasks t ∨ p ∈ executed ↔ p ∈ env.autoSinkTasks t
  rw [List.mem_append, or_right_comm, htasks, or_iff_right List.not_mem_nil]

theorem autoSource (h : Tracks env t m ⟨manager, .autoSource, tasks, executed⟩) :
    Tracks env t m (Recovering.doRecover env t ⟨manager, .autoSource, tasks, executed⟩) := by
  refine ⟨fun p => ?_, h.enabled, h.unlogged, h.recounted⟩
  have htasks : p ∈ tasks ∨ p ∈ executed ↔ p ∈ env.autoSinkTasks t := h.tasks p
  show p ∈ tasks ++ env.autoSourceTasks t ∨ p ∈ executed ↔ p ∈ env.autoTasks t
  rw [List.mem_append, or_right_comm, htasks, RecoverEnv.autoTasks, List.mem_append]

/-- The tasks for the sinks are those of the active callers from before : the automatic tasks that
may be executed by now are of no active caller. -/
theorem activeSink (h : Tracks env t m ⟨manager, .activeSink, tasks, executed⟩) :
    Tracks env t m (Recovering.doRecover env t ⟨manager, .activeSink, tasks, executed⟩) := by
  have hmade : ∀ p ∈ executed, ∀ dhId u, env.Makes p dhId u → u.caller.isActive = false :=
    fun p hp dhId u => isActive_of_autoTasks ((h.tasks p).1 (.inr hp))
  have hkeeps : ∀ side active, RecoverPhase.keeps .activeSource side active = true ↔
      RecoverPhase.keeps .activeSink side active = true ∧ (side = .sink → active = false) := by
    intro side active
    cases side <;> cases active <;> simp [RecoverPhase.keeps]
  refine ⟨fun p => ?_, h.enabled_of_stays (fun side active => side = .sink → active = false)
    (env.enabled_recoverActiveSink t manager) hkeeps fun p hp dhId u hm _ => hmade p hp dhId u hm,
    h.unlogged, h.recounted⟩
  have htasks : p ∈ tasks ∨ p ∈ executed ↔ p ∈ env.autoTasks t := h.tasks p
  have hsame : p ∈ activeSinkTasks manager.sink t ↔ p ∈ activeSinkTasks m.sink t := by
    rw [mem_activeSinkTasks, mem_activeSinkTasks]
    refine exists_congr fun dhId => exists_congr fun u => and_congr_right fun hu => ?_
    rw [h.enabled_iff_of_keeps hu.2.2]
    intro q hq hm
    exact Bool.false_ne_true ((hmade q hq dhId u hm).symm.trans hu.2.2)
  show p ∈ tasks ++ activeSinkTasks manager.sink t ∨ p ∈ executed ↔
    p ∈ env.autoTasks t ++ activeSinkTasks m.sink t
  rw [List.mem_append, or_right_comm, htasks, hsame, List.mem_append]

/-- The same for the sources, where the tasks of active callers that may be executed by now are
for sinks. -/
theorem activeSource (h : Tracks env t m ⟨manager, .activeSource, tasks, executed⟩) :
    Tracks env t m (Recovering.doRecover env t ⟨manager, .activeSource, tasks, executed⟩) := by
  have hmade : ∀ p ∈ executed, ∀ dhId u, env.Makes p dhId u → u.side = .source →
      u.caller.isActive = false := by
    intro p hp dhId u hm hside
    rcases List.mem_append.1 ((h.tasks p).1 (.inr hp)) with hauto | hsink
    · exact isActive_of_autoTasks hauto hm
    · exact HardwareSide.noConfusion (hside.symm.trans (side_of_activeSinkTasks hsink hm))
  have hkeeps : ∀ side active, RecoverPhase.keeps .recovered side active = true ↔
      RecoverPhase.keeps .activeSource side active = true ∧ (side = .source → active = false) := by
    intro side active
    cases side <;> cases active <;> simp [RecoverPhase.keeps]
  refine ⟨fun p => ?_, h.enabled_of_stays (fun side active => side = .source → active = false)
    (env.enabled_recoverActiveSource t manager) hkeeps hmade,
    fun hreset => Bool.noConfusion hreset, fun _ => ?_⟩
  · have htasks : p ∈ tasks ∨ p ∈ executed ↔ p ∈ env.autoTasks t ++ activeSinkTasks m.sink t :=
      h.tasks p
    have hsame : p ∈ activeSourceTasks manager.source t ↔ p ∈ activeSourceTasks m.source t := by
      rw [mem_activeSourceTasks, mem_activeSourceTasks]
      refine exists_congr fun dhId => exists_congr fun u => and_congr_right fun hu => ?_
      have hkept : RecoverPhase.keeps .activeSource u.side u.caller.isActive = true := by
        rw [hu.2.1]
        exact hu.2.2
      rw [h.enabled_iff_of_keeps hkept]
      intro q hq hm
      exact Bool.false_ne_true ((hmade q hq dhId u hm hu.2.1).symm.trans hu.2.2)
    show p ∈ tasks ++ activeSourceTasks manager.source t ∨ p ∈ executed ↔
      p ∈ env.autoTasks t ++ activeSinkTasks m.sink t ++ activeSourceTasks m.source t
    rw [List.mem_append, or_right_comm, htasks, hsame, List.mem_append (s := _ ++ _)]
  · have hstatus := manager.source.status_recoverActiveEnableSource t
    have hworld := manager.source.world_recoverActiveEnableSource t
    show Recounted t _ ((manager.source.recoverActiveEnableSource t).status t)
      (manager.source.recoverActiveEnableSource t).world
    rw [hstatus, hworld]
    exact (h.recounted rfl).recover

end phases

theorem doRecover (h : Tracks env t m s) : Tracks env t m (s.doRecover env t) := by
  obtain ⟨manager, phase, tasks, executed⟩ := s
  cases phase with
  | resetSink => exact h.resetSink
  | resetSource => exact h.resetSource
  | autoSink => exact h.autoSink
  | autoSource => exact h.autoSource
  | activeSink => exact h.activeSink
  | activeSource => exact h.activeSource
  | recovered => exact h

/-- What a recovery does in one step keeps it. -/
theorem step (h : Tracks env t m s) (l : RecoverStep) : Tracks env t m (s.step env t l) := by
  cases l with
  | goOn => exact h.doRecover
  | execute k => exact h.execute k

/-- The callers after a whole recovery : those of other types, those whose automatic tasks pass,
and the active ones that pass the checks again. -/
theorem enabled_of_isComplete (h : Tracks env t m s) (hs : s.IsComplete) (dhId : String)
    (u : HardwareUse) : s.manager.Enabled dhId u ↔
      m.Enabled dhId u ∧ u.dhType ≠ t ∨ (∃ p ∈ env.autoTasks t, env.Makes p dhId u) ∨
        u.dhType = t ∧ u.caller.isActive = true ∧ m.Enabled dhId u ∧
          env.admits t u.networkId dhId u.side = true := by
  obtain ⟨hphase, htasks⟩ := hs
  have hexecuted : ∀ p, p ∈ s.executed ↔ p ∈ RecoverPhase.recovered.created env t m := fun p => by
    rw [← hphase, ← h.tasks p, htasks, or_iff_right List.not_mem_nil]
  have hmade : (∃ p ∈ s.executed, env.Makes p dhId u) ↔
      (∃ p ∈ env.autoTasks t, env.Makes p dhId u) ∨ (u.IsActive t .sink ∨ u.IsActive t .source) ∧
        m.Enabled dhId u ∧ env.admits t u.networkId dhId u.side = true := by
    constructor
    · rintro ⟨p, hp, hm⟩
      rcases List.mem_append.1 ((hexecuted p).1 hp) with hp | hsource
      · rcases List.mem_append.1 hp with hauto | hsink
        · exact .inl ⟨p, hauto, hm⟩
        · obtain ⟨dhId', u', hu, henabled, rfl⟩ := mem_activeSinkTasks.1 hsink
          obtain ⟨⟨rfl, rfl⟩, hadmits⟩ := (RecoverEnv.makes_task hu).1 hm
          exact .inr ⟨.inl hu, henabled, hadmits⟩
      · obtain ⟨dhId', u', hu, henabled, rfl⟩ := mem_activeSourceTasks.1 hsource
        obtain ⟨⟨rfl, rfl⟩, hadmits⟩ := (RecoverEnv.makes_task hu).1 hm
        exact .inr ⟨.inr hu, henabled, hadmits⟩
    · rintro (⟨p, hauto, hm⟩ | ⟨hu | hu, henabled, hadmits⟩)
      · exact ⟨p, (hexecuted p).2 (List.mem_append_left _ (List.mem_append_left _ hauto)), hm⟩
      · have hsink := mem_activeSinkTasks.2 ⟨dhId, u, hu, henabled, rfl⟩
        exact ⟨_, (hexecuted _).2 (List.mem_append_left _ (List.mem_append_right _ hsink)),
          (RecoverEnv.makes_task hu).2 ⟨⟨rfl, rfl⟩, hadmits⟩⟩
      · have hsource := mem_activeSourceTasks.2 ⟨dhId, u, hu, henabled, rfl⟩
        exact ⟨_, (hexecuted _).2 (List.mem_append_right _ hsource),
          (RecoverEnv.makes_task hu).2 ⟨⟨rfl, rfl⟩, hadmits⟩⟩
  have hactive : u.IsActive t .sink ∨ u.IsActive t .source ↔
      u.dhType = t ∧ u.caller.isActive = true := by
    unfold HardwareUse.IsActive
    cases u.side <;> simp
  have hkept : (u.dhType = t → RecoverPhase.keeps .recovered u.side u.caller.isActive = true) ↔
      u.dhType ≠ t :=
    forall_congr' fun _ => iff_of_eq (eq_false Bool.false_ne_true)
  rw [h.enabled, hphase, hmade, hactive, hkept, and_assoc]

/-- A whole recovery repeats what was in force exactly if it can. -/
theorem repeats_iff (h : Tracks env t m s) (hs : s.IsComplete) :
    Repeats t m s.manager ↔ Repeatable env t m := by
  have hrecounted := h.recounted (by rw [hs.1]; rfl)
  constructor
  · rintro ⟨hparams, hcallers⟩
    refine ⟨fun k customParams hon => ?_, fun dhId u ht hactive hm => ?_,
      fun dhId u ht hinactive => ?_⟩
    · have honce := hparams k customParams hon
      rcases hrecounted.counted k with ⟨-, hnil⟩ | ⟨-, hone⟩
      · exact absurd (honce.symm.trans hnil) (List.cons_ne_nil _ _)
      · exact List.singleton_inj.1 (honce.symm.trans hone)
    · rcases (h.enabled_of_isComplete hs dhId u).1 ((hcallers dhId u).2 hm) with
        ⟨-, hne⟩ | hauto | ⟨-, -, -, hadmits⟩
      · exact absurd ht hne
      · have hnone := (RecoverEnv.exists_autoTasks_makes_iff.1 hauto).1.2
        exact absurd (hnone.symm.trans hactive) Bool.false_ne_true
      · exact hadmits
    · rw [← hcallers, h.enabled_of_isComplete hs, RecoverEnv.exists_autoTasks_makes_iff]
      simp [ht, hinactive]
  · intro hr
    have hcallers : ∀ dhId u, s.manager.Enabled dhId u ↔ m.Enabled dhId u := by
      intro dhId u
      rw [h.enabled_of_isComplete hs, RecoverEnv.exists_autoTasks_makes_iff]
      by_cases ht : u.dhType = t
      · cases hactive : u.caller.isActive with
        | true => simpa [ht] using hr.active dhId u ht hactive
        | false => simp [ht, hr.auto dhId u ht hactive]
      · simp [ht]
    refine ⟨fun k customParams hon => ?_, hcallers⟩
    obtain ⟨-, c, -, hc⟩ := id hon
    have hstate : (s.manager.source.status t).enableState k c = .ENABLED :=
      (hcallers k.dhId (.source t k.networkId c)).2 hc
    have hpos := (hrecounted.used k c hstate).resolve_left (by rw [hs.1]; exact Bool.false_ne_true)
    rw [hr.params k customParams hon]
    exact ((hrecounted.counted k).resolve_left fun hz => hpos.ne' hz.1).2

end Tracks

/-! ## Whole recoveries -/

/-- A recovery that completes after any run, in any order of its parts and tasks, repeats what was
in force exactly if no hardware of an active caller was on with parameters, the hardware of the
active callers passes the checks again, and the automatic enables that pass are those in force. -/
theorem recovery_repeats_iff {L L' : Type} (env : RecoverEnv) (t : DHType)
    (ops : List LoggedStep) (ls : List RecoverStep)
    (h : (ls.foldl (Recovering.step env t) (Recovering.start
      (ops.foldl LoggedManager.step (LoggedManager.init : LoggedManager L L')))).IsComplete) :
    Repeats t (ops.foldl LoggedManager.step (LoggedManager.init : LoggedManager L L'))
        (ls.foldl (Recovering.step env t) (Recovering.start
          (ops.foldl LoggedManager.step LoggedManager.init))).manager ↔
      Repeatable env t (ops.foldl LoggedManager.step (LoggedManager.init : LoggedManager L L')) := by
  obtain ⟨m, hm⟩ : ∃ m, m = ops.foldl LoggedManager.step (LoggedManager.init : LoggedManager L L') :=
    ⟨_, rfl⟩
  rw [← hm] at h ⊢
  have hstep : ∀ s l, Tracks env t m s → Tracks env t m (s.step env t l) := fun _ l hs => hs.step l
  exact (foldl_invariant hstep ls .start).repeats_iff h

/-- The answers let everything pass, and no meta record is found. -/
def noMetaRecords : RecoverEnv where
  dev := twoDevices
  localNetworkId := "n0"
  localUuid := "u0"
  localUdid := "d0"
  metaCapInfos := []
  globalMetaInfoMap_ := []
  getUUIDByDeviceId _ := ""
  getNetworkIdByUUID _ := ""
  getUDIDByNetworkId _ := ""
  queries := .permissive
  checkSinkConfigStart _ := (DH_FWK_SUCCESS, true)
  checkDemandStart _ _ _ := (DH_FWK_SUCCESS, true)
  appendTokenIdToParams customParams _ := customParams

/-- A process enables a camera with these parameters. -/
def cameraOnWith (customParams : String) : List LoggedStep :=
  [{ op := .source (.enableSource "n1"
      { id := "c", dhType := .CAMERA, customParams := customParams } ⟨1, 1⟩)
     queries := .permissive
     sourceOutcome := {}
     sinkOutcome := {} }]

/-- All parts of `DoRecover`, and the one task. -/
def recoverOne : List RecoverStep :=
  List.replicate 6 .goOn ++ [.execute 0]

theorem recovery_repeats_iff_camera :
    let m : LoggedManager Unit Unit := (cameraOnWith "").foldl LoggedManager.step .init
    Repeats .CAMERA m
      (recoverOne.foldl (Recovering.step noMetaRecords .CAMERA) (Recovering.start m)).manager := by
  intro m
  have henabled : ∀ dhId u, m.Enabled dhId u ↔ dhId = "c" ∧ u = .source .CAMERA "n1" ⟨1, 1⟩ := by
    intro dhId u
    have hinit : ¬ (LoggedManager.init : LoggedManager Unit Unit).Enabled dhId u := by
      cases u with
      | source => exact (by decide : ¬ EnableState.DISABLED = .ENABLED)
      | sink => exact (by decide : ¬ EnableState.DISABLED = .ENABLED)
    exact (ComponentOp.enabled_of_enableSource (by decide +kernel) dhId u).trans
      (or_iff_right hinit)
  refine (recovery_repeats_iff noMetaRecords .CAMERA (cameraOnWith "") recoverOne
    (by decide +kernel)).2 ⟨?_, ?_, ?_⟩
  · rintro k customParams ⟨hforce, -⟩
    have hcamera : m.source.world.inForce .CAMERA k = if DHType.CAMERA = DHType.CAMERA ∧
        k = ⟨"n1", "c"⟩ then some ⟨true, ""⟩ else none := rfl
    rw [hcamera] at hforce
    split_ifs at hforce
    cases hforce
    rfl
  · intro dhId u ht hactive hm
    obtain ⟨rfl, rfl⟩ := (henabled dhId u).1 hm
    decide
  · intro dhId u ht hinactive
    refine iff_of_false (fun hm => ?_) ?_
    · obtain ⟨-, rfl⟩ := (henabled dhId u).1 hm
      exact absurd hinactive (by decide)
    · rintro ⟨p, hp, -⟩
      cases hp

/-- The camera is on with a token id, and is enabled again without one. -/
theorem recovery_loses_params :
    let params := "\x7b\"tokenId\":7\x7d"
    let m : LoggedManager Unit Unit := (cameraOnWith params).foldl LoggedManager.step .init
    let s := recoverOne.foldl (Recovering.step noMetaRecords .CAMERA) (Recovering.start m)
    m.OnFor .CAMERA ⟨"n1", "c"⟩ params ∧ s.IsComplete ∧
      s.manager.source.world.params .CAMERA ⟨"n1", "c"⟩ = [""] ∧
      ¬ Repeats .CAMERA m s.manager := by
  intro params m s
  have hon : m.OnFor .CAMERA ⟨"n1", "c"⟩ params :=
    ⟨by decide +kernel, ⟨1, 1⟩, by decide, by decide +kernel⟩
  have hparams : s.manager.source.world.params .CAMERA ⟨"n1", "c"⟩ = [""] := by decide +kernel
  refine ⟨hon, by decide +kernel, hparams, fun h => ?_⟩
  exact absurd ((h.enabled _ _ hon).symm.trans hparams) (by decide)

end DHFwk
