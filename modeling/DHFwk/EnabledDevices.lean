import DHFwk.CapabilityKey
import DHFwk.DeviceLife
import DHFwk.FailedCalls

/-!
# The record of enabled devices

`TaskBoard` keeps a record of the hardware that `EnableTask` enabled and `DisableTask`
disabled, for the handlers of the store that ask `IsEnabledDevice`. The component manager
keeps its own, by networkId and by caller. `Agrees` says that a piece of hardware is recorded
exactly if some caller has it enabled.

The two are written apart : the record by the uuid that the task carries and the code that
its last call returned, the manager by what each call does. `Agreeing` says when a task leaves
them in agreement, and a run of such tasks does (`enabledDevices_agree`). The tasks of the
callers of the service carry no uuid, a task that disables takes the record of other callers
with it, and an automatic one for a local sink takes it without disabling anything
(`enabledDevices_disagree`).
-/

set_option linter.unusedSectionVars false

namespace DHFwk

open Runs

abbrev ERR_DH_FWK_COMPONENT_NO_NEED_ENABLE : Int := -10014

/-! ## Devices -/

/-- The uuid that is known for a networkId, the ids of the local device, and the digest of a
uuid : hex digits, and different ones for the devices at hand. -/
structure Devices where
  localUdid : String
  localUuid : String
  uuidByNetworkId : String → String
  sha256 : String → String
  hex : ∀ uuid, '#' ∉ (sha256 uuid).toList
  inj : ∀ uuid uuid', (uuid = localUuid ∨ ∃ networkId, uuidByNetworkId networkId = uuid) →
    (uuid' = localUuid ∨ ∃ networkId, uuidByNetworkId networkId = uuid') →
    sha256 uuid = sha256 uuid' → uuid = uuid'

namespace Devices

/-- A uuid of a device at hand. -/
def IsDevice (dev : Devices) (uuid : String) : Prop :=
  isIdLengthValid uuid = true ∧
    (uuid = dev.localUuid ∨ ∃ networkId, dev.uuidByNetworkId networkId = uuid)

/-- `GetDeviceIdByUUID`. -/
def getDeviceIdByUUID (dev : Devices) (uuid : String) : String :=
  if isIdLengthValid uuid then dev.sha256 uuid else ""

/-- The key of the record of a piece of hardware. -/
def key (dev : Devices) (uuid dhId : String) : String :=
  getCapabilityKey (dev.getDeviceIdByUUID uuid) dhId

/-- The records of two devices share no key. -/
theorem key_inj (dev : Devices) {uuid uuid' dhId dhId' : String} (h : dev.IsDevice uuid)
    (h' : dev.IsDevice uuid') (hkey : dev.key uuid dhId = dev.key uuid' dhId') :
    uuid = uuid' ∧ dhId = dhId' := by
  unfold key getDeviceIdByUUID at hkey
  rw [if_pos h.1, if_pos h'.1] at hkey
  obtain ⟨hsha, hdhId⟩ := getCapabilityKey_inj (dev.hex uuid) (dev.hex uuid') hkey
  exact ⟨dev.inj uuid uuid' h.2 h'.2 hsha, hdhId⟩

end Devices

/-! ## Tasks -/

/-- `TaskParam`, as `EnableTask` and `DisableTask` use it. -/
structure HardwareParam where
  networkId : String := ""
  uuid : String := ""
  udid : String := ""
  dhId : String
  dhType : DHType
  effectSink : Bool := false
  effectSource : Bool := false
  callingUid : Int := 0
  callingPid : Int := 0
  firstCallingTokenId : ℕ := 0
  customParams : String := ""
  deriving DecidableEq, Repr

/-- The calling process. -/
def HardwareParam.caller (p : HardwareParam) : DHStatusCtrlKey :=
  { uid := p.callingUid, pid := p.callingPid }

/-- The descriptor that a task hands over without parameters. -/
def HardwareParam.descriptor (p : HardwareParam) : DHDescriptor :=
  { id := p.dhId, dhType := p.dhType }

inductive HardwareTask
  | enable (p : HardwareParam)
  | disable (p : HardwareParam)
  deriving DecidableEq, Repr

/-- What a task is told while it runs. -/
structure TaskAnswers (W W' : Type) where
  queries : Queries
  sourceCalls : SourceCalls W
  sinkCalls : SinkCalls W'
  checkSinkConfigStart : DHType → Int × Bool
  checkDemandStart : (udid uuid : String) → DHType → Int × Bool
  appendTokenIdToParams : (customParams : String) → (firstCallingTokenId : ℕ) → String
  /-- No device is online, and none of another system is connected. -/
  isDeserted : Bool

section tasks

variable {L L' W W' : Type} (dev : Devices) (a : TaskAnswers W W') (p : HardwareParam)
  (m : ComponentManager L L' W W')

/-- An operation of the component manager, with the answers at hand. -/
def TaskAnswers.run (op : ComponentOp) : Int × ComponentManager L L' W W' :=
  op.run a.queries a.sourceCalls a.sinkCalls m

/-- `EnableTask::DoAutoEnable`. -/
def doAutoEnable : Int × ComponentManager L L' W W' :=
  if dev.localUdid = p.udid then
    let (ret, enableSink) := a.checkSinkConfigStart p.dhType
    if ret ≠ DH_FWK_SUCCESS then (ret, m)
    else if ¬enableSink then (ERR_DH_FWK_COMPONENT_NO_NEED_ENABLE, m)
    else a.run m (.sink (.enableSink p.descriptor p.caller))
  else
    let (ret, enableSource) := a.checkDemandStart p.udid p.uuid p.dhType
    if ret ≠ DH_FWK_SUCCESS then (ret, m)
    else if ¬enableSource then (ERR_DH_FWK_COMPONENT_NO_NEED_ENABLE, m)
    else
      let d : DHDescriptor := { p.descriptor with customParams := p.customParams }
      a.run m (.source (.enableSource p.networkId d p.caller))

/-- `EnableTask::DoActiveEnable` : the code of the source replaces that of the sink. -/
def doActiveEnable : Int × ComponentManager L L' W W' :=
  let customParams := if p.firstCallingTokenId ≠ 0 then
    a.appendTokenIdToParams p.customParams p.firstCallingTokenId else p.customParams
  let d : DHDescriptor := { p.descriptor with customParams := customParams }
  let r := if p.effectSink then a.run m (.sink (.enableSink d p.caller)) else (DH_FWK_SUCCESS, m)
  if ¬p.effectSource then r
  else a.run r.2 (.source (.enableSource p.networkId d p.caller))

/-- `EnableTask::RegisterHardware`. -/
def registerHardware : Int × ComponentManager L L' W W' :=
  if p.caller.isActive then doActiveEnable a p m else doAutoEnable dev a p m

/-- `ForceDisableSource`. -/
def forceDisableSource : Int × ComponentManager L L' W W' :=
  if ¬a.queries.isDHTypeSupport p.dhType then (ERR_DH_FWK_TYPE_NOT_EXIST, m)
  else a.run m (.source (.forceDisableSource p.networkId p.descriptor))

/-- `DisableTask::DoAutoDisable`. -/
def doAutoDisable : Int × ComponentManager L L' W W' :=
  if dev.localUdid = p.udid then
    if a.isDeserted then a.run m (.sink (.forceDisableSink p.descriptor)) else (DH_FWK_SUCCESS, m)
  else forceDisableSource a p m

/-- `DisableTask::DoActiveDisable` : the code of the source replaces that of the sink. -/
def doActiveDisable : Int × ComponentManager L L' W W' :=
  let r := if p.effectSink then a.run m (.sink (.disableSink p.descriptor p.caller))
    else (DH_FWK_SUCCESS, m)
  if ¬p.effectSource then r
  else a.run r.2 (.source (.disableSource p.networkId p.descriptor p.caller))

/-- `DisableTask::UnRegisterHardware`. -/
def unRegisterHardware : Int × ComponentManager L L' W W' :=
  if p.caller.isActive then doActiveDisable a p m else doAutoDisable dev a p m

end tasks

/-- `TaskBoard::enabledDevices_` and the component manager. -/
structure EnabledDevices (L L' W W' : Type) where
  manager : ComponentManager L L' W W'
  enabledDevices_ : Table String HardwareParam := ∅

/-- A task with what it is told. -/
structure TaskRun (W W' : Type) where
  task : HardwareTask
  answers : TaskAnswers W W'

namespace EnabledDevices

variable {L L' W W' : Type} {dev : Devices} {s : EnabledDevices L L' W W'}

/-- `TaskBoard::IsEnabledDevice`. -/
def isEnabledDevice (s : EnabledDevices L L' W W') (enabledDeviceKey : String) : Bool :=
  (s.enabledDevices_.lookup enabledDeviceKey).isSome

/-- What `EnableTask::DoTaskInner` saves. -/
def saved (p : HardwareParam) : HardwareParam :=
  { networkId := p.networkId, uuid := p.uuid, udid := p.udid, dhId := p.dhId, dhType := p.dhType }

/-- `EnableTask::DoTaskInner`. -/
def enableTask (dev : Devices) (a : TaskAnswers W W') (p : HardwareParam)
    (s : EnabledDevices L L' W W') : EnabledDevices L L' W W' :=
  let (result, manager) := registerHardware dev a p s.manager
  { manager := manager
    enabledDevices_ := if result = DH_FWK_SUCCESS then
      s.enabledDevices_.set (dev.key p.uuid p.dhId) (saved p) else s.enabledDevices_ }

/-- `DisableTask::DoTaskInner`. -/
def disableTask (dev : Devices) (a : TaskAnswers W W') (p : HardwareParam)
    (s : EnabledDevices L L' W W') : EnabledDevices L L' W W' :=
  let (result, manager) := unRegisterHardware dev a p s.manager
  { manager := manager
    enabledDevices_ := if result = DH_FWK_SUCCESS then
      s.enabledDevices_.remove (dev.key p.uuid p.dhId) else s.enabledDevices_ }

/-- A task runs. -/
def step (dev : Devices) (s : EnabledDevices L L' W W') (l : TaskRun W W') :
    EnabledDevices L L' W W' :=
  match l.task with
  | .enable p => enableTask dev l.answers p s
  | .disable p => disableTask dev l.answers p s

end EnabledDevices

/-! ## Hardware in use -/

/-- A caller of a source or of a sink. -/
inductive HardwareUse
  | source (dhType : DHType) (networkId : String) (caller : DHStatusCtrlKey)
  | sink (dhType : DHType) (caller : DHStatusCtrlKey)
  deriving DecidableEq, Repr

/-- The device whose hardware is used. -/
def HardwareUse.uuid (dev : Devices) : HardwareUse → String
  | .source _ networkId _ => dev.uuidByNetworkId networkId
  | .sink _ _ => dev.localUuid

/-- The caller has the hardware of this id enabled. -/
def ComponentManager.Enabled {L L' W W' : Type} (m : ComponentManager L L' W W')
    (dhId : String) : HardwareUse → Prop
  | .source dhType networkId caller =>
    (m.source.status dhType).enableState { networkId := networkId, dhId := dhId } caller = .ENABLED
  | .sink dhType caller => (m.sink.status dhType).enableState dhId caller = .ENABLED

namespace EnabledDevices

variable {L L' W W' : Type}

/-- Some caller has the hardware of the device enabled. -/
def InUse (dev : Devices) (s : EnabledDevices L L' W W') (uuid dhId : String) : Prop :=
  ∃ u : HardwareUse, u.uuid dev = uuid ∧ s.manager.Enabled dhId u

/-- The hardware of every device is recorded exactly if it is in use. -/
def Agrees (dev : Devices) (s : EnabledDevices L L' W W') : Prop :=
  ∀ uuid dhId, dev.IsDevice uuid →
    (s.isEnabledDevice (dev.key uuid dhId) = true ↔ s.InUse dev uuid dhId)

end EnabledDevices

/-! ## What the operations make of it -/

namespace DHStatus

variable {K L : Type} [DecidableEq K] {s : DHStatus K L} {k k' : K} {c c' : DHStatusCtrlKey}
  {re rl : Int}

theorem enabled_write_iff : (s.write k c .ENABLED re rl).enableState k' c' = .ENABLED ↔
    s.enableState k' c' = .ENABLED ∨ k' = k ∧ c' = c := by
  rw [enableState_write]
  split_ifs with h <;> simp [h]

theorem disabled_write_iff : (s.write k c .DISABLED re rl).enableState k' c' = .ENABLED ↔
    s.enableState k' c' = .ENABLED ∧ ¬(k' = k ∧ c' = c) := by
  rw [enableState_write]
  split_ifs with h <;> simp [h]

theorem enabled_drop_iff : (s.drop k).enableState k' c' = .ENABLED ↔
    s.enableState k' c' = .ENABLED ∧ k' ≠ k := by
  rw [enableState_drop]
  split_ifs with h <;> simp [h]

variable {W : Type} {calls : Call W} {kept : DHStatus K L} {w : W}

theorem settle_enabled_iff
    (h : (settle calls kept (s.write k c .ENABLED re rl) w).1 = DH_FWK_SUCCESS) :
    (settle calls kept (s.write k c .ENABLED re rl) w).2.1.enableState k' c' = .ENABLED ↔
      s.enableState k' c' = .ENABLED ∨ k' = k ∧ c' = c := by
  have hcalls : (calls w).1 = DH_FWK_SUCCESS := h
  rw [settle_status_of_success hcalls]
  exact enabled_write_iff

theorem settle_disabled_iff
    (h : (settle calls kept (s.write k c .DISABLED re rl) w).1 = DH_FWK_SUCCESS) :
    (settle calls kept (s.write k c .DISABLED re rl) w).2.1.enableState k' c' = .ENABLED ↔
      s.enableState k' c' = .ENABLED ∧ ¬(k' = k ∧ c' = c) := by
  have hcalls : (calls w).1 = DH_FWK_SUCCESS := h
  rw [settle_status_of_success hcalls]
  exact disabled_write_iff

theorem settle_dropped_iff :
    (settle calls (s.drop k) (s.drop k) w).2.1.enableState k' c' = .ENABLED ↔
      s.enableState k' c' = .ENABLED ∧ k' ≠ k := by
  have hs : (settle calls (s.drop k) (s.drop k) w).2.1 = s.drop k := ite_self _
  rw [hs]
  exact enabled_drop_iff

end DHStatus

section statuses

variable {L W : Type} {q : Queries} {networkId uuid : String} {d : DHDescriptor}
  {caller c' : DHStatusCtrlKey} {w : W}

theorem enableSourceStatus_enabled {c : SourceCalls W} {s : DHSourceStatus L}
    {k' : DHStatusSourceEnableInfoKey}
    (h : (enableSourceStatus c networkId uuid d caller s w).1 = DH_FWK_SUCCESS) :
    (enableSourceStatus c networkId uuid d caller s w).2.1.enableState k' c' = .ENABLED ↔
      s.enableState k' c' = .ENABLED ∨ k' = ⟨networkId, d.id⟩ ∧ c' = caller := by
  simp only [enableSourceStatus] at h ⊢
  split_ifs at h ⊢ with he
  · rw [DHStatus.touch, he] at h ⊢
    exact DHStatus.settle_enabled_iff h
  all_goals exact DHStatus.settle_enabled_iff h

theorem disableSourceStatus_enabled {c : SourceCalls W} {s : DHSourceStatus L}
    {k' : DHStatusSourceEnableInfoKey}
    (h : (disableSourceStatus c networkId uuid d caller s w).1 = DH_FWK_SUCCESS) :
    (disableSourceStatus c networkId uuid d caller s w).2.1.enableState k' c' = .ENABLED ↔
      s.enableState k' c' = .ENABLED ∧ ¬(k' = ⟨networkId, d.id⟩ ∧ c' = caller) := by
  simp only [disableSourceStatus] at h ⊢
  split_ifs at h ⊢ with he
  · rw [DHStatus.touch, he] at h ⊢
    exact DHStatus.settle_disabled_iff h
  all_goals exact DHStatus.settle_disabled_iff h

theorem forceDisableSourceStatus_enabled {c : SourceCalls W} {s : DHSourceStatus L}
    {k' : DHStatusSourceEnableInfoKey}
    (h : (forceDisableSourceStatus c networkId uuid d s w).1 = DH_FWK_SUCCESS) :
    (forceDisableSourceStatus c networkId uuid d s w).2.1.enableState k' c' = .ENABLED ↔
      s.enableState k' c' = .ENABLED ∧ k' ≠ ⟨networkId, d.id⟩ := by
  simp only [forceDisableSourceStatus] at h ⊢
  split_ifs at h ⊢ with hd
  · exact absurd h hd
  · exact DHStatus.enabled_drop_iff
  · exact DHStatus.settle_dropped_iff

theorem enableSinkStatus_enabled {c : SinkCalls W} {s : DHSinkStatus L} {k' : String}
    (h : (enableSinkStatus c d caller s w).1 = DH_FWK_SUCCESS) :
    (enableSinkStatus c d caller s w).2.1.enableState k' c' = .ENABLED ↔
      s.enableState k' c' = .ENABLED ∨ k' = d.id ∧ c' = caller := by
  simp only [enableSinkStatus] at h ⊢
  split_ifs at h ⊢ with he
  · rw [DHStatus.touch, he] at h ⊢
    exact DHStatus.settle_enabled_iff h
  all_goals exact DHStatus.settle_enabled_iff h

theorem disableSinkStatus_enabled {c : SinkCalls W} {s : DHSinkStatus L} {k' : String}
    (h : (disableSinkStatus c d caller s w).1 = DH_FWK_SUCCESS) :
    (disableSinkStatus c d caller s w).2.1.enableState k' c' = .ENABLED ↔
      s.enableState k' c' = .ENABLED ∧ ¬(k' = d.id ∧ c' = caller) := by
  simp only [disableSinkStatus] at h ⊢
  split_ifs at h ⊢ with he
  · rw [DHStatus.touch, he] at h ⊢
    exact DHStatus.settle_disabled_iff h
  all_goals exact DHStatus.settle_disabled_iff h

theorem forceDisableSinkStatus_enabled {c : SinkCalls W} {s : DHSinkStatus L} {k' : String} :
    (forceDisableSinkStatus c d s w).2.1.enableState k' c' = .ENABLED ↔
      s.enableState k' c' = .ENABLED ∧ k' ≠ d.id := by
  simp only [forceDisableSinkStatus]
  split_ifs
  all_goals exact DHStatus.settle_dropped_iff

end statuses

/-- An operation takes this use of the hardware of its id away. -/
def ComponentOp.Takes : ComponentOp → HardwareUse → Prop
  | .source (.disableSource networkId d caller), u => u = .source d.dhType networkId caller
  | .source (.forceDisableSource networkId d), u => ∃ c, u = .source d.dhType networkId c
  | .sink (.disableSink d caller), u => u = .sink d.dhType caller
  | .sink (.forceDisableSink d), u => ∃ c, u = .sink d.dhType c
  | _, _ => False

section operations

variable {L L' W W' : Type} {q : Queries} {c : SourceCalls W} {c' : SinkCalls W'}
  {m : ComponentManager L L' W W'} {networkId : String} {d : DHDescriptor}
  {caller : DHStatusCtrlKey}

theorem SourceManager.status_put (m : SourceManager L W) (dhType t : DHType)
    (r : Int × DHSourceStatus L × W) :
    (m.put dhType r).2.status t = if t = dhType then r.2.1 else m.status t :=
  Table.get_set ..

theorem SinkManager.status_put (m : SinkManager L' W') (dhType t : DHType)
    (r : Int × DHSinkStatus L' × W') :
    (m.put dhType r).2.status t = if t = dhType then r.2.1 else m.status t :=
  Table.get_set ..

/-- An enable that succeeds adds its caller. -/
theorem ComponentOp.enabled_of_enableSource
    (h : (ComponentOp.run q c c' m (.source (.enableSource networkId d caller))).1 =
      DH_FWK_SUCCESS) (dhId : String) (u : HardwareUse) :
    (ComponentOp.run q c c' m (.source (.enableSource networkId d caller))).2.Enabled dhId u ↔
      m.Enabled dhId u ∨ dhId = d.id ∧ u = .source d.dhType networkId caller := by
  simp only [ComponentOp.run, SourceOp.run, SourceManager.enableSourceInternal] at h ⊢
  split_ifs at h ⊢ with hp
  · exact absurd h hp
  · cases u with
    | sink t k => simp [ComponentManager.Enabled]
    | source t n k =>
      simp only [ComponentManager.Enabled, SourceManager.status_put]
      split_ifs with ht
      · rw [enableSourceStatus_enabled h, ht]
        simp [and_comm, and_assoc]
      · simp [ht]

theorem ComponentOp.enabled_of_enableSink
    (h : (ComponentOp.run q c c' m (.sink (.enableSink d caller))).1 = DH_FWK_SUCCESS)
    (dhId : String) (u : HardwareUse) :
    (ComponentOp.run q c c' m (.sink (.enableSink d caller))).2.Enabled dhId u ↔
      m.Enabled dhId u ∨ dhId = d.id ∧ u = .sink d.dhType caller := by
  simp only [ComponentOp.run, SinkOp.run, SinkManager.enableSinkInternal] at h ⊢
  split_ifs at h ⊢ with hq hp
  · exact absurd h hp
  · cases u with
    | source t n k => simp [ComponentManager.Enabled]
    | sink t k =>
      simp only [ComponentManager.Enabled, SinkManager.status_put]
      split_ifs with ht
      · rw [enableSinkStatus_enabled h, ht]
        simp
      · simp [ht]
  · cases h

/-- A disable that succeeds takes its uses away. -/
theorem ComponentOp.enabled_of_disableSource
    (h : (ComponentOp.run q c c' m (.source (.disableSource networkId d caller))).1 =
      DH_FWK_SUCCESS) (dhId : String) (u : HardwareUse) :
    (ComponentOp.run q c c' m (.source (.disableSource networkId d caller))).2.Enabled dhId u ↔
      m.Enabled dhId u ∧ ¬(dhId = d.id ∧ u = .source d.dhType networkId caller) := by
  simp only [ComponentOp.run, SourceOp.run, SourceManager.disableSourceInternal] at h ⊢
  split_ifs at h ⊢ with hq
  · cases u with
    | sink t k => simp [ComponentManager.Enabled]
    | source t n k =>
      simp only [ComponentManager.Enabled, SourceManager.status_put]
      split_ifs with ht
      · rw [disableSourceStatus_enabled h, ht]
        simp [and_comm, and_assoc]
      · simp [ht]
  · cases h

theorem ComponentOp.enabled_of_disableSink
    (h : (ComponentOp.run q c c' m (.sink (.disableSink d caller))).1 = DH_FWK_SUCCESS)
    (dhId : String) (u : HardwareUse) :
    (ComponentOp.run q c c' m (.sink (.disableSink d caller))).2.Enabled dhId u ↔
      m.Enabled dhId u ∧ ¬(dhId = d.id ∧ u = .sink d.dhType caller) := by
  simp only [ComponentOp.run, SinkOp.run, SinkManager.disableSinkInternal] at h ⊢
  split_ifs at h ⊢ with hq
  · cases u with
    | source t n k => simp [ComponentManager.Enabled]
    | sink t k =>
      simp only [ComponentManager.Enabled, SinkManager.status_put]
      split_ifs with ht
      · rw [disableSinkStatus_enabled h, ht]
        simp
      · simp [ht]
  · cases h

theorem ComponentOp.enabled_of_forceDisableSource
    (h : (ComponentOp.run q c c' m (.source (.forceDisableSource networkId d))).1 =
      DH_FWK_SUCCESS) (dhId : String) (u : HardwareUse) :
    (ComponentOp.run q c c' m (.source (.forceDisableSource networkId d))).2.Enabled dhId u ↔
      m.Enabled dhId u ∧ ¬(dhId = d.id ∧ ∃ k, u = .source d.dhType networkId k) := by
  simp only [ComponentOp.run, SourceOp.run, SourceManager.forceDisableSourceInternal] at h ⊢
  cases hl : (m.source.status d.dhType).enableInfos.lookup ⟨networkId, d.id⟩ with
  | none =>
    simp only [hl] at h
    cases h
  | some info =>
    simp only [hl] at h ⊢
    cases u with
    | sink t k => simp [ComponentManager.Enabled]
    | source t n k =>
      simp only [ComponentManager.Enabled, SourceManager.status_put]
      split_ifs with ht
      · rw [forceDisableSourceStatus_enabled h, ht]
        simp [and_comm]
      · simp [ht]

theorem ComponentOp.enabled_of_forceDisableSink
    (h : (ComponentOp.run q c c' m (.sink (.forceDisableSink d))).1 = DH_FWK_SUCCESS)
    (dhId : String) (u : HardwareUse) :
    (ComponentOp.run q c c' m (.sink (.forceDisableSink d))).2.Enabled dhId u ↔
      m.Enabled dhId u ∧ ¬(dhId = d.id ∧ ∃ k, u = .sink d.dhType k) := by
  simp only [ComponentOp.run, SinkOp.run, SinkManager.forceDisableSinkInternal] at h ⊢
  split_ifs at h ⊢ with hq
  · cases hl : (m.sink.status d.dhType).enableInfos.lookup d.id with
    | none =>
      simp only [hl] at h
      cases h
    | some info =>
      simp only [hl] at h ⊢
      cases u with
      | source t n k => simp [ComponentManager.Enabled]
      | sink t k =>
        simp only [ComponentManager.Enabled, SinkManager.status_put]
        split_ifs with ht
        · rw [forceDisableSinkStatus_enabled, ht]
          simp
        · simp [ht]
  · cases h

/-- An operation that fails and loses no entry changes no use. -/
theorem ComponentOp.enabled_of_failure {op : ComponentOp}
    (h : (op.run q c c' m).1 ≠ DH_FWK_SUCCESS) (hl : ¬op.LosesEntry q c c' m) (dhId : String)
    (u : HardwareUse) : (op.run q c c' m).2.Enabled dhId u ↔ m.Enabled dhId u := by
  cases op with
  | source op =>
    have hsame := (op.keeps_record_iff q c m.source).2 hl h
    cases u with
    | source t n k => exact Eq.congr_left ((hsame t).enableState _ _)
    | sink t k => rfl
  | sink op =>
    have hsame := (op.keeps_record_iff q c' m.sink).2 hl h
    cases u with
    | source t n k => rfl
    | sink t k => exact Eq.congr_left ((hsame t).enableState _ _)

end operations

/-! ## What a task does -/

inductive HardwareSide
  | source | sink
  deriving DecidableEq, Repr

namespace HardwareParam

/-- The side that a task is for, where it is for one. -/
def side (dev : Devices) (p : HardwareParam) : Option HardwareSide :=
  if p.caller.isActive then
    match p.effectSink, p.effectSource with
    | true, false => some .sink
    | false, true => some .source
    | true, true | false, false => none
  else if dev.localUdid = p.udid then some .sink
  else some .source

/-- A caller's use of the hardware that a task is for. -/
def use (p : HardwareParam) (caller : DHStatusCtrlKey) : HardwareSide → HardwareUse
  | .source => .source p.dhType p.networkId caller
  | .sink => .sink p.dhType caller

/-- The operation that a task which disables leads to. -/
def disableOp {W W' : Type} (a : TaskAnswers W W') (p : HardwareParam) :
    HardwareSide → Option ComponentOp
  | .source =>
    if p.caller.isActive then some (.source (.disableSource p.networkId p.descriptor p.caller))
    else some (.source (.forceDisableSource p.networkId p.descriptor))
  | .sink =>
    if p.caller.isActive then some (.sink (.disableSink p.descriptor p.caller))
    else if a.isDeserted then some (.sink (.forceDisableSink p.descriptor))
    else none

/-- A task is for one side, and carries the uuid of the device whose hardware it is for. -/
def Aimed (dev : Devices) (p : HardwareParam) (side : HardwareSide) : Prop :=
  p.side dev = some side ∧ (p.use p.caller side).uuid dev = p.uuid ∧
    isIdLengthValid p.uuid = true

end HardwareParam

section tasks

variable {L L' W W' : Type} {dev : Devices} {a : TaskAnswers W W'} {p : HardwareParam}
  {m : ComponentManager L L' W W'} {side : HardwareSide}

/-- A task that enables adds its use or fails and changes nothing. -/
theorem registerHardware_enabled (hside : p.side dev = some side) :
    (registerHardware dev a p m).1 = DH_FWK_SUCCESS ∧
        (∀ dhId u, (registerHardware dev a p m).2.Enabled dhId u ↔
          m.Enabled dhId u ∨ dhId = p.dhId ∧ u = p.use p.caller side) ∨
      (registerHardware dev a p m).1 ≠ DH_FWK_SUCCESS ∧
        ∀ dhId u, (registerHardware dev a p m).2.Enabled dhId u ↔ m.Enabled dhId u := by
  have hsource : ∀ customParams : String,
      let r := a.run m (.source (.enableSource p.networkId
        { p.descriptor with customParams := customParams } p.caller))
      r.1 = DH_FWK_SUCCESS ∧ (∀ dhId u, r.2.Enabled dhId u ↔
          m.Enabled dhId u ∨ dhId = p.dhId ∧ u = p.use p.caller .source) ∨
        r.1 ≠ DH_FWK_SUCCESS ∧ ∀ dhId u, r.2.Enabled dhId u ↔ m.Enabled dhId u := by
    intro customParams r
    by_cases hr : r.1 = DH_FWK_SUCCESS
    · exact Or.inl ⟨hr, ComponentOp.enabled_of_enableSource hr⟩
    · exact Or.inr ⟨hr, ComponentOp.enabled_of_failure hr id⟩
  have hsink : ∀ customParams : String,
      let r := a.run m (.sink (.enableSink
        { p.descriptor with customParams := customParams } p.caller))
      r.1 = DH_FWK_SUCCESS ∧ (∀ dhId u, r.2.Enabled dhId u ↔
          m.Enabled dhId u ∨ dhId = p.dhId ∧ u = p.use p.caller .sink) ∨
        r.1 ≠ DH_FWK_SUCCESS ∧ ∀ dhId u, r.2.Enabled dhId u ↔ m.Enabled dhId u := by
    intro customParams r
    by_cases hr : r.1 = DH_FWK_SUCCESS
    · exact Or.inl ⟨hr, ComponentOp.enabled_of_enableSink hr⟩
    · exact Or.inr ⟨hr, ComponentOp.enabled_of_failure hr id⟩
  unfold HardwareParam.side at hside
  unfold registerHardware
  by_cases hactive : p.caller.isActive = true
  · rw [if_pos hactive] at hside ⊢
    unfold doActiveEnable
    cases hs : p.effectSink <;> cases hs' : p.effectSource <;> rw [hs, hs'] at hside <;> cases hside
    · exact hsource _
    · exact hsink _
  · rw [if_neg hactive] at hside ⊢
    unfold doAutoEnable
    by_cases hlocal : dev.localUdid = p.udid
    · rw [if_pos hlocal] at hside ⊢
      obtain rfl := Option.some.inj hside
      by_cases hret : (a.checkSinkConfigStart p.dhType).1 ≠ DH_FWK_SUCCESS
      · simp only [if_pos hret]
        exact Or.inr ⟨hret, by simp⟩
      · simp only [if_neg hret]
        split_ifs
        · exact hsink _
        · exact Or.inr ⟨by simp, fun _ _ => by simp⟩
    · rw [if_neg hlocal] at hside ⊢
      obtain rfl := Option.some.inj hside
      by_cases hret : (a.checkDemandStart p.udid p.uuid p.dhType).1 ≠ DH_FWK_SUCCESS
      · simp only [if_pos hret]
        exact Or.inr ⟨hret, by simp⟩
      · simp only [if_neg hret]
        split_ifs
        · exact hsource _
        · exact Or.inr ⟨by simp, fun _ _ => by simp⟩

/-- A task that disables leads to its operation, is refused for its type, or does nothing. -/
theorem unRegisterHardware_cases (hside : p.side dev = some side) :
    p.disableOp a side = none ∧ unRegisterHardware dev a p m = (DH_FWK_SUCCESS, m) ∨
      ∃ op, p.disableOp a side = some op ∧
        (a.queries.isDHTypeSupport p.dhType = true ∧ unRegisterHardware dev a p m = a.run m op ∨
          (unRegisterHardware dev a p m).1 ≠ DH_FWK_SUCCESS ∧
            (unRegisterHardware dev a p m).2 = m) := by
  unfold HardwareParam.side at hside
  unfold unRegisterHardware
  by_cases hactive : p.caller.isActive = true
  · rw [if_pos hactive] at hside ⊢
    unfold doActiveDisable
    cases hs : p.effectSink <;> cases hs' : p.effectSource <;> rw [hs, hs'] at hside <;> cases hside
    · refine Or.inr ⟨_, if_pos hactive, ?_⟩
      by_cases hq : a.queries.isDHTypeSupport p.dhType = true
      · exact Or.inl ⟨hq, rfl⟩
      · refine Or.inr ?_
        simp [TaskAnswers.run, ComponentOp.run, SourceOp.run,
          SourceManager.disableSourceInternal, HardwareParam.descriptor, hq]
    · refine Or.inr ⟨_, if_pos hactive, ?_⟩
      by_cases hq : a.queries.isDHTypeSupport p.dhType = true
      · exact Or.inl ⟨hq, rfl⟩
      · refine Or.inr ?_
        simp [TaskAnswers.run, ComponentOp.run, SinkOp.run,
          SinkManager.disableSinkInternal, HardwareParam.descriptor, hq]
  · rw [if_neg hactive] at hside ⊢
    unfold doAutoDisable
    by_cases hlocal : dev.localUdid = p.udid
    · rw [if_pos hlocal] at hside ⊢
      obtain rfl := Option.some.inj hside
      cases hd : a.isDeserted with
      | false => exact Or.inl ⟨by simp [HardwareParam.disableOp, hactive, hd], rfl⟩
      | true =>
        refine Or.inr ⟨.sink (.forceDisableSink p.descriptor), ?_, ?_⟩
        · simp [HardwareParam.disableOp, hactive, hd]
        by_cases hq : a.queries.isDHTypeSupport p.dhType = true
        · exact Or.inl ⟨hq, rfl⟩
        · refine Or.inr ?_
          simp [TaskAnswers.run, ComponentOp.run, SinkOp.run,
            SinkManager.forceDisableSinkInternal, HardwareParam.descriptor, hq]
    · rw [if_neg hlocal] at hside ⊢
      obtain rfl := Option.some.inj hside
      refine Or.inr ⟨.source (.forceDisableSource p.networkId p.descriptor), ?_, ?_⟩
      · simp [HardwareParam.disableOp, hactive]
      unfold forceDisableSource
      by_cases hq : a.queries.isDHTypeSupport p.dhType = true
      · exact Or.inl ⟨hq, by simp [hq]⟩
      · exact Or.inr (by simp [hq])

/-- An operation that a task which disables leads to takes its uses away or changes nothing. -/
theorem disableOp_enabled {op : ComponentOp} (hop : p.disableOp a side = some op)
    (hl : ¬op.LosesEntry a.queries a.sourceCalls a.sinkCalls m) :
    (a.run m op).1 = DH_FWK_SUCCESS ∧ (∀ dhId u, (a.run m op).2.Enabled dhId u ↔
        m.Enabled dhId u ∧ ¬(dhId = p.dhId ∧ op.Takes u)) ∨
      (a.run m op).1 ≠ DH_FWK_SUCCESS ∧
        ∀ dhId u, (a.run m op).2.Enabled dhId u ↔ m.Enabled dhId u := by
  by_cases hr : (a.run m op).1 = DH_FWK_SUCCESS
  · refine Or.inl ⟨hr, ?_⟩
    unfold HardwareParam.disableOp at hop
    split at hop <;> split_ifs at hop <;> obtain rfl := Option.some.inj hop
    · exact ComponentOp.enabled_of_disableSource hr
    · exact ComponentOp.enabled_of_forceDisableSource hr
    · exact ComponentOp.enabled_of_disableSink hr
    · exact ComponentOp.enabled_of_forceDisableSink hr
  · exact Or.inr ⟨hr, ComponentOp.enabled_of_failure hr hl⟩

end tasks

/-! ## Runs -/

namespace EnabledDevices

variable {L L' W W' : Type} {dev : Devices} {s : EnabledDevices L L' W W'} {l : TaskRun W W'}

/-- A task is for one side and carries the uuid of its device. One that disables takes away
every use of the hardware, and loses no entry where it fails. -/
def Agreeing (dev : Devices) (s : EnabledDevices L L' W W') (l : TaskRun W W') : Prop :=
  match l.task with
  | .enable p => ∃ side, p.Aimed dev side
  | .disable p => ∃ side, p.Aimed dev side ∧
    match p.disableOp l.answers side with
    | none => ¬ s.InUse dev p.uuid p.dhId
    | some op => l.answers.queries.isDHTypeSupport p.dhType = true →
      (∀ u, s.manager.Enabled p.dhId u → u.uuid dev = p.uuid → op.Takes u) ∧
        ¬ op.LosesEntry l.answers.queries l.answers.sourceCalls l.answers.sinkCalls s.manager

/-- The uses that an operation of an aimed task takes away are of its device. -/
theorem uuid_of_takes {a : TaskAnswers W W'} {p : HardwareParam} {side : HardwareSide}
    (haim : p.Aimed dev side) {op : ComponentOp} (hop : p.disableOp a side = some op)
    {u : HardwareUse} (hu : op.Takes u) : u.uuid dev = p.uuid := by
  have huuid := haim.2.1
  unfold HardwareParam.disableOp at hop
  split at hop <;> split_ifs at hop <;> obtain rfl := Option.some.inj hop
  · obtain rfl := hu
    exact huuid
  · obtain ⟨k, rfl⟩ := hu
    exact huuid
  · obtain rfl := hu
    exact huuid
  · obtain ⟨k, rfl⟩ := hu
    exact huuid

/-- The device of an aimed task is one at hand. -/
theorem isDevice_of_aimed {p : HardwareParam} {side : HardwareSide} (haim : p.Aimed dev side) :
    dev.IsDevice p.uuid := by
  refine ⟨haim.2.2, ?_⟩
  have huuid := haim.2.1
  cases side with
  | source => exact Or.inr ⟨p.networkId, huuid⟩
  | sink => exact Or.inl huuid.symm

/-- A task that enables keeps the records in agreement. -/
theorem Agrees.enableTask (h : s.Agrees dev) {a : TaskAnswers W W'} {p : HardwareParam}
    {side : HardwareSide} (haim : p.Aimed dev side) : (enableTask dev a p s).Agrees dev := by
  intro uuid dhId hdev
  rcases registerHardware_enabled (a := a) (m := s.manager) haim.1 with
    ⟨hret, henabled⟩ | ⟨hret, henabled⟩
  · have hrec : (EnabledDevices.enableTask dev a p s).isEnabledDevice (dev.key uuid dhId) = true ↔
        uuid = p.uuid ∧ dhId = p.dhId ∨ s.isEnabledDevice (dev.key uuid dhId) = true := by
      simp only [EnabledDevices.enableTask, isEnabledDevice, hret, if_true, Table.lookup_set]
      split_ifs with hkey
      · simp [dev.key_inj hdev (isDevice_of_aimed haim) hkey]
      · have hne : ¬(uuid = p.uuid ∧ dhId = p.dhId) := by
          rintro ⟨rfl, rfl⟩
          exact hkey rfl
        simp [hne]
    rw [hrec, h uuid dhId hdev]
    constructor
    · rintro (⟨rfl, rfl⟩ | ⟨u, hu, he⟩)
      · exact ⟨_, haim.2.1, (henabled _ _).2 (Or.inr ⟨rfl, rfl⟩)⟩
      · exact ⟨u, hu, (henabled _ _).2 (Or.inl he)⟩
    · rintro ⟨u, hu, he⟩
      rcases (henabled _ _).1 he with he | ⟨rfl, rfl⟩
      · exact Or.inr ⟨u, hu, he⟩
      · exact Or.inl ⟨hu.symm.trans haim.2.1, rfl⟩
  · have hrec : (EnabledDevices.enableTask dev a p s).enabledDevices_ = s.enabledDevices_ :=
      if_neg hret
    rw [isEnabledDevice, hrec, InUse]
    exact (h uuid dhId hdev).trans
      (exists_congr fun u => and_congr_right fun _ => (henabled dhId u).symm)

/-- A task that disables does so where it takes away every use of its hardware. -/
theorem Agrees.disableTask (h : s.Agrees dev) {a : TaskAnswers W W'} {p : HardwareParam}
    (hok : s.Agreeing dev ⟨.disable p, a⟩) : (disableTask dev a p s).Agrees dev := by
  obtain ⟨side, haim, hop⟩ := hok
  have hself := isDevice_of_aimed haim
  -- The record of the hardware goes, or nothing changes.
  have hgone : (unRegisterHardware dev a p s.manager).1 = DH_FWK_SUCCESS → ∀ uuid dhId,
      dev.IsDevice uuid →
      ((EnabledDevices.disableTask dev a p s).isEnabledDevice (dev.key uuid dhId) = true ↔
        ¬(uuid = p.uuid ∧ dhId = p.dhId) ∧ s.isEnabledDevice (dev.key uuid dhId) = true) := by
    intro hret uuid dhId hdev
    simp only [EnabledDevices.disableTask, isEnabledDevice, hret, if_true, Table.lookup_remove]
    split_ifs with hkey
    · simp [dev.key_inj hdev hself hkey]
    · have hne : ¬(uuid = p.uuid ∧ dhId = p.dhId) := by
        rintro ⟨rfl, rfl⟩
        exact hkey rfl
      simp [hne]
  have hkept : (unRegisterHardware dev a p s.manager).1 ≠ DH_FWK_SUCCESS →
      (EnabledDevices.disableTask dev a p s).enabledDevices_ = s.enabledDevices_ :=
    fun hret => if_neg hret
  have hmanager : (EnabledDevices.disableTask dev a p s).manager =
      (unRegisterHardware dev a p s.manager).2 := rfl
  have hsame : (unRegisterHardware dev a p s.manager).1 ≠ DH_FWK_SUCCESS →
      (∀ dhId u, (unRegisterHardware dev a p s.manager).2.Enabled dhId u ↔
        s.manager.Enabled dhId u) → (EnabledDevices.disableTask dev a p s).Agrees dev := by
    intro hret henabled uuid dhId hdev
    rw [isEnabledDevice, hkept hret, InUse, hmanager]
    exact (h uuid dhId hdev).trans
      (exists_congr fun u => and_congr_right fun _ => (henabled dhId u).symm)
  rcases unRegisterHardware_cases (a := a) (m := s.manager) haim.1 with
    ⟨hnone, hr⟩ | ⟨op, hsome, ⟨hq, hr⟩ | ⟨hret, hm⟩⟩
  · simp only [hnone] at hop
    intro uuid dhId hdev
    rw [hgone (by rw [hr]) uuid dhId hdev, h uuid dhId hdev, InUse, InUse, hmanager, hr]
    refine and_iff_right_of_imp ?_
    rintro huse ⟨rfl, rfl⟩
    exact hop huse
  · simp only [hsome] at hop
    obtain ⟨hall, hl⟩ := hop hq
    rcases disableOp_enabled (m := s.manager) hsome hl with ⟨hret, henabled⟩ | ⟨hret, henabled⟩
    · rw [← hr] at hret henabled
      intro uuid dhId hdev
      rw [hgone hret uuid dhId hdev, h uuid dhId hdev, InUse, InUse, hmanager]
      constructor
      · rintro ⟨hne, u, hu, he⟩
        refine ⟨u, hu, (henabled dhId u).2 ⟨he, ?_⟩⟩
        rintro ⟨rfl, ht⟩
        exact hne ⟨hu.symm.trans (uuid_of_takes haim hsome ht), rfl⟩
      · rintro ⟨u, hu, he⟩
        obtain ⟨he, hnot⟩ := (henabled dhId u).1 he
        refine ⟨?_, u, hu, he⟩
        rintro ⟨rfl, rfl⟩
        exact hnot ⟨rfl, hall u he hu⟩
    · rw [← hr] at hret henabled
      exact hsame hret henabled
  · exact hsame hret fun dhId u => by rw [hm]

theorem Agrees.step (h : s.Agrees dev) (hok : s.Agreeing dev l) : (s.step dev l).Agrees dev := by
  obtain ⟨task, a⟩ := l
  cases task with
  | enable p =>
    obtain ⟨side, haim⟩ := hok
    exact h.enableTask haim
  | disable p => exact h.disableTask hok

/-- Nothing is enabled, nothing is recorded. -/
def init (w : W) (w' : W') : EnabledDevices L L' W W' :=
  { manager := { source := { world := w }, sink := { world := w' } } }

theorem not_inUse_init (dev : Devices) (w : W) (w' : W') (uuid dhId : String) :
    ¬ (init w w' : EnabledDevices L L' W W').InUse dev uuid dhId := by
  rintro ⟨u, -, he⟩
  cases u with
  | source t n k => cases he
  | sink t k => cases he

theorem agrees_init (w : W) (w' : W') : (init w w' : EnabledDevices L L' W W').Agrees dev :=
  fun uuid dhId _ => iff_of_false Bool.false_ne_true (not_inUse_init dev w w' uuid dhId)

end EnabledDevices

/-- In a run of such tasks `IsEnabledDevice` tells whether a piece of hardware is in use, in
every state it reaches, and the records of two devices share no key. -/
theorem enabledDevices_agree {L L' W W' : Type} (dev : Devices) (w : W) (w' : W')
    (ls : List (TaskRun W W'))
    (h : Along (EnabledDevices.step dev) (EnabledDevices.Agreeing dev)
      (EnabledDevices.init w w' : EnabledDevices L L' W W') ls) :
    (∀ pre post, ls = pre ++ post →
      (pre.foldl (EnabledDevices.step dev)
        (EnabledDevices.init w w' : EnabledDevices L L' W W')).Agrees dev) ∧
    ∀ uuid uuid' dhId dhId', dev.IsDevice uuid → dev.IsDevice uuid' →
      dev.key uuid dhId = dev.key uuid' dhId' → uuid = uuid' ∧ dhId = dhId' := by
  refine ⟨?_, fun _ _ _ _ hu hu' hkey => dev.key_inj hu hu' hkey⟩
  rintro pre post rfl
  have hstep : ∀ (s : EnabledDevices L L' W W') (l : TaskRun W W'), s.Agrees dev →
      s.Agreeing dev l → (s.step dev l).Agrees dev := fun _ _ hs hl => hs.step hl
  exact h.of_append.1.invariant hstep (EnabledDevices.agrees_init w w')

/-- The local device `u0` and one more, `u1`, of the networkId `n1`. -/
def twoDevices : Devices where
  localUdid := "d0"
  localUuid := "u0"
  uuidByNetworkId networkId := if networkId = "n1" then "u1" else ""
  sha256 uuid :=
    if uuid = "u0" then "9dc02223da426384268a0b489b28b008464099491967f6f0597853e939953ea0"
    else if uuid = "u1" then "bb82030dbc2bcaba32a90bf2e207a84a856fc5f033b77c480836ab6f77f40f19"
    else "e3b0c44298fc1c149afbf4c8996fb92427ae41e4649b934ca495991b7852b855"
  hex uuid := by
    split_ifs <;> decide
  inj := by
    have hmem : ∀ uuid : String, (uuid = "u0" ∨ ∃ networkId : String,
        (if networkId = "n1" then "u1" else "") = uuid) → uuid = "u0" ∨ uuid = "u1" ∨ uuid = "" := by
      rintro uuid (rfl | ⟨networkId, rfl⟩)
      · exact Or.inl rfl
      · split_ifs
        · exact Or.inr (Or.inl rfl)
        · exact Or.inr (Or.inr rfl)
    intro uuid uuid' hu hu'
    rcases hmem uuid hu with rfl | rfl | rfl <;> rcases hmem uuid' hu' with rfl | rfl | rfl <;>
      decide

/-- Answers that let every task go through, with or without a device online. -/
def TaskAnswers.smooth (isDeserted : Bool) : TaskAnswers Unit (List SinkOffCall) where
  queries := .permissive
  sourceCalls := .succeeding
  sinkCalls := SinkOutcome.calls {}
  checkSinkConfigStart _ := (DH_FWK_SUCCESS, true)
  checkDemandStart _ _ _ := (DH_FWK_SUCCESS, true)
  appendTokenIdToParams customParams _ := customParams
  isDeserted := isDeserted

theorem enabledDevices_agree_camera :
    let p : HardwareParam :=
      { networkId := "n1", uuid := "u1", udid := "d1", dhId := "c", dhType := .CAMERA }
    let ls : List (TaskRun Unit (List SinkOffCall)) :=
      [⟨.enable p, .smooth false⟩, ⟨.disable p, .smooth false⟩]
    (ls.foldl (EnabledDevices.step twoDevices)
      (EnabledDevices.init () [] : EnabledDevices Unit Unit _ _)).Agrees twoDevices := by
  intro p ls
  have haim : p.Aimed twoDevices .source := ⟨by decide, rfl, by decide⟩
  refine (enabledDevices_agree twoDevices () [] ls ⟨⟨.source, haim⟩, ?_, trivial⟩).1 ls [] rfl
  refine ⟨.source, haim, fun _ => ⟨fun u hu _ => ?_, fun hl => hl.2.2.2.1 rfl⟩⟩
  rcases registerHardware_enabled (a := TaskAnswers.smooth false)
      (m := (EnabledDevices.init () [] : EnabledDevices Unit Unit _ _).manager) haim.1 with
    ⟨-, henabled⟩ | ⟨hret, -⟩
  · rcases (henabled _ _).1 hu with hu | ⟨-, rfl⟩
    · exact absurd ⟨u, rfl, hu⟩ (EnabledDevices.not_inUse_init twoDevices () [] _ _)
    · exact ⟨p.caller, rfl⟩
  · exact absurd (by decide) hret

/-- A caller of the service enables a camera : the record is not under the key that the
handlers of the store ask for. Of two such callers one disables it : the record goes while
the other has it enabled. An automatic task that finds another device online leaves the local
sink enabled and takes its record. -/
theorem enabledDevices_disagree :
    let one : HardwareParam :=
      { networkId := "n1"
        dhId := "c"
        dhType := .CAMERA
        effectSource := true
        callingUid := 1
        callingPid := 1 }
    let two : HardwareParam := { one with callingUid := 2, callingPid := 2 }
    let auto : HardwareParam := { uuid := "u0", udid := "d0", dhId := "c", dhType := .CAMERA }
    let run (tasks : List HardwareTask) :=
      (tasks.map fun task => TaskRun.mk task (.smooth false)).foldl
        (EnabledDevices.step twoDevices) (EnabledDevices.init () [] :
          EnabledDevices Unit Unit _ _)
    let k : DHStatusSourceEnableInfoKey := { networkId := "n1", dhId := "c" }
    let s := run [.enable one]
    let t := run [.enable one, .enable two, .disable one]
    let u := run [.enable auto, .disable auto]
    (s.manager.source.status .CAMERA).enableState k one.caller = .ENABLED ∧
      s.isEnabledDevice (twoDevices.key "u1" "c") = false ∧
      s.isEnabledDevice (twoDevices.key "" "c") = true ∧
      (t.manager.source.status .CAMERA).enableState k two.caller = .ENABLED ∧
      t.enabledDevices_.entries = [] ∧
      (u.manager.sink.status .CAMERA).enableState "c" auto.caller = .ENABLED ∧
      u.isEnabledDevice (twoDevices.key "u0" "c") = false ∧
      ¬ s.Agrees twoDevices ∧ ¬ u.Agrees twoDevices := by
  intro one two auto run k s t u
  refine ⟨by decide, by decide, by decide, by decide, by decide, by decide, by decide,
    fun h => ?_, fun h => ?_⟩
  · have hdev : twoDevices.IsDevice "u1" := ⟨by decide, Or.inr ⟨"n1", by decide⟩⟩
    have hrec := (h "u1" "c" hdev).2 ⟨.source .CAMERA "n1" one.caller, by decide,
      (by decide : (s.manager.source.status .CAMERA).enableState k one.caller = .ENABLED)⟩
    exact absurd hrec (by decide)
  · have hdev : twoDevices.IsDevice "u0" := ⟨by decide, Or.inl (by decide)⟩
    have hrec := (h "u0" "c" hdev).2 ⟨.sink .CAMERA auto.caller, by decide,
      (by decide : (u.manager.sink.status .CAMERA).enableState "c" auto.caller = .ENABLED)⟩
    exact absurd hrec (by decide)

end DHFwk
