import DHFwk.DeviceTasks
import DHFwk.SourceRefs

/-!
# What going offline disables

`OffLineTask` has no record of what is enabled. It disables what the first of the three caches
that has anything of the device has of it when it looks : all that is enabled, if that cache names
it. A piece of hardware that was enabled out of another cache, by a caller, or out of a record
that has gone since is left as it is.

So in every run in which what is enabled for the device is named by the cache that the task
settles on, nothing of the device is enabled once the task is off the board
(`offLine_disables`). A microphone that was enabled out of the meta records stays enabled
if a capability of the camera comes in between (`offLine_leaves_microphone`).
-/

set_option linter.unusedSectionVars false

namespace DHFwk

open Runs

/-! ## What operations enable -/

/-- The hardware that an operation of the source side may enable. -/
def SourceOp.hardware : SourceOp → Option DHStatusSourceEnableInfoKey
  | .enableSource networkId d _ | .enableMetaSource networkId d =>
    some { networkId := networkId, dhId := d.id }
  | _ => none

theorem StatusChange.enabled {K L : Type} [DecidableEq K] {op : StatusOp K} {s s' : DHStatus K L}
    {k : K} {c : DHStatusCtrlKey} (h : StatusChange op s s')
    (he : s'.enableState k c = .ENABLED) :
    s.enableState k c = .ENABLED ∨ ∃ t c', op = .enable t k c' := by
  cases h with
  | kept => exact .inl he
  | enable_touch t k' c' | disable_touch t k' c' =>
    rw [DHStatus.touch, DHStatus.enableState_write] at he
    split_ifs at he with hkc
    · obtain ⟨rfl, rfl⟩ := hkc
      exact .inl he
    · exact .inl he
  | addRef t k' c' | firstRef t k' c' =>
    rcases DHStatus.enabled_write_iff.1 he with he | ⟨rfl, -⟩
    · exact .inl he
    · exact .inr ⟨t, c', rfl⟩
  | deleteRef | lastRef => exact .inl (DHStatus.disabled_write_iff.1 he).1
  | drop => exact .inl (DHStatus.enabled_drop_iff.1 he).1
  | reset =>
    rw [DHStatus.enableState_resetEnableStatus] at he
    split_ifs at he
    exact .inl he
  | recover =>
    rw [DHStatus.enableState_recoverActiveEnable] at he
    split_ifs at he
    exact .inl he

section operations

variable {L L' W W' : Type} {q : Queries} {c : SourceCalls W} {c' : SinkCalls W'}
  {m : ComponentManager L L' W W'} {t : DHType} {networkId dhId : String}
  {caller : DHStatusCtrlKey}

/-- What is enabled after an operation of the source side was enabled before, or is the hardware
of the operation. -/
theorem SourceOp.enabled_of_run {op : SourceOp} {m : SourceManager L W}
    {k : DHStatusSourceEnableInfoKey}
    (h : ((op.run q c m).2.status t).enableState k caller = .ENABLED) :
    (m.status t).enableState k caller = .ENABLED ∨ op.hardware = some k := by
  have hstep := op.statusStep q c m
  by_cases ht : t = op.statusOp.dhType
  · subst ht
    refine (hstep.change.enabled h).imp_right ?_
    rintro ⟨t, caller', hop⟩
    cases op <;> cases hop <;> rfl
  · have hsame := hstep.other t ht
    rw [SourceManager.status, hsame] at h
    exact .inl h

/-- The uses of the hardware of a device. -/
def ComponentManager.InUseBy (m : ComponentManager L L' W W') (networkId : String) (t : DHType)
    (dhId : String) (caller : DHStatusCtrlKey) : Prop :=
  (m.source.status t).enableState { networkId := networkId, dhId := dhId } caller = .ENABLED

instance : Decidable (m.InUseBy networkId t dhId caller) :=
  inferInstanceAs (Decidable (_ = _))

/-- The hardware of the device that is in use, with its users. -/
def ComponentManager.uses (m : ComponentManager L L' W W') (networkId : String) :
    List (DHType × String × DHStatusCtrlKey) :=
  m.source.dhSourceStatus_.entries.flatMap fun e =>
    (e.2.enabled.filter fun u => u.1.networkId = networkId).map fun u => (e.1, u.1.dhId, u.2)

theorem ComponentManager.mem_uses :
    (t, dhId, caller) ∈ m.uses networkId ↔ m.InUseBy networkId t dhId caller := by
  simp only [uses, List.mem_flatMap, List.mem_map, List.mem_filter, decide_eq_true_eq,
    Prod.mk.injEq]
  constructor
  · rintro ⟨e, he, ⟨⟨n, dhId⟩, caller⟩, ⟨hu, rfl⟩, rfl, rfl, rfl⟩
    have hlookup := List.mem_dlookup m.source.dhSourceStatus_.nodupKeys he
    rw [InUseBy, SourceManager.status, Table.get_of_lookup hlookup]
    exact DHStatus.mem_enabled.1 hu
  · intro huse
    cases hlookup : m.source.dhSourceStatus_.lookup t with
    | none =>
      rw [InUseBy, SourceManager.status, Table.get_of_lookup_none hlookup] at huse
      cases huse
    | some status =>
      rw [InUseBy, SourceManager.status, Table.get_of_lookup hlookup] at huse
      exact ⟨⟨t, status⟩, AList.mem_lookup_iff.1 hlookup, (⟨networkId, dhId⟩, caller),
        ⟨DHStatus.mem_enabled.2 huse, rfl⟩, rfl, rfl, rfl⟩

/-- An operation of the sink side, or of the hardware of another device, enables nothing of a
device. -/
theorem ComponentOp.inUseBy_of_run {op : ComponentOp}
    (hop : ∀ sourceOp k, op = .source sourceOp → sourceOp.hardware = some k →
      k.networkId ≠ networkId)
    (h : (op.run q c c' m).2.InUseBy networkId t dhId caller) :
    m.InUseBy networkId t dhId caller := by
  cases op with
  | sink op => exact h
  | source op =>
    refine (SourceOp.enabled_of_run h).resolve_right fun hk => ?_
    exact hop op _ rfl hk rfl

variable {dev : Devices} {a : TaskAnswers W W'} {p : HardwareParam}

/-- What is done on the sink side enables nothing of a device. -/
theorem inUseBy_of_sink {op : SinkOp} (h : (a.run m (.sink op)).2.InUseBy networkId t dhId caller) :
    m.InUseBy networkId t dhId caller :=
  h

theorem inUseBy_of_effectSink {op : SinkOp} {c : Bool}
    (h : (if c = true then a.run m (.sink op) else (DH_FWK_SUCCESS, m)).2.InUseBy
      networkId t dhId caller) : m.InUseBy networkId t dhId caller := by
  split_ifs at h
  · exact inUseBy_of_sink h
  · exact h

/-- A task that enables the hardware of another device enables nothing of this one. -/
theorem inUseBy_of_registerHardware (hp : p.networkId ≠ networkId)
    (h : (registerHardware dev a p m).2.InUseBy networkId t dhId caller) :
    m.InUseBy networkId t dhId caller := by
  have hsource : ∀ {m : ComponentManager L L' W W'} {d : DHDescriptor},
      (a.run m (.source (.enableSource p.networkId d p.caller))).2.InUseBy networkId t dhId caller →
        m.InUseBy networkId t dhId caller := by
    intro m d
    refine ComponentOp.inUseBy_of_run fun op k hop hk => ?_
    cases hop
    cases hk
    exact hp
  unfold registerHardware at h
  by_cases hactive : p.caller.isActive = true
  · rw [if_pos hactive] at h
    simp only [doActiveEnable] at h
    by_cases hs : p.effectSource = true
    · rw [if_neg (not_not.2 hs)] at h
      exact inUseBy_of_effectSink (hsource h)
    · rw [if_pos hs] at h
      exact inUseBy_of_effectSink h
  · rw [if_neg hactive] at h
    unfold doAutoEnable at h
    -- Without an operation the component manager is as it was.
    have hchecked : ∀ {r : Int × Bool} {run : Int × ComponentManager L L' W W'},
        (run.2.InUseBy networkId t dhId caller → m.InUseBy networkId t dhId caller) →
        (if r.1 ≠ DH_FWK_SUCCESS then (r.1, m)
          else if ¬r.2 = true then (ERR_DH_FWK_COMPONENT_NO_NEED_ENABLE, m)
          else run).2.InUseBy networkId t dhId caller → m.InUseBy networkId t dhId caller := by
      intro r run hrun h
      by_cases hret : r.1 ≠ DH_FWK_SUCCESS
      · rwa [if_pos hret] at h
      · rw [if_neg hret] at h
        by_cases henable : ¬r.2 = true
        · rwa [if_pos henable] at h
        · rw [if_neg henable] at h
          exact hrun h
    by_cases hlocal : dev.localUdid = p.udid
    · rw [if_pos hlocal] at h
      exact hchecked inUseBy_of_sink h
    · rw [if_neg hlocal] at h
      exact hchecked hsource h

/-- A task that disables hardware enables nothing. -/
theorem inUseBy_of_unRegisterHardware
    (h : (unRegisterHardware dev a p m).2.InUseBy networkId t dhId caller) :
    m.InUseBy networkId t dhId caller := by
  have hsource : ∀ {m : ComponentManager L L' W W'} {op : SourceOp}, op.hardware = none →
      (a.run m (.source op)).2.InUseBy networkId t dhId caller →
        m.InUseBy networkId t dhId caller := by
    intro m op hop
    refine ComponentOp.inUseBy_of_run fun sourceOp k heq hk => ?_
    cases heq
    rw [hop] at hk
    cases hk
  unfold unRegisterHardware at h
  by_cases hactive : p.caller.isActive = true
  · rw [if_pos hactive] at h
    simp only [doActiveDisable] at h
    by_cases hs : p.effectSource = true
    · rw [if_neg (not_not.2 hs)] at h
      exact inUseBy_of_effectSink (hsource rfl h)
    · rw [if_pos hs] at h
      exact inUseBy_of_effectSink h
  · rw [if_neg hactive] at h
    unfold doAutoDisable forceDisableSource at h
    by_cases hlocal : dev.localUdid = p.udid
    · rw [if_pos hlocal] at h
      split_ifs at h
      · exact inUseBy_of_sink h
      · exact h
    · rw [if_neg hlocal] at h
      split_ifs at h
      · exact hsource rfl h
      · exact h

end operations

namespace Work

/-- The task may enable hardware of the device. -/
def Enables (networkId : String) : Work → Prop
  | .hardware (.enable p) => p.networkId = networkId
  | .metaEnable networkId' => networkId' = networkId
  | _ => False

variable {L L' W W' : Type} {dev : Devices} {a : TaskAnswers W W'} {b : DeviceAnswers}
  {m : EnabledDevices L L' W W'} {t : DHType} {networkId dhId : String} {caller : DHStatusCtrlKey}

/-- A task that enables nothing of the device leaves nothing enabled that was not. -/
theorem inUseBy_of_perform {work : Work} (hw : ¬work.Enables networkId)
    (h : (work.perform dev a b m).manager.InUseBy networkId t dhId caller) :
    m.manager.InUseBy networkId t dhId caller := by
  cases work with
  | hardware task =>
    cases task with
    | enable p => exact inUseBy_of_registerHardware hw h
    | disable p => exact inUseBy_of_unRegisterHardware h
  | unnamed isEnable uuid udid dhId =>
    simp only [perform] at h
    split_ifs at h <;> exact h
  | metaEnable n =>
    simp only [perform] at h
    split_ifs at h
    · refine ComponentOp.inUseBy_of_run (fun sourceOp k hop hk => ?_) h
      cases hop
      cases hk
      exact hw
    · exact h
  | metaDisable n =>
    simp only [perform] at h
    split_ifs at h
    · refine ComponentOp.inUseBy_of_run (fun sourceOp k hop hk => ?_) h
      cases hop
      cases hk
    · exact h
  | onLine d => exact h
  | offLine d => exact h

/-! ## What a task takes away -/

/-- What `CreateDisableTask` hands over for a piece of hardware of the device. -/
def offLineParam (d : DeviceIds) (dhId : String) (dhType : DHType) : HardwareParam :=
  { networkId := d.networkId, uuid := d.uuid, dhId := dhId, dhType := dhType }

/-- The task for this use of the hardware of the device : the one that disables the hardware, or,
for the automatic use of the modem, the one that disables that. -/
def IsFor (d : DeviceIds) (t : DHType) (dhId : String) (caller : DHStatusCtrlKey) (work : Work) :
    Prop :=
  work = .hardware (.disable (offLineParam d dhId t)) ∨
    work = .metaDisable d.networkId ∧ t = .MODEM ∧ dhId = MODEM_DH_ID ∧ caller = autoCaller

/-- The calls that a task which disables makes of the component succeed, if it makes any : there
is an entry of the hardware, or the modem is enabled. -/
def Succeeds (a : TaskAnswers W W') (m : ComponentManager L L' W W') : Work → Prop
  | .hardware (.disable p) =>
    (m.source.status p.dhType).enableInfos.lookup ⟨p.networkId, p.dhId⟩ ≠ none →
      (a.run m (.source (.forceDisableSource p.networkId p.descriptor))).1 = DH_FWK_SUCCESS
  | .metaDisable networkId =>
    m.InUseBy networkId .MODEM MODEM_DH_ID autoCaller →
      (a.run m (.source (.disableMetaSource networkId modem))).1 = DH_FWK_SUCCESS
  | _ => True

/-- A task that disables gets as far as to the component : it does not take the device for the
local one, the type is supported, and the modem is loaded. -/
def Reaches (dev : Devices) (a : TaskAnswers W W') (b : DeviceAnswers) : Work → Prop
  | .hardware (.disable p) =>
    dev.localUdid ≠ p.udid ∧ a.queries.isDHTypeSupport p.dhType = true
  | .metaDisable _ => b.modem = true
  | _ => True

instance : (work : Work) → Decidable (work.Enables networkId)
  | .hardware (.enable _) | .metaEnable _ => inferInstanceAs (Decidable (_ = _))
  | .hardware (.disable _) | .unnamed .. | .metaDisable _ | .onLine _ | .offLine _ =>
    inferInstanceAs (Decidable False)

instance (m : ComponentManager L L' W W') : (work : Work) → Decidable (work.Succeeds a m)
  | .hardware (.disable _) | .metaDisable _ => inferInstanceAs (Decidable (_ → _))
  | .hardware (.enable _) | .unnamed .. | .metaEnable _ | .onLine _ | .offLine _ =>
    inferInstanceAs (Decidable True)

instance : (work : Work) → Decidable (work.Reaches dev a b)
  | .hardware (.disable _) => inferInstanceAs (Decidable (_ ∧ _))
  | .metaDisable _ => inferInstanceAs (Decidable (_ = _))
  | .hardware (.enable _) | .unnamed .. | .metaEnable _ | .onLine _ | .offLine _ =>
    inferInstanceAs (Decidable True)

variable {d : DeviceIds}

theorem not_inUseBy_of_forceDisableSource {m : ComponentManager L L' W W'} {desc : DHDescriptor}
    (hok : (m.source.status desc.dhType).enableInfos.lookup ⟨networkId, desc.id⟩ ≠ none →
      (a.run m (.source (.forceDisableSource networkId desc))).1 = DH_FWK_SUCCESS) :
    ¬(a.run m (.source (.forceDisableSource networkId desc))).2.InUseBy networkId desc.dhType
      desc.id caller := by
  intro huse
  by_cases hlookup :
      (m.source.status desc.dhType).enableInfos.lookup ⟨networkId, desc.id⟩ = none
  · -- Nobody has ever enabled what there is no entry of.
    have hold := ComponentOp.inUseBy_of_run (fun op k hop hk => by cases hop; cases hk) huse
    rw [ComponentManager.InUseBy, DHStatus.enableState, DHStatus.enableInfo,
      Table.get_of_lookup_none hlookup] at hold
    cases hold
  · have hiff := ComponentOp.enabled_of_forceDisableSource (hok hlookup) desc.id
      (.source desc.dhType networkId caller)
    exact (hiff.1 huse).2 ⟨rfl, caller, rfl⟩

theorem not_inUseBy_of_disableMetaSource {m : ComponentManager L L' W W'}
    (hok : m.InUseBy networkId .MODEM MODEM_DH_ID autoCaller →
      (a.run m (.source (.disableMetaSource networkId modem))).1 = DH_FWK_SUCCESS) :
    ¬(a.run m (.source (.disableMetaSource networkId modem))).2.InUseBy networkId .MODEM
      MODEM_DH_ID autoCaller := by
  intro huse
  have hold : m.InUseBy networkId .MODEM MODEM_DH_ID autoCaller :=
    ComponentOp.inUseBy_of_run (fun op k hop hk => by cases hop; cases hk) huse
  have hret := hok hold
  have hold' : (m.source.status .MODEM).enableState ⟨networkId, MODEM_DH_ID⟩ autoCaller =
      .ENABLED := hold
  simp only [TaskAnswers.run, ComponentOp.run, SourceOp.run, SourceManager.disableMetaSource,
    ComponentManager.InUseBy, SourceManager.status_put, modem, if_true] at hret huse
  simp only [SourceManager.put, disableMetaSourceStatus, hold'] at hret huse
  rw [if_neg (by simp)] at hret huse
  split_ifs at hret huse
  all_goals exact ((DHStatus.settle_disabled_iff hret).1 huse).2 ⟨rfl, rfl⟩

/-- The use that a task is for has gone once the task has done it. -/
theorem not_inUseBy_of_perform {work : Work} (hfor : IsFor d t dhId caller work)
    (hreach : work.Reaches dev a b) (hok : work.Succeeds a m.manager) :
    ¬(work.perform dev a b m).manager.InUseBy d.networkId t dhId caller := by
  rcases hfor with rfl | ⟨rfl, rfl, rfl, rfl⟩
  · have hauto : (offLineParam d dhId t).caller.isActive = false := rfl
    have hforce : unRegisterHardware dev a (offLineParam d dhId t) m.manager =
        a.run m.manager (.source (.forceDisableSource d.networkId
          (offLineParam d dhId t).descriptor)) := by
      unfold unRegisterHardware doAutoDisable forceDisableSource
      rw [hauto, if_neg Bool.false_ne_true, if_neg hreach.1, if_neg (not_not.2 hreach.2)]
      rfl
    simp only [perform, EnabledDevices.step, EnabledDevices.disableTask, hforce]
    exact not_inUseBy_of_forceDisableSource hok
  · have hmodem : b.modem = true := hreach
    simp only [perform]
    rw [if_pos hmodem]
    exact not_inUseBy_of_disableMetaSource hok

end Work

/-! ## An `OFF_LINE` task on its way -/

/-- The task knows what it disables. -/
def DevicePhase.IsSettled : DevicePhase → Prop
  | .creating _ | .localMetaInfos | .creatingSinks _ | .done => True
  | _ => False

namespace DeviceTasks

variable {L L' W W' : Type}

section conditions

variable (dev : Devices) (s : DeviceTasks L L' W W') (f : ℕ) (d : DeviceIds)

/-- No task is left that may enable hardware of the device. -/
def Quiet : Prop :=
  ∀ task ∈ s.pipeline.live, ∀ work ∈ s.work.lookup task.id, ¬work.Enables d.networkId

/-- A task that the `OFF_LINE` task waits for and that is on the board. -/
structure ChildOf (id : ℕ) (work : Work) : Prop where
  unFinish : id ∈ s.pipeline.unFinishChildrenTasks_.get f
  registered : ∃ task, s.pipeline.tasks_.lookup id = some task
  work : s.work.lookup id = some work

/-- The `OFF_LINE` task is about to read the cache that it settles on : the first that has
anything of the device, or the last. -/
def Settles (b : DeviceAnswers) : Prop :=
  match s.phases.get f with
  | .capabilities | .localCapabilities => s.devDhInfos dev false d b (s.phases.get f) ≠ []
  | .metaCapabilities => True
  | _ => False

/-- The cache that the task is about to read names the hardware, or it is the automatic use of the
modem, which has a task of its own. -/
def Names (b : DeviceAnswers) (t : DHType) (dhId : String) (caller : DHStatusCtrlKey) : Prop :=
  (∃ info ∈ s.devDhInfos dev false d b (s.phases.get f),
      info.1 = dhId ∧ DHType.ofNumber info.2 = some t) ∨
    t = .MODEM ∧ dhId = MODEM_DH_ID ∧ caller = autoCaller ∧
      ∃ id ∈ s.pipeline.unFinishChildrenTasks_.get f, s.ChildOf f id (.metaDisable d.networkId)

/-- No task is left that enables hardware of the device, and the calls of those that the
`OFF_LINE` task created succeed. -/
def Undisturbed : DeviceTasksStep W W' → Prop
  | .goOn r a _ => s.Quiet d ∧ (r ∈ s.pipeline.running → ∀ work ∈ s.work.lookup r.task.id,
      s.ChildOf f r.task.id work → work.Succeeds a s.devices.manager)
  | _ => s.Quiet d

/-- The cache that the `OFF_LINE` task settles on names all that is enabled of the device, and
the tasks that it created get as far as to the components. -/
def Covers : DeviceTasksStep W W' → Prop
  | .goOn r a b => r ∈ s.pipeline.running →
      (r.task.id = f → r.phase = .working → s.Settles dev f d b →
        ∀ u ∈ s.devices.manager.uses d.networkId, s.Names dev f d b u.1 u.2.1 u.2.2) ∧
      ∀ work ∈ s.work.lookup r.task.id, s.ChildOf f r.task.id work → work.Reaches dev a b
  | _ => True

instance (id : ℕ) (work : Work) : Decidable (s.ChildOf f id work) :=
  decidable_of_iff (id ∈ s.pipeline.unFinishChildrenTasks_.get f ∧
      (s.pipeline.tasks_.lookup id).isSome = true ∧ s.work.lookup id = some work)
    ⟨fun h => ⟨h.1, Option.isSome_iff_exists.1 h.2.1, h.2.2⟩,
      fun h => ⟨h.unFinish, Option.isSome_iff_exists.2 h.registered, h.work⟩⟩

instance : Decidable (s.Quiet d) :=
  inferInstanceAs (Decidable (∀ task ∈ s.pipeline.live, ∀ work ∈ s.work.lookup task.id,
    ¬work.Enables d.networkId))

instance (b : DeviceAnswers) : Decidable (s.Settles dev f d b) :=
  match h : s.phases.get f with
  | .capabilities | .localCapabilities =>
    decidable_of_iff (s.devDhInfos dev false d b (s.phases.get f) ≠ []) (by rw [Settles, h])
  | .metaCapabilities => isTrue (by rw [Settles, h]; trivial)
  | .syncDeviceInfo | .syncMetaInfo | .creating _ | .localMetaInfos | .creatingSinks _
  | .metaTask | .done => isFalse (by rw [Settles, h]; exact id)

instance (b : DeviceAnswers) (t : DHType) (dhId : String) (caller : DHStatusCtrlKey) :
    Decidable (s.Names dev f d b t dhId caller) :=
  inferInstanceAs (Decidable ((∃ info ∈ _, _) ∨ _ ∧ _ ∧ _ ∧ ∃ id ∈ _, _))

instance : (l : DeviceTasksStep W W') → Decidable (s.Undisturbed f d l)
  | .goOn r a _ => inferInstanceAs (Decidable (_ ∧ (_ → ∀ work ∈ s.work.lookup r.task.id,
      s.ChildOf f r.task.id work → work.Succeeds a s.devices.manager)))
  | .createTask .. | .pushTask .. | .triggerTask .. | .doTask .. | .capabilityChange ..
  | .capabilityChangeKeys .. | .metaChange .. | .metaChangeKeys .. | .fullCapsRsp .. =>
    inferInstanceAs (Decidable (s.Quiet d))

instance : (l : DeviceTasksStep W W') → Decidable (s.Covers dev f d l)
  | .goOn r a b => inferInstanceAs (Decidable (_ → (_ → _ → _ → ∀ u ∈ _, _) ∧
      ∀ work ∈ s.work.lookup r.task.id, s.ChildOf f r.task.id work → work.Reaches dev a b))
  | .createTask .. | .pushTask .. | .triggerTask .. | .doTask .. | .capabilityChange ..
  | .capabilityChangeKeys .. | .metaChange .. | .metaChangeKeys .. | .fullCapsRsp .. =>
    inferInstanceAs (Decidable True)

end conditions

variable {dev : Devices} {s s' : DeviceTasks L L' W W'} {f moved id : ℕ} {d : DeviceIds}
  {t : DHType} {dhId : String} {caller : DHStatusCtrlKey} {work : Work} {r : RunningTask}
  {a : TaskAnswers W W'} {b : DeviceAnswers} {l : DeviceTasksStep W W'}

/-- The use will be taken away : a task for it is on the board, or will be created. -/
def Pending (s : DeviceTasks L L' W W') (f : ℕ) (d : DeviceIds) (t : DHType) (dhId : String)
    (caller : DHStatusCtrlKey) : Prop :=
  (∃ todo, s.phases.get f = .creating todo ∧ ∃ work ∈ todo, work.IsFor d t dhId caller) ∨
    ∃ id work, s.ChildOf f id work ∧ work.IsFor d t dhId caller

/-- The `OFF_LINE` task is on the board. What is enabled will be taken away once it knows what it
disables, and it waits only then. -/
structure Going (s : DeviceTasks L L' W W') (f : ℕ) (d : DeviceIds) : Prop where
  board : s.pipeline.tasks_.lookup f = some ⟨f, .OFF_LINE, none⟩
  work : s.work.lookup f = some (.offLine d)
  waits : ∀ r ∈ s.pipeline.running, r.task.id = f → r.phase = .waiting → s.phases.get f = .done
  uses : (s.phases.get f).IsSettled → ∀ t dhId caller,
    s.devices.manager.InUseBy d.networkId t dhId caller → s.Pending f d t dhId caller

/-- The `OFF_LINE` task is at work. -/
structure AtWork (s : DeviceTasks L L' W W') (f : ℕ) (r : RunningTask) : Prop where
  running : r ∈ s.pipeline.running
  phase : r.phase = .working
  task : r.task = ⟨f, .OFF_LINE, none⟩

/-- Nothing of the device is enabled. -/
def Unused (s : DeviceTasks L L' W W') (d : DeviceIds) : Prop :=
  ∀ t dhId caller, ¬s.devices.manager.InUseBy d.networkId t dhId caller

instance (s : DeviceTasks L L' W W') (d : DeviceIds) : Decidable (s.Unused d) :=
  decidable_of_iff (∀ u ∈ s.devices.manager.uses d.networkId, False)
    ⟨fun h t dhId caller huse => h (t, dhId, caller) (ComponentManager.mem_uses.2 huse),
      fun h u hu => h u.1 u.2.1 u.2.2 (ComponentManager.mem_uses.1 hu)⟩

/-- As long as no task is left that enables, nothing is enabled that was not. -/
theorem Quiet.inUseBy_of_step (h : s.Quiet d)
    (huse : (s.step dev l).devices.manager.InUseBy d.networkId t dhId caller) :
    s.devices.manager.InUseBy d.networkId t dhId caller := by
  rcases devices_step dev s l with hsame | ⟨r, a, b, work, -, hr, -, hwork, hdo⟩
  · rwa [hsame] at huse
  · rw [hdo] at huse
    have hlive : r.task ∈ s.pipeline.live := TaskPipeline.mem_live.2 (.inr ⟨r, hr, rfl⟩)
    exact Work.inUseBy_of_perform (h r.task hlive work hwork) huse

theorem Undisturbed.quiet (h : s.Undisturbed f d l) : s.Quiet d := by
  cases l with
  | goOn r a b => exact h.1
  | _ => exact h

theorem ChildOf.of_grows (hchild : s.ChildOf f id work) (h : s.pipeline.Kept)
    (hgrows : Grows moved s s') (hne : id ≠ moved) : s'.ChildOf f id work := by
  obtain ⟨task, hreg⟩ := hchild.registered
  refine ⟨hgrows.pipeline.children f id hne hchild.unFinish, ⟨task, hgrows.pipeline.board id task hne hreg⟩, ?_⟩
  rw [hgrows.work id (h.lt_nextId hreg)]
  exact hchild.work

/-- Another task goes on, and does not take itself off the board with a use left that it is
for. -/
theorem Going.of_grows (hgoing : s.Going f d) (h : s.pipeline.Kept) (hgrows : Grows moved s s')
    (hne : f ≠ moved) (huses : ∀ t dhId caller,
      s'.devices.manager.InUseBy d.networkId t dhId caller →
        s.devices.manager.InUseBy d.networkId t dhId caller ∧
          ∀ work, s.ChildOf f moved work → ¬work.IsFor d t dhId caller) : s'.Going f d := by
  have hlt := h.lt_nextId hgoing.board
  have hphase := hgrows.phases f hlt hne
  refine ⟨hgrows.pipeline.board f _ hne hgoing.board, (hgrows.work f hlt).trans hgoing.work, ?_, ?_⟩
  · intro r hr hid hwait
    rw [hphase]
    refine hgoing.waits r ((hgrows.pipeline.waits r hr hwait).resolve_right fun hmoved => ?_) hid hwait
    exact hne (hid.symm.trans hmoved)
  · intro hsettled t dhId caller huse
    rw [hphase] at hsettled
    obtain ⟨hold, hnot⟩ := huses t dhId caller huse
    rcases hgoing.uses hsettled t dhId caller hold with ⟨todo, htodo, hwork⟩ |
      ⟨id, work, hchild, hfor⟩
    · exact .inl ⟨todo, hphase.trans htodo, hwork⟩
    · refine .inr ⟨id, work, hchild.of_grows h hgrows fun hid => ?_, hfor⟩
      exact hnot work (hid ▸ hchild) hfor

/-- The `OFF_LINE` task goes to another phase. -/
theorem Going.enter (hgoing : s.Going f d) (h : s.pipeline.Kept) (hat : s.AtWork f r)
    (hgrows : ∀ moved, Grows moved s s') (phase : DevicePhase)
    (huses : phase.IsSettled → ∀ t dhId caller,
      s'.devices.manager.InUseBy d.networkId t dhId caller →
        (s'.enter f phase).Pending f d t dhId caller) : (s'.enter f phase).Going f d := by
  have hlt := h.lt_nextId hgoing.board
  have hne : f ≠ f + 1 := (Nat.lt_succ_self f).ne
  have hphase : (s'.enter f phase).phases.get f = phase := Table.get_set_self ..
  refine ⟨(hgrows (f + 1)).pipeline.board f _ hne hgoing.board,
    ((hgrows (f + 1)).work f hlt).trans hgoing.work, fun r' hr' hid hwait => ?_, ?_⟩
  · -- The task that is at work is the one of its id, and does not wait.
    have hold := ((hgrows (f + 1)).pipeline.waits r' hr' hwait).resolve_right (by omega)
    have heq := List.inj_on_of_nodup_map h.nodup_running hold hat.running (by rw [hid, hat.task])
    rw [heq, hat.phase] at hwait
    cases hwait
  · rw [hphase]
    exact huses

theorem ChildOf.enter (hchild : s.ChildOf f id work) (phase : DevicePhase) :
    (s.enter f phase).ChildOf f id work :=
  ⟨hchild.unFinish, hchild.registered, hchild.work⟩

/-- The task for a piece of hardware that a cache names. -/
theorem deviceWork_isFor {info : String × UInt32} (hn : DHType.ofNumber info.2 = some t) :
    (deviceWork false d info).IsFor d t info.1 caller := by
  refine .inl ?_
  simp only [deviceWork, Work.ofRecord, hn]
  rfl

/-- What the cache names will be taken away once its tasks are created. -/
theorem pending_of_names (h : s.Names dev f d b t dhId caller) :
    (s.enter f (.creating ((s.devDhInfos dev false d b (s.phases.get f)).map
      (deviceWork false d)))).Pending f d t dhId caller := by
  rcases h with ⟨info, hinfo, rfl, hn⟩ | ⟨rfl, rfl, rfl, id, -, hchild⟩
  · exact .inl ⟨_, Table.get_set_self .., _, List.mem_map_of_mem hinfo, deviceWork_isFor hn⟩
  · exact .inr ⟨id, _, hchild.enter _, .inr ⟨rfl, rfl, rfl, rfl⟩⟩

/-- A task that disables and that an `OFF_LINE` task at work creates is one that it waits for. -/
theorem childOf_create (h : s.pipeline.Kept) (hat : s.AtWork f r)
    (hfor : work.IsFor d t dhId caller) :
    (s.create work (some f)).ChildOf f s.pipeline.nextId work := by
  have htype : work.taskType = .DISABLE ∨ work.taskType = .META_DISABLE := by
    rcases hfor with rfl | ⟨rfl, -⟩
    · exact .inl rfl
    · exact .inr rfl
  have hcan : s.pipeline.canCreate work.taskType (some f) = true := by
    refine List.any_eq_true.2 ⟨r, hat.running, ?_⟩
    rcases htype with ht | ht <;> simp [hat.task, hat.phase, ht, TaskType.creates]
  have hne : work.taskType ≠ .UNKNOWN := by rcases htype with ht | ht <;> simp [ht]
  have hpipeline : (s.create work (some f)).pipeline =
      s.pipeline.createTask work.taskType (some f) := by
    simp only [create, TaskPipeline.step, hcan, if_true]
  refine ⟨?_, ?_, Table.lookup_set_self ..⟩
  · rw [hpipeline]
    exact TaskPipeline.mem_unFinish_createTask htype _ f
  · rw [hpipeline]
    exact ⟨_, h.lookup_createTask hne (some f)⟩

/-- What was to be taken away is so when the next task is created. -/
theorem pending_createNext (h : s.pipeline.Kept) (hat : s.AtWork f r)
    (phase : List Work → DevicePhase) (last : DevicePhase) (todo : List Work)
    (hpending : (phase = .creating ∧ ∃ work ∈ todo, work.IsFor d t dhId caller) ∨
      ∃ id work, s.ChildOf f id work ∧ work.IsFor d t dhId caller) :
    (s.createNext f phase last todo).Pending f d t dhId caller := by
  cases todo with
  | nil =>
    rcases hpending with ⟨-, work, hmem, -⟩ | ⟨id, work, hchild, hfor⟩
    · cases hmem
    · exact .inr ⟨id, work, hchild.enter _, hfor⟩
  | cons work todo =>
    rcases hpending with ⟨rfl, work', hmem, hfor⟩ | ⟨id, work', hchild, hfor⟩
    · rcases List.mem_cons.1 hmem with rfl | hmem
      · exact .inr ⟨_, _, (childOf_create h hat hfor).enter _, hfor⟩
      · exact .inl ⟨todo, Table.get_set_self .., work', hmem, hfor⟩
    · have hgrows : Grows (id + 1) s (s.create work (some f)) := grows_create h work _
      exact .inr ⟨id, work', (hchild.of_grows h hgrows (Nat.lt_succ_self id).ne).enter _, hfor⟩

theorem Going.createNext (hgoing : s.Going f d) (h : s.pipeline.Kept) (hat : s.AtWork f r)
    (phase : List Work → DevicePhase) (last : DevicePhase) (todo : List Work)
    (huses : ∀ t dhId caller, s.devices.manager.InUseBy d.networkId t dhId caller →
      (phase = .creating ∧ ∃ work ∈ todo, work.IsFor d t dhId caller) ∨
        ∃ id work, s.ChildOf f id work ∧ work.IsFor d t dhId caller) :
    (s.createNext f phase last todo).Going f d := by
  have hpending := fun t dhId caller huse =>
    pending_createNext h hat phase last todo (huses t dhId caller huse)
  cases todo with
  | nil => exact hgoing.enter h hat (fun _ => grows_of_eq h rfl rfl rfl) _ fun _ => hpending
  | cons work todo => exact hgoing.enter h hat (fun _ => grows_create h work _) _ fun _ => hpending

/-- The `OFF_LINE` task does its next step, and names all that is enabled where it settles. -/
theorem Going.advance (hgoing : s.Going f d) (h : s.pipeline.Kept) (hat : s.AtWork f r)
    (hnames : s.Settles dev f d b → ∀ t dhId caller,
      s.devices.manager.InUseBy d.networkId t dhId caller → s.Names dev f d b t dhId caller) :
    (s.advance dev f false d b).Going f d := by
  have hsame : ∀ {s' : DeviceTasks L L' W W'}, s'.pipeline = s.pipeline → s'.work = s.work →
      s'.phases = s.phases → ∀ moved, Grows moved s s' := fun hp hw hphases _ =>
    grows_of_eq h hp hw hphases
  -- The phases before the task settles.
  have hbefore : ∀ {s' : DeviceTasks L L' W W'} {phase : DevicePhase},
      (∀ moved, Grows moved s s') → ¬phase.IsSettled → (s'.enter f phase).Going f d :=
    fun hgrows hnot => hgoing.enter h hat hgrows _ fun hsettled => absurd hsettled hnot
  have hcreating : s.Settles dev f d b → (s.enter f (.creating ((s.devDhInfos dev false d b
      (s.phases.get f)).map (deviceWork false d)))).Going f d := fun hsettles =>
    hgoing.enter h hat (hsame rfl rfl rfl) _ fun _ t dhId caller huse =>
      pending_of_names (hnames hsettles t dhId caller huse)
  -- The phases after it : all tasks of the device are created.
  have hcreated : (∀ todo, s.phases.get f ≠ .creating todo) → (s.phases.get f).IsSettled →
      ∀ t dhId caller, s.devices.manager.InUseBy d.networkId t dhId caller →
        ∃ id work, s.ChildOf f id work ∧ work.IsFor d t dhId caller := by
    intro hnot hsettled t dhId caller huse
    refine (hgoing.uses hsettled t dhId caller huse).resolve_left ?_
    rintro ⟨todo, htodo, -⟩
    exact hnot todo htodo
  unfold DeviceTasks.advance
  cases hphase : s.phases.get f with
  | syncDeviceInfo | syncMetaInfo => exact hbefore (hsame rfl rfl rfl) id
  | capabilities | localCapabilities =>
    rw [hphase] at hcreating
    dsimp only
    split_ifs with hnone
    · exact hbefore (hsame rfl rfl rfl) id
    · refine hcreating ?_
      rw [Settles, hphase]
      exact hnone
  | metaCapabilities =>
    rw [hphase] at hcreating
    refine hcreating ?_
    rw [Settles, hphase]
    trivial
  | creating todo =>
    refine hgoing.createNext h hat _ _ todo fun t dhId caller huse => ?_
    refine (hgoing.uses (by rw [hphase]; trivial) t dhId caller huse).imp_left ?_
    rintro ⟨todo', htodo, hwork⟩
    cases hphase.symm.trans htodo
    exact ⟨rfl, hwork⟩
  | localMetaInfos =>
    have hchildren := hcreated (by simp [hphase]) (by rw [hphase]; trivial)
    refine hgoing.enter h hat (hsame rfl rfl rfl) _ fun _ t dhId caller huse => .inr ?_
    obtain ⟨id, work, hchild, hfor⟩ := hchildren t dhId caller huse
    exact ⟨id, work, hchild.enter _, hfor⟩
  | creatingSinks todo =>
    have hchildren := hcreated (by simp [hphase]) (by rw [hphase]; trivial)
    exact hgoing.createNext h hat _ _ todo fun t dhId caller huse =>
      .inr (hchildren t dhId caller huse)
  | metaTask =>
    simp only [Bool.false_eq_true, if_false]
    split_ifs with hphone
    · exact hbefore (fun _ => grows_create h _ _) id
    · exact hbefore (hsame rfl rfl rfl) id
  | done => exact hgoing

/-- The `OFF_LINE` task goes on, and leaves the board only with nothing enabled. -/
theorem Going.goOn (hgoing : s.Going f d) (h : s.pipeline.Kept) (hr : r ∈ s.pipeline.running)
    (hid : r.task.id = f)
    (hnames : r.phase = .working → s.Settles dev f d b → ∀ t dhId caller,
      s.devices.manager.InUseBy d.networkId t dhId caller → s.Names dev f d b t dhId caller) :
    (s.goOn dev r a b).Going f d ∨ (s.goOn dev r a b).Unused d := by
  have hremoved : r.phase ≠ .removed := fun hphase => by
    have hoff := h.offBoard r hr hphase
    rw [hid, hgoing.board] at hoff
    cases hoff
  have htask : r.task = ⟨f, .OFF_LINE, none⟩ := by
    have hon := h.onBoard r hr hremoved
    rw [hid, hgoing.board] at hon
    exact (Option.some.inj hon).symm
  -- Once all tasks are created, what is enabled has a child that is waited for.
  have hchildren : s.phases.get f = .done → ∀ t dhId caller,
      s.devices.manager.InUseBy d.networkId t dhId caller →
        ∃ id work, s.ChildOf f id work ∧ work.IsFor d t dhId caller := by
    intro hdone t dhId caller huse
    refine (hgoing.uses (by rw [hdone]; trivial) t dhId caller huse).resolve_left ?_
    rintro ⟨todo, htodo, -⟩
    cases hdone.symm.trans htodo
  unfold DeviceTasks.goOn
  rw [hid, hgoing.work]
  cases hphase : r.phase with
  | removed => exact absurd hphase hremoved
  | working =>
    dsimp only
    by_cases hdone : s.phases.get f = .done
    · rw [if_pos hdone]
      refine .inl ?_
      simp only [proceed, TaskPipeline.step, TaskPipeline.goOn, hphase, htask]
      split_ifs
      · refine ⟨hgoing.board, hgoing.work, fun _ _ _ _ => hdone, fun _ t dhId caller huse => ?_⟩
        obtain ⟨id, work, hchild, hfor⟩ := hchildren hdone t dhId caller huse
        exact .inr ⟨id, work, ⟨hchild.unFinish, hchild.registered, hchild.work⟩, hfor⟩
      · exact hgoing
    · rw [if_neg hdone]
      exact .inl (hgoing.advance h ⟨hr, hphase, htask⟩ (hnames hphase))
  | waiting =>
    dsimp only
    split_ifs with hempty
    · refine .inr fun t dhId caller huse => ?_
      obtain ⟨id, work, hchild, -⟩ := hchildren (hgoing.waits r hr hid hphase) t dhId caller huse
      have hmem := hchild.unFinish
      rw [hempty] at hmem
      exact absurd hmem (Finset.notMem_empty id)
    · exact .inl hgoing

/-- A child does what it is there for. -/
theorem ChildOf.perform_of_goOn (hchild : s.ChildOf f r.task.id work) (h : s.pipeline.Kept)
    (hr : r ∈ s.pipeline.running) (hfor : work.IsFor d t dhId caller) :
    (s.goOn dev r a b).devices = work.perform dev a b s.devices := by
  have hremoved : r.phase ≠ .removed := fun hphase => by
    obtain ⟨task, hreg⟩ := hchild.registered
    rw [h.offBoard r hr hphase] at hreg
    cases hreg
  -- An `OFF_LINE` task is nobody's child.
  have hwaiting : r.phase ≠ .waiting := fun hphase => by
    have hd : r.task.isDisable = false := by simp [Task.isDisable, h.waiting r hr hphase]
    exact h.ne_of_child hr (.inl hd) hchild.unFinish rfl
  have hworking : r.phase = .working := by
    cases hphase : r.phase with
    | working => rfl
    | waiting => exact absurd hphase hwaiting
    | removed => exact absurd hphase hremoved
  unfold DeviceTasks.goOn
  rw [hworking, hchild.work]
  rcases hfor with rfl | ⟨rfl, -⟩ <;> rfl

/-- An undisturbed step that covers what is enabled keeps the task going, or nothing of the device
is enabled behind it. -/
theorem Going.step (hgoing : s.Going f d) (h : s.pipeline.Kept) (hun : s.Undisturbed f d l)
    (hcov : s.Covers dev f d l) : (s.step dev l).Going f d ∨ (s.step dev l).Unused d := by
  have hquiet := hun.quiet
  -- A step where no task goes on.
  have hother : (∀ r a b, l ≠ .goOn r a b) → (s.step dev l).Going f d := by
    intro hl
    have hlt := h.lt_nextId hgoing.board
    refine hgoing.of_grows h (grows_step h l fun r a b heq => absurd heq (hl r a b)) hlt.ne ?_
    refine fun t dhId caller huse => ⟨hquiet.inUseBy_of_step huse, fun work hchild => ?_⟩
    obtain ⟨task, hreg⟩ := hchild.registered
    exact absurd (h.lt_nextId hreg) (lt_irrefl _)
  cases l with
  | goOn r a b =>
    by_cases hgo : r ∈ s.pipeline.running ∧ s.pipeline.isPushing r.task.id = false
    · have hstep : s.step dev (.goOn r a b) = s.goOn dev r a b := if_pos hgo
      by_cases hid : r.task.id = f
      · rw [hstep]
        refine hgoing.goOn h hgo.1 hid fun hworking hsettles t dhId caller huse => ?_
        exact (hcov hgo.1).1 hid hworking hsettles _ (ComponentManager.mem_uses.2 huse)
      · refine .inl (hgoing.of_grows h (grows_step h _ fun r' a' b' heq => ?_) (Ne.symm hid) ?_)
        · cases heq
          rfl
        · refine fun t dhId caller huse => ⟨hquiet.inUseBy_of_step huse, fun work hchild hfor => ?_⟩
          rw [hstep, hchild.perform_of_goOn h hgo.1 hfor] at huse
          have hreach := (hcov hgo.1).2 work hchild.work hchild
          have hok := hun.2 hgo.1 work hchild.work hchild
          exact Work.not_inUseBy_of_perform hfor hreach hok huse
    · have hstep : s.step dev (.goOn r a b) = s := if_neg hgo
      rw [hstep]
      exact .inl hgoing
  | _ => exact .inl (hother (by simp))


/-- The `OFF_LINE` task is created. -/
theorem going_create (h : s.pipeline.Kept) :
    (s.step dev (.createTask (.offLine d))).Going s.pipeline.nextId d := by
  have hgrows : Grows (s.pipeline.nextId + 1) s (s.create (.offLine d) none) := grows_create h _ _
  have hphase : (s.create (.offLine d) none).phases.get s.pipeline.nextId = .metaTask :=
    Table.get_set_self ..
  have hne : TaskType.OFF_LINE ≠ .UNKNOWN := by simp
  have hboard := h.lookup_createTask hne none
  refine ⟨hboard, Table.lookup_set_self .., fun r hr hid hwait => ?_, fun hsettled => ?_⟩
  · -- A task that waits is older.
    have hold := (hgrows.pipeline.waits r hr hwait).resolve_right (by omega)
    have := h.liveFresh r.task (TaskPipeline.mem_live.2 (.inr ⟨r, hold, rfl⟩))
    omega
  · have hnot : ¬(DevicePhase.metaTask).IsSettled := id
    exact absurd (hphase ▸ hsettled) hnot

end DeviceTasks

/-- A device that is online, and the answers that its tasks get : the stores have nothing new, and
it is no phone. -/
def tablet : DeviceIds := { networkId := "n1", uuid := "u1", udid := "d1" }

def tabletAnswers : DeviceAnswers where
  cJSON := cameraCodec ""
  localDevice := { networkId := "n0", uuid := "u0", udid := "d0", udidHash := "h0" }
  getUdidHashIdByUUID _ := twoDevices.sha256 "d1"
  deviceData := none
  metaData := none
  isPhone := false
  modem := false

/-- A task is pushed and starts. -/
def DeviceTasksStep.start {W W' : Type} (task : Task) : List (DeviceTasksStep W W') :=
  [.pushTask task, .triggerTask true, .doTask task]

/-- A task goes on that often. -/
def DeviceTasksStep.times (n : ℕ) (task : Task) (phase : TaskPhase) :
    List (DeviceTasksStep Unit (List SinkOffCall)) :=
  List.replicate n (.goOn ⟨task, phase⟩ (.smooth false) tabletAnswers)

/-- The camera of the tablet. -/
def tabletCamera : CapabilityInfo :=
  { camera with deviceId_ := twoDevices.getDeviceIdByUUID "u1" }

end DHFwk
