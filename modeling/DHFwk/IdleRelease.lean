import DHFwk.EnabledDevices
import DHFwk.UnInitFlag

/-!
# An idle framework is released

An `ON_LINE` task enables the sinks of the local device, and an `OFF_LINE` task disables them
again and starts `UnInit`, but both only where no device is online and none of another system is
connected when it looks. Nothing looks when the last connection ends.

`Framework` puts the tasks for the sinks beside those of the devices. `Covered` says that the
release of a deserted framework has begun or is still to come, for `UnInit` and for each sink that
is enabled. A step that is `Releasing` keeps it so, and in a run of such steps an idle framework is
released (`idle_released`). A device of another system that stays connected while the last one goes
offline, and leaves then, leaves a sink enabled and no `UnInit` (`idle_not_released`).
-/

set_option linter.unusedSectionVars false

namespace DHFwk

open Runs

/-! ## Sinks and their tasks -/

/-- The id and the type of a sink, as the meta records of the local device have them. -/
abbrev SinkInfo := String × DHType

/-- The parameters of a task for a sink. -/
def Devices.sinkParam (dev : Devices) (networkId : String) (info : SinkInfo) : HardwareParam where
  networkId := networkId
  uuid := dev.localUuid
  udid := dev.localUdid
  dhId := info.1
  dhType := info.2

/-- Where a `DISABLE` task is : before its test whether any device is left, before it disables
the sink, or dropped by the executor, so that its father waits for ever. -/
inductive DisablePhase
  | queued | deserted | dropped
  deriving DecidableEq, Repr

/-- A task for a sink, or one that is no more. -/
inductive SinkTask
  | finished
  | enable (info : SinkInfo)
  | disable (info : SinkInfo) (fatherTask : ℕ) (phase : DisablePhase)
  deriving DecidableEq, Repr

instance : Inhabited SinkTask :=
  ⟨.finished⟩

namespace SinkTask

/-- The task is queued or running. -/
def isUnderWay : SinkTask → Bool
  | .finished | .disable _ _ .dropped => false
  | _ => true

/-- The task is one that its father waits for. -/
def isChildOf (id : ℕ) : SinkTask → Bool
  | .disable _ fatherTask _ => fatherTask = id
  | _ => false

/-- The sink that the task is to enable. -/
def toEnable : SinkTask → Option SinkInfo
  | .enable info => some info
  | _ => none

/-- The sink that the task is about to disable. -/
def toDisable : SinkTask → Option SinkInfo
  | .disable info _ .deserted => some info
  | _ => none

/-- The task is to disable the sink. -/
def disables (info : SinkInfo) : SinkTask → Bool
  | .disable info' _ _ => info' = info
  | _ => false

end SinkTask

/-- How far an `OFF_LINE` task is with the sinks : not come to them, or with these yet to do. -/
inductive SinkPhase
  | toCreate
  | creating (todo : List SinkInfo)
  deriving DecidableEq, Repr

instance : Inhabited SinkPhase :=
  ⟨.toCreate⟩

/-- The task is yet to make a `DISABLE` task for the sink, if it comes to it. -/
def SinkPhase.covers (info : SinkInfo) : SinkPhase → Bool
  | .toCreate => true
  | .creating todo => info ∈ todo

/-- The sinks that are enabled for the automatic caller. -/
def ComponentManager.autoSinks {L L' W W' : Type} (m : ComponentManager L L' W W') :
    List SinkInfo :=
  m.sink.dhSinkStatus_.entries.flatMap fun e =>
    (e.2.enabled.filter fun u => u.2 = autoCaller).map fun u => (u.1, e.1)

/-! ## `Init` and `UnInit` -/

namespace DeviceTask

/-- An `OFF_LINE` task that has not entered `UnInit`. -/
def beforeUnInit : DeviceTask → Bool
  | .offLine _ .waiting | .offLine _ .removed | .offLine _ .deserted => true
  | _ => false

end DeviceTask

namespace DeviceLife

variable (s : DeviceLife)

/-- `CheckExitSAOrNot` stays and calls `Init`. -/
def stays (dmOnline hdfInuse : Bool) : Bool :=
  dmOnline || s.context.getIsomerismConnectCount ≠ 0 || hdfInuse

/-- The step calls `Init`. -/
def callsInit : DeviceStep → Bool
  | .sendOnLineEvent param _ => s.acceptsOnLine param && !s.isInit_
  | .sendOffLineEvent param _ => param.isValid && !s.isInit_
  | .addIsomerismConnectDev _ | .delIsomerismConnectDev _ => false
  | .init => true
  | .checkExitSAOrNot dmOnline hdfInuse => s.stays dmOnline hdfInuse
  | .advance id dmOnline hdfInuse =>
    (s.tasks.get id).phase = some .released && s.stays dmOnline hdfInuse

/-- The step enters `UnInit`. -/
def entersUnInit : DeviceStep → Bool
  | .advance id _ _ => (s.tasks.get id).phase = some .deserted && !s.releaseProcessMutex_.isSome
  | _ => false

end DeviceLife

/-! ## The framework -/

/-- The devices and their tasks, the component manager, the tasks for the sinks, how far each
`OFF_LINE` task is with them, whether a device has been online since the last `Init`, and whether
`UnInit` has been started since the last device went offline. -/
structure Framework (L L' W W' : Type) where
  life : DeviceLife := {}
  manager : ComponentManager L L' W W'
  sinkTasks : Table ℕ SinkTask := ∅
  nextSinkTask : ℕ := 0
  disableSinks : Table ℕ SinkPhase := ∅
  onlineSinceInit : Bool := false
  unInitStarted : Bool := false

/-- A step : of the devices and their tasks, of the sinks that an `ON_LINE` or `OFF_LINE` task
comes to, or of a task for a sink. -/
inductive FrameworkStep (W W' : Type)
  | life (l : DeviceStep)
  | createEnableSinkTask (id : ℕ) (info : SinkInfo) (dropped : Bool)
  | createDisableSinkTask (id : ℕ) (localMetaInfos : List SinkInfo)
  | pushDisableTask (id : ℕ) (dropped : Bool)
  | enableTask (id : ℕ) (a : TaskAnswers W W')
  | disableTask (id : ℕ) (a : TaskAnswers W W')

namespace Framework

variable {L L' W W' : Type} (dev : Devices) (s : Framework L L' W W')

/-- The networkIds of the online devices. -/
abbrev networkIds : Finset String :=
  s.life.context.realTimeOnLineNetworkIdSet_

/-- The devices of other systems that are connected. -/
abbrev connected : Finset String :=
  s.life.context.connectedDevIds_

/-- The devices and their tasks do a step. -/
def lifeStep (l : DeviceStep) : Framework L L' W W' :=
  let life := s.life.step l
  let gone := s.networkIds ≠ ∅ ∧ life.context.realTimeOnLineNetworkIdSet_ = ∅
  { s with
    life := life
    onlineSinceInit :=
      if life.context.realTimeOnLineNetworkIdSet_ ⊆ s.networkIds then
        if s.life.callsInit l then s.networkIds ≠ ∅ else s.onlineSinceInit
      else true
    unInitStarted := if gone then false else s.unInitStarted || s.life.entersUnInit l }

/-- The `OFF_LINE` task has sinks to do or waits for a task that it made. -/
def isBusy (id : ℕ) : Bool :=
  (s.life.tasks.get id).phase = some .waiting &&
    (s.disableSinks.get id ≠ .creating [] ||
      s.sinkTasks.count (fun _ task => task.isChildOf id) ≠ 0)

/-- `PushTask`. -/
def pushTask (task : SinkTask) : Framework L L' W W' :=
  { s with
    sinkTasks := s.sinkTasks.set s.nextSinkTask task
    nextSinkTask := s.nextSinkTask + 1 }

/-- `OnLineTask::CreateEnableSinkTask`, for one of the records that it finds. -/
def createEnableSinkTask (id : ℕ) (info : SinkInfo) (dropped : Bool) : Framework L L' W W' :=
  match s.life.tasks.get id with
  | .onLine _ => if dropped then s else s.pushTask (.enable info)
  | _ => s

/-- `OffLineTask::CreateDisableSinkTask` finds these records. -/
def createDisableSinkTask (id : ℕ) (localMetaInfos : List SinkInfo) : Framework L L' W W' :=
  match s.life.tasks.get id, s.disableSinks.get id with
  | .offLine _ .waiting, .toCreate =>
    let todo := localMetaInfos.filter fun info => info.2 ≠ .MODEM
    { s with disableSinks := s.disableSinks.set id (.creating todo) }
  | _, _ => s

/-- The task for the next of them is created and pushed. -/
def pushDisableTask (id : ℕ) (dropped : Bool) : Framework L L' W W' :=
  match s.life.tasks.get id, s.disableSinks.get id with
  | .offLine _ .waiting, .creating (info :: todo) =>
    let phase : DisablePhase := if dropped then .dropped else .queued
    { s with disableSinks := s.disableSinks.set id (.creating todo) }.pushTask
      (.disable info id phase)
  | _, _ => s

/-- `EnableTask::DoTaskInner`. -/
def enableTask (id : ℕ) (a : TaskAnswers W W') : Framework L L' W W' :=
  match s.sinkTasks.get id with
  | .enable info =>
    let p := dev.sinkParam a.queries.getLocalNetworkId info
    { s with
      manager := (registerHardware dev a p s.manager).2
      sinkTasks := s.sinkTasks.set id .finished }
  | _ => s

/-- `DisableTask::DoTaskInner` : what happens between its test and the call is another step. -/
def disableTask (id : ℕ) (a : TaskAnswers W W') : Framework L L' W W' :=
  match s.sinkTasks.get id with
  | .disable info fatherTask .queued =>
    let task : SinkTask :=
      if s.life.context.isDeserted then .disable info fatherTask .deserted else .finished
    { s with sinkTasks := s.sinkTasks.set id task }
  | .disable info _ .deserted =>
    let p := dev.sinkParam a.queries.getLocalNetworkId info
    { s with
      manager := (unRegisterHardware dev { a with isDeserted := true } p s.manager).2
      sinkTasks := s.sinkTasks.set id .finished }
  | _ => s

/-- One step. -/
def step : FrameworkStep W W' → Framework L L' W W'
  | .life l =>
    match l with
    | .advance id _ _ => if s.isBusy id then s else s.lifeStep l
    | _ => s.lifeStep l
  | .createEnableSinkTask id info dropped => s.createEnableSinkTask id info dropped
  | .createDisableSinkTask id localMetaInfos => s.createDisableSinkTask id localMetaInfos
  | .pushDisableTask id dropped => s.pushDisableTask id dropped
  | .enableTask id a => s.enableTask dev id a
  | .disableTask id a => s.disableTask dev id a

/-- No task is queued or running. -/
def Idle : Prop :=
  s.life.Idle ∧ s.sinkTasks.count (fun _ task => task.isUnderWay) = 0

instance : Decidable s.Idle :=
  inferInstanceAs (Decidable (_ ∧ _))

/-- No device is online, and none of another system is connected. -/
def Deserted : Prop :=
  s.networkIds = ∅ ∧ s.connected = ∅

instance : Decidable s.Deserted :=
  inferInstanceAs (Decidable (_ ∧ _))

/-- A device has been online since the last `Init`, none is any more, and no task is left. -/
structure LeftAlone : Prop where
  online : s.onlineSinceInit = true
  deserted : s.Deserted
  idle : s.Idle

instance : Decidable s.LeftAlone :=
  decidable_of_iff (_ ∧ _ ∧ _) ⟨fun h => ⟨h.1, h.2.1, h.2.2⟩, fun h => ⟨h.online, h.deserted, h.idle⟩⟩

/-- No sink is enabled for the automatic caller, and `UnInit` has been started since the last
device went offline. -/
structure Released : Prop where
  sinks : ∀ dhType dhId,
    (s.manager.sink.status dhType).enableState dhId autoCaller = .DISABLED
  unInit : s.unInitStarted = true

/-- Nothing has happened. -/
def start (w : W) (w' : W') : Framework L L' W W' :=
  { manager := { source := { world := w }, sink := { world := w' } } }

/-! ## What is still to come -/

/-- The `OFF_LINE` task is yet to make a task for the sink. -/
def willDisable (id : ℕ) (info : SinkInfo) : Bool :=
  (s.life.tasks.get id).phase = some .waiting && (s.disableSinks.get id).covers info

/-- A task is to disable the sink. -/
def isDisabling (id : ℕ) (info : SinkInfo) : Bool :=
  (s.sinkTasks.get id).disables info

/-- A task is to disable the sink, or is yet to make one that is. -/
def Disabling (info : SinkInfo) : Prop :=
  (∃ id < s.life.nextTask, s.willDisable id info = true) ∨
    ∃ id < s.nextSinkTask, s.isDisabling id info = true

instance (info : SinkInfo) : Decidable (s.Disabling info) :=
  inferInstanceAs (Decidable (_ ∨ _))

/-- `UnInit` has been started or is still to come, and so has the end of each sink. -/
structure Covered : Prop where
  unInit : s.unInitStarted = true ∨ 0 < s.life.taskCount DeviceTask.beforeUnInit
  sinks : ∀ info ∈ s.manager.autoSinks, s.Disabling info

instance : Decidable s.Covered :=
  decidable_of_iff (_ ∧ _) ⟨fun h => ⟨h.1, h.2⟩, fun h => ⟨h.unInit, h.sinks⟩⟩

/-- A step that leaves a deserted framework with its release begun or still to come. -/
def Releasing : FrameworkStep W W' → Prop
  -- the task of the last device is queued, or that of another does what it had to
  | .life (.sendOffLineEvent param dropped) => s.life.acceptsOffLine param = true →
      dropped = true → s.networkIds = {param.networkId} → s.connected = ∅ →
      0 < s.life.taskCount DeviceTask.beforeUnInit ∧ ∀ info ∈ s.manager.autoSinks, s.Disabling info
  -- the last connection does not outlive the devices, unless all is still to come
  | .life (.delIsomerismConnectDev isomerismDeviceId) => s.onlineSinceInit = true →
      s.networkIds = ∅ → s.connected = {isomerismDeviceId} → s.Covered
  -- the records name each sink that is enabled and of which no other task knows
  | .createDisableSinkTask id localMetaInfos => s.onlineSinceInit = true → s.Deserted →
      (s.life.tasks.get id).phase = some .waiting → s.disableSinks.get id = .toCreate →
      ∀ info ∈ s.manager.autoSinks, (info ∈ localMetaInfos ∧ info.2 ≠ .MODEM) ∨
        (∃ id' < s.life.nextTask, id' ≠ id ∧ s.willDisable id' info = true) ∨
        ∃ id' < s.nextSinkTask, s.isDisabling id' info = true
  -- no sink is enabled that was disabled before
  | .enableTask id a => s.onlineSinceInit = true → s.Deserted →
      ∀ info ∈ (s.sinkTasks.get id).toEnable,
        (registerHardware dev a (dev.sinkParam a.queries.getLocalNetworkId info) s.manager).1 =
          DH_FWK_SUCCESS → s.Disabling info
  -- a disable succeeds
  | .disableTask id a =>
    ∀ info ∈ (s.sinkTasks.get id).toDisable, a.queries.isDHTypeSupport info.2 = true
  | _ => True

instance : ∀ l : FrameworkStep W W', Decidable (Releasing dev s l)
  | .life (.sendOffLineEvent ..) => inferInstanceAs (Decidable (_ → _ → _ → _ → _ ∧ ∀ _ ∈ _, _))
  | .life (.delIsomerismConnectDev _) => inferInstanceAs (Decidable (_ → _ → _ → _))
  | .createDisableSinkTask .. => inferInstanceAs (Decidable (_ → _ → _ → _ → ∀ _ ∈ _, _ ∨
      (∃ id' < _, _) ∨ ∃ id' < _, _))
  | .enableTask .. => inferInstanceAs (Decidable (_ → _ → ∀ _ ∈ _, _))
  | .disableTask .. => inferInstanceAs (Decidable (∀ _ ∈ _, _))
  | .life (.sendOnLineEvent ..) | .life (.addIsomerismConnectDev _) | .life .init
  | .life (.checkExitSAOrNot ..) | .life (.advance ..) | .createEnableSinkTask ..
  | .pushDisableTask .. => inferInstanceAs (Decidable True)

end Framework

/-! ## What a step of the devices leaves -/

namespace DHContext

variable {context : DHContext}

@[simp] theorem addOnlineDevice_connectedDevIds_ {udid uuid networkId : String} :
    (context.addOnlineDevice udid uuid networkId).connectedDevIds_ = context.connectedDevIds_ := by
  unfold addOnlineDevice
  dsimp only
  split_ifs <;> rfl

@[simp] theorem removeOnlineDeviceIdEntryByNetworkId_connectedDevIds_ {networkId : String} :
    (context.removeOnlineDeviceIdEntryByNetworkId networkId).connectedDevIds_ =
      context.connectedDevIds_ := by
  unfold removeOnlineDeviceIdEntryByNetworkId
  split_ifs <;> rfl

end DHContext

namespace DeviceLife

variable {s : DeviceLife} {l : DeviceStep} {id : ℕ} {task : DeviceTask} {dropped : Bool}

theorem get_pushTask (hid : id < s.nextTask) :
    (s.pushTask task dropped).tasks.get id = s.tasks.get id := by
  cases dropped with
  | true => rfl
  | false => exact Table.get_set_ne _ hid.ne _

/-- A step writes no task but the one that goes on. -/
theorem get_step (hid : id < s.nextTask)
    (hl : ∀ dmOnline hdfInuse, l ≠ .advance id dmOnline hdfInuse) :
    (s.step l).tasks.get id = s.tasks.get id := by
  cases l with
  | sendOnLineEvent param dropped =>
    show (s.sendOnLineEvent param dropped).2.tasks.get id = _
    cases ha : s.acceptsOnLine param with
    | false => rw [(sendOnLineEvent_of_not_accepts ha dropped).2]
    | true =>
      rw [sendOnLineEvent_of_accepts ha dropped]
      refine (get_pushTask ?_).trans ?_
      · rwa [ensureInit_nextTask]
      · rw [ensureInit_tasks]
  | sendOffLineEvent param dropped =>
    show (s.sendOffLineEvent param dropped).2.tasks.get id = _
    cases ha : s.acceptsOffLine param with
    | false =>
      obtain h | h := (sendOffLineEvent_of_not_accepts ha dropped).2 <;> rw [h]
      rw [ensureInit_tasks]
    | true =>
      rw [sendOffLineEvent_of_accepts ha dropped]
      have htasks : (s.goOffLine param).tasks = s.tasks := ensureInit_tasks
      refine (get_pushTask ?_).trans (congrArg (Table.get · id) htasks)
      exact hid.trans_eq ensureInit_nextTask.symm
  | addIsomerismConnectDev | delIsomerismConnectDev | init => rfl
  | checkExitSAOrNot dmOnline hdfInuse =>
    exact congrArg (Table.get · id) (checkExitSAOrNot_tasks dmOnline hdfInuse)
  | advance id' dmOnline hdfInuse =>
    have hne : id ≠ id' := by
      rintro rfl
      exact hl _ _ rfl
    obtain h | ⟨-, task, -, h⟩ := (s.advance_tasks id' dmOnline hdfInuse).2
    · exact congrArg (Table.get · id) h
    · exact (congrArg (Table.get · id) h).trans (Table.get_set_ne _ hne _)

theorem le_nextTask_step (s : DeviceLife) (l : DeviceStep) :
    s.nextTask ≤ (s.step l).nextTask := by
  cases l with
  | sendOnLineEvent param dropped =>
    show _ ≤ (s.sendOnLineEvent param dropped).2.nextTask
    cases ha : s.acceptsOnLine param with
    | false => rw [(sendOnLineEvent_of_not_accepts ha dropped).2]
    | true =>
      rw [sendOnLineEvent_of_accepts ha dropped]
      refine le_trans (le_of_eq ?_) (le_nextTask_pushTask _)
      rw [ensureInit_nextTask]
  | sendOffLineEvent param dropped =>
    show _ ≤ (s.sendOffLineEvent param dropped).2.nextTask
    cases ha : s.acceptsOffLine param with
    | false =>
      obtain h | h := (sendOffLineEvent_of_not_accepts ha dropped).2 <;> rw [h]
      rw [ensureInit_nextTask]
    | true =>
      rw [sendOffLineEvent_of_accepts ha dropped]
      refine le_trans (le_of_eq ?_) (le_nextTask_pushTask _)
      exact ensureInit_nextTask.symm
  | addIsomerismConnectDev | delIsomerismConnectDev | init => exact le_rfl
  | checkExitSAOrNot dmOnline hdfInuse =>
    exact (checkExitSAOrNot_nextTask dmOnline hdfInuse).ge
  | advance id dmOnline hdfInuse => exact (s.advance_tasks id dmOnline hdfInuse).1.ge

/-- A task that goes on leaves what is online and connected. -/
theorem advance_devices (s : DeviceLife) (id : ℕ) (dmOnline hdfInuse : Bool) :
    (s.advance id dmOnline hdfInuse).context.realTimeOnLineNetworkIdSet_ =
        s.context.realTimeOnLineNetworkIdSet_ ∧
      (s.advance id dmOnline hdfInuse).context.connectedDevIds_ =
        s.context.connectedDevIds_ := by
  by_cases hwait : ∃ param, s.tasks.get id = .offLine param .waiting
  · obtain ⟨param, htask⟩ := hwait
    simp [advance, htask, offLineTask, setTask]
  · have hcontext := s.advance_context dmOnline hdfInuse (not_exists.1 hwait)
    rw [hcontext]
    exact ⟨rfl, rfl⟩

theorem isDeserted_of_empty (hnet : s.context.realTimeOnLineNetworkIdSet_ = ∅)
    (hconn : s.context.connectedDevIds_ = ∅) : s.context.isDeserted = true := by
  simp [DHContext.isDeserted, DHContext.getRealTimeOnlineDeviceCount,
    DHContext.getIsomerismConnectCount, hnet, hconn]

/-- Where nothing is left, a task that has not entered `UnInit` goes on to it. -/
theorem beforeUnInit_advance (hdeserted : s.context.isDeserted = true) (dmOnline hdfInuse : Bool) :
    (s.advance id dmOnline hdfInuse).taskCount DeviceTask.beforeUnInit =
        s.taskCount DeviceTask.beforeUnInit ∨
      s.entersUnInit (.advance id dmOnline hdfInuse) = true := by
  have hsame : ∀ {t : DeviceLife} {task : DeviceTask}, t.tasks = s.tasks.set id task →
      (s.tasks.get id).beforeUnInit = task.beforeUnInit →
      t.taskCount DeviceTask.beforeUnInit = s.taskCount DeviceTask.beforeUnInit :=
    fun htasks htask => taskCount_of_same rfl htasks htask
  unfold advance
  cases htask : s.tasks.get id with
  | finished => exact .inl rfl
  | onLine param => exact .inl (hsame rfl (by rw [htask]; rfl))
  | offLine param phase =>
    cases phase with
    | waiting => exact .inl (hsame rfl (by rw [htask]; rfl))
    | removed => exact .inl (hsame rfl (by rw [htask, if_pos hdeserted]; rfl))
    | deserted =>
      cases hmutex : s.releaseProcessMutex_.isSome with
      | true => exact .inl (by simp [offLineTask, hmutex])
      | false => exact .inr (by simp [entersUnInit, htask, hmutex, DeviceTask.phase])
    | releasing => exact .inl (hsame rfl (by rw [htask]; rfl))
    | uninited => exact .inl (hsame rfl (by rw [htask]; rfl))
    | released =>
      have hbefore : (s.tasks.get id).beforeUnInit = DeviceTask.finished.beforeUnInit := by
        rw [htask]
        rfl
      refine .inl (hsame ?_ hbefore)
      simp [offLineTask, setTask]

end DeviceLife

/-! ## What every step keeps -/

theorem ComponentManager.mem_autoSinks {L L' W W' : Type} {m : ComponentManager L L' W W'}
    {info : SinkInfo} :
    info ∈ m.autoSinks ↔ m.Enabled info.1 (.sink info.2 autoCaller) := by
  obtain ⟨dhId, dhType⟩ := info
  simp only [autoSinks, List.mem_flatMap, List.mem_map, List.mem_filter, decide_eq_true_eq,
    Prod.mk.injEq, Enabled, SinkManager.status]
  constructor
  · rintro ⟨e, he, ⟨dhId, caller⟩, ⟨hu, rfl⟩, rfl, rfl⟩
    rw [Table.get_of_lookup (List.mem_dlookup m.sink.dhSinkStatus_.nodupKeys he)]
    exact DHStatus.mem_enabled.1 hu
  · intro he
    cases hlookup : m.sink.dhSinkStatus_.lookup dhType with
    | none =>
      rw [Table.get_of_lookup_none hlookup] at he
      cases he
    | some status =>
      rw [Table.get_of_lookup hlookup] at he
      exact ⟨⟨dhType, status⟩, AList.mem_lookup_iff.1 hlookup, (dhId, autoCaller),
        ⟨DHStatus.mem_enabled.2 he, rfl⟩, rfl, rfl⟩

namespace Framework

variable {L L' W W' : Type} {dev : Devices} {s t : Framework L L' W W'} {l : DeviceStep} {id : ℕ}
  {info : SinkInfo}

/-- What holds in every state of a run that releases. -/
structure Kept (s : Framework L L' W W') : Prop where
  fresh : s.life.Fresh
  sinkFresh : ∀ id, s.nextSinkTask ≤ id → s.sinkTasks.get id = .finished
  phases : ∀ id, s.life.nextTask ≤ id → s.disableSinks.get id = .toCreate
  fathers : ∀ id info fatherTask phase, s.sinkTasks.get id = .disable info fatherTask phase →
    (s.life.tasks.get fatherTask).phase = some .waiting
  online : s.networkIds ≠ ∅ → s.onlineSinceInit = true
  watched : s.onlineSinceInit = true → s.Deserted → s.Covered

theorem kept_start (w : W) (w' : W') : (start w w' : Framework L L' W W').Kept where
  fresh _ _ := rfl
  sinkFresh _ _ := rfl
  phases _ _ := rfl
  fathers _ _ _ _ h := by cases h
  online h := absurd rfl h
  watched h := by cases h

/-- A task in some phase has been pushed. -/
theorem Kept.lt_nextTask (h : s.Kept) {phase : OffLinePhase}
    (hphase : (s.life.tasks.get id).phase = some phase) : id < s.life.nextTask := by
  by_contra hle
  rw [h.fresh id (not_lt.1 hle)] at hphase
  cases hphase

/-- Once no task is left, none is to disable a sink. -/
theorem Kept.not_disabling (h : s.Kept) (hidle : s.life.Idle) : ¬ s.Disabling info := by
  have hnot : ∀ id, (s.life.tasks.get id).phase ≠ some .waiting := by
    intro id hphase
    have hleft : s.life.tasks.get id ≠ .finished := by
      intro hfinished
      rw [hfinished] at hphase
      cases hphase
    exact (DeviceLife.taskCount_pos rfl (decide_eq_true hleft)).ne' hidle
  rintro (⟨id, -, hwill⟩ | ⟨id, -, hdisables⟩)
  · rw [willDisable, Bool.and_eq_true, decide_eq_true_eq] at hwill
    exact hnot id hwill.1
  · rw [isDisabling] at hdisables
    cases htask : s.sinkTasks.get id with
    | finished =>
      rw [htask] at hdisables
      cases hdisables
    | enable info' =>
      rw [htask] at hdisables
      cases hdisables
    | disable info' fatherTask phase => exact hnot _ (h.fathers id _ _ _ htask)

theorem Kept.released (h : s.Kept) (halone : s.LeftAlone) : s.Released := by
  obtain ⟨hunInit, hsinks⟩ := h.watched halone.online halone.deserted
  have hidle := halone.idle.1
  refine ⟨fun dhType dhId => DHStatus.eq_disabled fun henabled => ?_, hunInit.resolve_right ?_⟩
  · exact h.not_disabling hidle (hsinks (dhId, dhType) (ComponentManager.mem_autoSinks.2 henabled))
  · rw [hidle.taskCount_eq_zero rfl]
    exact lt_irrefl 0

/-! ## Steps of the devices -/

/-- A task that goes on is not busy. -/
def Ready (s : Framework L L' W W') (l : DeviceStep) : Prop :=
  ∀ id dmOnline hdfInuse, l = .advance id dmOnline hdfInuse → s.isBusy id = false

/-- A task that waits and goes on has no sink left to do. -/
theorem Ready.done (h : s.Ready l) {dmOnline hdfInuse : Bool}
    (hl : l = .advance id dmOnline hdfInuse) (hphase : (s.life.tasks.get id).phase = some .waiting) :
    s.disableSinks.get id = .creating [] ∧
      s.sinkTasks.count (fun _ task => task.isChildOf id) = 0 := by
  have hbusy := h id _ _ hl
  simpa [isBusy, hphase] using hbusy

theorem Ready.disabling_lifeStep (hready : s.Ready l) (hdis : s.Disabling info) :
    (s.lifeStep l).Disabling info := by
  refine hdis.imp ?_ fun h => h
  rintro ⟨id, hid, hwill⟩
  refine ⟨id, hid.trans_le (s.life.le_nextTask_step l), ?_⟩
  have hphase : (s.life.tasks.get id).phase = some .waiting := by
    rw [willDisable, Bool.and_eq_true, decide_eq_true_eq] at hwill
    exact hwill.1
  have hget := DeviceLife.get_step (l := l) hid fun dmOnline hdfInuse hl => by
    rw [willDisable, (hready.done hl hphase).1] at hwill
    simp [SinkPhase.covers] at hwill
  rw [willDisable]
  show (decide (((s.life.step l).tasks.get id).phase = some .waiting) &&
    (s.disableSinks.get id).covers info) = true
  rw [hget]
  exact hwill

/-- The last notification of a device may not be an online one. -/
theorem onlineSinceInit_lifeStep (hnet : s.networkIds = ∅)
    (hnet' : (s.life.step l).context.realTimeOnLineNetworkIdSet_ = ∅)
    (honline : (s.lifeStep l).onlineSinceInit = true) :
    s.life.callsInit l = false ∧ s.onlineSinceInit = true := by
  have hsub : (s.life.step l).context.realTimeOnLineNetworkIdSet_ ⊆ s.networkIds := by
    rw [hnet']
    exact Finset.empty_subset _
  have honline' : (if s.life.callsInit l then decide (s.networkIds ≠ ∅) else s.onlineSinceInit) =
      true := by
    rw [lifeStep, if_pos hsub] at honline
    exact honline
  cases hinit : s.life.callsInit l with
  | true => simp [hinit, hnet] at honline'
  | false => exact ⟨rfl, by simpa [hinit] using honline'⟩

theorem unInitStarted_lifeStep
    (hnet : (s.life.step l).context.realTimeOnLineNetworkIdSet_ = s.networkIds) :
    (s.lifeStep l).unInitStarted = (s.unInitStarted || s.life.entersUnInit l) := by
  refine if_neg ?_
  rintro ⟨hne, he⟩
  exact hne (hnet.symm.trans he)

/-- A step that leaves what is online keeps a deserted framework covered. -/
theorem Ready.covered_lifeStep (hready : s.Ready l)
    (hnet : (s.life.step l).context.realTimeOnLineNetworkIdSet_ = s.networkIds)
    (hcount : s.life.taskCount DeviceTask.beforeUnInit ≤
        (s.life.step l).taskCount DeviceTask.beforeUnInit ∨ s.life.entersUnInit l = true)
    (hcovered : s.Covered) : (s.lifeStep l).Covered := by
  refine ⟨?_, fun info hinfo => hready.disabling_lifeStep (hcovered.sinks info hinfo)⟩
  rw [unInitStarted_lifeStep hnet, Bool.or_eq_true]
  obtain hle | henters := hcount
  · obtain hstarted | hpos := hcovered.unInit
    · exact .inl (.inl hstarted)
    · exact .inr (hpos.trans_le hle)
  · exact .inl (.inr henters)

/-- A step that leaves what is online and connected keeps a deserted framework covered. -/
theorem Kept.covered_of_quiet (h : s.Kept) (hready : s.Ready l)
    (hnet : (s.life.step l).context.realTimeOnLineNetworkIdSet_ = s.networkIds)
    (hconn : s.connected = ∅)
    (hcount : s.life.taskCount DeviceTask.beforeUnInit ≤
        (s.life.step l).taskCount DeviceTask.beforeUnInit ∨ s.life.entersUnInit l = true)
    (honline : (s.lifeStep l).onlineSinceInit = true) (hdeserted : (s.lifeStep l).Deserted) :
    (s.lifeStep l).Covered := by
  have hnet' : s.networkIds = ∅ := hnet.symm.trans hdeserted.1
  have honline' := (onlineSinceInit_lifeStep hnet' hdeserted.1 honline).2
  exact hready.covered_lifeStep hnet hcount (h.watched honline' ⟨hnet', hconn⟩)

/-- A step that leaves the context as it is, and the tasks, keeps a deserted framework covered. -/
theorem Kept.covered_of_same (h : s.Kept) (hready : s.Ready l)
    (hcontext : (s.life.step l).context = s.life.context)
    (htasks : (s.life.step l).tasks = s.life.tasks)
    (honline : (s.lifeStep l).onlineSinceInit = true) (hdeserted : (s.lifeStep l).Deserted) :
    (s.lifeStep l).Covered := by
  have hconn : s.connected = (s.life.step l).context.connectedDevIds_ := by rw [hcontext]
  exact h.covered_of_quiet hready (by rw [hcontext]) (hconn.trans hdeserted.2)
    (.inl (DeviceLife.taskCount_congr htasks).ge) honline hdeserted

section offLine

variable {param : TaskParam} {dropped : Bool}

/-- What an accepted offline notification makes of the devices and of the tasks. -/
theorem Kept.life_offLine (h : s.Kept) (ha : s.life.acceptsOffLine param = true) (dropped : Bool) :
    let t := s.life.step (.sendOffLineEvent param dropped)
    t.context.realTimeOnLineNetworkIdSet_ = s.networkIds.erase param.networkId ∧
      t.context.connectedDevIds_ = s.connected ∧
      t.taskCount DeviceTask.beforeUnInit =
        s.life.taskCount DeviceTask.beforeUnInit + if dropped = false then 1 else 0 := by
  intro t
  have hlife : t = (s.life.goOffLine param).pushTask (.offLine param .waiting) dropped :=
    congrArg Prod.snd (DeviceLife.sendOffLineEvent_of_accepts ha dropped)
  have hfresh : (s.life.goOffLine param).Fresh := h.fresh.ensureInit
  rw [hlife, DeviceLife.pushTask_context, DeviceLife.taskCount_pushTask rfl hfresh]
  refine ⟨rfl, rfl, ?_⟩
  simp only [DeviceTask.beforeUnInit, and_true]
  exact congrArg (· + _) (DeviceLife.taskCount_congr DeviceLife.ensureInit_tasks)

/-- The task of an accepted offline notification is to make a task for every sink. -/
theorem Kept.disabling_offLine (h : s.Kept) (ha : s.life.acceptsOffLine param = true)
    (info : SinkInfo) : (s.lifeStep (.sendOffLineEvent param false)).Disabling info := by
  have hlife : s.life.step (.sendOffLineEvent param false) =
      (s.life.goOffLine param).pushTask (.offLine param .waiting) false :=
    congrArg Prod.snd (DeviceLife.sendOffLineEvent_of_accepts ha false)
  refine .inl ⟨s.life.nextTask, ?_, ?_⟩
  · show _ < (s.life.step _).nextTask
    rw [hlife]
    exact (Nat.lt_succ_self _).trans_eq (congrArg (· + 1) DeviceLife.ensureInit_nextTask.symm)
  · have hget : (s.life.step (.sendOffLineEvent param false)).tasks.get s.life.nextTask =
        .offLine param .waiting := by
      rw [hlife, ← DeviceLife.ensureInit_nextTask (s := s.life)]
      exact Table.get_set_self _ _ _
    rw [willDisable]
    show (decide (((s.life.step _).tasks.get s.life.nextTask).phase = some .waiting) &&
      (s.disableSinks.get s.life.nextTask).covers info) = true
    rw [hget, h.phases _ le_rfl]
    rfl

/-- An offline notification that is refused leaves a deserted framework covered. -/
theorem Kept.covered_of_refused (h : s.Kept) (ha : s.life.acceptsOffLine param = false)
    (honline : (s.lifeStep (.sendOffLineEvent param dropped)).onlineSinceInit = true)
    (hdeserted : (s.lifeStep (.sendOffLineEvent param dropped)).Deserted) :
    (s.lifeStep (.sendOffLineEvent param dropped)).Covered := by
  have hlife := (DeviceLife.sendOffLineEvent_of_not_accepts ha dropped).2
  refine h.covered_of_same (fun _ _ _ hl => by cases hl) ?_ ?_ honline hdeserted
  · show (s.life.sendOffLineEvent param dropped).2.context = _
    obtain hlife | hlife := hlife <;> rw [hlife]
    exact DeviceLife.ensureInit_context
  · show (s.life.sendOffLineEvent param dropped).2.tasks = _
    obtain hlife | hlife := hlife <;> rw [hlife]
    exact DeviceLife.ensureInit_tasks

theorem Kept.covered_sendOffLineEvent (h : s.Kept)
    (hrel : Releasing dev s (.life (.sendOffLineEvent param dropped) : FrameworkStep W W'))
    (honline : (s.lifeStep (.sendOffLineEvent param dropped)).onlineSinceInit = true)
    (hdeserted : (s.lifeStep (.sendOffLineEvent param dropped)).Deserted) :
    (s.lifeStep (.sendOffLineEvent param dropped)).Covered := by
  have hready : s.Ready (.sendOffLineEvent param dropped) := fun _ _ _ hl => by cases hl
  cases ha : s.life.acceptsOffLine param with
  | false => exact h.covered_of_refused ha honline hdeserted
  | true =>
    obtain ⟨hnet, hconn', hcount⟩ := h.life_offLine ha dropped
    have hconn : s.connected = ∅ := hconn'.symm.trans hdeserted.2
    by_cases hempty : s.networkIds = ∅
    · refine h.covered_of_quiet hready ?_ hconn (.inl ?_) honline hdeserted
      · rw [hnet, hempty]
        rfl
      · rw [hcount]
        exact Nat.le_add_right _ _
    · have hlast : s.networkIds = {param.networkId} := by
        have hsub := Finset.erase_eq_empty_iff _ _ |>.1 (hnet.symm.trans hdeserted.1)
        exact hsub.resolve_left hempty
      cases dropped with
      | true =>
        obtain ⟨hpos, hsinks⟩ := hrel ha rfl hlast hconn
        refine ⟨.inr ?_, fun info hinfo => hready.disabling_lifeStep (hsinks info hinfo)⟩
        exact hpos.trans_eq hcount.symm
      | false =>
        refine ⟨.inr ?_, fun info _ => h.disabling_offLine ha info⟩
        show 0 < (s.life.step _).taskCount _
        rw [hcount]
        exact Nat.succ_pos _

end offLine

/-- A device of another system that disconnects last finds a framework that is covered, or leaves
one. -/
theorem Kept.covered_delIsomerismConnectDev (h : s.Kept) {isomerismDeviceId : String}
    (hrel : Releasing dev s (.life (.delIsomerismConnectDev isomerismDeviceId) :
      FrameworkStep W W'))
    (honline : (s.lifeStep (.delIsomerismConnectDev isomerismDeviceId)).onlineSinceInit = true)
    (hdeserted : (s.lifeStep (.delIsomerismConnectDev isomerismDeviceId)).Deserted) :
    (s.lifeStep (.delIsomerismConnectDev isomerismDeviceId)).Covered := by
  have hready : s.Ready (.delIsomerismConnectDev isomerismDeviceId) := fun _ _ _ hl => by cases hl
  have hnet : (s.life.context.delIsomerismConnectDev
      isomerismDeviceId).realTimeOnLineNetworkIdSet_ = s.networkIds :=
    DHContext.delIsomerismConnectDev_realTimeOnLineNetworkIdSet_
  have hnet' : s.networkIds = ∅ := hnet.symm.trans hdeserted.1
  have hconn : (s.life.context.delIsomerismConnectDev isomerismDeviceId).connectedDevIds_ = ∅ :=
    hdeserted.2
  have honline' := (onlineSinceInit_lifeStep hnet' hdeserted.1 honline).2
  have hcovered : s.Covered := by
    by_cases hempty : s.connected = ∅
    · exact h.watched honline' ⟨hnet', hempty⟩
    · refine hrel honline' hnet' ?_
      unfold DHContext.delIsomerismConnectDev at hconn
      split_ifs at hconn with hvalid
      · exact absurd hconn hempty
      · exact ((Finset.erase_eq_empty_iff _ _).1 hconn).resolve_left hempty
  exact hready.covered_lifeStep hnet (.inl le_rfl) hcovered

/-- A step of the devices that is releasing leaves a deserted framework covered. -/
theorem Kept.watched_lifeStep (h : s.Kept) (hready : s.Ready l)
    (hrel : Releasing dev s (.life l : FrameworkStep W W'))
    (honline : (s.lifeStep l).onlineSinceInit = true) (hdeserted : (s.lifeStep l).Deserted) :
    (s.lifeStep l).Covered := by
  cases l with
  | sendOnLineEvent param dropped =>
    cases ha : s.life.acceptsOnLine param with
    | false =>
      have hlife : s.life.step (.sendOnLineEvent param dropped) = s.life :=
        (DeviceLife.sendOnLineEvent_of_not_accepts ha dropped).2
      exact h.covered_of_same hready (congrArg DeviceLife.context hlife)
        (congrArg DeviceLife.tasks hlife) honline hdeserted
    | true =>
      have hlife := congrArg Prod.snd (DeviceLife.sendOnLineEvent_of_accepts ha dropped)
      have hnet : (s.life.step (.sendOnLineEvent param dropped)).context.realTimeOnLineNetworkIdSet_ =
          insert param.networkId s.networkIds := by
        show (s.life.sendOnLineEvent param dropped).2.context.realTimeOnLineNetworkIdSet_ = _
        rw [hlife, DeviceLife.pushTask_context, DeviceLife.ensureInit_context]
        exact congrArg (insert param.networkId)
          DHContext.addOnlineDevice_realTimeOnLineNetworkIdSet_
      exact absurd (hnet.symm.trans hdeserted.1) (Finset.insert_ne_empty _ _)
  | sendOffLineEvent param dropped => exact h.covered_sendOffLineEvent hrel honline hdeserted
  | addIsomerismConnectDev isomerismDeviceId =>
    have hconn : (s.life.context.addIsomerismConnectDev isomerismDeviceId).connectedDevIds_ = ∅ :=
      hdeserted.2
    unfold DHContext.addIsomerismConnectDev at hconn
    split_ifs at hconn with hvalid
    · exact h.covered_of_same hready (if_pos hvalid) rfl honline hdeserted
    · exact absurd hconn (Finset.insert_ne_empty _ _)
  | delIsomerismConnectDev isomerismDeviceId =>
    exact h.covered_delIsomerismConnectDev hrel honline hdeserted
  | init => exact h.covered_of_same hready rfl rfl honline hdeserted
  | checkExitSAOrNot dmOnline hdfInuse =>
    exact h.covered_of_same hready (DeviceLife.checkExitSAOrNot_context dmOnline hdfInuse)
      (DeviceLife.checkExitSAOrNot_tasks dmOnline hdfInuse) honline hdeserted
  | advance id dmOnline hdfInuse =>
    obtain ⟨hnet, hconn⟩ := s.life.advance_devices id dmOnline hdfInuse
    have hconn' : s.connected = ∅ := hconn.symm.trans hdeserted.2
    refine h.covered_of_quiet hready hnet hconn' ?_ honline hdeserted
    refine (DeviceLife.beforeUnInit_advance ?_ dmOnline hdfInuse).imp_left Eq.ge
    exact DeviceLife.isDeserted_of_empty (hnet.symm.trans hdeserted.1) hconn'

theorem Kept.lifeStep (h : s.Kept) (hready : s.Ready l)
    (hrel : Releasing dev s (.life l : FrameworkStep W W')) : (s.lifeStep l).Kept where
  fresh := h.fresh.step l
  sinkFresh := h.sinkFresh
  phases id hid := h.phases id ((s.life.le_nextTask_step l).trans hid)
  fathers id info fatherTask phase htask := by
    have hphase := h.fathers id info fatherTask phase htask
    have hget := DeviceLife.get_step (l := l) (h.lt_nextTask hphase) fun dmOnline hdfInuse hl => by
      have hpos := Table.one_le_count s.sinkTasks (p := fun _ task => task.isChildOf fatherTask)
        (fun _ => rfl) (k := id) (by
          rw [show s.sinkTasks.get id = _ from htask]
          exact decide_eq_true rfl)
      rw [(hready.done hl hphase).2] at hpos
      cases hpos
    show ((s.life.step l).tasks.get fatherTask).phase = _
    rw [hget]
    exact hphase
  online hne := by
    show (if _ then _ else _) = true
    split_ifs with hsub hinit
    · exact decide_eq_true fun hempty => hne (Finset.subset_empty.1 (hempty ▸ hsub))
    · exact h.online fun hempty => hne (Finset.subset_empty.1 (hempty ▸ hsub))
    · rfl
  watched := h.watched_lifeStep hready hrel

/-! ## Steps of the tasks for the sinks -/

/-- What the devices have is the same, and so is what is noted of it. -/
structure SameDevices (s t : Framework L L' W W') : Prop where
  life : t.life = s.life
  onlineSinceInit : t.onlineSinceInit = s.onlineSinceInit
  unInitStarted : t.unInitStarted = s.unInitStarted

/-- A deserted framework stays covered if its sinks are. -/
theorem Kept.of_sameDevices (h : s.Kept) (hsame : SameDevices s t)
    (hfresh : ∀ id, t.nextSinkTask ≤ id → t.sinkTasks.get id = .finished)
    (hphases : ∀ id, s.life.nextTask ≤ id → t.disableSinks.get id = .toCreate)
    (hfathers : ∀ id info fatherTask phase, t.sinkTasks.get id = .disable info fatherTask phase →
      (s.life.tasks.get fatherTask).phase = some .waiting)
    (hsinks : s.onlineSinceInit = true → s.Deserted →
      (∀ info ∈ s.manager.autoSinks, s.Disabling info) →
      ∀ info ∈ t.manager.autoSinks, t.Disabling info) : t.Kept := by
  refine ⟨by rw [hsame.life]; exact h.fresh, hfresh, by rw [hsame.life]; exact hphases,
    by rw [hsame.life]; exact hfathers, ?_, fun honline hdeserted => ?_⟩
  · rw [networkIds, hsame.life, hsame.onlineSinceInit]
    exact h.online
  · rw [hsame.onlineSinceInit] at honline
    rw [Deserted, networkIds, connected, hsame.life] at hdeserted
    have hcovered := h.watched honline hdeserted
    refine ⟨?_, hsinks honline hdeserted hcovered.sinks⟩
    rw [hsame.unInitStarted, hsame.life]
    exact hcovered.unInit

/-- A new task for a sink takes none of the others away. -/
theorem Disabling.pushTask (h : s.Disabling info) (task : SinkTask) :
    (s.pushTask task).Disabling info := by
  obtain ⟨id, hid, hwill⟩ | ⟨id, hid, hdisables⟩ := h
  · exact .inl ⟨id, hid, hwill⟩
  · refine .inr ⟨id, Nat.lt_succ_of_lt hid, ?_⟩
    rw [isDisabling, Framework.pushTask, Table.get_set_ne _ hid.ne]
    exact hdisables

theorem Kept.createEnableSinkTask (h : s.Kept) (id : ℕ) (info : SinkInfo) (dropped : Bool) :
    (s.createEnableSinkTask id info dropped).Kept := by
  unfold Framework.createEnableSinkTask
  split
  · split_ifs
    · exact h
    · refine h.of_sameDevices ⟨rfl, rfl, rfl⟩ (fun id' hid' => ?_) h.phases
        (fun id' info' fatherTask phase htask => ?_) fun _ _ hall info' hinfo' =>
          (hall info' hinfo').pushTask _
      · exact (Table.get_set_ne _ (Nat.lt_of_succ_le hid').ne' _).trans
          (h.sinkFresh id' (Nat.le_of_succ_le hid'))
      · rw [Framework.pushTask, Table.get_set] at htask
        split_ifs at htask
        exact h.fathers id' info' fatherTask phase htask
  · exact h

theorem Kept.createDisableSinkTask (h : s.Kept) (id : ℕ) (localMetaInfos : List SinkInfo)
    (hrel : Releasing dev s (.createDisableSinkTask id localMetaInfos : FrameworkStep W W')) :
    (s.createDisableSinkTask id localMetaInfos).Kept := by
  unfold Framework.createDisableSinkTask
  split
  · next param htask hcreate =>
    have hphase : (s.life.tasks.get id).phase = some .waiting := by rw [htask]; rfl
    have hlt := h.lt_nextTask hphase
    refine h.of_sameDevices ⟨rfl, rfl, rfl⟩ h.sinkFresh (fun id' hid' => ?_) h.fathers
      fun honline hdeserted _ info hinfo => ?_
    · exact (Table.get_set_ne _ (hlt.trans_le hid').ne' _).trans (h.phases id' hid')
    · obtain ⟨hmem, htype⟩ | ⟨id', hid', hne, hwill⟩ | hdisables :=
        hrel honline hdeserted hphase hcreate info hinfo
      · refine .inl ⟨id, hlt, ?_⟩
        rw [willDisable, Table.get_set_self]
        simp [hphase, SinkPhase.covers, hmem, htype]
      · refine .inl ⟨id', hid', ?_⟩
        rw [willDisable, Table.get_set_ne _ hne]
        exact hwill
      · exact .inr hdisables
  · exact h

theorem Kept.pushDisableTask (h : s.Kept) (id : ℕ) (dropped : Bool) :
    (s.pushDisableTask id dropped).Kept := by
  unfold Framework.pushDisableTask
  split
  · next param info todo htask hcreating =>
    have hphase : (s.life.tasks.get id).phase = some .waiting := by rw [htask]; rfl
    have hlt := h.lt_nextTask hphase
    refine h.of_sameDevices ⟨rfl, rfl, rfl⟩ (fun id' hid' => ?_) (fun id' hid' => ?_)
      (fun id' info' fatherTask phase htask' => ?_) fun _ _ hall info' hinfo' => ?_
    · exact (Table.get_set_ne _ (Nat.lt_of_succ_le hid').ne' _).trans
        (h.sinkFresh id' (Nat.le_of_succ_le hid'))
    · exact (Table.get_set_ne _ (hlt.trans_le hid').ne' _).trans (h.phases id' hid')
    · rw [Framework.pushTask, Table.get_set] at htask'
      by_cases heq : id' = s.nextSinkTask
      · rw [if_pos heq] at htask'
        rw [← (SinkTask.disable.inj htask').2.1]
        exact hphase
      · rw [if_neg heq] at htask'
        exact h.fathers id' info' fatherTask phase htask'
    · obtain ⟨id', hid', hwill⟩ | ⟨id', hid', hdisables⟩ := hall info' hinfo'
      · by_cases hmem : id' = id ∧ info' = info
        · -- the new task is the one for this sink
          obtain ⟨-, rfl⟩ := hmem
          refine .inr ⟨s.nextSinkTask, Nat.lt_succ_self _, ?_⟩
          rw [isDisabling, Framework.pushTask, Table.get_set_self]
          exact decide_eq_true rfl
        · refine .inl ⟨id', hid', ?_⟩
          rw [willDisable, Bool.and_eq_true, decide_eq_true_eq] at hwill
          rw [willDisable, Framework.pushTask, Table.get_set]
          simp only [Bool.and_eq_true, decide_eq_true_eq]
          refine ⟨hwill.1, ?_⟩
          split_ifs with hid
          · subst hid
            have hcovers := hwill.2
            rw [hcreating] at hcovers
            have hin : info' ∈ info :: todo := of_decide_eq_true hcovers
            obtain rfl | hin := List.mem_cons.1 hin
            · exact absurd ⟨rfl, rfl⟩ hmem
            · exact decide_eq_true hin
          · exact hwill.2
      · have hold : Disabling { s with disableSinks := s.disableSinks.set id (.creating todo) }
            info' := .inr ⟨id', hid', hdisables⟩
        exact hold.pushTask _
  · exact h

/-- A task that is not for the sink comes further. -/
theorem Disabling.set (h : s.Disabling info) {task : SinkTask}
    (hold : (s.sinkTasks.get id).disables info = true → task.disables info = true)
    (manager : ComponentManager L L' W W') :
    Disabling { s with manager := manager, sinkTasks := s.sinkTasks.set id task } info := by
  refine h.imp_right ?_
  rintro ⟨id', hid', hdisables⟩
  refine ⟨id', hid', ?_⟩
  rw [isDisabling, Table.get_set]
  split_ifs with heq
  · subst heq
    exact hold hdisables
  · exact hdisables

/-- A task for a sink comes further, and stays a child of its father if it was one. -/
theorem Kept.setSinkTask (h : s.Kept) {task : SinkTask} (hid : s.sinkTasks.get id ≠ .finished)
    (hfather : ∀ info fatherTask phase, task = .disable info fatherTask phase →
      (s.life.tasks.get fatherTask).phase = some .waiting) (manager : ComponentManager L L' W W')
    (hsinks : s.onlineSinceInit = true → s.Deserted →
      (∀ info ∈ s.manager.autoSinks, s.Disabling info) → ∀ info ∈ manager.autoSinks,
        Disabling { s with manager := manager, sinkTasks := s.sinkTasks.set id task } info) :
    Kept { s with manager := manager, sinkTasks := s.sinkTasks.set id task } := by
  refine h.of_sameDevices ⟨rfl, rfl, rfl⟩ (fun id' hid' => ?_) h.phases
    (fun id' info fatherTask phase htask => ?_) hsinks
  · refine (Table.get_set_ne _ ?_ _).trans (h.sinkFresh id' hid')
    rintro rfl
    exact hid (h.sinkFresh id' hid')
  · rw [Table.get_set] at htask
    split_ifs at htask
    · exact hfather info fatherTask phase htask
    · exact h.fathers id' info fatherTask phase htask

theorem Kept.enableTask (h : s.Kept) (id : ℕ) (a : TaskAnswers W W')
    (hrel : Releasing dev s (.enableTask id a)) : (s.enableTask dev id a).Kept := by
  unfold Framework.enableTask
  split
  · next info htask =>
    refine h.setSinkTask (by simp [htask]) (fun _ _ _ hnot => by cases hnot) _
      fun honline hdeserted hall info' hinfo' => ?_
    have hold : s.Disabling info' := by
      have hside : (dev.sinkParam a.queries.getLocalNetworkId info).side dev = some .sink := by
        simp [HardwareParam.side, Devices.sinkParam, HardwareParam.caller,
          DHStatusCtrlKey.isActive]
      have henabled' := ComponentManager.mem_autoSinks.1 hinfo'
      obtain ⟨hret, henabled⟩ | ⟨-, henabled⟩ :=
        registerHardware_enabled (a := a) (m := s.manager) hside
      · obtain hu | ⟨hid, huse⟩ := (henabled _ _).1 henabled'
        · exact hall info' (ComponentManager.mem_autoSinks.2 hu)
        · obtain rfl : info' = info := Prod.ext hid (HardwareUse.sink.inj huse).1
          exact hrel honline hdeserted info' (by rw [htask]; rfl) hret
      · exact hall info' (ComponentManager.mem_autoSinks.2 ((henabled _ _).1 henabled'))
    exact hold.set (fun hdisables => by rw [htask] at hdisables; cases hdisables) _
  · exact h

/-- A sink that is disabled is enabled for no one. -/
theorem enabled_of_unRegisterHardware {a : TaskAnswers W W'} {networkId : String}
    {m : ComponentManager L L' W W'} (hsupport : a.queries.isDHTypeSupport info.2 = true)
    {dhId : String} {u : HardwareUse}
    (h : (unRegisterHardware dev { a with isDeserted := true } (dev.sinkParam networkId info)
      m).2.Enabled dhId u) :
    m.Enabled dhId u ∧ ¬(dhId = info.1 ∧ ∃ k, u = .sink info.2 k) := by
  have hrun : unRegisterHardware dev { a with isDeserted := true } (dev.sinkParam networkId info) m =
      a.run m (.sink (.forceDisableSink (dev.sinkParam networkId info).descriptor)) := by
    simp [unRegisterHardware, doAutoDisable, Devices.sinkParam, HardwareParam.caller,
      DHStatusCtrlKey.isActive, TaskAnswers.run]
  rw [hrun] at h
  cases u with
  | source t n k => exact ⟨h, fun hand => by obtain ⟨k, hk⟩ := hand.2; cases hk⟩
  | sink t k =>
    simp only [TaskAnswers.run, ComponentOp.run, SinkOp.run, SinkManager.forceDisableSinkInternal,
      HardwareParam.descriptor, Devices.sinkParam, hsupport, not_true_eq_false, if_false] at h
    cases hlookup : (m.sink.status info.2).enableInfos.lookup info.1 with
    | none =>
      simp only [hlookup, ComponentManager.Enabled, SinkManager.status_put] at h
      split_ifs at h with ht
      · refine ⟨ht ▸ h, ?_⟩
        rintro ⟨rfl, -⟩
        rw [DHStatus.enableState, DHStatus.enableInfo, Table.get_of_lookup_none hlookup] at h
        cases h
      · refine ⟨h, ?_⟩
        rintro ⟨-, k, hk⟩
        exact ht (HardwareUse.sink.inj hk).1
    | some enableInfo =>
      simp only [hlookup, ComponentManager.Enabled, SinkManager.status_put] at h
      split_ifs at h with ht
      · rw [forceDisableSinkStatus_enabled] at h
        exact ⟨ht ▸ h.1, fun hand => h.2 hand.1⟩
      · refine ⟨h, ?_⟩
        rintro ⟨-, k, hk⟩
        exact ht (HardwareUse.sink.inj hk).1

theorem Kept.disableTask (h : s.Kept) (id : ℕ) (a : TaskAnswers W W')
    (hrel : Releasing dev s (.disableTask id a)) : (s.disableTask dev id a).Kept := by
  unfold Framework.disableTask
  split
  · next info fatherTask htask =>
    -- the test whether any device is left
    refine h.setSinkTask (by simp [htask]) (fun info' fatherTask' phase htask' => ?_) _
      fun _ hdeserted hall info' hinfo' => (hall info' hinfo').set (fun hdisables => ?_) _
    · split_ifs at htask'
      cases htask'
      exact h.fathers id _ _ _ htask
    · rw [if_pos (DeviceLife.isDeserted_of_empty hdeserted.1 hdeserted.2)]
      rwa [htask] at hdisables
  · next info fatherTask htask =>
    -- the sink is disabled
    refine h.setSinkTask (by simp [htask]) (fun _ _ _ hnot => by cases hnot) _
      fun _ _ hall info' hinfo' => ?_
    have hsupport : a.queries.isDHTypeSupport info.2 = true := hrel info (by rw [htask]; rfl)
    obtain ⟨henabled, hne⟩ :=
      enabled_of_unRegisterHardware hsupport (ComponentManager.mem_autoSinks.1 hinfo')
    refine (hall info' (ComponentManager.mem_autoSinks.2 henabled)).set (fun hdisables => ?_) _
    rw [htask] at hdisables
    obtain rfl : info = info' := of_decide_eq_true hdisables
    exact absurd ⟨rfl, autoCaller, rfl⟩ hne
  · exact h

/-! ## Runs -/

theorem Kept.step (h : s.Kept) (l : FrameworkStep W W') (hrel : Releasing dev s l) :
    (s.step dev l).Kept := by
  cases l with
  | life l =>
    have hother : (∀ id dmOnline hdfInuse, l ≠ .advance id dmOnline hdfInuse) →
        (s.lifeStep l).Kept := fun hl =>
      h.lifeStep (fun id dmOnline hdfInuse heq => absurd heq (hl id dmOnline hdfInuse)) hrel
    cases l with
    | advance id dmOnline hdfInuse =>
      show (if _ then _ else _ : Framework L L' W W').Kept
      split_ifs with hbusy
      · exact h
      · refine h.lifeStep (fun id' _ _ heq => ?_) hrel
        cases heq
        exact Bool.eq_false_iff.2 hbusy
    | sendOnLineEvent | sendOffLineEvent | addIsomerismConnectDev | delIsomerismConnectDev | init
    | checkExitSAOrNot => exact hother (by simp)
  | createEnableSinkTask id info dropped => exact h.createEnableSinkTask id info dropped
  | createDisableSinkTask id localMetaInfos => exact h.createDisableSinkTask id localMetaInfos hrel
  | pushDisableTask id dropped => exact h.pushDisableTask id dropped
  | enableTask id a => exact h.enableTask id a hrel
  | disableTask id a => exact h.disableTask id a hrel

end Framework

/-- In a run whose steps are all releasing, a framework that is left alone is released. -/
theorem idle_released {L L' W W' : Type} (dev : Devices) (w : W) (w' : W')
    (ls : List (FrameworkStep W W'))
    (h : Along (Framework.step dev) (Framework.Releasing dev)
      (Framework.start w w' : Framework L L' W W') ls) :
    ∀ pre post, ls = pre ++ post →
      (pre.foldl (Framework.step dev) (Framework.start w w' : Framework L L' W W')).LeftAlone →
      (pre.foldl (Framework.step dev) (Framework.start w w' : Framework L L' W W')).Released := by
  intro pre post hls halone
  subst hls
  have hstep : ∀ (s : Framework L L' W W') (l : FrameworkStep W W'), s.Kept →
      Framework.Releasing dev s l → (s.step dev l).Kept := fun _ l hs hrel => hs.step l hrel
  exact (Along.invariant hstep (Framework.kept_start w w') h.of_append.1).released halone

section camera

open FrameworkStep

/-- The component calls succeed and note what is taken away. -/
abbrev PlainFramework := Framework Unit Unit Unit (List SinkOffCall)

abbrev PlainStep := FrameworkStep Unit (List SinkOffCall)

/-- The task of a device goes on. -/
def FrameworkStep.goOn (id : ℕ) : PlainStep :=
  .life (.advance id false false)

/-- A device comes online and its task enables the camera, a device of another system connects
and leaves, and the first one goes offline. -/
def cameraReleased : List PlainStep :=
  [life (.sendOnLineEvent ⟨"n", "u", "d"⟩ false), createEnableSinkTask 0 ("c", .CAMERA) false,
    goOn 0, enableTask 0 (.smooth false), life (.addIsomerismConnectDev "i"),
    life (.delIsomerismConnectDev "i"), life (.sendOffLineEvent ⟨"n", "u", "d"⟩ false),
    createDisableSinkTask 1 [("c", .CAMERA)], pushDisableTask 1 false,
    disableTask 1 (.smooth false), disableTask 1 (.smooth false),
    goOn 1, goOn 1, goOn 1, goOn 1, goOn 1, goOn 1]

theorem idle_released_camera :
    Along (Framework.step twoDevices) (Framework.Releasing twoDevices)
        (Framework.start () [] : PlainFramework) cameraReleased ∧
      (cameraReleased.foldl (Framework.step twoDevices)
        (Framework.start () [] : PlainFramework)).LeftAlone ∧
      (cameraReleased.foldl (Framework.step twoDevices)
        (Framework.start () [] : PlainFramework)).Released := by
  have hrel : Along (Framework.step twoDevices) (Framework.Releasing twoDevices)
      (Framework.start () [] : PlainFramework) cameraReleased := by decide +kernel
  have halone : (cameraReleased.foldl (Framework.step twoDevices)
      (Framework.start () [] : PlainFramework)).LeftAlone := by decide +kernel
  exact ⟨hrel, halone, idle_released twoDevices () [] cameraReleased hrel cameraReleased []
    (List.append_nil _).symm halone⟩

/-- The same, but the other device stays until the tasks are done. -/
def cameraLeft : List PlainStep :=
  [life (.sendOnLineEvent ⟨"n", "u", "d"⟩ false), createEnableSinkTask 0 ("c", .CAMERA) false,
    goOn 0, enableTask 0 (.smooth false), life (.addIsomerismConnectDev "i"),
    life (.sendOffLineEvent ⟨"n", "u", "d"⟩ false), createDisableSinkTask 1 [("c", .CAMERA)],
    pushDisableTask 1 false, disableTask 1 (.smooth false), disableTask 1 (.smooth false),
    goOn 1, goOn 1, life (.delIsomerismConnectDev "i")]

/-- Nothing looks when the other device leaves : the camera stays enabled, and there is no
`UnInit`. -/
theorem idle_not_released :
    ¬ ∀ ls : List PlainStep,
      (ls.foldl (Framework.step twoDevices) (Framework.start () [] : PlainFramework)).LeftAlone →
      (ls.foldl (Framework.step twoDevices) (Framework.start () [] : PlainFramework)).Released := by
  intro h
  have hcamera := (h cameraLeft (by decide +kernel)).sinks .CAMERA "c"
  revert hcamera
  decide +kernel

end camera

end DHFwk
