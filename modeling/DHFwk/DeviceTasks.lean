import DHFwk.DeviceRecords
import DHFwk.EnabledDevices
import DHFwk.TaskPipeline

/-!
# The tasks of a device that comes and goes

`DeviceTasks` puts the caches, the component manager and the task pipeline together. An
`OnLineTask` enables what the first of three caches has of its device that has anything, an
`OffLineTask` disables what the first one has then; in between the stores tell of changes, other
devices answer, and callers name hardware as they like.

Both tasks read one cache after the other, and create and push a task for each piece of
hardware, with everything else going on in between (`DevicePhase`). `Grows` says what a step
leaves as it is : only the task that goes on leaves the board, and its father, and changes its
phase (`grows_step`). A step changes what is enabled only where a task does that is not one of a
device (`devices_step`).
-/

set_option linter.unusedSectionVars false

namespace DHFwk

open Runs

abbrev MODEM_DH_ID : String := "Modem_1234"

/-- The numbers of the types. -/
def dhTypeNumbers : List (UInt32 × DHType) :=
  [(0x0, .UNKNOWN), (0x01, .CAMERA), (0x02, DHType.AUDIO), (0x08, .SCREEN), (0x10, .GPS),
    (0x20, .INPUT), (0x40, .HFP), (0x80, .A2D), (0x100, DHType.VIRMODEM_AUDIO), (0x200, .MODEM),
    (0x80000000, .MAX_DH)]

/-- The type of a number. A record may have a number that is none. -/
def DHType.ofNumber (n : UInt32) : Option DHType :=
  (dhTypeNumbers.find? fun e => e.1 = n).map Prod.snd

/-! ## Tasks with their parameters -/

/-- The ids of a device, as its tasks carry them. -/
structure DeviceIds where
  networkId : String
  uuid : String
  udid : String
  deriving DecidableEq, Repr

/-- What a task is there for. Hardware of a type that is none is supported by no component. -/
inductive Work
  | hardware (task : HardwareTask)
  | unnamed (isEnable : Bool) (uuid udid dhId : String)
  | metaEnable (networkId : String)
  | metaDisable (networkId : String)
  | onLine (d : DeviceIds)
  | offLine (d : DeviceIds)
  deriving DecidableEq, Repr

/-- Where an `ON_LINE` or `OFF_LINE` task is that is at work : what it does next, and the tasks
it has yet to create. -/
inductive DevicePhase
  | syncDeviceInfo | syncMetaInfo
  | capabilities | localCapabilities | metaCapabilities
  | creating (todo : List Work)
  | localMetaInfos
  | creatingSinks (todo : List Work)
  | metaTask
  | done
  deriving DecidableEq, Repr

instance : Inhabited DevicePhase := ⟨.done⟩

/-- `GetLocalDeviceInfo`. -/
structure LocalDevice where
  networkId : String
  uuid : String
  udid : String
  udidHash : String

/-- What a task of a device, or of its modem, is told while it runs : whether the device is a
phone with both frameworks, what the stores have for it, and whether the modem is loaded. -/
structure DeviceAnswers where
  cJSON : Json.Codec
  localDevice : LocalDevice
  getUdidHashIdByUUID : String → String
  deviceData : Option (List String)
  metaData : Option (List String)
  isPhone : Bool
  modem : Bool

namespace Work

/-- `TaskType`. -/
def taskType : Work → TaskType
  | .hardware (.enable _) => .ENABLE
  | .hardware (.disable _) => .DISABLE
  | .unnamed isEnable _ _ _ => if isEnable then .ENABLE else .DISABLE
  | .metaEnable _ => .META_ENABLE
  | .metaDisable _ => .META_DISABLE
  | .onLine _ => .ON_LINE
  | .offLine _ => .OFF_LINE

/-- A task for the hardware of a record. -/
def ofRecord (isEnable : Bool) (networkId uuid udid dhId : String) (dhType : UInt32) : Work :=
  match DHType.ofNumber dhType with
  | none => .unnamed isEnable uuid udid dhId
  | some dhType =>
    let p : HardwareParam :=
      { networkId := networkId, uuid := uuid, udid := udid, dhId := dhId, dhType := dhType }
    .hardware (if isEnable then .enable p else .disable p)

/-- The step that a task begins with. -/
def firstPhase : Work → DevicePhase
  | .onLine _ => .syncDeviceInfo
  | .offLine _ => .metaTask
  | _ => .done

/-- Tasks that are created by others than the two of a device. -/
def isOuter : Work → Bool
  | .metaEnable _ | .metaDisable _ => false
  | _ => true

section perform

variable {L L' W W' : Type} (dev : Devices) (a : TaskAnswers W W') (b : DeviceAnswers)
  (m : EnabledDevices L L' W W')

/-- The modem. -/
def modem : DHDescriptor := { id := MODEM_DH_ID, dhType := .MODEM }

/-- What a task does that is not one of a device. The automatic task that disables a sink of no
type succeeds if another device is online. -/
def perform : Work → EnabledDevices L L' W W'
  | .hardware task => m.step dev ⟨task, a⟩
  | .unnamed isEnable uuid udid dhId =>
    if ¬isEnable ∧ dev.localUdid = udid ∧ ¬a.isDeserted then
      { m with enabledDevices_ := m.enabledDevices_.remove (dev.key uuid dhId) }
    else m
  | .metaEnable networkId =>
    if b.modem then { m with
      manager := (a.run m.manager (.source (.enableMetaSource networkId modem))).2 }
    else m
  | .metaDisable networkId =>
    if b.modem then { m with
      manager := (a.run m.manager (.source (.disableMetaSource networkId modem))).2 }
    else m
  | .onLine _ | .offLine _ => m

end perform

end Work

/-- The task that a change of a store pushes. -/
def ChangeTask.work (t : ChangeTask) : Work :=
  Work.ofRecord t.isEnable t.networkId t.uuid "" t.dhId t.dhType

/-! ## The system -/

/-- The component manager with the record of enabled devices, the three caches, and the tasks with
what they are there for. -/
structure DeviceTasks (L L' W W' : Type) where
  devices : EnabledDevices L L' W W'
  capInfos : InfoStore CapabilityInfo := {}
  remote : RemoteInfos := {}
  pipeline : TaskPipeline := {}
  work : Table ℕ Work := ∅
  phases : Table ℕ DevicePhase := ∅

/-- One step of the system : a task is created, pushed, taken out of the queue, started, or goes
on; a store tells of a change; or a device answers. -/
inductive DeviceTasksStep (W W' : Type)
  | createTask (work : Work)
  | pushTask (task : Task)
  | triggerTask (eventHandler : Bool)
  | doTask (task : Task)
  | goOn (r : RunningTask) (a : TaskAnswers W W') (b : DeviceAnswers)
  | capabilityChange (ctx : ChangeContext) (changeNotification : ChangeNotification)
  | capabilityChangeKeys (ctx : ChangeContext) (keys : ChangeKeys)
  | metaChange (ctx : ChangeContext) (changeNotification : ChangeNotification)
  | metaChangeKeys (ctx : ChangeContext) (keys : ChangeKeys)
  | fullCapsRsp (ctx : PeerContext) (remoteCaps : String) (isSyncMeta : Bool)
      (realNetworkId : String)

/-- `SyncDeviceInfoFromDB` and `SyncMetaInfoFromDB`, of an id that is valid. -/
def syncFromDB {T : Type} (kind : RecordKind T) (cJSON : Json.Codec) (data : Option (List String))
    (s : InfoStore T) : InfoStore T :=
  if ¬s.dbAdapterPtr_ then s
  else
    match data with
    | none => s
    | some dataVector =>
      if dataVector = [] ∨ dataVector.length > MAX_DB_RECORD_SIZE then s
      else
        { s with
          globalInfoMap_ := dataVector.foldl (fun map value =>
            match kind.getCapabilityByValue cJSON value with
            | none => map
            | some cap => map.set (kind.getKey cap) cap) s.globalInfoMap_ }

namespace DeviceTasks

variable {L L' W W' : Type} (dev : Devices) (s : DeviceTasks L L' W W')

/-! ## Tasks of a device -/

/-- `CreateTask`. -/
def create (work : Work) (fatherTask : Option ℕ) : DeviceTasks L L' W W' :=
  { s with
    pipeline := s.pipeline.step (.createTask work.taskType fatherTask)
    work := s.work.set s.pipeline.nextId work
    phases := s.phases.set s.pipeline.nextId work.firstPhase }

/-- The task goes to another phase. -/
def enter (id : ℕ) (phase : DevicePhase) : DeviceTasks L L' W W' :=
  { s with phases := s.phases.set id phase }

/-- The next of the tasks is created, if one is left. -/
def createNext (id : ℕ) (phase : List Work → DevicePhase) (last : DevicePhase) :
    List Work → DeviceTasks L L' W W'
  | [] => s.enter id last
  | work :: todo => (s.create work (some id)).enter id (phase todo)

/-- The id and the type of the hardware that a cache has of the device, in the phase that reads
it : `CreateEnableTask` knows the udid, `CreateDisableTask` asks for its digest. -/
def devDhInfos (isOnLine : Bool) (d : DeviceIds) (b : DeviceAnswers) :
    DevicePhase → List (String × UInt32)
  | .capabilities =>
    (CapabilityInfoManager.getCapabilitiesByDeviceId (dev.getDeviceIdByUUID d.uuid) []
      s.capInfos).map fun cap => (cap.dhId_, cap.dhType_)
  | .localCapabilities =>
    (CapabilityInfoManager.getCapabilitiesByDeviceId (dev.getDeviceIdByUUID d.uuid) []
      s.remote.capInfos).map fun cap => (cap.dhId_, cap.dhType_)
  | .metaCapabilities =>
    let udidHash := if isOnLine then dev.sha256 d.udid else b.getUdidHashIdByUUID d.uuid
    (MetaInfoManager.getMetaCapInfosByUdidHash udidHash [] s.remote.metaInfos).map fun cap =>
      (cap.dhId_, cap.dhType_)
  | _ => []

/-- The task for a piece of hardware of the device. -/
def deviceWork (isOnLine : Bool) (d : DeviceIds) (info : String × UInt32) : Work :=
  Work.ofRecord isOnLine d.networkId d.uuid (if isOnLine then d.udid else "") info.1 info.2

/-- The tasks for the hardware of the local device. -/
def sinkWorks (isOnLine : Bool) (b : DeviceAnswers) : List Work :=
  let infos := MetaInfoManager.getMetaCapInfosByUdidHash b.localDevice.udidHash []
    s.remote.metaInfos
  let infos := if isOnLine then infos else infos.filter fun info => ¬info.dhType_ = 0x200
  infos.map fun info =>
    Work.ofRecord isOnLine b.localDevice.networkId b.localDevice.uuid b.localDevice.udid info.dhId_
      info.dhType_

/-- `OnLineTask::DoTask` and `OffLineTask::DoTaskInner`, up to where the latter waits. -/
def advance (id : ℕ) (isOnLine : Bool) (d : DeviceIds) (b : DeviceAnswers) :
    DeviceTasks L L' W W' :=
  let infos := s.devDhInfos dev isOnLine d b (s.phases.get id)
  let works := infos.map (deviceWork isOnLine d)
  match s.phases.get id with
  | .syncDeviceInfo =>
    let deviceId := dev.getDeviceIdByUUID d.uuid
    let capInfos := if ¬isIdLengthValid deviceId then s.remote.capInfos
      else syncFromDB CapabilityInfoManager.kind b.cJSON b.deviceData s.remote.capInfos
    { s with remote := { s.remote with capInfos := capInfos } }.enter id .syncMetaInfo
  | .syncMetaInfo =>
    let metaInfos := if ¬isHashSizeValid (dev.sha256 d.udid) then s.remote.metaInfos
      else syncFromDB MetaInfoManager.kind b.cJSON b.metaData s.remote.metaInfos
    { s with remote := { s.remote with metaInfos := metaInfos } }.enter id .capabilities
  | .capabilities => s.enter id (if infos = [] then .localCapabilities else .creating works)
  | .localCapabilities => s.enter id (if infos = [] then .metaCapabilities else .creating works)
  | .metaCapabilities => s.enter id (.creating works)
  | .creating todo => s.createNext id .creating .localMetaInfos todo
  | .localMetaInfos => s.enter id (.creatingSinks (s.sinkWorks isOnLine b))
  | .creatingSinks todo =>
    s.createNext id .creatingSinks (if isOnLine then .metaTask else .done) todo
  | .metaTask =>
    let work : Work := if isOnLine then .metaEnable d.networkId else .metaDisable d.networkId
    let next : DevicePhase := if isOnLine then .done else .capabilities
    if b.isPhone then (s.create work (some id)).enter id next else s.enter id next
  | .done => s

/-! ## Steps -/

/-- The task goes on in the pipeline. -/
def proceed (r : RunningTask) : DeviceTasks L L' W W' :=
  { s with pipeline := s.pipeline.step (.goOn r) }

/-- `ClearOffLineInfo`. -/
def clearOffLineInfo (d : DeviceIds) : DeviceTasks L L' W W' :=
  { s with
    capInfos := (CapabilityInfoManager.removeCapabilityInfoInMem (dev.getDeviceIdByUUID d.uuid)
      s.capInfos).2 }

/-- A running task goes on. -/
def goOn (r : RunningTask) (a : TaskAnswers W W') (b : DeviceAnswers) : DeviceTasks L L' W W' :=
  match r.phase, s.work.lookup r.task.id with
  | .working, some (.onLine d) =>
    if s.phases.get r.task.id = .done then s.proceed r else s.advance dev r.task.id true d b
  | .working, some (.offLine d) =>
    if s.phases.get r.task.id = .done then s.proceed r else s.advance dev r.task.id false d b
  | .working, some work => { s with devices := work.perform dev a b s.devices }.proceed r
  | .waiting, some (.offLine d) =>
    if s.pipeline.unFinishChildrenTasks_.get r.task.id = ∅ then (s.clearOffLineInfo dev d).proceed r
    else s
  | _, _ => s.proceed r

/-- The tasks that a handler pushed are created. -/
def createAll (tasks : List ChangeTask) : DeviceTasks L L' W W' :=
  tasks.foldl (fun s t => s.create t.work none) s

/-- The handlers ask the record of enabled devices. -/
def asks (ctx : ChangeContext) : ChangeContext :=
  { ctx with isEnabledDevice := s.devices.isEnabledDevice }

/-- A change of the capabilities. -/
def changeCapabilities (change : InfoCache CapabilityInfo → InfoCache CapabilityInfo) :
    DeviceTasks L L' W W' :=
  let cache := change { globalInfoMap_ := s.capInfos.globalInfoMap_ }
  { s with capInfos := { s.capInfos with globalInfoMap_ := cache.globalInfoMap_ } }.createAll
    cache.tasks

/-- A change of the meta records. -/
def changeMetaInfos (change : InfoCache MetaCapabilityInfo → InfoCache MetaCapabilityInfo) :
    DeviceTasks L L' W W' :=
  let cache := change { globalInfoMap_ := s.remote.metaInfos.globalInfoMap_ }
  let metaInfos := { s.remote.metaInfos with globalInfoMap_ := cache.globalInfoMap_ }
  { s with remote := { s.remote with metaInfos := metaInfos } }.createAll cache.tasks

def step : DeviceTasksStep W W' → DeviceTasks L L' W W'
  | .createTask work => if work.isOuter then s.create work none else s
  | .pushTask task => { s with pipeline := s.pipeline.step (.pushTask task) }
  | .triggerTask eventHandler => { s with pipeline := s.pipeline.step (.triggerTask eventHandler) }
  | .doTask task => { s with pipeline := s.pipeline.step (.doTask task) }
  | .goOn r a b =>
    if r ∈ s.pipeline.running ∧ s.pipeline.isPushing r.task.id = false then s.goOn dev r a b else s
  | .capabilityChange ctx changeNotification =>
    s.changeCapabilities (CapabilityInfoManager.handlers.onChange (s.asks ctx) changeNotification)
  | .capabilityChangeKeys ctx keys =>
    s.changeCapabilities (CapabilityInfoManager.handlers.onChangeKeys (s.asks ctx) keys)
  | .metaChange ctx changeNotification =>
    s.changeMetaInfos (MetaInfoManager.handlers.onChange (s.asks ctx) changeNotification)
  | .metaChangeKeys ctx keys =>
    s.changeMetaInfos (MetaInfoManager.handlers.onChangeKeys (s.asks ctx) keys)
  | .fullCapsRsp ctx remoteCaps isSyncMeta realNetworkId =>
    let r := parseAndSaveRemoteDHCaps ctx remoteCaps isSyncMeta realNetworkId s.remote
    { s with remote := r.2 }

end DeviceTasks

/-! ## Tasks that stay -/

namespace TaskPipeline

variable {s s' s'' : TaskPipeline} {task : Task} {r : RunningTask} {id moved : ℕ}

/-- A task that is registered is older than those to come. -/
theorem Kept.lt_nextId (h : s.Kept) (hreg : s.tasks_.lookup id = some task) : id < s.nextId := by
  by_contra hle
  rw [h.fresh id (not_lt.1 hle)] at hreg
  cases hreg

/-- The tasks stay as they are, except the one that goes on, and others join them. -/
structure Grows (moved : ℕ) (s s' : TaskPipeline) : Prop where
  kept : s'.Kept
  nextId : s.nextId ≤ s'.nextId
  board : ∀ id task, id ≠ moved → s.tasks_.lookup id = some task →
    s'.tasks_.lookup id = some task
  children : ∀ father id, id ≠ moved → id ∈ s.unFinishChildrenTasks_.get father →
    id ∈ s'.unFinishChildrenTasks_.get father
  waits : ∀ r ∈ s'.running, r.phase = .waiting → r ∈ s.running ∨ r.task.id = moved

theorem Grows.trans (h : Grows moved s s') (h' : Grows moved s' s'') : Grows moved s s'' where
  kept := h'.kept
  nextId := h.nextId.trans h'.nextId
  board id task hne hreg := h'.board id task hne (h.board id task hne hreg)
  children father id hne hid := h'.children father id hne (h.children father id hne hid)
  waits r hr hwait := (h'.waits r hr hwait).elim (fun hr => h.waits r hr hwait) .inr

/-- The board and the children stay as they are, and no task begins to wait. -/
theorem Kept.grows (h : s'.Kept) (hid : s'.nextId = s.nextId) (htasks : s'.tasks_ = s.tasks_)
    (hchildren : s'.unFinishChildrenTasks_ = s.unFinishChildrenTasks_)
    (hwaits : ∀ r ∈ s'.running, r.phase = .waiting → r ∈ s.running) : Grows moved s s' where
  kept := h
  nextId := hid.ge
  board id task _ hreg := by rwa [htasks]
  children father id _ hid := by rwa [hchildren]
  waits r hr hwait := .inl (hwaits r hr hwait)

theorem Kept.grows_self (h : s.Kept) : Grows moved s s :=
  h.grows rfl rfl rfl fun _ hr _ => hr

theorem Kept.grows_createTask (h : s.Kept) {taskType : TaskType} {fatherTask : Option ℕ}
    (hcan : s.canCreate taskType fatherTask = true) :
    Grows moved s (s.createTask taskType fatherTask) := by
  have hkept := h.createTask hcan
  by_cases hunknown : taskType = .UNKNOWN
  · rw [TaskPipeline.createTask, if_pos hunknown]
    exact h.grows_self
  obtain ⟨new, unFinish, -, -, heq, hunFinish⟩ := createTask_of_ne h hunknown fatherTask
  rw [heq] at hkept ⊢
  refine ⟨hkept, Nat.le_succ _, fun id task _ hreg => ?_, fun father id _ hid => ?_,
    fun r hr _ => .inl hr⟩
  · exact (Table.lookup_set_ne _ (h.lt_nextId hreg).ne new).trans hreg
  · exact (hunFinish father id).2 (.inr hid)

theorem Kept.grows_goOn (h : s.Kept) (hkept : (s.goOn r).Kept) :
    Grows r.task.id s (s.goOn r) := by
  have hremove : ∀ id task, id ≠ r.task.id → s.tasks_.lookup id = some task →
      (s.tasks_.remove r.task.id).lookup id = some task := fun id task hne hreg =>
    (Table.lookup_remove_ne s.tasks_ hne).trans hreg
  have hleave : ∀ r' ∈ (s.leave r).running, r'.phase = .waiting →
      r' ∈ s.running ∨ r'.task.id = r.task.id := fun r' hr' _ => .inl (List.mem_of_mem_erase hr')
  have henter : ∀ phase, ∀ r' ∈ (s.enter r phase).running, r'.phase = .waiting →
      r' ∈ s.running ∨ r'.task.id = r.task.id := by
    intro phase r' hr' _
    rcases List.mem_cons.1 hr' with rfl | hr'
    · exact .inr rfl
    · exact .inl (List.mem_of_mem_erase hr')
  unfold TaskPipeline.goOn at hkept ⊢
  cases hphase : r.phase with
  | working =>
    rw [hphase] at hkept
    cases ht : r.task.taskType with
    | OFF_LINE =>
      rw [ht] at hkept
      exact ⟨hkept, le_rfl, fun _ _ _ hreg => hreg, fun _ _ _ hid => hid, henter _⟩
    | EXIT_DFWK =>
      rw [ht] at hkept
      exact ⟨hkept, le_rfl, fun _ _ _ hreg => hreg, fun _ _ _ hid => hid, hleave⟩
    | DISABLE | META_DISABLE =>
      rw [ht] at hkept
      exact ⟨hkept, le_rfl, hremove, fun _ _ _ hid => hid, henter _⟩
    | UNKNOWN | ENABLE | ON_LINE | META_ENABLE =>
      rw [ht] at hkept
      exact ⟨hkept, le_rfl, hremove, fun _ _ _ hid => hid, hleave⟩
  | waiting =>
    rw [hphase] at hkept
    dsimp only at hkept ⊢
    split_ifs at hkept ⊢
    · exact ⟨hkept, le_rfl, hremove, fun _ _ _ hid => hid, hleave⟩
    · exact h.grows_self
  | removed =>
    rw [hphase] at hkept
    dsimp only at hkept ⊢
    cases hf : r.task.fatherTask with
    | none =>
      rw [hf] at hkept
      exact ⟨hkept, le_rfl, fun _ _ _ hreg => hreg, fun _ _ _ hid => hid, hleave⟩
    | some father =>
      rw [hf] at hkept
      refine ⟨hkept, le_rfl, fun _ _ _ hreg => hreg, fun father' id hne hid => ?_, hleave⟩
      simp only [TaskPipeline.leave, notifyFatherFinish, Table.get_set]
      split_ifs with hfather
      · subst hfather
        exact Finset.mem_erase.2 ⟨hne, hid⟩
      · exact hid

theorem Kept.grows_step (h : s.Kept) (l : PipelineStep)
    (hl : ∀ r, l = .goOn r → r.task.id = moved) : Grows moved s (s.step l) := by
  have hkept := h.step l
  cases l with
  | createTask taskType father =>
    simp only [TaskPipeline.step]
    split_ifs with hcan
    · exact h.grows_createTask hcan
    · exact h.grows_self
  | goOn r =>
    simp only [TaskPipeline.step] at hkept ⊢
    split_ifs at hkept ⊢ with hgo
    · rw [← hl r rfl]
      exact h.grows_goOn hkept
    · exact h.grows_self
  | pushTask task =>
    simp only [TaskPipeline.step, TaskPipeline.pushTask] at hkept ⊢
    split_ifs at hkept ⊢ <;> exact hkept.grows rfl rfl rfl fun _ hr _ => hr
  | triggerTask eventHandler =>
    simp only [TaskPipeline.step, TaskPipeline.triggerTask] at hkept ⊢
    cases hqueue : s.taskQueue_ with
    | nil => exact h.grows_self
    | cons task queue =>
      simp only [hqueue] at hkept ⊢
      split_ifs at hkept ⊢ <;> exact hkept.grows rfl rfl rfl fun _ hr _ => hr
  | doTask task =>
    simp only [TaskPipeline.step, TaskPipeline.doTask] at hkept ⊢
    split_ifs at hkept ⊢
    · refine hkept.grows rfl rfl rfl fun r hr hwait => ?_
      rcases List.mem_cons.1 hr with rfl | hr
      · cases hwait
      · exact hr
    · exact h.grows_self

/-- A task that is created is registered. -/
theorem Kept.lookup_createTask (h : s.Kept) {taskType : TaskType} (hne : taskType ≠ .UNKNOWN)
    (fatherTask : Option ℕ) :
    (s.createTask taskType fatherTask).tasks_.lookup s.nextId =
      some ⟨s.nextId, taskType, fatherTask⟩ := by
  have hnew : (s.tasks_.lookup s.nextId).isSome = false := by rw [h.fresh _ le_rfl]; rfl
  unfold TaskPipeline.createTask
  rw [if_neg hne]
  cases fatherTask with
  | none => simp [addTask, hnew]
  | some father =>
    dsimp only
    split_ifs <;> simp [addTask, addChildrenTask, hnew]

/-- The father of a task that disables waits for it. -/
theorem mem_unFinish_createTask {taskType : TaskType}
    (ht : taskType = .DISABLE ∨ taskType = .META_DISABLE) (s : TaskPipeline) (father : ℕ) :
    s.nextId ∈ (s.createTask taskType (some father)).unFinishChildrenTasks_.get father := by
  have hne : taskType ≠ .UNKNOWN := by rcases ht with rfl | rfl <;> simp
  have hd : (⟨s.nextId, taskType, some father⟩ : Task).isDisable = true := by
    rcases ht with rfl | rfl <;> rfl
  unfold createTask
  rw [if_neg hne]
  simp only [hd, if_true, addTask]
  split_ifs <;> exact mem_addChildrenTask.2 (.inl ⟨rfl, rfl⟩)

end TaskPipeline

/-! ## What a step leaves as it is -/

namespace DeviceTasks

variable {L L' W W' : Type} {dev : Devices} {s s' s'' : DeviceTasks L L' W W'} {moved : ℕ}

/-- The tasks stay as they are, except the one that goes on, and others join them. -/
structure Grows (moved : ℕ) (s s' : DeviceTasks L L' W W') : Prop where
  pipeline : TaskPipeline.Grows moved s.pipeline s'.pipeline
  work : ∀ id < s.pipeline.nextId, s'.work.lookup id = s.work.lookup id
  phases : ∀ id < s.pipeline.nextId, id ≠ moved → s'.phases.get id = s.phases.get id

theorem Grows.trans (h : Grows moved s s') (h' : Grows moved s' s'') : Grows moved s s'' where
  pipeline := h.pipeline.trans h'.pipeline
  work id hlt := (h'.work id (hlt.trans_le h.pipeline.nextId)).trans (h.work id hlt)
  phases id hlt hne :=
    (h'.phases id (hlt.trans_le h.pipeline.nextId) hne).trans (h.phases id hlt hne)

/-- What keeps the tasks as they are. -/
theorem grows_of_eq (h : s.pipeline.Kept) (hp : s'.pipeline = s.pipeline) (hw : s'.work = s.work)
    (hphases : s'.phases = s.phases) : Grows moved s s' where
  pipeline := by rw [hp]; exact h.grows_self
  work id _ := by rw [hw]
  phases id _ _ := by rw [hphases]

/-- A step of the pipeline. -/
theorem grows_pipeline (h : s.pipeline.Kept) (l : PipelineStep)
    (hl : ∀ r, l = .goOn r → r.task.id = moved) :
    Grows moved s { s with pipeline := s.pipeline.step l } :=
  ⟨h.grows_step l hl, fun _ _ => rfl, fun _ _ _ => rfl⟩

theorem grows_create (h : s.pipeline.Kept) (work : Work) (fatherTask : Option ℕ) :
    Grows moved s (s.create work fatherTask) := by
  have hgrows : Grows moved s { s with
      pipeline := s.pipeline.step (.createTask work.taskType fatherTask) } :=
    grows_pipeline h _ fun r hr => by cases hr
  exact { hgrows with
    work := fun id hlt => Table.lookup_set_ne _ hlt.ne _
    phases := fun id hlt _ => Table.get_set_ne _ hlt.ne _ }

theorem grows_enter (h : s.pipeline.Kept) (phase : DevicePhase) :
    Grows moved s (s.enter moved phase) :=
  { (grows_of_eq h rfl rfl rfl : Grows moved s s) with
    phases := fun _ _ hne => Table.get_set_ne _ hne _ }

theorem grows_createNext (h : s.pipeline.Kept) (phase : List Work → DevicePhase)
    (last : DevicePhase) (todo : List Work) :
    Grows moved s (s.createNext moved phase last todo) := by
  cases todo with
  | nil => exact grows_enter h last
  | cons work todo =>
    have hcreate : Grows moved s (s.create work (some moved)) := grows_create h work _
    exact hcreate.trans (grows_enter hcreate.pipeline.kept _)

theorem grows_proceed (h : s.pipeline.Kept) (r : RunningTask) :
    Grows r.task.id s (s.proceed r) :=
  grows_pipeline h _ fun r' hr => by cases hr; rfl

theorem grows_advance (h : s.pipeline.Kept) (isOnLine : Bool) (d : DeviceIds) (b : DeviceAnswers) :
    Grows moved s (s.advance dev moved isOnLine d b) := by
  unfold advance
  cases s.phases.get moved with
  | syncDeviceInfo | syncMetaInfo =>
    have hsync {remote : RemoteInfos} {phase : DevicePhase} :
        Grows moved s ({ s with remote := remote }.enter moved phase) := by
      have hsame : Grows moved s { s with remote := remote } := grows_of_eq h rfl rfl rfl
      exact hsame.trans (grows_enter hsame.pipeline.kept phase)
    exact hsync
  | capabilities | localCapabilities | metaCapabilities | localMetaInfos => exact grows_enter h _
  | creating todo | creatingSinks todo => exact grows_createNext h _ _ todo
  | metaTask =>
    have hmeta (work : Work) (phase : DevicePhase) : Grows moved s
        (if b.isPhone then (s.create work (some moved)).enter moved phase
          else s.enter moved phase) := by
      split_ifs
      · have hcreate : Grows moved s (s.create work (some moved)) := grows_create h work _
        exact hcreate.trans (grows_enter hcreate.pipeline.kept phase)
      · exact grows_enter h phase
    exact hmeta _ _
  | done => exact grows_of_eq h rfl rfl rfl

theorem grows_goOn (h : s.pipeline.Kept) (r : RunningTask) (a : TaskAnswers W W')
    (b : DeviceAnswers) : Grows r.task.id s (s.goOn dev r a b) := by
  have hproceed {devices : EnabledDevices L L' W W'} {capInfos : InfoStore CapabilityInfo} :
      Grows r.task.id s ({ s with devices := devices, capInfos := capInfos }.proceed r) := by
    have hsame : Grows r.task.id s { s with devices := devices, capInfos := capInfos } :=
      grows_of_eq h rfl rfl rfl
    exact hsame.trans (grows_proceed hsame.pipeline.kept r)
  unfold goOn
  split
  · split_ifs
    · exact grows_proceed h r
    · exact grows_advance h true _ b
  · split_ifs
    · exact grows_proceed h r
    · exact grows_advance h false _ b
  · exact hproceed
  · split_ifs
    · exact hproceed
    · exact grows_of_eq h rfl rfl rfl
  · exact grows_proceed h r

theorem grows_createAll : ∀ (tasks : List ChangeTask) {s : DeviceTasks L L' W W'},
    s.pipeline.Kept → Grows moved s (s.createAll tasks)
  | [], _, h => grows_of_eq h rfl rfl rfl
  | t :: tasks, s, h => by
    have hcreate : Grows moved s (s.create t.work none) := grows_create h t.work none
    exact hcreate.trans (grows_createAll tasks hcreate.pipeline.kept)

/-- A step where no task goes on. -/
theorem grows_step (h : s.pipeline.Kept) (l : DeviceTasksStep W W')
    (hl : ∀ r a b, l = .goOn r a b → r.task.id = moved) : Grows moved s (s.step dev l) := by
  have hpipeline : ∀ l : PipelineStep, (∀ r, l ≠ .goOn r) →
      Grows moved s { s with pipeline := s.pipeline.step l } := fun l hl =>
    grows_pipeline h l fun r hr => absurd hr (hl r)
  have hchange {capInfos : InfoStore CapabilityInfo} {remote : RemoteInfos}
      {tasks : List ChangeTask} :
      Grows moved s ({ s with capInfos := capInfos, remote := remote }.createAll tasks) := by
    have hsame : Grows moved s { s with capInfos := capInfos, remote := remote } :=
      grows_of_eq h rfl rfl rfl
    exact hsame.trans (grows_createAll tasks hsame.pipeline.kept)
  cases l with
  | createTask work =>
    simp only [step]
    split_ifs
    · exact grows_create h work none
    · exact grows_of_eq h rfl rfl rfl
  | pushTask task => exact hpipeline (.pushTask task) (by simp)
  | triggerTask eventHandler => exact hpipeline (.triggerTask eventHandler) (by simp)
  | doTask task => exact hpipeline (.doTask task) (by simp)
  | goOn r a b =>
    simp only [step]
    split_ifs
    · rw [← hl r a b rfl]
      exact grows_goOn h r a b
    · exact grows_of_eq h rfl rfl rfl
  | capabilityChange | capabilityChangeKeys | metaChange | metaChangeKeys =>
    exact hchange
  | fullCapsRsp => exact grows_of_eq h rfl rfl rfl

theorem kept_step (h : s.pipeline.Kept) (l : DeviceTasksStep W W') :
    (s.step dev l).pipeline.Kept := by
  obtain ⟨moved, hl⟩ : ∃ moved, ∀ r a b, l = .goOn r a b → r.task.id = moved := by
    cases l with
    | goOn r a b => exact ⟨r.task.id, fun _ _ _ heq => by cases heq; rfl⟩
    | _ => exact ⟨0, fun _ _ _ heq => by cases heq⟩
  exact (grows_step h l hl).pipeline.kept

/-! ## What a step enables -/

theorem devices_createAll (tasks : List ChangeTask) (s : DeviceTasks L L' W W') :
    (s.createAll tasks).devices = s.devices := by
  unfold createAll
  have hcreate : ∀ (s' : DeviceTasks L L' W W') (t : ChangeTask), s'.devices = s.devices →
      (s'.create t.work none).devices = s.devices := fun _ _ h => h
  exact foldl_invariant hcreate tasks rfl

theorem devices_advance (id : ℕ) (isOnLine : Bool) (d : DeviceIds) (b : DeviceAnswers) :
    (s.advance dev id isOnLine d b).devices = s.devices := by
  have hnext : ∀ (phase : List Work → DevicePhase) (last : DevicePhase) (todo : List Work),
      (s.createNext id phase last todo).devices = s.devices := by
    intro phase last todo
    cases todo <;> rfl
  unfold advance
  cases s.phases.get id with
  | creating todo | creatingSinks todo => exact hnext _ _ todo
  | metaTask =>
    dsimp only
    split_ifs <;> rfl
  | _ => rfl

/-- What is enabled is as it was, or a task that is at work has done what it is there for. -/
theorem devices_step (dev : Devices) (s : DeviceTasks L L' W W') (l : DeviceTasksStep W W') :
    (s.step dev l).devices = s.devices ∨
      ∃ r a b work, l = .goOn r a b ∧ r ∈ s.pipeline.running ∧ r.phase = .working ∧
        s.work.lookup r.task.id = some work ∧
        (s.step dev l).devices = work.perform dev a b s.devices := by
  cases l with
  | createTask work =>
    simp only [step]
    split_ifs <;> exact .inl rfl
  | pushTask | triggerTask | doTask | fullCapsRsp => exact .inl rfl
  | capabilityChange | capabilityChangeKeys | metaChange | metaChangeKeys =>
    exact .inl (devices_createAll _ _)
  | goOn r a b =>
    simp only [step]
    by_cases hgo : r ∈ s.pipeline.running ∧ s.pipeline.isPushing r.task.id = false
    · rw [if_pos hgo, goOn]
      split
      · split_ifs
        · exact .inl rfl
        · exact .inl (devices_advance ..)
      · split_ifs
        · exact .inl rfl
        · exact .inl (devices_advance ..)
      · next work _ _ hphase hwork =>
        exact .inr ⟨r, a, b, work, rfl, hgo.1, hphase, hwork, rfl⟩
      · split_ifs <;> exact .inl rfl
      · exact .inl rfl
    · rw [if_neg hgo]
      exact .inl rfl

end DeviceTasks

end DHFwk
