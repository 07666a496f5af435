import DHFwk.Basic
import Mathlib.Data.List.Sort

/-!
# Devices that come and go

`DistributedHardwareManagerFactory` is told which devices come online and go offline, keeps
them in `DHContext`, and pushes an `ON_LINE` or `OFF_LINE` task for each. An `OFF_LINE` task
waits for the tasks that disable the hardware of its device, takes the device out of
`DHContext`, and runs `UnInit` if no device is left. `UnInit` and the notifications share the
flags `isInit_`, `flagUnInit_` and `releaseStatus_`.

`OffLinePhase` is where an `OFF_LINE` task is, `DeviceStep` one step : a notification, a
connection of a device of another system (`connectedDevIds_`), a call of `Init` or
`CheckExitSAOrNot` from elsewhere, or one task going on. The steps of `UnInit` are apart, as
it holds a lock that the notifications do not take.
-/

namespace DHFwk

abbrev MAX_ID_LEN : ℕ := 256
abbrev MAX_ONLINE_DEVICE_SIZE : ℕ := 10000

/-- `IsIdLengthValid`. -/
def isIdLengthValid (inputID : String) : Bool :=
  !(inputID.isEmpty || inputID.utf8ByteSize > MAX_ID_LEN)

/-! ## The online devices -/

/-- The ids of a device : what a notification and a task carry (`TaskParam`). -/
structure TaskParam where
  networkId : String
  uuid : String
  udid : String
  deriving DecidableEq, Repr

namespace TaskParam

/-- The ids that both `SendOnLineEvent` and `SendOffLineEvent` ask for. -/
def isValid (param : TaskParam) : Bool :=
  isIdLengthValid param.networkId && isIdLengthValid param.uuid && isIdLengthValid param.udid

theorem isValid_iff {param : TaskParam} : param.isValid = true ↔
    isIdLengthValid param.networkId = true ∧ isIdLengthValid param.uuid = true ∧
      isIdLengthValid param.udid = true := by
  simp [isValid, and_assoc]

end TaskParam

/-- `DeviceIdEntry`, less the hashes of `uuid` and of `udid`. -/
structure DeviceIdEntry where
  networkId : String
  uuid : String
  udid : String
  deriving DecidableEq, Repr

/-- `DeviceIdEntry::operator<`. Entries with one `uuid` have one hash of it, so the hashes
decide nothing. -/
def DeviceIdEntry.lt (a b : DeviceIdEntry) : Bool :=
  a.networkId < b.networkId ∨ a.networkId = b.networkId ∧
    (a.uuid < b.uuid ∨ a.uuid = b.uuid ∧ a.udid < b.udid)

/-- `DHContext`. `devIdEntrySet_` is in the order of the set. -/
structure DHContext where
  devIdEntrySet_ : List DeviceIdEntry := []
  realTimeOnLineNetworkIdSet_ : Finset String := ∅
  connectedDevIds_ : Finset String := ∅

namespace DHContext

variable (context : DHContext)

/-- `AddOnlineDevice`. -/
def addOnlineDevice (udid uuid networkId : String) : DHContext :=
  let idEntry : DeviceIdEntry := ⟨networkId, uuid, udid⟩
  if !isIdLengthValid udid || !isIdLengthValid uuid || !isIdLengthValid networkId then context
  else if context.devIdEntrySet_.length > MAX_ONLINE_DEVICE_SIZE then context
  else if idEntry ∈ context.devIdEntrySet_ then context
  else
    { context with
      devIdEntrySet_ := context.devIdEntrySet_.orderedInsert (fun a b => a.lt b) idEntry }

/-- `RemoveOnlineDeviceIdEntryByNetworkId` : only the first entry goes. -/
def removeOnlineDeviceIdEntryByNetworkId (networkId : String) : DHContext :=
  if !isIdLengthValid networkId then context
  else
    { context with
      devIdEntrySet_ := context.devIdEntrySet_.eraseP fun e => e.networkId = networkId }

/-- `IsDeviceOnline`. -/
def isDeviceOnline (uuid : String) : Bool :=
  isIdLengthValid uuid && context.devIdEntrySet_.any fun e => e.uuid = uuid

/-- `AddRealTimeOnlineDeviceNetworkId`. -/
def addRealTimeOnlineDeviceNetworkId (networkId : String) : DHContext :=
  { context with
    realTimeOnLineNetworkIdSet_ := insert networkId context.realTimeOnLineNetworkIdSet_ }

/-- `DeleteRealTimeOnlineDeviceNetworkId`. -/
def deleteRealTimeOnlineDeviceNetworkId (networkId : String) : DHContext :=
  { context with
    realTimeOnLineNetworkIdSet_ := context.realTimeOnLineNetworkIdSet_.erase networkId }

/-- `GetRealTimeOnlineDeviceCount`. -/
def getRealTimeOnlineDeviceCount : ℕ :=
  context.realTimeOnLineNetworkIdSet_.card

/-- `AddIsomerismConnectDev`. -/
def addIsomerismConnectDev (isomerismDeviceId : String) : DHContext :=
  if !isIdLengthValid isomerismDeviceId then context
  else { context with connectedDevIds_ := insert isomerismDeviceId context.connectedDevIds_ }

/-- `DelIsomerismConnectDev`. -/
def delIsomerismConnectDev (isomerismDeviceId : String) : DHContext :=
  if !isIdLengthValid isomerismDeviceId then context
  else { context with connectedDevIds_ := context.connectedDevIds_.erase isomerismDeviceId }

/-- `GetIsomerismConnectCount`, a `uint32_t`. -/
def getIsomerismConnectCount : ℕ :=
  context.connectedDevIds_.card % 2 ^ 32

/-- No device is online and none of another system is connected : the test that
`SendOffLineEvent` makes to set the flag and the task to start `UnInit`. -/
def isDeserted : Bool :=
  context.getRealTimeOnlineDeviceCount = 0 ∧ context.getIsomerismConnectCount = 0

end DHContext

/-! ## Tasks -/

/-- Where an `OFF_LINE` task is : before its device is out of `DHContext`, before the test
whether any device is left, before `UnInit`, and in `UnInit` before `isInit_` is cleared,
before `flagUnInit_` is cleared, and before `CheckExitSAOrNot`. -/
inductive OffLinePhase
  | waiting | removed | deserted | releasing | uninited | released
  deriving DecidableEq, Repr

/-- A task of the executor, queued or running, or one that is no more. -/
inductive DeviceTask
  | finished
  | onLine (param : TaskParam)
  | offLine (param : TaskParam) (phase : OffLinePhase)
  deriving DecidableEq, Repr

instance : Inhabited DeviceTask :=
  ⟨.finished⟩

/-- `DistributedHardwareManagerFactory`, `DHContext` and the tasks. `releaseProcessMutex_` is
the task that holds it; `nextTask` is the first id that no task has had. -/
structure DeviceLife where
  context : DHContext := {}
  isInit_ : Bool := false
  flagUnInit_ : Bool := false
  releaseStatus_ : Bool := false
  releaseProcessMutex_ : Option ℕ := none
  tasks : Table ℕ DeviceTask := ∅
  nextTask : ℕ := 0

namespace DeviceLife

variable (s : DeviceLife)

/-- The task `id` is now `task`. -/
def setTask (id : ℕ) (task : DeviceTask) : DeviceLife :=
  { s with tasks := s.tasks.set id task }

/-- `TaskExecutor::PushTask`, which drops the task if its queue is full or if there is no
event handler to post it to. -/
def pushTask (task : DeviceTask) (dropped : Bool) : DeviceLife :=
  if dropped then s
  else { s with tasks := s.tasks.set s.nextTask task, nextTask := s.nextTask + 1 }

/-- How many tasks are as `q` says. -/
def taskCount (q : DeviceTask → Bool) : ℕ :=
  s.tasks.count fun _ task => q task

/-- No task is queued or running. -/
def Idle : Prop :=
  s.taskCount (fun task => task ≠ .finished) = 0

instance : Decidable s.Idle :=
  inferInstanceAs (Decidable (_ = _))

/-! ## The factory -/

/-- `Init`, which succeeds as `Initialize` always does. -/
def init : DeviceLife :=
  { s with isInit_ := true, releaseStatus_ := false }

/-- `isInit_`, or `Init`. -/
def ensureInit : DeviceLife :=
  if s.isInit_ then s else s.init

/-- `CheckExitSAOrNot`. The devices that it finds online are notified by threads of their
own. -/
def checkExitSAOrNot (dmOnline hdfInuse : Bool) : DeviceLife :=
  if !dmOnline ∧ s.context.getIsomerismConnectCount = 0 ∧ !hdfInuse then s else s.init

/-- `DistributedHardwareManagerFactory::SendOnLineEvent`. -/
def sendOnLineEvent (param : TaskParam) (dropped : Bool) : Int × DeviceLife :=
  if !param.isValid then (ERR_DH_FWK_PARA_INVALID, s)
  else if s.flagUnInit_ then (ERR_DH_FWK_HARDWARE_MANAGER_INIT_FAILED, s)
  else if s.context.isDeviceOnline param.uuid then
    (ERR_DH_FWK_HARDWARE_MANAGER_DEVICE_REPEAT_ONLINE, s)
  else
    let context := (s.context.addOnlineDevice param.udid param.uuid
      param.networkId).addRealTimeOnlineDeviceNetworkId param.networkId
    (DH_FWK_SUCCESS,
      ({ s with context := context } : DeviceLife).ensureInit.pushTask (.onLine param) dropped)

/-- `DistributedHardwareManagerFactory::SendOffLineEvent`. -/
def sendOffLineEvent (param : TaskParam) (dropped : Bool) : Int × DeviceLife :=
  if !param.isValid then (ERR_DH_FWK_PARA_INVALID, s)
  else
    let s := s.ensureInit
    if !s.context.isDeviceOnline param.uuid then
      (ERR_DH_FWK_HARDWARE_MANAGER_DEVICE_REPEAT_OFFLINE, s)
    else
      let context := s.context.deleteRealTimeOnlineDeviceNetworkId param.networkId
      let s := { s with context := context, flagUnInit_ := s.flagUnInit_ || context.isDeserted }
      (DH_FWK_SUCCESS, s.pushTask (.offLine param .waiting) dropped)

/-! ## Steps -/

/-- The task `id` goes on from `phase`. In `deserted` it enters `UnInit` : it waits for the
lock, and leaves at once if the resources are released. -/
def offLineTask (id : ℕ) (param : TaskParam) (dmOnline hdfInuse : Bool) :
    OffLinePhase → DeviceLife
  | .waiting =>
    ({ s with context := s.context.removeOnlineDeviceIdEntryByNetworkId param.networkId } :
      DeviceLife).setTask id (.offLine param .removed)
  | .removed => s.setTask id (if s.context.isDeserted then .offLine param .deserted else .finished)
  | .deserted =>
    if s.releaseProcessMutex_.isSome then s
    else if s.releaseStatus_ then s.setTask id .finished
    else
      ({ s with releaseStatus_ := true, releaseProcessMutex_ := some id } : DeviceLife).setTask id
        (.offLine param .releasing)
  | .releasing => ({ s with isInit_ := false } : DeviceLife).setTask id (.offLine param .uninited)
  | .uninited =>
    ({ s with flagUnInit_ := false } : DeviceLife).setTask id (.offLine param .released)
  | .released =>
    ({ s.checkExitSAOrNot dmOnline hdfInuse with releaseProcessMutex_ := none } :
      DeviceLife).setTask id .finished

/-- The task `id` goes on. -/
def advance (id : ℕ) (dmOnline hdfInuse : Bool) : DeviceLife :=
  match s.tasks.get id with
  | .finished => s
  | .onLine _ => s.setTask id .finished
  | .offLine param phase => s.offLineTask id param dmOnline hdfInuse phase

end DeviceLife

/-- A step, with what the code around it answers : whether the task executor drops the task,
and what `CheckExitSAOrNot` finds. -/
inductive DeviceStep
  | sendOnLineEvent (param : TaskParam) (dropped : Bool)
  | sendOffLineEvent (param : TaskParam) (dropped : Bool)
  | addIsomerismConnectDev (isomerismDeviceId : String)
  | delIsomerismConnectDev (isomerismDeviceId : String)
  | init
  | checkExitSAOrNot (dmOnline hdfInuse : Bool)
  | advance (id : ℕ) (dmOnline hdfInuse : Bool)

namespace DeviceLife

/-- One step. -/
def step (s : DeviceLife) : DeviceStep → DeviceLife
  | .sendOnLineEvent param dropped => (s.sendOnLineEvent param dropped).2
  | .sendOffLineEvent param dropped => (s.sendOffLineEvent param dropped).2
  | .addIsomerismConnectDev isomerismDeviceId =>
    { s with context := s.context.addIsomerismConnectDev isomerismDeviceId }
  | .delIsomerismConnectDev isomerismDeviceId =>
    { s with context := s.context.delIsomerismConnectDev isomerismDeviceId }
  | .init => s.init
  | .checkExitSAOrNot dmOnline hdfInuse => s.checkExitSAOrNot dmOnline hdfInuse
  | .advance id dmOnline hdfInuse => s.advance id dmOnline hdfInuse

end DeviceLife

/-! ## What the steps read and write -/

namespace DHContext

variable {context : DHContext} {isomerismDeviceId networkId : String}

@[simp] theorem addIsomerismConnectDev_devIdEntrySet_ :
    (context.addIsomerismConnectDev isomerismDeviceId).devIdEntrySet_ =
      context.devIdEntrySet_ := by
  unfold addIsomerismConnectDev
  split_ifs <;> rfl

@[simp] theorem addIsomerismConnectDev_realTimeOnLineNetworkIdSet_ :
    (context.addIsomerismConnectDev isomerismDeviceId).realTimeOnLineNetworkIdSet_ =
      context.realTimeOnLineNetworkIdSet_ := by
  unfold addIsomerismConnectDev
  split_ifs <;> rfl

@[simp] theorem delIsomerismConnectDev_devIdEntrySet_ :
    (context.delIsomerismConnectDev isomerismDeviceId).devIdEntrySet_ =
      context.devIdEntrySet_ := by
  unfold delIsomerismConnectDev
  split_ifs <;> rfl

@[simp] theorem delIsomerismConnectDev_realTimeOnLineNetworkIdSet_ :
    (context.delIsomerismConnectDev isomerismDeviceId).realTimeOnLineNetworkIdSet_ =
      context.realTimeOnLineNetworkIdSet_ := by
  unfold delIsomerismConnectDev
  split_ifs <;> rfl

@[simp] theorem addOnlineDevice_realTimeOnLineNetworkIdSet_ {udid uuid : String} :
    (context.addOnlineDevice udid uuid networkId).realTimeOnLineNetworkIdSet_ =
      context.realTimeOnLineNetworkIdSet_ := by
  unfold addOnlineDevice
  dsimp only
  split_ifs <;> rfl

@[simp] theorem removeOnlineDeviceIdEntryByNetworkId_realTimeOnLineNetworkIdSet_ :
    (context.removeOnlineDeviceIdEntryByNetworkId networkId).realTimeOnLineNetworkIdSet_ =
      context.realTimeOnLineNetworkIdSet_ := by
  unfold removeOnlineDeviceIdEntryByNetworkId
  split_ifs <;> rfl

end DHContext

namespace DeviceLife

variable {s : DeviceLife} {param : TaskParam} {dropped : Bool} {q : DeviceTask → Bool}

@[simp] theorem ensureInit_context : s.ensureInit.context = s.context := by
  unfold ensureInit
  split_ifs <;> rfl

@[simp] theorem ensureInit_flagUnInit_ : s.ensureInit.flagUnInit_ = s.flagUnInit_ := by
  unfold ensureInit
  split_ifs <;> rfl

@[simp] theorem ensureInit_releaseProcessMutex_ :
    s.ensureInit.releaseProcessMutex_ = s.releaseProcessMutex_ := by
  unfold ensureInit
  split_ifs <;> rfl

@[simp] theorem ensureInit_tasks : s.ensureInit.tasks = s.tasks := by
  unfold ensureInit
  split_ifs <;> rfl

@[simp] theorem ensureInit_nextTask : s.ensureInit.nextTask = s.nextTask := by
  unfold ensureInit
  split_ifs <;> rfl

/-- `CheckExitSAOrNot` calls `Init` or does nothing. -/
theorem checkExitSAOrNot_cases (s : DeviceLife) (dmOnline hdfInuse : Bool) :
    s.checkExitSAOrNot dmOnline hdfInuse = s ∨
      s.checkExitSAOrNot dmOnline hdfInuse = s.init := by
  unfold checkExitSAOrNot
  split_ifs
  · exact Or.inl rfl
  · exact Or.inr rfl

@[simp] theorem pushTask_context (task : DeviceTask) :
    (s.pushTask task dropped).context = s.context := by
  cases dropped <;> rfl

@[simp] theorem pushTask_flagUnInit_ (task : DeviceTask) :
    (s.pushTask task dropped).flagUnInit_ = s.flagUnInit_ := by
  cases dropped <;> rfl

theorem le_nextTask_pushTask (task : DeviceTask) :
    s.nextTask ≤ (s.pushTask task dropped).nextTask := by
  cases dropped with
  | true => exact le_rfl
  | false => exact Nat.le_succ _

/-- `SendOnLineEvent` accepts the device. -/
def acceptsOnLine (s : DeviceLife) (param : TaskParam) : Bool :=
  param.isValid && !s.flagUnInit_ && !s.context.isDeviceOnline param.uuid

theorem acceptsOnLine_iff : s.acceptsOnLine param = true ↔
    param.isValid = true ∧ s.flagUnInit_ = false ∧
      s.context.isDeviceOnline param.uuid = false := by
  simp [acceptsOnLine, and_assoc]

/-- `SendOffLineEvent` accepts the device. -/
def acceptsOffLine (s : DeviceLife) (param : TaskParam) : Bool :=
  param.isValid && s.context.isDeviceOnline param.uuid

/-- The context once a device has come online. -/
def onLineContext (s : DeviceLife) (param : TaskParam) : DHContext :=
  (s.context.addOnlineDevice param.udid param.uuid
    param.networkId).addRealTimeOnlineDeviceNetworkId param.networkId

theorem sendOnLineEvent_of_accepts (h : s.acceptsOnLine param = true) (dropped : Bool) :
    s.sendOnLineEvent param dropped = (DH_FWK_SUCCESS,
      ({ s with context := s.onLineContext param } : DeviceLife).ensureInit.pushTask
        (.onLine param) dropped) := by
  obtain ⟨hv, hf, ho⟩ := acceptsOnLine_iff.1 h
  simp [sendOnLineEvent, hv, hf, ho, onLineContext]

theorem sendOnLineEvent_of_not_accepts (h : s.acceptsOnLine param = false) (dropped : Bool) :
    (s.sendOnLineEvent param dropped).1 ≠ DH_FWK_SUCCESS ∧
      (s.sendOnLineEvent param dropped).2 = s := by
  unfold sendOnLineEvent
  split_ifs with hv hf ho
  · exact ⟨by simp, rfl⟩
  · exact ⟨by simp, rfl⟩
  · exact ⟨by simp, rfl⟩
  · simp_all [acceptsOnLine]

/-- The state once a device is noted to go offline, before its task is pushed. -/
def goOffLine (s : DeviceLife) (param : TaskParam) : DeviceLife :=
  let context := s.context.deleteRealTimeOnlineDeviceNetworkId param.networkId
  { s.ensureInit with context := context, flagUnInit_ := s.flagUnInit_ || context.isDeserted }

theorem sendOffLineEvent_of_accepts (h : s.acceptsOffLine param = true) (dropped : Bool) :
    s.sendOffLineEvent param dropped =
      (DH_FWK_SUCCESS, (s.goOffLine param).pushTask (.offLine param .waiting) dropped) := by
  simp only [acceptsOffLine, Bool.and_eq_true] at h
  obtain ⟨hv, ho⟩ := h
  simp [sendOffLineEvent, hv, ho, goOffLine]

theorem sendOffLineEvent_of_not_accepts (h : s.acceptsOffLine param = false) (dropped : Bool) :
    (s.sendOffLineEvent param dropped).1 ≠ DH_FWK_SUCCESS ∧
      ((s.sendOffLineEvent param dropped).2 = s ∨
        (s.sendOffLineEvent param dropped).2 = s.ensureInit) := by
  unfold sendOffLineEvent
  simp only [ensureInit_context]
  split_ifs with hv ho
  · exact ⟨by simp, Or.inl rfl⟩
  · exact ⟨by simp, Or.inr rfl⟩
  · simp_all [acceptsOffLine]

/-! ## Counting tasks -/

/-- The ids from `nextTask` on have no task. -/
def Fresh (s : DeviceLife) : Prop :=
  ∀ id, s.nextTask ≤ id → s.tasks.get id = .finished

/-- The tasks are counted in the table. -/
theorem taskCount_congr {t : DeviceLife} (h : t.tasks = s.tasks) :
    t.taskCount q = s.taskCount q :=
  congrArg (Table.count fun _ task => q task) h

/-- Writing a task changes the count by the difference of the two truth values. -/
theorem taskCount_of_set {t : DeviceLife} {id : ℕ} {task : DeviceTask} (hq : q .finished = false)
    (h : t.tasks = s.tasks.set id task) : (t.taskCount q : ℤ) =
      s.taskCount q - (if q (s.tasks.get id) then 1 else 0) + if q task then 1 else 0 := by
  rw [taskCount, h]
  exact Table.count_set (fun _ => hq) s.tasks id task

/-- Writing a task that counts as the one before it did leaves the count. -/
theorem taskCount_of_same {t : DeviceLife} {id : ℕ} {task : DeviceTask}
    (hq : q .finished = false) (h : t.tasks = s.tasks.set id task)
    (hsame : q (s.tasks.get id) = q task) : t.taskCount q = s.taskCount q := by
  have hcount := taskCount_of_set hq h
  rw [hsame, sub_add_cancel] at hcount
  exact_mod_cast hcount

/-- A task that is pushed counts, unless it is dropped. -/
theorem taskCount_pushTask (hq : q .finished = false) (hf : s.Fresh) (task : DeviceTask) :
    (s.pushTask task dropped).taskCount q =
      s.taskCount q + if dropped = false ∧ q task then 1 else 0 := by
  cases dropped with
  | true => rfl
  | false =>
    have h := taskCount_of_set (t := s.pushTask task false) hq rfl
    rw [hf s.nextTask le_rfl, hq] at h
    cases htask : q task <;> simp [htask] at h ⊢ <;> omega

theorem taskCount_pos (hq : q .finished = false) {id : ℕ} (h : q (s.tasks.get id) = true) :
    0 < s.taskCount q :=
  Table.one_le_count s.tasks (fun _ => hq) h

/-- If no task is left, no task is as `q` says. -/
theorem Idle.taskCount_eq_zero (h : s.Idle) (hq : q .finished = false) : s.taskCount q = 0 := by
  refine Nat.le_zero.1 (h ▸ Table.count_le_count (fun _ => hq) (fun _ => rfl) fun id hid => ?_)
  rw [decide_eq_true_eq]
  intro hfin
  rw [hfin, hq] at hid
  cases hid

theorem Fresh.pushTask (h : s.Fresh) (task : DeviceTask) : (s.pushTask task dropped).Fresh := by
  cases dropped with
  | true => exact h
  | false =>
    intro id hid
    have hlt : s.nextTask < id := hid
    exact (Table.get_set_ne s.tasks hlt.ne' task).trans (h id hlt.le)

theorem Fresh.ensureInit (h : s.Fresh) : s.ensureInit.Fresh := by
  intro id hid
  rw [ensureInit_nextTask] at hid
  rw [ensureInit_tasks]
  exact h id hid

@[simp] theorem checkExitSAOrNot_context (dmOnline hdfInuse : Bool) :
    (s.checkExitSAOrNot dmOnline hdfInuse).context = s.context := by
  rcases s.checkExitSAOrNot_cases dmOnline hdfInuse with h | h
  · rw [h]
  · rw [h]
    rfl

@[simp] theorem checkExitSAOrNot_tasks (dmOnline hdfInuse : Bool) :
    (s.checkExitSAOrNot dmOnline hdfInuse).tasks = s.tasks := by
  rcases s.checkExitSAOrNot_cases dmOnline hdfInuse with h | h
  · rw [h]
  · rw [h]
    rfl

@[simp] theorem checkExitSAOrNot_nextTask (dmOnline hdfInuse : Bool) :
    (s.checkExitSAOrNot dmOnline hdfInuse).nextTask = s.nextTask := by
  rcases s.checkExitSAOrNot_cases dmOnline hdfInuse with h | h
  · rw [h]
  · rw [h]
    rfl

/-- A task that goes on writes no other task, and never one that waits. -/
theorem advance_tasks (s : DeviceLife) (id : ℕ) (dmOnline hdfInuse : Bool) :
    (s.advance id dmOnline hdfInuse).nextTask = s.nextTask ∧
      ((s.advance id dmOnline hdfInuse).tasks = s.tasks ∨
        s.tasks.get id ≠ .finished ∧ ∃ task, (∀ param, task ≠ .offLine param .waiting) ∧
          (s.advance id dmOnline hdfInuse).tasks = s.tasks.set id task) := by
  unfold advance
  cases ht : s.tasks.get id with
  | finished => exact ⟨rfl, Or.inl rfl⟩
  | onLine param => exact ⟨rfl, Or.inr ⟨by simp, .finished, by simp, rfl⟩⟩
  | offLine param phase =>
    have hne : DeviceTask.offLine param phase ≠ .finished := by simp
    cases phase with
    | waiting => exact ⟨rfl, Or.inr ⟨hne, .offLine param .removed, by simp, rfl⟩⟩
    | removed =>
      refine ⟨rfl, Or.inr ⟨hne, _, fun param' => ?_, rfl⟩⟩
      split_ifs <;> simp
    | deserted =>
      simp only [offLineTask]
      split_ifs
      · exact ⟨rfl, Or.inl rfl⟩
      · exact ⟨rfl, Or.inr ⟨hne, .finished, by simp, rfl⟩⟩
      · exact ⟨rfl, Or.inr ⟨hne, .offLine param .releasing, by simp, rfl⟩⟩
    | releasing => exact ⟨rfl, Or.inr ⟨hne, .offLine param .uninited, by simp, rfl⟩⟩
    | uninited => exact ⟨rfl, Or.inr ⟨hne, .offLine param .released, by simp, rfl⟩⟩
    | released =>
      exact ⟨by simp [offLineTask, setTask],
        Or.inr ⟨hne, .finished, by simp, by simp [offLineTask, setTask]⟩⟩

/-- Only a task that waits writes the context. -/
theorem advance_context (s : DeviceLife) {id : ℕ} (dmOnline hdfInuse : Bool)
    (h : ∀ param, s.tasks.get id ≠ .offLine param .waiting) :
    (s.advance id dmOnline hdfInuse).context = s.context := by
  unfold advance
  cases ht : s.tasks.get id with
  | finished => rfl
  | onLine param => rfl
  | offLine param phase =>
    cases phase with
    | waiting => exact absurd ht (h param)
    | removed => rfl
    | deserted =>
      simp only [offLineTask]
      split_ifs <;> rfl
    | releasing => rfl
    | uninited => rfl
    | released => simp [offLineTask, setTask]

/-- Every step leaves the ids from `nextTask` on without a task. -/
theorem Fresh.step (h : s.Fresh) (l : DeviceStep) : (s.step l).Fresh := by
  cases l with
  | sendOnLineEvent param dropped =>
    show (s.sendOnLineEvent param dropped).2.Fresh
    cases ha : s.acceptsOnLine param with
    | false => rwa [(sendOnLineEvent_of_not_accepts ha dropped).2]
    | true =>
      rw [sendOnLineEvent_of_accepts ha dropped]
      have hon : ({ s with context := s.onLineContext param } : DeviceLife).Fresh := h
      exact hon.ensureInit.pushTask _
  | sendOffLineEvent param dropped =>
    show (s.sendOffLineEvent param dropped).2.Fresh
    cases ha : s.acceptsOffLine param with
    | false =>
      rcases (sendOffLineEvent_of_not_accepts ha dropped).2 with hs | hs <;> rw [hs]
      · exact h
      · exact h.ensureInit
    | true =>
      rw [sendOffLineEvent_of_accepts ha dropped]
      have hoff : (s.goOffLine param).Fresh := h.ensureInit
      exact hoff.pushTask _
  | addIsomerismConnectDev isomerismDeviceId => exact h
  | delIsomerismConnectDev isomerismDeviceId => exact h
  | init => exact h
  | checkExitSAOrNot dmOnline hdfInuse =>
    show (s.checkExitSAOrNot dmOnline hdfInuse).Fresh
    rcases s.checkExitSAOrNot_cases dmOnline hdfInuse with hs | hs <;> rw [hs] <;> exact h
  | advance id dmOnline hdfInuse =>
    obtain ⟨hn, ht⟩ := s.advance_tasks id dmOnline hdfInuse
    intro id' hid'
    have hlt : s.nextTask ≤ id' := hn ▸ hid'
    show (s.advance id dmOnline hdfInuse).tasks.get id' = .finished
    obtain ht | ⟨hne, task, -, ht⟩ := ht
    · rw [ht]
      exact h id' hlt
    · have hid : id' ≠ id := by
        rintro rfl
        exact hne (h id' hlt)
      rw [ht, Table.get_set_ne s.tasks hid]
      exact h id' hlt

end DeviceLife

end DHFwk
