import DHFwk.OnlineConvergence

/-!
# The tables of the online devices

`DHContext` has four tables of the online devices : their entries, their networkIds, the types and
the OS types that they reported. `SendOnLineEvent` fills them all. The networkId goes with the
notification that the device is offline, the entry when its `OFF_LINE` task has waited for its
children, and both types with one of these, a `META_DISABLE` task, which is made only for a phone
of double framework. `IsDoubleFwkDevice` takes out an OS type that is not one of these.

`Matched` says where the types of a device are while it is online, while it leaves, and when it is
gone. A step keeps it that is `Tidy`, and once no task is left the tables agree
(`online_tables_agree`).
-/

set_option linter.unusedSectionVars false

namespace Table

variable {K V : Type*} [DecidableEq K]

/-- `std::map::insert` : a key that is there keeps its value. -/
def addNew (k : K) (v : V) (t : Table K V) : Table K V :=
  if (t.lookup k).isSome then t else t.set k v

theorem lookup_addNew_ne (t : Table K V) {k k' : K} (h : k' ≠ k) (v : V) :
    (t.addNew k v).lookup k' = t.lookup k' := by
  unfold addNew
  split_ifs
  · rfl
  · exact lookup_set_ne t h v

theorem lookup_addNew_self (t : Table K V) (k : K) (v : V) :
    (t.addNew k v).lookup k = some ((t.lookup k).getD v) := by
  unfold addNew
  cases h : t.lookup k with
  | none => exact lookup_set_self t k v
  | some w => exact h

end Table

namespace DHFwk

open Runs

abbrev DEVICE_TYPE_UNKNOWN : UInt16 := 0
abbrev PHONE_TYPE : UInt16 := 14
abbrev OLD_HO_DEVICE_TYPE : Int := -1
abbrev NEW_HO_DEVICE_TYPE : Int := 11

/-- The OS types of a device of double framework. -/
def isDoubleFwk (osType : Int) : Bool :=
  osType = OLD_HO_DEVICE_TYPE ∨ osType = NEW_HO_DEVICE_TYPE

/-- How far an `OFF_LINE` task is with its `META_DISABLE` task : not come to it, queued, the type
taken out, finished (or none made), or dropped by the executor, so that it never finishes. -/
inductive MetaDisablePhase
  | toCreate | queued | typeDeleted | finished | dropped
  deriving DecidableEq, Repr

instance : Inhabited MetaDisablePhase :=
  ⟨.toCreate⟩

/-- The tables, how far each `OFF_LINE` task is with its `META_DISABLE` task, and what the last
online notification that was accepted for a networkId reported. -/
structure OnlineTables where
  notices : Notices := {}
  onlineDevTypeMap_ : Table String UInt16 := ∅
  onlineDevOSTypeMap_ : Table String Int := ∅
  metaDisable : Table ℕ MetaDisablePhase := ∅
  reported : Table String (UInt16 × Int) := ∅

namespace OnlineTables

variable (s : OnlineTables)

abbrev life : DeviceLife :=
  s.notices.life

/-- `GetDeviceTypeByNetworkId`. -/
def getDeviceTypeByNetworkId (networkId : String) : UInt16 :=
  (s.onlineDevTypeMap_.lookup networkId).getD DEVICE_TYPE_UNKNOWN

/-- `IsDoubleFwkDevice`. -/
def isDoubleFwkDevice (networkId : String) : Bool × OnlineTables :=
  match s.onlineDevOSTypeMap_.lookup networkId with
  | none => (false, s)
  | some osType =>
    if !isDoubleFwk osType then
      (false, { s with onlineDevOSTypeMap_ := s.onlineDevOSTypeMap_.remove networkId })
    else (true, s)

/-- `DistributedHardwareManagerFactory::SendOnLineEvent`, where `Init` succeeds or not. -/
def sendOnLineEvent (param : TaskParam) (deviceType : UInt16) (osType : Int)
    (initialized dropped : Bool) : Int × OnlineTables :=
  if !param.isValid then (ERR_DH_FWK_PARA_INVALID, s)
  else if s.life.flagUnInit_ then (ERR_DH_FWK_HARDWARE_MANAGER_INIT_FAILED, s)
  else if s.life.context.isDeviceOnline param.uuid then
    (ERR_DH_FWK_HARDWARE_MANAGER_DEVICE_REPEAT_ONLINE, s)
  else
    let types := s.onlineDevTypeMap_.addNew param.networkId deviceType
    let osTypes := s.onlineDevOSTypeMap_.addNew param.networkId osType
    let s := { s with onlineDevTypeMap_ := types, onlineDevOSTypeMap_ := osTypes }
    if !s.life.isInit_ && !initialized then
      let life := { s.life with context := s.life.onLineContext param }
      (ERR_DH_FWK_HARDWARE_MANAGER_INIT_FAILED,
        { s with notices := { s.notices with life := life } })
    else
      -- the entry and the networkId are added before `Init`, the task is pushed after it
      (DH_FWK_SUCCESS,
        { s with
          notices := s.notices.step (.sendOnLineEvent param dropped)
          reported := s.reported.set param.networkId (deviceType, osType) })

/-- `DistributedHardwareManagerFactory::SendOffLineEvent`. -/
def sendOffLineEvent (param : TaskParam) (initialized dropped : Bool) : Int × OnlineTables :=
  if !param.isValid then (ERR_DH_FWK_PARA_INVALID, s)
  else if !s.life.isInit_ && !initialized then (ERR_DH_FWK_HARDWARE_MANAGER_INIT_FAILED, s)
  else
    ((s.life.sendOffLineEvent param dropped).1,
      { s with notices := s.notices.step (.sendOffLineEvent param dropped) })

/-- The `OFF_LINE` task `id` is now so far. -/
def setMetaDisable (id : ℕ) (phase : MetaDisablePhase) : OnlineTables :=
  { s with metaDisable := s.metaDisable.set id phase }

/-- `CreateMetaDisableTask` of the `OFF_LINE` task `id`. -/
def createMetaDisableTask (id : ℕ) (dropped : Bool) : OnlineTables :=
  match s.life.tasks.get id, s.metaDisable.get id with
  | .offLine param .waiting, .toCreate =>
    let (double, s) := s.isDoubleFwkDevice param.networkId
    if !double then s.setMetaDisable id .finished
    else if s.getDeviceTypeByNetworkId param.networkId ≠ PHONE_TYPE then
      s.setMetaDisable id .finished
    else s.setMetaDisable id (if dropped then .dropped else .queued)
  | _, _ => s

/-- The `META_DISABLE` task of the `OFF_LINE` task `id` goes on. -/
def metaDisableTask (id : ℕ) : OnlineTables :=
  match s.life.tasks.get id, s.metaDisable.get id with
  | .offLine param .waiting, .queued =>
    ({ s with onlineDevTypeMap_ := s.onlineDevTypeMap_.remove param.networkId } :
      OnlineTables).setMetaDisable id .typeDeleted
  | .offLine param .waiting, .typeDeleted =>
    ({ s with onlineDevOSTypeMap_ := s.onlineDevOSTypeMap_.remove param.networkId } :
      OnlineTables).setMetaDisable id .finished
  | _, _ => s

/-- The factory and the tasks do a step. -/
def lifeStep (l : DeviceStep) : OnlineTables :=
  { s with notices := s.notices.step l }

/-- The task `id` goes on : an `ON_LINE` task makes its `META_ENABLE` task at last, an `OFF_LINE`
task waits for its child, and `UnInit` ends with an `Init` that succeeds or not. -/
def advance (id : ℕ) (dmOnline hdfInuse initialized : Bool) : OnlineTables :=
  match s.life.tasks.get id with
  | .onLine param =>
    (s.isDoubleFwkDevice param.networkId).2.lifeStep (.advance id dmOnline hdfInuse)
  | .offLine _ .waiting =>
    if s.metaDisable.get id = .finished then s.lifeStep (.advance id dmOnline hdfInuse) else s
  | .offLine _ .released =>
    if initialized then s.lifeStep (.advance id dmOnline hdfInuse)
    else
      let life := ({ s.life with releaseProcessMutex_ := none } : DeviceLife).setTask id .finished
      { s with notices := { s.notices with life := life } }
  | _ => s.lifeStep (.advance id dmOnline hdfInuse)

end OnlineTables

/-- A step, with what the code around it answers : whether `Init` succeeds, whether the executor
drops the task, and what `CheckExitSAOrNot` finds. -/
inductive OnlineStep
  | sendOnLineEvent (param : TaskParam) (deviceType : UInt16) (osType : Int)
    (initialized dropped : Bool)
  | sendOffLineEvent (param : TaskParam) (initialized dropped : Bool)
  | addIsomerismConnectDev (isomerismDeviceId : String)
  | delIsomerismConnectDev (isomerismDeviceId : String)
  | init (initialized : Bool)
  | checkExitSAOrNot (dmOnline hdfInuse initialized : Bool)
  | isDoubleFwkDevice (networkId : String)
  | createMetaDisableTask (id : ℕ) (dropped : Bool)
  | metaDisableTask (id : ℕ)
  | advance (id : ℕ) (dmOnline hdfInuse initialized : Bool)
  deriving DecidableEq, Repr

namespace OnlineTables

variable (s : OnlineTables)

/-- One step. -/
def step : OnlineStep → OnlineTables
  | .sendOnLineEvent param deviceType osType initialized dropped =>
    (s.sendOnLineEvent param deviceType osType initialized dropped).2
  | .sendOffLineEvent param initialized dropped =>
    (s.sendOffLineEvent param initialized dropped).2
  | .addIsomerismConnectDev isomerismDeviceId =>
    s.lifeStep (.addIsomerismConnectDev isomerismDeviceId)
  | .delIsomerismConnectDev isomerismDeviceId =>
    s.lifeStep (.delIsomerismConnectDev isomerismDeviceId)
  | .init initialized => if initialized then s.lifeStep .init else s
  | .checkExitSAOrNot dmOnline hdfInuse initialized =>
    if initialized then s.lifeStep (.checkExitSAOrNot dmOnline hdfInuse) else s
  | .isDoubleFwkDevice networkId => (s.isDoubleFwkDevice networkId).2
  | .createMetaDisableTask id dropped => s.createMetaDisableTask id dropped
  | .metaDisableTask id => s.metaDisableTask id
  | .advance id dmOnline hdfInuse initialized => s.advance id dmOnline hdfInuse initialized

/-- The networkIds of the online devices. -/
abbrev networkIds : Finset String :=
  s.life.context.realTimeOnLineNetworkIdSet_

/-- The tables agree with what was reported. -/
structure Agree : Prop where
  entries : ∀ networkId,
    (∃ e ∈ s.notices.entries, e.networkId = networkId) ↔ networkId ∈ s.networkIds
  types : ∀ networkId, s.getDeviceTypeByNetworkId networkId =
    if networkId ∈ s.networkIds then (s.reported.get networkId).1 else DEVICE_TYPE_UNKNOWN
  double : ∀ networkId, (s.isDoubleFwkDevice networkId).1 = true ↔
    networkId ∈ s.networkIds ∧ isDoubleFwk (s.reported.get networkId).2 = true

/-- The four tables are the same. -/
structure SameTables (t : OnlineTables) : Prop where
  entries : t.notices.entries = s.notices.entries
  networkIds : t.networkIds = s.networkIds
  types : t.onlineDevTypeMap_ = s.onlineDevTypeMap_
  osTypes : t.onlineDevOSTypeMap_ = s.onlineDevOSTypeMap_

/-- No types are known of the networkId. -/
structure Cleared (networkId : String) : Prop where
  type : s.getDeviceTypeByNetworkId networkId = DEVICE_TYPE_UNKNOWN
  double : (s.isDoubleFwkDevice networkId).1 = false

/-- A phone of double framework. -/
structure IsDoublePhone (networkId : String) : Prop where
  type : s.getDeviceTypeByNetworkId networkId = PHONE_TYPE
  double : (s.isDoubleFwkDevice networkId).1 = true

instance (networkId : String) : Decidable (s.Cleared networkId) :=
  decidable_of_iff (_ ∧ _) ⟨fun h => ⟨h.1, h.2⟩, fun h => ⟨h.type, h.double⟩⟩

instance (networkId : String) : Decidable (s.IsDoublePhone networkId) :=
  decidable_of_iff (_ ∧ _) ⟨fun h => ⟨h.1, h.2⟩, fun h => ⟨h.type, h.double⟩⟩

/-- A step that lets the tables agree. -/
def Tidy : OnlineStep → Prop
  -- `Init` succeeds, there is room, and nothing of the networkId is left but what is reported now
  | .sendOnLineEvent param deviceType osType initialized _ => s.life.acceptsOnLine param = true →
      (s.life.isInit_ = true ∨ initialized = true) ∧
      s.notices.entries.length ≤ MAX_ONLINE_DEVICE_SIZE ∧
      (∀ e ∈ s.notices.entries, e.networkId ≠ param.networkId) ∧
      s.life.removals param.networkId = 0 ∧
      (∀ type ∈ s.onlineDevTypeMap_.lookup param.networkId, type = deviceType) ∧
      ∀ type ∈ s.onlineDevOSTypeMap_.lookup param.networkId, isDoubleFwk type = isDoubleFwk osType
  -- the networkId is that of the device, the task is queued, and the types of the device go with
  -- it or are not known
  | .sendOffLineEvent param initialized dropped => s.life.acceptsOffLine param = true →
      s.life.isInit_ = true ∨ initialized = true →
      ∀ e ∈ s.notices.entries,
        (e.uuid = param.uuid →
          0 < s.life.removals e.networkId ∨ e.networkId = param.networkId ∧ dropped = false) ∧
        (e.networkId = param.networkId → s.life.removals param.networkId = 0 →
          e.uuid = param.uuid ∧ (s.IsDoublePhone param.networkId ∨ s.Cleared param.networkId))
  | _ => True

instance : ∀ l : OnlineStep, Decidable (s.Tidy l)
  | .sendOnLineEvent param deviceType osType .. =>
    -- At most one type is looked up, no need to go through all of them.
    have : Decidable (∀ type ∈ s.onlineDevTypeMap_.lookup param.networkId, type = deviceType) :=
      Option.decidableForallMem _
    have : Decidable (∀ type ∈ s.onlineDevOSTypeMap_.lookup param.networkId,
        isDoubleFwk type = isDoubleFwk osType) :=
      Option.decidableForallMem _
    inferInstanceAs (Decidable (_ → _ ∧ _ ∧ (∀ e ∈ _, _) ∧ _ ∧ (∀ type ∈ _, _) ∧ ∀ type ∈ _, _))
  | .sendOffLineEvent .. => inferInstanceAs (Decidable (_ → _ → ∀ e ∈ _, _ ∧ (_ → _ → _)))
  | .addIsomerismConnectDev .. | .delIsomerismConnectDev .. | .init .. | .checkExitSAOrNot ..
  | .isDoubleFwkDevice .. | .createMetaDisableTask .. | .metaDisableTask .. | .advance .. =>
    inferInstanceAs (Decidable True)

end OnlineTables

namespace OnlineTables

variable {s t : OnlineTables} {networkId : String} {id : ℕ}

/-! ## What one networkId has -/

/-- The `OFF_LINE` task waits to take out an entry of the networkId. -/
def Waits (s : OnlineTables) (id : ℕ) (networkId : String) : Prop :=
  (s.life.tasks.get id).removes networkId = true

theorem waits_iff : s.Waits id networkId ↔
    ∃ param, s.life.tasks.get id = .offLine param .waiting ∧ param.networkId = networkId := by
  unfold Waits
  constructor
  · intro h
    cases htask : s.life.tasks.get id with
    | finished => simp [htask, DeviceTask.removes] at h
    | onLine param => simp [htask, DeviceTask.removes] at h
    | offLine param phase =>
      cases phase with
      | waiting => exact ⟨param, rfl, by simpa [htask, DeviceTask.removes] using h⟩
      | removed | deserted | releasing | uninited | released =>
        simp [htask, DeviceTask.removes] at h
  · rintro ⟨param, htask, rfl⟩
    simp [htask, DeviceTask.removes]

theorem Waits.removals_pos (h : s.Waits id networkId) : 0 < s.life.removals networkId :=
  DeviceLife.taskCount_pos rfl h

/-- The types of a device that leaves : gone, still to be taken out by all that wait, or half
taken out by one that waits. -/
def Leaving (s : OnlineTables) (networkId : String) : Prop :=
  s.Cleared networkId ∨
    (s.IsDoublePhone networkId ∧ ∀ id, s.Waits id networkId →
      s.metaDisable.get id ≠ .typeDeleted ∧ s.metaDisable.get id ≠ .finished) ∨
    (s.getDeviceTypeByNetworkId networkId = DEVICE_TYPE_UNKNOWN ∧
      ∃ id, s.Waits id networkId ∧ s.metaDisable.get id = .typeDeleted)

/-- Where the types of a networkId are. -/
structure MatchedAt (s : OnlineTables) (networkId : String) : Prop where
  online : networkId ∈ s.networkIds ↔
    (∃ e ∈ s.notices.entries, e.networkId = networkId) ∧ s.life.removals networkId = 0
  present : networkId ∈ s.networkIds →
    s.getDeviceTypeByNetworkId networkId = (s.reported.get networkId).1 ∧
      (s.isDoubleFwkDevice networkId).1 = isDoubleFwk (s.reported.get networkId).2
  absent : networkId ∉ s.networkIds → s.life.removals networkId = 0 → s.Cleared networkId
  leaving : 0 < s.life.removals networkId → s.Leaving networkId

/-- What is looked at for one networkId is the same. -/
structure SameAt (s t : OnlineTables) (networkId : String) : Prop where
  networkIds : networkId ∈ t.networkIds ↔ networkId ∈ s.networkIds
  entries : (∃ e ∈ t.notices.entries, e.networkId = networkId) ↔
    ∃ e ∈ s.notices.entries, e.networkId = networkId
  removals : t.life.removals networkId = s.life.removals networkId
  waits : ∀ id, t.Waits id networkId ↔ s.Waits id networkId
  metaDisable : ∀ id, s.Waits id networkId → t.metaDisable.get id = s.metaDisable.get id
  type : t.getDeviceTypeByNetworkId networkId = s.getDeviceTypeByNetworkId networkId
  double : (t.isDoubleFwkDevice networkId).1 = (s.isDoubleFwkDevice networkId).1
  reported : t.reported.get networkId = s.reported.get networkId

theorem SameAt.cleared (h : SameAt s t networkId) (hs : s.Cleared networkId) :
    t.Cleared networkId :=
  ⟨h.type.trans hs.type, h.double.trans hs.double⟩

theorem SameAt.leaving (h : SameAt s t networkId) (hs : s.Leaving networkId) :
    t.Leaving networkId := by
  obtain hs | ⟨hphone, hall⟩ | ⟨htype, id, hid, hphase⟩ := hs
  · exact .inl (h.cleared hs)
  · refine .inr (.inl ⟨⟨h.type.trans hphone.type, h.double.trans hphone.double⟩, fun id hid => ?_⟩)
    have hid' := (h.waits id).1 hid
    rw [h.metaDisable id hid']
    exact hall id hid'
  · exact .inr (.inr ⟨h.type.trans htype, id, (h.waits id).2 hid,
      (h.metaDisable id hid).trans hphase⟩)

theorem MatchedAt.of_same (hs : s.MatchedAt networkId) (h : SameAt s t networkId) :
    t.MatchedAt networkId where
  online := by
    rw [h.networkIds, h.entries, h.removals]
    exact hs.online
  present hon := by
    rw [h.type, h.double, h.reported]
    exact hs.present (h.networkIds.1 hon)
  absent hoff hremovals :=
    h.cleared (hs.absent (mt h.networkIds.2 hoff) (h.removals.symm.trans hremovals))
  leaving hpos := h.leaving (hs.leaving (h.removals ▸ hpos))

/-- The tables and the tasks fit together. -/
structure Matched (s : OnlineTables) : Prop where
  known : s.notices.Known
  settled : s.notices.Settled
  fresh : ∀ id, s.life.nextTask ≤ id → s.metaDisable.get id = .toCreate
  networkId : ∀ networkId, s.MatchedAt networkId

/-- Once no task is left, the tables agree. -/
theorem Matched.agree (h : s.Matched) (hidle : s.life.Idle) : s.Agree := by
  have hremovals : ∀ networkId, s.life.removals networkId = 0 := fun networkId =>
    hidle.taskCount_eq_zero rfl
  refine ⟨fun n => ?_, fun n => ?_, fun n => ?_⟩
  · rw [(h.networkId n).online, and_iff_left (hremovals n)]
  · split_ifs with hon
    · exact ((h.networkId n).present hon).1
    · exact ((h.networkId n).absent hon (hremovals n)).type
  · by_cases hon : n ∈ s.networkIds
    · rw [((h.networkId n).present hon).2, and_iff_right hon]
    · rw [((h.networkId n).absent hon (hremovals n)).double]
      exact iff_of_false Bool.false_ne_true fun hand => hon hand.1

/-! ## The maps -/

theorem isDoubleFwkDevice_fst (s : OnlineTables) (networkId : String) :
    (s.isDoubleFwkDevice networkId).1 =
      (s.onlineDevOSTypeMap_.lookup networkId).any isDoubleFwk := by
  unfold isDoubleFwkDevice
  cases s.onlineDevOSTypeMap_.lookup networkId with
  | none => rfl
  | some osType => cases h : isDoubleFwk osType <;> simp [h]

theorem isDoubleFwkDevice_congr (h : t.onlineDevOSTypeMap_ = s.onlineDevOSTypeMap_)
    (networkId : String) :
    (t.isDoubleFwkDevice networkId).1 = (s.isDoubleFwkDevice networkId).1 := by
  rw [isDoubleFwkDevice_fst, isDoubleFwkDevice_fst, h]

/-- The question takes out nothing that answers it. -/
theorem isDoubleFwkDevice_snd (s : OnlineTables) (networkId : String) :
    (s.isDoubleFwkDevice networkId).2 = s ∨
      (s.onlineDevOSTypeMap_.lookup networkId).any isDoubleFwk = false ∧
        (s.isDoubleFwkDevice networkId).2 =
          { s with onlineDevOSTypeMap_ := s.onlineDevOSTypeMap_.remove networkId } := by
  unfold isDoubleFwkDevice
  cases s.onlineDevOSTypeMap_.lookup networkId with
  | none => exact .inl rfl
  | some osType =>
    cases h : isDoubleFwk osType with
    | false => exact .inr ⟨by simp [h], by simp [h]⟩
    | true => exact .inl (by simp [h])

theorem sameAt_isDoubleFwkDevice (s : OnlineTables) (n networkId : String) :
    SameAt s (s.isDoubleFwkDevice n).2 networkId := by
  obtain h | ⟨hnot, h⟩ := s.isDoubleFwkDevice_snd n
  · rw [h]
    exact ⟨Iff.rfl, Iff.rfl, rfl, fun _ => Iff.rfl, fun _ _ => rfl, rfl, rfl, rfl⟩
  · rw [h]
    refine ⟨Iff.rfl, Iff.rfl, rfl, fun _ => Iff.rfl, fun _ _ => rfl, rfl, ?_, rfl⟩
    rw [isDoubleFwkDevice_fst, isDoubleFwkDevice_fst, Table.lookup_remove]
    split_ifs with heq
    · rw [heq, hnot]
      rfl
    · rfl

theorem isDoubleFwkDevice_notices (s : OnlineTables) (n : String) :
    (s.isDoubleFwkDevice n).2.notices = s.notices ∧
      (s.isDoubleFwkDevice n).2.metaDisable = s.metaDisable ∧
      (s.isDoubleFwkDevice n).2.onlineDevTypeMap_ = s.onlineDevTypeMap_ := by
  obtain h | ⟨-, h⟩ := s.isDoubleFwkDevice_snd n <;> rw [h] <;> exact ⟨rfl, rfl, rfl⟩

theorem Matched.isDoubleFwkDevice (h : s.Matched) (n : String) :
    (s.isDoubleFwkDevice n).2.Matched := by
  obtain ⟨hnotices, hmeta, -⟩ := s.isDoubleFwkDevice_notices n
  refine ⟨hnotices ▸ h.known, hnotices ▸ h.settled, fun id hid => ?_, fun networkId =>
    (h.networkId networkId).of_same (s.sameAt_isDoubleFwkDevice n networkId)⟩
  rw [hmeta]
  exact h.fresh id (by rwa [life, hnotices] at hid)

/-! ## The tasks of a device that leaves -/

/-- A task that waits has been pushed. -/
theorem Matched.lt_nextTask (h : s.Matched) (hwaits : s.Waits id networkId) :
    id < s.life.nextTask := by
  by_contra hle
  obtain ⟨param, htask, -⟩ := waits_iff.1 hwaits
  have hfinished := h.known.fresh id (not_lt.1 hle)
  rw [htask] at hfinished
  cases hfinished

/-- One task has come further, and nothing else has changed for the other networkIds. -/
theorem Matched.setMetaDisable (h : s.Matched) (hwaits : s.Waits id networkId)
    {phase : MetaDisablePhase} (hnotices : t.notices = s.notices)
    (hmeta : t.metaDisable = s.metaDisable.set id phase) (hreported : t.reported = s.reported)
    (htype : ∀ n, n ≠ networkId → t.getDeviceTypeByNetworkId n = s.getDeviceTypeByNetworkId n)
    (hdouble : ∀ n, n ≠ networkId → (t.isDoubleFwkDevice n).1 = (s.isDoubleFwkDevice n).1)
    (hleaving : t.Leaving networkId) : t.Matched := by
  refine ⟨hnotices ▸ h.known, hnotices ▸ h.settled, fun id' hid' => ?_, fun n => ?_⟩
  · have hid : s.life.nextTask ≤ id' := by rwa [life, hnotices] at hid'
    rw [hmeta, Table.get_set_ne _ ((h.lt_nextTask hwaits).trans_le hid).ne']
    exact h.fresh id' hid
  by_cases hn : n = networkId
  · subst hn
    have hold := h.networkId n
    have hoff : n ∉ s.networkIds := fun hon => hwaits.removals_pos.ne' (hold.online.1 hon).2
    have hremovals : t.life.removals n = s.life.removals n := by rw [life, life, hnotices]
    have hoff' : n ∉ t.networkIds := by rwa [networkIds, life, hnotices]
    refine ⟨?_, fun hon => absurd hon hoff', fun _ hzero => ?_, fun _ => hleaving⟩
    · refine iff_of_false hoff' fun hand => hwaits.removals_pos.ne' ?_
      rw [← hremovals]
      exact hand.2
    · exact absurd (hremovals.symm.trans hzero) hwaits.removals_pos.ne'
  · refine (h.networkId n).of_same ⟨?_, ?_, ?_, fun id' => ?_, fun id' hid' => ?_, htype n hn,
      hdouble n hn, by rw [hreported]⟩
    · rw [networkIds, life, hnotices]
    · rw [hnotices]
    · rw [life, hnotices]
    · rw [Waits, life, hnotices]
      rfl
    · have hne : id' ≠ id := by
        rintro rfl
        obtain ⟨param, htask, hparam⟩ := waits_iff.1 hwaits
        obtain ⟨param', htask', hparam'⟩ := waits_iff.1 hid'
        rw [htask] at htask'
        cases htask'
        exact hn (hparam'.symm.trans hparam)
      rw [hmeta, Table.get_set_ne _ hne]

/-- The `META_DISABLE` task is made only for a device whose types it takes out. -/
theorem Leaving.create (h : s.Leaving networkId) (hcreate : s.metaDisable.get id = .toCreate)
    {phase : MetaDisablePhase}
    (hphase : s.IsDoublePhone networkId → phase ≠ .typeDeleted ∧ phase ≠ .finished) :
    (s.setMetaDisable id phase).Leaving networkId := by
  have hdouble : ((s.setMetaDisable id phase).isDoubleFwkDevice networkId).1 =
      (s.isDoubleFwkDevice networkId).1 := isDoubleFwkDevice_congr (by rfl) networkId
  obtain hcleared | ⟨hphone, hall⟩ | ⟨htype, id', hid', hdeleted⟩ := h
  · exact .inl ⟨hcleared.type, hdouble.trans hcleared.double⟩
  · refine .inr (.inl ⟨⟨hphone.type, hdouble.trans hphone.double⟩, fun id' hid' => ?_⟩)
    rw [OnlineTables.setMetaDisable, Table.get_set]
    split_ifs
    · exact hphase hphone
    · exact hall id' hid'
  · have hne : id' ≠ id := by
      rintro rfl
      rw [hcreate] at hdeleted
      cases hdeleted
    refine .inr (.inr ⟨htype, id', hid', ?_⟩)
    rw [OnlineTables.setMetaDisable, Table.get_set_ne _ hne]
    exact hdeleted

theorem Matched.createMetaDisableTask (h : s.Matched) (id : ℕ) (dropped : Bool) :
    (s.createMetaDisableTask id dropped).Matched := by
  unfold OnlineTables.createMetaDisableTask
  split
  · next param htask hcreate =>
    have hnotices := (s.isDoubleFwkDevice_notices param.networkId).1
    have hmeta := (s.isDoubleFwkDevice_notices param.networkId).2.1
    have hsame := s.sameAt_isDoubleFwkDevice param.networkId param.networkId
    have h' := h.isDoubleFwkDevice param.networkId
    obtain ⟨⟨double, s'⟩, hs'⟩ : ∃ r, s.isDoubleFwkDevice param.networkId = r := ⟨_, rfl⟩
    rw [hs'] at hnotices hmeta hsame h'
    have hdouble := hsame.double
    rw [hs'] at hdouble ⊢
    dsimp only at *
    have hwaits : s'.Waits id param.networkId :=
      waits_iff.2 ⟨param, by rw [life, hnotices]; exact htask, rfl⟩
    have hcreate' : s'.metaDisable.get id = .toCreate := hmeta ▸ hcreate
    have hleaving := (h'.networkId param.networkId).leaving hwaits.removals_pos
    have hset : ∀ phase, (s'.IsDoublePhone param.networkId →
        phase ≠ .typeDeleted ∧ phase ≠ .finished) → (s'.setMetaDisable id phase).Matched :=
      fun phase hphase => h'.setMetaDisable hwaits rfl rfl rfl (fun _ _ => rfl)
        (fun n _ => isDoubleFwkDevice_congr (by rfl) n) (hleaving.create hcreate' hphase)
    split_ifs with hnot htype hdropped
    · refine hset _ fun hphone => absurd hphone.double ?_
      rw [hdouble]
      simpa using hnot
    · exact hset _ fun hphone => absurd hphone.type htype
    · exact hset _ fun _ => ⟨nofun, nofun⟩
    · exact hset _ fun _ => ⟨nofun, nofun⟩
  · exact h

theorem getDeviceTypeByNetworkId_remove (s : OnlineTables) (n networkId : String) :
    ((s.onlineDevTypeMap_.remove n).lookup networkId).getD DEVICE_TYPE_UNKNOWN =
      if networkId = n then DEVICE_TYPE_UNKNOWN else s.getDeviceTypeByNetworkId networkId := by
  rw [Table.lookup_remove]
  split_ifs <;> rfl

theorem Matched.metaDisableTask (h : s.Matched) (id : ℕ) : (s.metaDisableTask id).Matched := by
  unfold OnlineTables.metaDisableTask
  split
  · next param htask hqueued =>
    -- the type is taken out
    have hwaits : s.Waits id param.networkId := waits_iff.2 ⟨param, htask, rfl⟩
    refine h.setMetaDisable hwaits rfl rfl rfl (fun n hn => ?_)
      (fun n _ => isDoubleFwkDevice_congr (by rfl) n) ?_
    · exact (s.getDeviceTypeByNetworkId_remove param.networkId n).trans (if_neg hn)
    have htype := (s.getDeviceTypeByNetworkId_remove param.networkId param.networkId).trans
      (if_pos rfl)
    have hself := Table.get_set_self s.metaDisable id MetaDisablePhase.typeDeleted
    obtain hcleared | hleaving := (h.networkId param.networkId).leaving hwaits.removals_pos
    · exact .inl ⟨htype, (isDoubleFwkDevice_congr (by rfl) _).trans hcleared.double⟩
    · exact .inr (.inr ⟨htype, id, hwaits, hself⟩)
  · next param htask hdeleted =>
    -- the OS type is taken out
    have hwaits : s.Waits id param.networkId := waits_iff.2 ⟨param, htask, rfl⟩
    refine h.setMetaDisable hwaits rfl rfl rfl (fun _ _ => rfl) (fun n hn => ?_) (.inl ⟨?_, ?_⟩)
    · rw [isDoubleFwkDevice_fst, isDoubleFwkDevice_fst]
      exact congrArg (Option.any isDoubleFwk) (Table.lookup_remove_ne _ hn)
    · obtain hcleared | ⟨-, hall⟩ | ⟨htype, -⟩ :=
        (h.networkId param.networkId).leaving hwaits.removals_pos
      · exact hcleared.type
      · exact absurd hdeleted (hall id hwaits).1
      · exact htype
    · rw [isDoubleFwkDevice_fst]
      exact congrArg (Option.any isDoubleFwk) (Table.lookup_remove_self _ _)
  · exact h

/-! ## Tasks that go on -/

/-- At most one task is written, and neither it nor what it was waits. -/
def KeepsWaiting (s t : DeviceLife) : Prop :=
  t.tasks = s.tasks ∨ ∃ id task, (∀ n, (s.tasks.get id).removes n = false) ∧
    (∀ n, task.removes n = false) ∧ t.tasks = s.tasks.set id task

theorem KeepsWaiting.removes {s t : DeviceLife} (h : KeepsWaiting s t) (id : ℕ) (n : String) :
    (t.tasks.get id).removes n = (s.tasks.get id).removes n := by
  obtain h | ⟨id', task, hold, hnew, h⟩ := h
  · rw [h]
  · rw [h, Table.get_set]
    split_ifs with heq
    · rw [heq, hold, hnew]
    · rfl

theorem KeepsWaiting.removals {s t : DeviceLife} (h : KeepsWaiting s t) (n : String) :
    t.removals n = s.removals n := by
  obtain h | ⟨id, task, hold, hnew, h⟩ := h
  · exact DeviceLife.taskCount_congr h
  · exact DeviceLife.taskCount_of_same rfl h ((hold n).trans (hnew n).symm)

/-- The factory and the tasks do a step that neither the tables nor the tasks that wait see. -/
theorem Matched.of_notices (h : s.Matched) {notices : Notices} (hknown : notices.Known)
    (hsame : Notices.Same s.notices notices)
    (hnetworkIds : notices.life.context.realTimeOnLineNetworkIdSet_ = s.networkIds)
    (hnext : notices.life.nextTask = s.life.nextTask)
    (htasks : KeepsWaiting s.life notices.life) :
    Matched { s with notices := notices } := by
  refine ⟨hknown, h.settled.of_same hsame, fun id hid => h.fresh id (hnext ▸ hid), fun n => ?_⟩
  refine (h.networkId n).of_same ⟨?_, ?_, hsame.removals n, fun id => ?_, fun _ _ => rfl, rfl,
    isDoubleFwkDevice_congr (by rfl) n, rfl⟩
  · show n ∈ notices.life.context.realTimeOnLineNetworkIdSet_ ↔ _
    rw [hnetworkIds]
  · show (∃ e ∈ notices.entries, _) ↔ _
    rw [hsame.entries]
  · show (notices.life.tasks.get id).removes n = true ↔ _
    rw [htasks.removes id n]
    rfl

/-- A task that does not wait goes on. -/
theorem Matched.advance_of_ne (h : s.Matched) {id : ℕ}
    (hne : ∀ param, s.life.tasks.get id ≠ .offLine param .waiting) (dmOnline hdfInuse : Bool) :
    (s.lifeStep (.advance id dmOnline hdfInuse)).Matched := by
  have hcontext := DeviceLife.advance_context s.life dmOnline hdfInuse hne
  obtain ⟨hnext, htasks⟩ := s.life.advance_tasks id dmOnline hdfInuse
  have hkeeps : KeepsWaiting s.life (s.life.advance id dmOnline hdfInuse) := by
    obtain htasks | ⟨-, task, htask, htasks⟩ := htasks
    · exact .inl htasks
    · exact .inr ⟨id, task, fun _ => DeviceTask.removes_of_ne hne,
        fun _ => DeviceTask.removes_of_ne htask, htasks⟩
  exact h.of_notices (h.known.step _)
    ⟨congrArg DHContext.devIdEntrySet_ hcontext, hkeeps.removals, rfl⟩
    (congrArg DHContext.realTimeOnLineNetworkIdSet_ hcontext) hnext hkeeps

/-- What an `OFF_LINE` task that takes out the entry makes of the networkIds, of the entries and of
the tasks that wait. -/
theorem removed_notices (h : s.notices.Known) (hsettled : s.notices.Settled) {param : TaskParam}
    (htask : s.life.tasks.get id = .offLine param .waiting) (dmOnline hdfInuse : Bool) :
    let t := s.lifeStep (.advance id dmOnline hdfInuse)
    t.life = s.life.offLineTask id param dmOnline hdfInuse .waiting ∧
      t.networkIds = s.networkIds ∧
      (∀ e, e ∈ t.notices.entries ↔ e ∈ s.notices.entries ∧ e.networkId ≠ param.networkId) ∧
      ∀ id' n, t.Waits id' n ↔ id' ≠ id ∧ s.Waits id' n := by
  intro t
  have hlife : t.life = s.life.offLineTask id param dmOnline hdfInuse .waiting := by
    show s.life.advance id dmOnline hdfInuse = _
    unfold DeviceLife.advance
    rw [htask]
  have htasks : t.life.tasks = s.life.tasks.set id (.offLine param .removed) :=
    congrArg DeviceLife.tasks hlife
  refine ⟨hlife, ?_, fun e => ?_, fun id' n => ?_⟩
  · rw [networkIds, hlife]
    exact DHContext.removeOnlineDeviceIdEntryByNetworkId_realTimeOnLineNetworkIdSet_
  · rw [← mem_eraseP_networkId hsettled.networkIds, ← h.remove param.networkId]
    rw [Notices.entries, show t.notices.life = _ from hlife]
    rfl
  · rw [Waits, htasks, Table.get_set]
    split_ifs with heq
    · simp [heq, DeviceTask.removes]
    · exact (and_iff_right heq).symm

/-- The types of the networkId are gone when its task takes out the entry, or another task is about
to take out the rest. -/
theorem Matched.left (h : s.Matched) {param : TaskParam}
    (htask : s.life.tasks.get id = .offLine param .waiting)
    (hfinished : s.metaDisable.get id = .finished) :
    s.Cleared param.networkId ∨
      s.getDeviceTypeByNetworkId param.networkId = DEVICE_TYPE_UNKNOWN ∧
        ∃ id', id' ≠ id ∧ s.Waits id' param.networkId ∧
          s.metaDisable.get id' = .typeDeleted := by
  have hself : s.Waits id param.networkId := waits_iff.2 ⟨param, htask, rfl⟩
  obtain hcleared | ⟨-, hall⟩ | ⟨htype, id', hid', hdeleted⟩ :=
    (h.networkId param.networkId).leaving hself.removals_pos
  · exact .inl hcleared
  · exact absurd hfinished (hall id hself).2
  · refine .inr ⟨htype, id', ?_, hid', hdeleted⟩
    rintro rfl
    rw [hfinished] at hdeleted
    cases hdeleted

/-- An `OFF_LINE` task whose child has finished takes out the entry. -/
theorem Matched.removed (h : s.Matched) {param : TaskParam}
    (htask : s.life.tasks.get id = .offLine param .waiting)
    (hfinished : s.metaDisable.get id = .finished) (dmOnline hdfInuse : Bool) :
    (s.lifeStep (.advance id dmOnline hdfInuse)).Matched := by
  obtain ⟨hlife, hnetworkIds, hentries, hwaits⟩ :=
    removed_notices h.known h.settled htask dmOnline hdfInuse
  obtain ⟨t, ht⟩ : ∃ t, t = s.lifeStep (.advance id dmOnline hdfInuse) := ⟨_, rfl⟩
  have hknown : t.notices.Known := ht ▸ h.known.step _
  have hsettled : t.notices.Settled := by
    rw [ht]
    exact (Notices.settled_step_iff _ h.known h.settled).2 trivial
  have hmeta : t.metaDisable = s.metaDisable := by rw [ht]; rfl
  have htypes : ∀ n, t.getDeviceTypeByNetworkId n = s.getDeviceTypeByNetworkId n := by
    intro n
    rw [ht]
    rfl
  have hdouble : ∀ n, (t.isDoubleFwkDevice n).1 = (s.isDoubleFwkDevice n).1 := fun n =>
    isDoubleFwkDevice_congr (by rw [ht]; rfl) n
  have hreported : t.reported = s.reported := by rw [ht]; rfl
  rw [← ht] at hlife hnetworkIds hentries hwaits ⊢
  have hself : s.Waits id param.networkId := waits_iff.2 ⟨param, htask, rfl⟩
  refine ⟨hknown, hsettled, fun id' hid' => ?_, fun n => ?_⟩
  · rw [hmeta]
    refine h.fresh id' ?_
    rwa [hlife] at hid'
  by_cases hn : n = param.networkId
  · subst hn
    have hoff : param.networkId ∉ t.networkIds := by
      rw [hnetworkIds]
      exact fun hon => hself.removals_pos.ne' ((h.networkId param.networkId).online.1 hon).2
    have hleft : t.Cleared param.networkId ∨
        t.getDeviceTypeByNetworkId param.networkId = DEVICE_TYPE_UNKNOWN ∧
          ∃ id', t.Waits id' param.networkId ∧ t.metaDisable.get id' = .typeDeleted := by
      obtain hcleared | ⟨htype, id', hne, hid', hdeleted⟩ := h.left htask hfinished
      · exact .inl ⟨(htypes _).trans hcleared.type, (hdouble _).trans hcleared.double⟩
      · exact .inr ⟨(htypes _).trans htype, id', (hwaits id' _).2 ⟨hne, hid'⟩, hmeta ▸ hdeleted⟩
    refine ⟨iff_of_false hoff ?_, fun hon => absurd hon hoff, fun _ hzero => ?_, fun _ => ?_⟩
    · rintro ⟨⟨e, he, heq⟩, -⟩
      exact ((hentries e).1 he).2 heq
    · obtain hcleared | ⟨-, id', hid', -⟩ := hleft
      · exact hcleared
      · exact absurd hzero hid'.removals_pos.ne'
    · exact hleft.imp (fun h => h) .inr
  · refine (h.networkId n).of_same ⟨?_, ?_, ?_, fun id' => ?_, fun id' _ => ?_, htypes n, hdouble n,
      by rw [hreported]⟩
    · rw [hnetworkIds]
    · constructor
      · rintro ⟨e, he, heq⟩
        exact ⟨e, ((hentries e).1 he).1, heq⟩
      · rintro ⟨e, he, heq⟩
        exact ⟨e, (hentries e).2 ⟨he, fun hsame => hn (heq.symm.trans hsame)⟩, heq⟩
    · refine DeviceLife.taskCount_of_same rfl (congrArg DeviceLife.tasks hlife) ?_
      rw [htask]
      exact decide_eq_false fun heq => hn heq.symm
    · rw [hwaits]
      refine and_iff_right_of_imp fun hid' => ?_
      rintro rfl
      obtain ⟨param', htask', hparam'⟩ := waits_iff.1 hid'
      rw [htask] at htask'
      cases htask'
      exact hn hparam'.symm
    · rw [hmeta]

theorem Matched.advance (h : s.Matched) (id : ℕ) (dmOnline hdfInuse initialized : Bool) :
    (s.advance id dmOnline hdfInuse initialized).Matched := by
  unfold OnlineTables.advance
  split
  · next param htask =>
    have hnotices := (s.isDoubleFwkDevice_notices param.networkId).1
    refine (h.isDoubleFwkDevice param.networkId).advance_of_ne (fun param' heq => ?_) _ _
    rw [life, hnotices] at heq
    rw [htask] at heq
    cases heq
  · next param htask =>
    split_ifs with hfinished
    · exact h.removed htask hfinished _ _
    · exact h
  · next param htask =>
    have hne : ∀ param', s.life.tasks.get id ≠ .offLine param' .waiting := by
      intro param' heq
      rw [htask] at heq
      cases heq
    split_ifs with hinit
    · exact h.advance_of_ne hne _ _
    · -- `Init` fails at the end of `UnInit`
      have hkeeps : KeepsWaiting s.life
          (({ s.life with releaseProcessMutex_ := none } : DeviceLife).setTask id .finished) :=
        .inr ⟨id, .finished, fun _ => DeviceTask.removes_of_ne hne, fun _ => rfl, rfl⟩
      refine h.of_notices ⟨fun id' hid' => ?_, h.known.uuids, h.known.valid⟩
        ⟨rfl, hkeeps.removals, rfl⟩ rfl rfl hkeeps
      rw [DeviceLife.setTask, Table.get_set]
      split_ifs
      · rfl
      · exact h.known.fresh id' hid'
  · next hwaiting _ => exact h.advance_of_ne hwaiting _ _

/-! ## Notifications -/

theorem Cleared.of_types (h : s.Cleared networkId)
    (htypes : t.onlineDevTypeMap_ = s.onlineDevTypeMap_)
    (hosTypes : t.onlineDevOSTypeMap_ = s.onlineDevOSTypeMap_) : t.Cleared networkId := by
  refine ⟨?_, (isDoubleFwkDevice_congr hosTypes _).trans h.double⟩
  rw [getDeviceTypeByNetworkId, htypes]
  exact h.type

theorem IsDoublePhone.of_types (h : s.IsDoublePhone networkId)
    (htypes : t.onlineDevTypeMap_ = s.onlineDevTypeMap_)
    (hosTypes : t.onlineDevOSTypeMap_ = s.onlineDevOSTypeMap_) : t.IsDoublePhone networkId := by
  refine ⟨?_, (isDoubleFwkDevice_congr hosTypes _).trans h.double⟩
  rw [getDeviceTypeByNetworkId, htypes]
  exact h.type

variable {param : TaskParam} {deviceType : UInt16} {osType : Int} {initialized dropped : Bool}

theorem sendOnLineEvent_of_not_accepts (ha : s.life.acceptsOnLine param = false) :
    (s.sendOnLineEvent param deviceType osType initialized dropped).1 ≠ DH_FWK_SUCCESS ∧
      (s.sendOnLineEvent param deviceType osType initialized dropped).2 = s := by
  unfold sendOnLineEvent
  split_ifs with hv hf ho
  · exact ⟨by simp, rfl⟩
  · exact ⟨by simp, rfl⟩
  · exact ⟨by simp, rfl⟩
  · simp_all [DeviceLife.acceptsOnLine]

theorem sendOnLineEvent_of_accepts (ha : s.life.acceptsOnLine param = true)
    (hinit : s.life.isInit_ = true ∨ initialized = true) :
    s.sendOnLineEvent param deviceType osType initialized dropped = (DH_FWK_SUCCESS,
      { s with
        notices := s.notices.step (.sendOnLineEvent param dropped)
        onlineDevTypeMap_ := s.onlineDevTypeMap_.addNew param.networkId deviceType
        onlineDevOSTypeMap_ := s.onlineDevOSTypeMap_.addNew param.networkId osType
        reported := s.reported.set param.networkId (deviceType, osType) }) := by
  obtain ⟨hv, hf, ho⟩ := DeviceLife.acceptsOnLine_iff.1 ha
  have hready : (!s.life.isInit_ && !initialized) = false := by
    obtain h | h := hinit <;> simp [h]
  simp only [sendOnLineEvent, hv, hf, ho, Bool.not_true, Bool.false_eq_true, if_false]
  rw [if_neg (by rw [hready]; exact Bool.false_ne_true)]

/-- What an accepted online notification makes of the networkIds and of the tasks. -/
theorem onLine_notices (h : s.notices.Known) (ha : s.life.acceptsOnLine param = true)
    (dropped : Bool) :
    let notices := s.notices.step (.sendOnLineEvent param dropped)
    notices.life.context.realTimeOnLineNetworkIdSet_ = insert param.networkId s.networkIds ∧
      s.life.nextTask ≤ notices.life.nextTask ∧ KeepsWaiting s.life notices.life := by
  intro notices
  have hlife : notices.life = ({ s.life with context := s.life.onLineContext param } :
      DeviceLife).ensureInit.pushTask (.onLine param) dropped :=
    congrArg Prod.snd (DeviceLife.sendOnLineEvent_of_accepts ha dropped)
  rw [hlife]
  refine ⟨?_, ?_, ?_⟩
  · rw [DeviceLife.pushTask_context, DeviceLife.ensureInit_context]
    exact congrArg (insert param.networkId)
      DHContext.addOnlineDevice_realTimeOnLineNetworkIdSet_
  · refine le_trans (le_of_eq ?_) (DeviceLife.le_nextTask_pushTask _)
    rw [DeviceLife.ensureInit_nextTask]
  cases dropped with
  | true => exact .inl DeviceLife.ensureInit_tasks
  | false =>
    refine .inr ⟨s.life.nextTask, .onLine param, fun _ => ?_, fun _ => rfl, ?_⟩
    · rw [h.fresh _ le_rfl]
      rfl
    · simp [DeviceLife.pushTask]

theorem Matched.sendOnLineEvent (h : s.Matched)
    (htidy : s.Tidy (.sendOnLineEvent param deviceType osType initialized dropped)) :
    (s.sendOnLineEvent param deviceType osType initialized dropped).2.Matched := by
  cases ha : s.life.acceptsOnLine param with
  | false => rwa [(sendOnLineEvent_of_not_accepts ha).2]
  | true =>
    obtain ⟨hinit, hroom, hnet, hzero, htype, hostype⟩ := htidy ha
    rw [sendOnLineEvent_of_accepts ha hinit]
    obtain ⟨-, hremovals, -⟩ := Notices.step_onLine ha h.known.fresh dropped
    have hperm := Notices.entries_onLine ha h.known.fresh dropped hroom
    obtain ⟨hnetworkIds, hnext, hkeeps⟩ := onLine_notices h.known ha dropped
    have hknown := h.known.step (.sendOnLineEvent param dropped)
    have hsettled : (s.notices.step (.sendOnLineEvent param dropped)).Settled :=
      (Notices.settled_step_iff _ h.known h.settled).2 fun _ => ⟨hroom, hnet, hzero⟩
    obtain ⟨notices, hn⟩ : ∃ n, n = s.notices.step (.sendOnLineEvent param dropped) := ⟨_, rfl⟩
    rw [← hn] at hremovals hperm hnetworkIds hnext hkeeps hknown hsettled ⊢
    refine ⟨hknown, hsettled, fun id hid => h.fresh id (hnext.trans hid), fun n => ?_⟩
    by_cases heq : n = param.networkId
    · subst heq
      have hon : param.networkId ∈ notices.life.context.realTimeOnLineNetworkIdSet_ := by
        rw [hnetworkIds]
        exact Finset.mem_insert_self _ _
      have hzero' := (hremovals param.networkId).trans hzero
      refine ⟨iff_of_true hon ⟨⟨_, hperm.mem_iff.2 List.mem_cons_self, rfl⟩, hzero'⟩,
        fun _ => ⟨?_, ?_⟩, fun hoff => absurd hon hoff, fun hpos => absurd hzero' hpos.ne'⟩
      · show ((s.onlineDevTypeMap_.addNew _ _).lookup _).getD _ = ((s.reported.set _ _).get _).1
        rw [Table.lookup_addNew_self, Table.get_set_self]
        cases hlookup : s.onlineDevTypeMap_.lookup param.networkId with
        | none => rfl
        | some type => exact htype type hlookup
      · rw [isDoubleFwkDevice_fst]
        show ((s.onlineDevOSTypeMap_.addNew _ _).lookup _).any _ =
          isDoubleFwk ((s.reported.set _ _).get _).2
        rw [Table.lookup_addNew_self, Table.get_set_self]
        cases hlookup : s.onlineDevOSTypeMap_.lookup param.networkId with
        | none => rfl
        | some type => exact hostype type hlookup
    · refine (h.networkId n).of_same ⟨?_, ?_, hremovals n, fun id => ?_, fun _ _ => rfl, ?_, ?_,
        ?_⟩
      · show n ∈ notices.life.context.realTimeOnLineNetworkIdSet_ ↔ _
        rw [hnetworkIds, Finset.mem_insert, or_iff_right heq]
      · constructor
        · rintro ⟨e, he, rfl⟩
          obtain rfl | he := List.mem_cons.1 (hperm.mem_iff.1 he)
          · exact absurd rfl heq
          · exact ⟨e, he, rfl⟩
        · rintro ⟨e, he, hen⟩
          exact ⟨e, hperm.mem_iff.2 (List.mem_cons_of_mem _ he), hen⟩
      · show (notices.life.tasks.get id).removes n = true ↔ _
        rw [hkeeps.removes id n]
        rfl
      · exact congrArg (Option.getD · DEVICE_TYPE_UNKNOWN) (Table.lookup_addNew_ne _ heq _)
      · rw [isDoubleFwkDevice_fst, isDoubleFwkDevice_fst]
        exact congrArg (Option.any isDoubleFwk) (Table.lookup_addNew_ne _ heq _)
      · exact Table.get_set_ne _ heq _

/-- What an accepted offline notification makes of the networkIds and of the tasks that wait. -/
theorem offLine_notices (h : s.notices.Known) (ha : s.life.acceptsOffLine param = true)
    (dropped : Bool) :
    let notices := s.notices.step (.sendOffLineEvent param dropped)
    notices.life.context.realTimeOnLineNetworkIdSet_ = s.networkIds.erase param.networkId ∧
      s.life.nextTask ≤ notices.life.nextTask ∧
      ∀ id n, (notices.life.tasks.get id).removes n = true ↔
        s.Waits id n ∨ dropped = false ∧ id = s.life.nextTask ∧ param.networkId = n := by
  intro notices
  have hlife : notices.life = (s.life.goOffLine param).pushTask (.offLine param .waiting) dropped :=
    congrArg Prod.snd (DeviceLife.sendOffLineEvent_of_accepts ha dropped)
  rw [hlife]
  refine ⟨?_, ?_, fun id n => ?_⟩
  · rw [DeviceLife.pushTask_context]
    rfl
  · refine le_trans (le_of_eq ?_) (DeviceLife.le_nextTask_pushTask _)
    exact DeviceLife.ensureInit_nextTask.symm
  cases dropped with
  | true => simp [DeviceLife.pushTask, DeviceLife.goOffLine, Waits]
  | false =>
    have htasks : ((s.life.goOffLine param).pushTask (.offLine param .waiting) false).tasks =
        s.life.tasks.set s.life.nextTask (.offLine param .waiting) := by
      simp [DeviceLife.pushTask, DeviceLife.goOffLine]
    rw [htasks, Table.get_set]
    split_ifs with hid
    · have hfinished := h.fresh s.life.nextTask le_rfl
      simp [hid, Waits, hfinished, DeviceTask.removes]
    · simp [hid, Waits]

/-- An entry of a networkId that goes off line, and that no task waits to take out, is that of
the device : its task is queued, and its types go with it or are not known. -/
theorem entry_of_tidy (ha : s.life.acceptsOffLine param = true)
    (htidy : s.Tidy (.sendOffLineEvent param initialized dropped))
    (hinit : s.life.isInit_ = true ∨ initialized = true)
    (hzero : s.life.removals param.networkId = 0) {e : DeviceIdEntry}
    (he : e ∈ s.notices.entries) (hen : e.networkId = param.networkId) :
    dropped = false ∧ (s.IsDoublePhone param.networkId ∨ s.Cleared param.networkId) := by
  obtain ⟨huuid, htypes⟩ := (htidy ha hinit e he).2 hen hzero
  obtain hpos | ⟨-, hqueued⟩ := (htidy ha hinit e he).1 huuid
  · rw [hen, hzero] at hpos
    cases hpos
  · exact ⟨hqueued, htypes⟩

/-- The types of the networkId that goes off line leave. -/
theorem Matched.leaving (h : s.Matched) (ha : s.life.acceptsOffLine param = true)
    (htidy : s.Tidy (.sendOffLineEvent param initialized dropped))
    (hinit : s.life.isInit_ = true ∨ initialized = true) :
    Leaving { s with notices := s.notices.step (.sendOffLineEvent param dropped) }
      param.networkId := by
  have hold := h.networkId param.networkId
  obtain ⟨-, -, hwaits⟩ := offLine_notices h.known ha dropped
  have hnew : s.metaDisable.get s.life.nextTask = .toCreate := h.fresh _ le_rfl
  rcases Nat.eq_zero_or_pos (s.life.removals param.networkId) with hnone | hsome
  · -- the first task that waits for the networkId
    have htypes : s.IsDoublePhone param.networkId ∨ s.Cleared param.networkId := by
      by_cases hon : param.networkId ∈ s.networkIds
      · obtain ⟨⟨e, he, hen⟩, -⟩ := hold.online.1 hon
        exact (entry_of_tidy ha htidy hinit hnone he hen).2
      · exact .inr (hold.absent hon hnone)
    obtain hphone | hcleared := htypes
    · refine .inr (.inl ⟨hphone.of_types rfl rfl, fun id hid => ?_⟩)
      obtain hid | ⟨-, rfl, -⟩ := (hwaits id param.networkId).1 hid
      · exact absurd hnone hid.removals_pos.ne'
      · show s.metaDisable.get _ ≠ _ ∧ s.metaDisable.get _ ≠ _
        rw [hnew]
        exact ⟨by decide, by decide⟩
    · exact .inl (hcleared.of_types rfl rfl)
  · obtain hcleared | ⟨hphone, hall⟩ | ⟨htype, id, hid, hdeleted⟩ := hold.leaving hsome
    · exact .inl (hcleared.of_types rfl rfl)
    · refine .inr (.inl ⟨hphone.of_types rfl rfl, fun id hid => ?_⟩)
      obtain hid | ⟨-, rfl, -⟩ := (hwaits id param.networkId).1 hid
      · exact hall id hid
      · show s.metaDisable.get _ ≠ _ ∧ s.metaDisable.get _ ≠ _
        rw [hnew]
        exact ⟨by decide, by decide⟩
    · exact .inr (.inr ⟨htype, id, (hwaits id _).2 (.inl hid), hdeleted⟩)

/-- The networkId that goes off line is not among the networkIds, and its entry stays until a task
takes it out. -/
theorem Matched.matchedAt_offLine (h : s.Matched) (ha : s.life.acceptsOffLine param = true)
    (htidy : s.Tidy (.sendOffLineEvent param initialized dropped))
    (hinit : s.life.isInit_ = true ∨ initialized = true) :
    MatchedAt { s with notices := s.notices.step (.sendOffLineEvent param dropped) }
      param.networkId := by
  have hold := h.networkId param.networkId
  obtain ⟨hentries, hremovals, -⟩ := Notices.step_offLine ha h.known.fresh dropped
  obtain ⟨hnetworkIds, -, -⟩ := offLine_notices h.known ha dropped
  have hleaving := h.leaving ha htidy hinit
  have hremovals' := hremovals param.networkId
  obtain ⟨notices, hn⟩ : ∃ n, n = s.notices.step (.sendOffLineEvent param dropped) := ⟨_, rfl⟩
  rw [← hn] at hentries hremovals' hnetworkIds hleaving ⊢
  have hoff : param.networkId ∉ notices.life.context.realTimeOnLineNetworkIdSet_ := by
    rw [hnetworkIds]
    exact Finset.notMem_erase _ _
  have hcount : notices.life.removals param.networkId =
      s.life.removals param.networkId + if dropped = false then 1 else 0 := by
    rw [hremovals']
    simp
  refine ⟨iff_of_false hoff ?_, fun hon => absurd hon hoff, fun _ hzero => ?_, fun _ => hleaving⟩
  · rintro ⟨⟨e, he, hen⟩, hzero⟩
    have hzero' : notices.life.removals param.networkId = 0 := hzero
    rw [hcount] at hzero'
    have hqueued := (entry_of_tidy ha htidy hinit (by omega) (hentries ▸ he) hen).1
    rw [if_pos hqueued] at hzero'
    omega
  · have hzero' : notices.life.removals param.networkId = 0 := hzero
    rw [hcount] at hzero'
    have hnone : s.life.removals param.networkId = 0 := by omega
    refine (hold.absent (fun hon => ?_) hnone).of_types rfl rfl
    obtain ⟨⟨e, he, hen⟩, -⟩ := hold.online.1 hon
    rw [if_pos (entry_of_tidy ha htidy hinit hnone he hen).1] at hzero'
    omega

/-- An accepted offline notification, whose task is queued or dropped. -/
theorem Matched.goesOffLine (h : s.Matched) (ha : s.life.acceptsOffLine param = true)
    (htidy : s.Tidy (.sendOffLineEvent param initialized dropped))
    (hinit : s.life.isInit_ = true ∨ initialized = true) :
    Matched { s with notices := s.notices.step (.sendOffLineEvent param dropped) } := by
  obtain ⟨hentries, hremovals, -⟩ := Notices.step_offLine ha h.known.fresh dropped
  obtain ⟨hnetworkIds, hnext, hwaits⟩ := offLine_notices h.known ha dropped
  have hself := h.matchedAt_offLine ha htidy hinit
  have hsettled : (s.notices.step (.sendOffLineEvent param dropped)).Settled := by
    refine (Notices.settled_step_iff _ h.known h.settled).2 fun _ e he =>
      ⟨(htidy ha hinit e he).1, fun hen => ?_⟩
    rcases Nat.eq_zero_or_pos (s.life.removals param.networkId) with hzero | hpos
    · exact .inl ((htidy ha hinit e he).2 hen hzero).1
    · exact .inr (.inr hpos)
  have hknown := h.known.step (.sendOffLineEvent param dropped)
  obtain ⟨notices, hn⟩ : ∃ n, n = s.notices.step (.sendOffLineEvent param dropped) := ⟨_, rfl⟩
  rw [← hn] at hentries hremovals hnetworkIds hnext hwaits hself hsettled hknown ⊢
  refine ⟨hknown, hsettled, fun id hid => h.fresh id (hnext.trans hid), fun n => ?_⟩
  by_cases heq : n = param.networkId
  · exact heq ▸ hself
  · refine (h.networkId n).of_same ⟨?_, ?_, ?_, fun id => ?_, fun _ _ => rfl, rfl,
      isDoubleFwkDevice_congr (by rfl) n, rfl⟩
    · show n ∈ notices.life.context.realTimeOnLineNetworkIdSet_ ↔ _
      rw [hnetworkIds, Finset.mem_erase, and_iff_right heq]
    · show (∃ e ∈ notices.entries, _) ↔ _
      rw [hentries]
    · show notices.life.removals n = _
      rw [hremovals, if_neg fun hand => heq hand.2.symm, Nat.add_zero]
    · refine (hwaits id n).trans (or_iff_left ?_)
      rintro ⟨-, -, rfl⟩
      exact heq rfl

theorem Matched.sendOffLineEvent (h : s.Matched)
    (htidy : s.Tidy (.sendOffLineEvent param initialized dropped)) :
    (s.sendOffLineEvent param initialized dropped).2.Matched := by
  unfold OnlineTables.sendOffLineEvent
  split_ifs with hv hinit
  · exact h
  · exact h
  cases ha : s.life.acceptsOffLine param with
  | true =>
    refine h.goesOffLine ha htidy ?_
    cases hflag : s.life.isInit_ with
    | true => exact .inl rfl
    | false => exact .inr (by simpa [hflag] using hinit)
  | false =>
    obtain ⟨hret, hlife⟩ := DeviceLife.sendOffLineEvent_of_not_accepts ha dropped
    have hsame : (s.life.sendOffLineEvent param dropped).2.context = s.life.context ∧
        (s.life.sendOffLineEvent param dropped).2.tasks = s.life.tasks ∧
        (s.life.sendOffLineEvent param dropped).2.nextTask = s.life.nextTask := by
      obtain hlife | hlife := hlife <;> rw [hlife] <;> simp
    obtain ⟨hcontext, htasks, hnext⟩ := hsame
    exact h.of_notices (h.known.step _)
      ⟨congrArg DHContext.devIdEntrySet_ hcontext, fun _ => DeviceLife.taskCount_congr htasks,
        if_neg hret⟩
      (congrArg DHContext.realTimeOnLineNetworkIdSet_ hcontext) hnext (.inl htasks)

/-- An online notification that is refused leaves the tables. -/
theorem sameTables_of_refused
    (htidy : s.Tidy (.sendOnLineEvent param deviceType osType initialized dropped))
    (hret : (s.sendOnLineEvent param deviceType osType initialized dropped).1 ≠ DH_FWK_SUCCESS) :
    s.SameTables (s.sendOnLineEvent param deviceType osType initialized dropped).2 := by
  cases ha : s.life.acceptsOnLine param with
  | false =>
    rw [(sendOnLineEvent_of_not_accepts ha).2]
    exact ⟨rfl, rfl, rfl, rfl⟩
  | true => exact absurd (congrArg Prod.fst (sendOnLineEvent_of_accepts ha (htidy ha).1)) hret

/-! ## Runs -/

/-- A step that is tidy keeps the tables and the tasks fitting together. -/
theorem Matched.step (h : s.Matched) (l : OnlineStep) (htidy : s.Tidy l) : (s.step l).Matched := by
  cases l with
  | sendOnLineEvent param deviceType osType initialized dropped => exact h.sendOnLineEvent htidy
  | sendOffLineEvent param initialized dropped => exact h.sendOffLineEvent htidy
  | addIsomerismConnectDev isomerismDeviceId =>
    exact h.of_notices (h.known.step (.addIsomerismConnectDev isomerismDeviceId))
      ⟨DHContext.addIsomerismConnectDev_devIdEntrySet_, fun _ => rfl, rfl⟩
      DHContext.addIsomerismConnectDev_realTimeOnLineNetworkIdSet_ rfl (.inl rfl)
  | delIsomerismConnectDev isomerismDeviceId =>
    exact h.of_notices (h.known.step (.delIsomerismConnectDev isomerismDeviceId))
      ⟨DHContext.delIsomerismConnectDev_devIdEntrySet_, fun _ => rfl, rfl⟩
      DHContext.delIsomerismConnectDev_realTimeOnLineNetworkIdSet_ rfl (.inl rfl)
  | init initialized =>
    cases initialized with
    | false => exact h
    | true => exact h.of_notices (h.known.step .init) ⟨rfl, fun _ => rfl, rfl⟩ rfl rfl (.inl rfl)
  | checkExitSAOrNot dmOnline hdfInuse initialized =>
    cases initialized with
    | false => exact h
    | true =>
      have hcontext := s.life.checkExitSAOrNot_context dmOnline hdfInuse
      have htasks := s.life.checkExitSAOrNot_tasks dmOnline hdfInuse
      exact h.of_notices (h.known.step (.checkExitSAOrNot dmOnline hdfInuse))
        ⟨congrArg DHContext.devIdEntrySet_ hcontext, fun _ => DeviceLife.taskCount_congr htasks,
          rfl⟩
        (congrArg DHContext.realTimeOnLineNetworkIdSet_ hcontext)
        (s.life.checkExitSAOrNot_nextTask dmOnline hdfInuse) (.inl htasks)
  | isDoubleFwkDevice networkId => exact h.isDoubleFwkDevice networkId
  | createMetaDisableTask id dropped => exact h.createMetaDisableTask id dropped
  | metaDisableTask id => exact h.metaDisableTask id
  | advance id dmOnline hdfInuse initialized => exact h.advance id dmOnline hdfInuse initialized

theorem matched_init : Matched {} := by
  refine ⟨Notices.Known.init, Notices.Settled.init, fun _ _ => rfl, fun n => ?_⟩
  have hidle : ({} : OnlineTables).life.Idle := by decide
  have hzero : ({} : OnlineTables).life.removals n = 0 := hidle.taskCount_eq_zero rfl
  refine ⟨iff_of_false (Finset.notMem_empty n) ?_, fun hon => absurd hon (Finset.notMem_empty n),
    fun _ _ => ⟨rfl, rfl⟩, fun hpos => absurd hzero hpos.ne'⟩
  rintro ⟨⟨e, he, -⟩, -⟩
  cases he

end OnlineTables

/-- In a run whose steps are all tidy, the tables agree in every state in which no task is left,
and an online notification that is refused leaves them. -/
theorem online_tables_agree (ls : List OnlineStep)
    (h : Along OnlineTables.step OnlineTables.Tidy {} ls) :
    (∀ pre post, ls = pre ++ post → (pre.foldl OnlineTables.step {}).life.Idle →
      (pre.foldl OnlineTables.step {}).Agree) ∧
    ∀ pre param deviceType osType initialized dropped post,
      ls = pre ++ .sendOnLineEvent param deviceType osType initialized dropped :: post →
      ((pre.foldl OnlineTables.step {}).sendOnLineEvent param deviceType osType initialized
        dropped).1 ≠ DH_FWK_SUCCESS →
      (pre.foldl OnlineTables.step {}).SameTables
        ((pre.foldl OnlineTables.step {}).sendOnLineEvent param deviceType osType initialized
          dropped).2 := by
  have hstep : ∀ (s : OnlineTables) (l : OnlineStep), s.Matched → s.Tidy l → (s.step l).Matched :=
    fun _ l hs htidy => hs.step l htidy
  refine ⟨fun pre post hls hidle => ?_, fun pre param deviceType osType initialized dropped post
    hls hret => ?_⟩
  · subst hls
    exact (Along.invariant hstep OnlineTables.matched_init h.of_append.1).agree hidle
  · subst hls
    exact OnlineTables.sameTables_of_refused h.of_append.2.1 hret

/-- A phone of double framework comes online, is told to be online again, goes offline, and comes
back. -/
def phoneComesBack : List OnlineStep :=
  [.sendOnLineEvent ⟨"n", "u", "d"⟩ PHONE_TYPE OLD_HO_DEVICE_TYPE true false,
    .sendOnLineEvent ⟨"n", "u", "d"⟩ PHONE_TYPE OLD_HO_DEVICE_TYPE true false,
    .advance 0 true false true, .sendOffLineEvent ⟨"n", "u", "d"⟩ true false,
    .createMetaDisableTask 1 false, .metaDisableTask 1, .metaDisableTask 1,
    .advance 1 true false true, .advance 1 true false true, .advance 1 true false true,
    .advance 1 true false true, .advance 1 true false true, .advance 1 true false true,
    .sendOnLineEvent ⟨"n", "u", "d"⟩ PHONE_TYPE NEW_HO_DEVICE_TYPE true false,
    .advance 2 true false true]

theorem online_tables_agree_phone :
    Along OnlineTables.step OnlineTables.Tidy {} phoneComesBack ∧
      (phoneComesBack.foldl OnlineTables.step {}).Agree ∧
      ((phoneComesBack.take 1).foldl OnlineTables.step {}).SameTables
        ((phoneComesBack.take 1).foldl OnlineTables.step {}
          |>.sendOnLineEvent ⟨"n", "u", "d"⟩ PHONE_TYPE OLD_HO_DEVICE_TYPE true false).2 :=
  have htidy : Along OnlineTables.step OnlineTables.Tidy {} phoneComesBack := by decide
  ⟨htidy, (online_tables_agree phoneComesBack htidy).1 phoneComesBack [] rfl (by decide),
    (online_tables_agree phoneComesBack htidy).2 (phoneComesBack.take 1) _ _ _ _ _ _ rfl
      (by decide)⟩

/-- A tablet comes online and goes offline. -/
def tabletLeaves : List OnlineStep :=
  [.sendOnLineEvent ⟨"n", "u", "d"⟩ 17 10 true false, .advance 0 true false true,
    .sendOffLineEvent ⟨"n", "u", "d"⟩ true false, .createMetaDisableTask 1 false,
    .advance 1 true false true, .advance 1 true false true, .advance 1 true false true,
    .advance 1 true false true, .advance 1 true false true, .advance 1 true false true]

/-- No task makes the type of a tablet go. -/
theorem tablet_type_stays :
    ¬ ∀ ls : List OnlineStep, (ls.foldl OnlineTables.step {}).life.Idle →
      (ls.foldl OnlineTables.step {}).Agree := by
  intro h
  have hold := (h tabletLeaves (by decide)).types "n"
  revert hold
  decide

end DHFwk
