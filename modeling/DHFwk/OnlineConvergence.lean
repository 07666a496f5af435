import DHFwk.DeviceLife
import DHFwk.Runs

/-!
# Online devices follow the notifications

`Notices` is `DeviceLife` with the last notification accepted for each device. Once no task
is left a device should be online exactly if that was an online one.

An `OFF_LINE` task takes out of `DHContext` whatever entry its networkId names when it stops
waiting. `Settled` says what the state has to keep for this to be right : an entry is waited
for (`removals`) exactly if the last notification accepted for its device was an offline one.
A step keeps it exactly if it is `Undisturbed` (`settled_step_iff`), so a run whose steps
all are ends with the right devices online (`online_converges`). A device that goes offline
twice while its task waits and comes back after the first removal is taken out by the second
(`online_again_undone`).
-/

set_option linter.unusedSectionVars false

namespace DHFwk

open Runs

/-! ## Entries -/

/-- The task will take an entry of this networkId out of `DHContext`. -/
def DeviceTask.removes (networkId : String) : DeviceTask → Bool
  | .offLine param .waiting => param.networkId = networkId
  | _ => false

theorem DeviceTask.removes_of_ne {networkId : String} {task : DeviceTask}
    (h : ∀ param, task ≠ .offLine param .waiting) : task.removes networkId = false := by
  cases task with
  | finished => rfl
  | onLine param => rfl
  | offLine param phase =>
    cases phase with
    | waiting => exact absurd rfl (h param)
    | removed | deserted | releasing | uninited | released => rfl

/-- The step is a notification that is accepted. -/
def DeviceLife.accepts (s : DeviceLife) : DeviceStep → Bool
  | .sendOnLineEvent param _ => s.acceptsOnLine param
  | .sendOffLineEvent param _ => s.acceptsOffLine param
  | _ => false

/-- An accepted notification is an online or an offline one. -/
theorem DeviceLife.accepts_cases {s : DeviceLife} {l : DeviceStep} (h : s.accepts l = true) :
    (∃ param dropped, l = .sendOnLineEvent param dropped ∧ s.acceptsOnLine param = true) ∨
      ∃ param dropped, l = .sendOffLineEvent param dropped ∧ s.acceptsOffLine param = true := by
  cases l with
  | sendOnLineEvent param dropped => exact Or.inl ⟨param, dropped, rfl, h⟩
  | sendOffLineEvent param dropped => exact Or.inr ⟨param, dropped, rfl, h⟩
  | addIsomerismConnectDev | delIsomerismConnectDev | init | checkExitSAOrNot | advance => cases h

/-- How many tasks will take an entry of this networkId out of `DHContext`. -/
def DeviceLife.removals (s : DeviceLife) (networkId : String) : ℕ :=
  s.taskCount (DeviceTask.removes networkId)

namespace DHContext

variable {context : DHContext} {uuid networkId : String} {param : TaskParam} {e : DeviceIdEntry}

theorem isDeviceOnline_iff : context.isDeviceOnline uuid = true ↔
    isIdLengthValid uuid = true ∧ ∃ e ∈ context.devIdEntrySet_, e.uuid = uuid := by
  simp [isDeviceOnline]

/-- A device that is not online has no entry. -/
theorem uuid_ne_of_not_online (hv : isIdLengthValid uuid = true)
    (h : context.isDeviceOnline uuid = false) (he : e ∈ context.devIdEntrySet_) :
    e.uuid ≠ uuid := by
  rintro rfl
  rw [isDeviceOnline_iff.2 ⟨hv, e, he, rfl⟩] at h
  cases h

/-- A device that comes online gets an entry, where there is room. -/
theorem addOnlineDevice_perm (hv : param.isValid = true)
    (ho : context.isDeviceOnline param.uuid = false)
    (hroom : context.devIdEntrySet_.length ≤ MAX_ONLINE_DEVICE_SIZE) :
    (context.addOnlineDevice param.udid param.uuid param.networkId).devIdEntrySet_.Perm
      (⟨param.networkId, param.uuid, param.udid⟩ :: context.devIdEntrySet_) := by
  obtain ⟨hn, hu, hd⟩ := TaskParam.isValid_iff.1 hv
  have hnew : (⟨param.networkId, param.uuid, param.udid⟩ : DeviceIdEntry) ∉
      context.devIdEntrySet_ := fun h => uuid_ne_of_not_online hu ho h rfl
  have hlen : ¬ context.devIdEntrySet_.length > MAX_ONLINE_DEVICE_SIZE := not_lt.2 hroom
  simp only [addOnlineDevice, hn, hu, hd, hlen, hnew, Bool.not_true, Bool.or_self,
    Bool.false_eq_true, if_false]
  exact List.perm_orderedInsert _ _ _

/-- A device that comes online gets no entry where there is no room. -/
theorem addOnlineDevice_of_full (hv : param.isValid = true)
    (hfull : MAX_ONLINE_DEVICE_SIZE < context.devIdEntrySet_.length) :
    context.addOnlineDevice param.udid param.uuid param.networkId = context := by
  obtain ⟨hn, hu, hd⟩ := TaskParam.isValid_iff.1 hv
  simp [addOnlineDevice, hn, hu, hd, hfull]

/-- A removal takes out the first entry of the networkId. -/
theorem removeOnlineDeviceIdEntryByNetworkId_entries
    (h : ∀ e ∈ context.devIdEntrySet_, isIdLengthValid e.networkId = true) :
    (context.removeOnlineDeviceIdEntryByNetworkId networkId).devIdEntrySet_ =
      context.devIdEntrySet_.eraseP fun e => e.networkId = networkId := by
  unfold removeOnlineDeviceIdEntryByNetworkId
  split_ifs with hv
  · refine (List.eraseP_of_forall_not fun e he hn => ?_).symm
    have hn' : e.networkId = networkId := of_decide_eq_true hn
    rw [← hn', h e he] at hv
    cases hv
  · rfl

end DHContext

/-- Where the networkIds differ, one removal takes out every entry of a networkId. -/
theorem mem_eraseP_networkId {networkId : String} {e : DeviceIdEntry} :
    ∀ {l : List DeviceIdEntry}, (l.map DeviceIdEntry.networkId).Nodup →
      (e ∈ l.eraseP (fun e => e.networkId = networkId) ↔ e ∈ l ∧ e.networkId ≠ networkId)
  | [], _ => by simp
  | x :: l, h => by
    rw [List.map_cons, List.nodup_cons] at h
    obtain ⟨hx, hl⟩ := h
    by_cases hn : x.networkId = networkId
    · rw [List.eraseP_cons_of_pos (by simpa using hn), List.mem_cons]
      constructor
      · intro he
        refine ⟨Or.inr he, fun hne => hx ?_⟩
        rw [hn, ← hne]
        exact List.mem_map_of_mem he
      · rintro ⟨rfl | he, hne⟩
        · exact absurd hn hne
        · exact he
    · rw [List.eraseP_cons_of_neg (by simpa using hn), List.mem_cons, List.mem_cons,
        mem_eraseP_networkId hl]
      constructor
      · rintro (rfl | ⟨he, hne⟩)
        · exact ⟨Or.inl rfl, hn⟩
        · exact ⟨Or.inr he, hne⟩
      · rintro ⟨rfl | he, hne⟩
        · exact Or.inl rfl
        · exact Or.inr ⟨he, hne⟩

/-! ## Notices -/

/-- The state and the last notification accepted for each device : `true` for an online one,
`false` for an offline one or none. -/
structure Notices where
  life : DeviceLife := {}
  lastOnline : Table String Bool := ∅

namespace Notices

/-- One step, which notes what notification is accepted. -/
def step (s : Notices) (l : DeviceStep) : Notices where
  life := s.life.step l
  lastOnline :=
    match l with
    | .sendOnLineEvent param dropped =>
      if (s.life.sendOnLineEvent param dropped).1 = DH_FWK_SUCCESS then
        s.lastOnline.set param.uuid true
      else s.lastOnline
    | .sendOffLineEvent param dropped =>
      if (s.life.sendOffLineEvent param dropped).1 = DH_FWK_SUCCESS then
        s.lastOnline.set param.uuid false
      else s.lastOnline
    | _ => s.lastOnline

/-- The entries. -/
abbrev entries (s : Notices) : List DeviceIdEntry :=
  s.life.context.devIdEntrySet_

variable {s : Notices} {param : TaskParam} {dropped : Bool}

/-- What an accepted online notification does. -/
theorem step_onLine (ha : s.life.acceptsOnLine param = true) (hf : s.life.Fresh)
    (dropped : Bool) :
    (s.step (.sendOnLineEvent param dropped)).entries =
        (s.life.context.addOnlineDevice param.udid param.uuid param.networkId).devIdEntrySet_ ∧
      (∀ n, (s.step (.sendOnLineEvent param dropped)).life.removals n = s.life.removals n) ∧
      (s.step (.sendOnLineEvent param dropped)).lastOnline =
        s.lastOnline.set param.uuid true := by
  have hsend := DeviceLife.sendOnLineEvent_of_accepts ha dropped
  have hlife : (s.step (.sendOnLineEvent param dropped)).life =
      ({ s.life with context := s.life.onLineContext param } : DeviceLife).ensureInit.pushTask
        (.onLine param) dropped := congrArg Prod.snd hsend
  refine ⟨?_, fun n => ?_, ?_⟩
  · rw [entries, hlife, DeviceLife.pushTask_context, DeviceLife.ensureInit_context]
    rfl
  · have hf' : ({ s.life with context := s.life.onLineContext param } :
        DeviceLife).ensureInit.Fresh := DeviceLife.Fresh.ensureInit hf
    rw [DeviceLife.removals, hlife, DeviceLife.taskCount_pushTask rfl hf']
    simp [DeviceTask.removes, DeviceLife.removals, DeviceLife.taskCount]
  · show (if _ then _ else _) = _
    rw [hsend, if_pos rfl]

/-- What an accepted offline notification does. -/
theorem step_offLine (ha : s.life.acceptsOffLine param = true) (hf : s.life.Fresh)
    (dropped : Bool) :
    (s.step (.sendOffLineEvent param dropped)).entries = s.entries ∧
      (∀ n, (s.step (.sendOffLineEvent param dropped)).life.removals n =
        s.life.removals n + if dropped = false ∧ param.networkId = n then 1 else 0) ∧
      (s.step (.sendOffLineEvent param dropped)).lastOnline =
        s.lastOnline.set param.uuid false := by
  have hsend := DeviceLife.sendOffLineEvent_of_accepts ha dropped
  have hlife : (s.step (.sendOffLineEvent param dropped)).life =
      (s.life.goOffLine param).pushTask (.offLine param .waiting) dropped :=
    congrArg Prod.snd hsend
  refine ⟨?_, fun n => ?_, ?_⟩
  · rw [entries, hlife, DeviceLife.pushTask_context]
    rfl
  · have hf' : (s.life.goOffLine param).Fresh := hf.ensureInit
    rw [DeviceLife.removals, hlife, DeviceLife.taskCount_pushTask rfl hf']
    simp [DeviceTask.removes, DeviceLife.removals, DeviceLife.taskCount, DeviceLife.goOffLine]
  · show (if _ then _ else _) = _
    rw [hsend, if_pos rfl]

/-- The entries, the waiting tasks and what was noted are left alone. -/
structure Same (s t : Notices) : Prop where
  entries : t.entries = s.entries
  removals : ∀ n, t.life.removals n = s.life.removals n
  lastOnline : t.lastOnline = s.lastOnline

/-- A task that waited to take an entry out has done so. -/
structure Removed (networkId : String) (s t : Notices) : Prop where
  pos : 0 < s.life.removals networkId
  entries : t.entries =
    (s.life.context.removeOnlineDeviceIdEntryByNetworkId networkId).devIdEntrySet_
  removals : ∀ n, n ≠ networkId → t.life.removals n = s.life.removals n
  lastOnline : t.lastOnline = s.lastOnline

/-- A task that goes on removes an entry if it waited, and else leaves them alone. -/
theorem step_advance (s : Notices) (id : ℕ) (dmOnline hdfInuse : Bool) :
    (∃ networkId, Removed networkId s (s.step (.advance id dmOnline hdfInuse))) ∨
      Same s (s.step (.advance id dmOnline hdfInuse)) := by
  by_cases hw : ∃ param, s.life.tasks.get id = .offLine param .waiting
  · obtain ⟨param, hw⟩ := hw
    have hlife : (s.step (.advance id dmOnline hdfInuse)).life =
        s.life.offLineTask id param dmOnline hdfInuse .waiting := by
      show s.life.advance id dmOnline hdfInuse = _
      unfold DeviceLife.advance
      rw [hw]
    have htasks : (s.step (.advance id dmOnline hdfInuse)).life.tasks =
        s.life.tasks.set id (.offLine param .removed) := congrArg DeviceLife.tasks hlife
    refine Or.inl ⟨param.networkId, ?_, ?_, fun n hn => ?_, rfl⟩
    · exact DeviceLife.taskCount_pos rfl (by rw [hw]; simp [DeviceTask.removes])
    · rw [Notices.entries, hlife]
      rfl
    · refine DeviceLife.taskCount_of_same rfl htasks ?_
      rw [hw]
      exact decide_eq_false fun h => hn h.symm
  · have hw' : ∀ param, s.life.tasks.get id ≠ .offLine param .waiting := fun param h =>
      hw ⟨param, h⟩
    refine Or.inr ⟨?_, fun n => ?_, rfl⟩
    · exact congrArg DHContext.devIdEntrySet_
        (DeviceLife.advance_context s.life dmOnline hdfInuse hw')
    · obtain ht | ⟨-, task, htask, ht⟩ := (s.life.advance_tasks id dmOnline hdfInuse).2
      · exact DeviceLife.taskCount_congr ht
      · refine DeviceLife.taskCount_of_same rfl ht ?_
        rw [DeviceTask.removes_of_ne hw', DeviceTask.removes_of_ne htask]

/-- A step that is not an accepted notification removes an entry or leaves them alone. -/
theorem step_of_not_accepts {l : DeviceStep} (h : s.life.accepts l = false) :
    (∃ networkId, Removed networkId s (s.step l)) ∨ Same s (s.step l) := by
  cases l with
  | sendOnLineEvent param dropped =>
    obtain ⟨hret, hlife⟩ := DeviceLife.sendOnLineEvent_of_not_accepts h dropped
    refine Or.inr ⟨congrArg (·.context.devIdEntrySet_) hlife, fun n => ?_, if_neg hret⟩
    exact DeviceLife.taskCount_congr (congrArg DeviceLife.tasks hlife)
  | sendOffLineEvent param dropped =>
    obtain ⟨hret, hlife⟩ := DeviceLife.sendOffLineEvent_of_not_accepts h dropped
    have hcontext : (s.life.sendOffLineEvent param dropped).2.context = s.life.context := by
      rcases hlife with hlife | hlife <;> rw [hlife]
      exact DeviceLife.ensureInit_context
    have htasks : (s.life.sendOffLineEvent param dropped).2.tasks = s.life.tasks := by
      rcases hlife with hlife | hlife <;> rw [hlife]
      exact DeviceLife.ensureInit_tasks
    exact Or.inr ⟨congrArg DHContext.devIdEntrySet_ hcontext,
      fun n => DeviceLife.taskCount_congr htasks, if_neg hret⟩
  | addIsomerismConnectDev isomerismDeviceId =>
    exact Or.inr ⟨DHContext.addIsomerismConnectDev_devIdEntrySet_, fun _ => rfl, rfl⟩
  | delIsomerismConnectDev isomerismDeviceId =>
    exact Or.inr ⟨DHContext.delIsomerismConnectDev_devIdEntrySet_, fun _ => rfl, rfl⟩
  | init => exact Or.inr ⟨rfl, fun _ => rfl, rfl⟩
  | checkExitSAOrNot dmOnline hdfInuse =>
    refine Or.inr ⟨?_, fun n => ?_, rfl⟩
    · exact congrArg DHContext.devIdEntrySet_ (DeviceLife.checkExitSAOrNot_context _ _)
    · exact DeviceLife.taskCount_congr (DeviceLife.checkExitSAOrNot_tasks _ _)
  | advance id dmOnline hdfInuse => exact s.step_advance id dmOnline hdfInuse

/-! ## What every step keeps -/

/-- Every device has at most one entry, with ids of a valid length. -/
structure Known (s : Notices) : Prop where
  fresh : s.life.Fresh
  uuids : (s.entries.map DeviceIdEntry.uuid).Nodup
  valid : ∀ e ∈ s.entries,
    isIdLengthValid e.uuid = true ∧ isIdLengthValid e.networkId = true

theorem Known.init : Known {} where
  fresh _ _ := rfl
  uuids := List.nodup_nil
  valid _ he := by cases he

/-- A removal takes out the first entry of its networkId. -/
theorem Known.remove (h : s.Known) (networkId : String) :
    (s.life.context.removeOnlineDeviceIdEntryByNetworkId networkId).devIdEntrySet_ =
      s.entries.eraseP fun e => e.networkId = networkId :=
  DHContext.removeOnlineDeviceIdEntryByNetworkId_entries fun e he => (h.valid e he).2

/-- A device that is accepted online has no entry yet. -/
theorem uuid_ne_of_acceptsOnLine (ha : s.life.acceptsOnLine param = true) {e : DeviceIdEntry}
    (he : e ∈ s.entries) : e.uuid ≠ param.uuid := by
  obtain ⟨hv, -, ho⟩ := DeviceLife.acceptsOnLine_iff.1 ha
  exact DHContext.uuid_ne_of_not_online (TaskParam.isValid_iff.1 hv).2.1 ho he

/-- A device that is accepted offline has an entry. -/
theorem exists_entry_of_acceptsOffLine (ha : s.life.acceptsOffLine param = true) :
    ∃ e ∈ s.entries, e.uuid = param.uuid := by
  rw [DeviceLife.acceptsOffLine, Bool.and_eq_true] at ha
  exact (DHContext.isDeviceOnline_iff.1 ha.2).2

/-- The entries after an accepted online notification, where there is room. -/
theorem entries_onLine (ha : s.life.acceptsOnLine param = true)
    (hf : s.life.Fresh) (dropped : Bool) (hroom : s.entries.length ≤ MAX_ONLINE_DEVICE_SIZE) :
    (s.step (.sendOnLineEvent param dropped)).entries.Perm
      (⟨param.networkId, param.uuid, param.udid⟩ :: s.entries) := by
  obtain ⟨hv, -, ho⟩ := DeviceLife.acceptsOnLine_iff.1 ha
  rw [(step_onLine ha hf dropped).1]
  exact DHContext.addOnlineDevice_perm hv ho hroom

/-- The entries after an accepted online notification, where there is none. -/
theorem entries_onLine_of_full (ha : s.life.acceptsOnLine param = true)
    (hf : s.life.Fresh) (dropped : Bool) (hfull : MAX_ONLINE_DEVICE_SIZE < s.entries.length) :
    (s.step (.sendOnLineEvent param dropped)).entries = s.entries := by
  rw [(step_onLine ha hf dropped).1,
    DHContext.addOnlineDevice_of_full (DeviceLife.acceptsOnLine_iff.1 ha).1 hfull]

theorem Known.step (h : s.Known) (l : DeviceStep) : (s.step l).Known := by
  have hfresh : (s.step l).life.Fresh := h.fresh.step l
  have hsame : (s.step l).entries = s.entries → (s.step l).Known := fun he =>
    ⟨hfresh, by rw [he]; exact h.uuids, by rw [he]; exact h.valid⟩
  cases hl : s.life.accepts l with
  | false =>
    rcases step_of_not_accepts hl with ⟨networkId, hr⟩ | hr
    · have he := hr.entries.trans (h.remove networkId)
      refine ⟨hfresh, ?_, fun e hmem => ?_⟩
      · rw [he]
        exact h.uuids.sublist (List.eraseP_sublist.map _)
      · rw [he] at hmem
        exact h.valid e (List.mem_of_mem_eraseP hmem)
    · exact hsame hr.entries
  | true =>
    rcases DeviceLife.accepts_cases hl with ⟨param, dropped, rfl, ha⟩ | ⟨param, dropped, rfl, ha⟩
    · rcases le_or_gt s.entries.length MAX_ONLINE_DEVICE_SIZE with hroom | hfull
      · have hperm := entries_onLine ha h.fresh dropped hroom
        refine ⟨hfresh, ?_, fun e he => ?_⟩
        · rw [(hperm.map _).nodup_iff, List.map_cons, List.nodup_cons]
          refine ⟨fun hmem => ?_, h.uuids⟩
          obtain ⟨e, he, hu⟩ := List.mem_map.1 hmem
          exact uuid_ne_of_acceptsOnLine ha he hu
        · rcases List.mem_cons.1 (hperm.mem_iff.1 he) with rfl | he
          · obtain ⟨hn, hu, -⟩ := TaskParam.isValid_iff.1 (DeviceLife.acceptsOnLine_iff.1 ha).1
            exact ⟨hu, hn⟩
          · exact h.valid e he
      · exact hsame (entries_onLine_of_full ha h.fresh dropped hfull)
    · exact hsame (step_offLine ha h.fresh dropped).1

/-! ## Settled states -/

/-- The entries have different networkIds, and those that no task will take out are the
entries of the devices whose last accepted notification was an online one. -/
structure Settled (s : Notices) : Prop where
  networkIds : (s.entries.map DeviceIdEntry.networkId).Nodup
  entry : ∀ e ∈ s.entries,
    s.lastOnline.get e.uuid = true ↔ s.life.removals e.networkId = 0
  absent : ∀ uuid, (∀ e ∈ s.entries, e.uuid ≠ uuid) → s.lastOnline.get uuid = false

theorem Settled.init : Settled {} where
  networkIds := List.nodup_nil
  entry _ he := by cases he
  absent _ _ := rfl

/-- Once no task is left, a settled state has the right devices online. -/
theorem Settled.isDeviceOnline_iff (h : s.Settled) (hk : s.Known) (hidle : s.life.Idle)
    (uuid : String) : s.life.context.isDeviceOnline uuid = true ↔
      s.lastOnline.get uuid = true := by
  rw [DHContext.isDeviceOnline_iff]
  constructor
  · rintro ⟨-, e, he, rfl⟩
    exact (h.entry e he).2 (hidle.taskCount_eq_zero rfl)
  · intro hlast
    by_contra hn
    have habsent : ∀ e ∈ s.entries, e.uuid ≠ uuid := by
      rintro e he rfl
      exact hn ⟨(hk.valid e he).1, e, he, rfl⟩
    rw [h.absent uuid habsent] at hlast
    cases hlast

end Notices

/-! ## One step -/

/-- A device that comes online finds room, its networkId in no entry, and no task that will
take out an entry of it. The task of a device that goes offline is queued and names its
entry, unless a task that does waits already; and it names no other entry, unless a task that
does waits already or it is dropped. -/
def DeviceLife.Undisturbed (s : DeviceLife) : DeviceStep → Prop
  | .sendOnLineEvent param _ => s.acceptsOnLine param = true →
      s.context.devIdEntrySet_.length ≤ MAX_ONLINE_DEVICE_SIZE ∧
      (∀ e ∈ s.context.devIdEntrySet_, e.networkId ≠ param.networkId) ∧
      s.removals param.networkId = 0
  | .sendOffLineEvent param dropped => s.acceptsOffLine param = true →
      ∀ e ∈ s.context.devIdEntrySet_,
        (e.uuid = param.uuid →
          0 < s.removals e.networkId ∨ e.networkId = param.networkId ∧ dropped = false) ∧
        (e.networkId = param.networkId →
          e.uuid = param.uuid ∨ dropped = true ∨ 0 < s.removals param.networkId)
  | _ => True

/-- A step that is not an accepted notification is undisturbed. -/
theorem DeviceLife.Undisturbed.of_not_accepts {s : DeviceLife} {l : DeviceStep}
    (h : s.accepts l = false) : s.Undisturbed l := by
  cases l with
  | sendOnLineEvent param dropped => exact fun ha => absurd (ha.symm.trans h) Bool.noConfusion
  | sendOffLineEvent param dropped => exact fun ha => absurd (ha.symm.trans h) Bool.noConfusion
  | addIsomerismConnectDev | delIsomerismConnectDev | init | checkExitSAOrNot | advance =>
    exact trivial

instance (s : DeviceLife) : ∀ l, Decidable (s.Undisturbed l)
  | .sendOnLineEvent _ _ => inferInstanceAs (Decidable (_ → _))
  | .sendOffLineEvent _ _ => inferInstanceAs (Decidable (_ → _))
  | .addIsomerismConnectDev _ => inferInstanceAs (Decidable True)
  | .delIsomerismConnectDev _ => inferInstanceAs (Decidable True)
  | .init => inferInstanceAs (Decidable True)
  | .checkExitSAOrNot _ _ => inferInstanceAs (Decidable True)
  | .advance _ _ _ => inferInstanceAs (Decidable True)

namespace Notices

variable {s : Notices} {param : TaskParam} {dropped : Bool}

/-- An accepted online notification keeps a settled state settled exactly if it is
undisturbed. -/
theorem settled_onLine_iff (hk : s.Known) (hs : s.Settled)
    (ha : s.life.acceptsOnLine param = true) :
    (s.step (.sendOnLineEvent param dropped)).Settled ↔
      s.life.Undisturbed (.sendOnLineEvent param dropped) := by
  obtain ⟨-, hrem, hlast⟩ := step_onLine ha hk.fresh dropped
  constructor
  · intro h _
    have hroom : s.entries.length ≤ MAX_ONLINE_DEVICE_SIZE := by
      by_contra hfull
      have he := entries_onLine_of_full ha hk.fresh dropped (not_le.1 hfull)
      have habsent := h.absent param.uuid fun e hmem => by
        rw [he] at hmem
        exact uuid_ne_of_acceptsOnLine ha hmem
      rw [hlast, Table.get_set_self] at habsent
      cases habsent
    have hperm := entries_onLine ha hk.fresh dropped hroom
    have hnodup := h.networkIds
    rw [(hperm.map _).nodup_iff, List.map_cons, List.nodup_cons] at hnodup
    refine ⟨hroom, fun e he hn => hnodup.1 (List.mem_map.2 ⟨e, he, hn⟩), ?_⟩
    · have hnew := h.entry _ (hperm.mem_iff.2 List.mem_cons_self)
      rw [hlast, Table.get_set_self, hrem] at hnew
      exact hnew.1 rfl
  · intro hu
    obtain ⟨hroom, hnet, hzero⟩ := hu ha
    have hperm := entries_onLine ha hk.fresh dropped hroom
    refine ⟨?_, fun e he => ?_, fun uuid habsent => ?_⟩
    · rw [(hperm.map _).nodup_iff, List.map_cons, List.nodup_cons]
      refine ⟨fun hmem => ?_, hs.networkIds⟩
      obtain ⟨e, he, hn⟩ := List.mem_map.1 hmem
      exact hnet e he hn
    · rw [hrem, hlast]
      rcases List.mem_cons.1 (hperm.mem_iff.1 he) with rfl | he
      · rw [Table.get_set_self]
        exact iff_of_true rfl hzero
      · rw [Table.get_set_ne _ (uuid_ne_of_acceptsOnLine ha he)]
        exact hs.entry e he
    · have hne : uuid ≠ param.uuid := fun h =>
        habsent _ (hperm.mem_iff.2 List.mem_cons_self) h.symm
      rw [hlast, Table.get_set_ne _ hne]
      exact hs.absent uuid fun e he =>
        habsent e (hperm.mem_iff.2 (List.mem_cons_of_mem _ he))

/-- An accepted offline notification keeps a settled state settled exactly if it is
undisturbed. -/
theorem settled_offLine_iff (hk : s.Known) (hs : s.Settled)
    (ha : s.life.acceptsOffLine param = true) :
    (s.step (.sendOffLineEvent param dropped)).Settled ↔
      s.life.Undisturbed (.sendOffLineEvent param dropped) := by
  obtain ⟨hent, hrem, hlast⟩ := step_offLine ha hk.fresh dropped
  constructor
  · intro h _ e he
    have hnew := h.entry e (hent ▸ he)
    have hold := hs.entry e he
    rw [hrem, hlast, Table.get_set] at hnew
    refine ⟨fun hu => ?_, fun hn => ?_⟩
    · rw [if_pos hu] at hnew
      by_contra hneg
      rw [not_or, not_and_or] at hneg
      refine absurd (hnew.2 ?_) Bool.false_ne_true
      rw [if_neg fun hc => hneg.2.elim (· hc.2.symm) (· hc.1)]
      omega
    · by_contra hneg
      rw [not_or, not_or, Bool.not_eq_true] at hneg
      obtain ⟨hu, hd, hzero⟩ := hneg
      rw [if_neg hu, if_pos ⟨hd, hn.symm⟩, hold, hn] at hnew
      omega
  · intro hu
    have hu := hu ha
    refine ⟨hent ▸ hs.networkIds, fun e he => ?_, fun uuid habsent => ?_⟩
    · have he' : e ∈ s.entries := hent ▸ he
      obtain ⟨hown, hother⟩ := hu e he'
      have hold := hs.entry e he'
      rw [hrem, hlast, Table.get_set]
      by_cases hue : e.uuid = param.uuid
      · rw [if_pos hue]
        refine iff_of_false Bool.false_ne_true ?_
        rcases hown hue with hpos | ⟨hn, hd⟩
        · omega
        · rw [if_pos ⟨hd, hn.symm⟩]
          omega
      · rw [if_neg hue, hold]
        split_ifs with hc
        · rcases hother hc.2.symm with h | h | h
          · exact absurd h hue
          · rw [h] at hc
            cases hc.1
          · rw [hc.2] at h
            exact iff_of_false h.ne' not_false
        · rfl
    · have hne : uuid ≠ param.uuid := by
        rintro rfl
        obtain ⟨e, he, hue⟩ := exists_entry_of_acceptsOffLine ha
        exact habsent e (hent ▸ he) hue
      rw [hlast, Table.get_set_ne _ hne]
      exact hs.absent uuid fun e he => habsent e (hent ▸ he)

/-- A removal keeps a settled state settled. -/
theorem Settled.remove {t : Notices} {networkId : String} (hk : s.Known) (hs : s.Settled)
    (hr : Removed networkId s t) : t.Settled := by
  have he := hr.entries.trans (hk.remove networkId)
  have hmem : ∀ e, e ∈ t.entries ↔ e ∈ s.entries ∧ e.networkId ≠ networkId := fun e => by
    rw [he]
    exact mem_eraseP_networkId hs.networkIds
  refine ⟨?_, fun e het => ?_, fun uuid habsent => ?_⟩
  · rw [he]
    exact hs.networkIds.sublist (List.eraseP_sublist.map _)
  · obtain ⟨hes, hn⟩ := (hmem e).1 het
    rw [hr.lastOnline, hr.removals _ hn]
    exact hs.entry e hes
  · rw [hr.lastOnline]
    by_contra hneg
    rw [Bool.not_eq_false] at hneg
    -- the entry taken out is of a device whose last notification was an offline one
    have hgone : ∀ e ∈ s.entries, e.uuid ≠ uuid := by
      rintro e hes rfl
      have hn : e.networkId ≠ networkId := by
        rintro rfl
        exact hr.pos.ne' ((hs.entry e hes).1 hneg)
      exact habsent e ((hmem e).2 ⟨hes, hn⟩) rfl
    rw [hs.absent uuid hgone] at hneg
    cases hneg

theorem Settled.of_same {t : Notices} (hs : s.Settled) (h : Same s t) : t.Settled := by
  refine ⟨h.entries ▸ hs.networkIds, fun e hmem => ?_, fun uuid habsent => ?_⟩
  · rw [h.removals, h.lastOnline]
    exact hs.entry e (h.entries ▸ hmem)
  · rw [h.lastOnline]
    exact hs.absent uuid fun e hmem => habsent e (h.entries ▸ hmem)

/-- A step keeps a settled state settled exactly if it is undisturbed. -/
theorem settled_step_iff (l : DeviceStep) (hk : s.Known) (hs : s.Settled) :
    (s.step l).Settled ↔ s.life.Undisturbed l := by
  cases hl : s.life.accepts l with
  | false =>
    refine iff_of_true ?_ (.of_not_accepts hl)
    rcases step_of_not_accepts hl with ⟨networkId, hr⟩ | hr
    · exact hs.remove hk hr
    · exact hs.of_same hr
  | true =>
    rcases DeviceLife.accepts_cases hl with ⟨param, dropped, rfl, ha⟩ | ⟨param, dropped, rfl, ha⟩
    · exact settled_onLine_iff hk hs ha
    · exact settled_offLine_iff hk hs ha

end Notices

/-! ## Runs -/

/-- The steps of a run are all undisturbed exactly if every state it reaches is settled. -/
theorem settled_along_iff (ls : List DeviceStep) :
    Along Notices.step (fun s l => s.life.Undisturbed l) {} ls ↔
      ∀ pre post, ls = pre ++ post → (pre.foldl Notices.step {}).Settled := by
  have hknown : ∀ (s : Notices) (l : DeviceStep), s.Known → (s.step l).Known := fun _ l hk =>
    hk.step l
  have hstep : ∀ (s : Notices) (l : DeviceStep), s.Known → s.Settled →
      ((s.step l).Settled ↔ s.life.Undisturbed l) := fun _ l hk hs =>
    Notices.settled_step_iff l hk hs
  exact along_iff hknown hstep ls Notices.Known.init Notices.Settled.init

/-- In a run whose steps are all undisturbed, once no task is left a device is online exactly
if the last notification accepted for it was an online one. -/
theorem online_converges (ls : List DeviceStep)
    (h : Along Notices.step (fun s l => s.life.Undisturbed l) {} ls)
    (hidle : (ls.foldl Notices.step {}).life.Idle) (uuid : String) :
    (ls.foldl Notices.step {}).life.context.isDeviceOnline uuid = true ↔
      (ls.foldl Notices.step {}).lastOnline.get uuid = true := by
  have hsettled := (settled_along_iff ls).1 h ls [] (List.append_nil ls).symm
  have hknown : (ls.foldl Notices.step {}).Known :=
    foldl_invariant (fun _ l h => h.step l) ls Notices.Known.init
  exact hsettled.isDeviceOnline_iff hknown hidle uuid

/-- A run in which one device goes offline and comes back, while another stays. -/
def comeBack : List DeviceStep :=
  [.sendOnLineEvent ⟨"n", "u", "d"⟩ false, .sendOnLineEvent ⟨"m", "v", "e"⟩ false,
    .sendOffLineEvent ⟨"n", "u", "d"⟩ false, .advance 2 true true, .advance 2 true true,
    .sendOnLineEvent ⟨"n", "u", "d"⟩ false, .advance 0 true true, .advance 1 true true,
    .advance 3 true true]

theorem online_converges_comeBack :
    Along Notices.step (fun s l => s.life.Undisturbed l) {} comeBack ∧
      ((comeBack.foldl Notices.step {}).life.context.isDeviceOnline "u" = true ↔
        (comeBack.foldl Notices.step {}).lastOnline.get "u" = true) :=
  ⟨by decide, online_converges comeBack (by decide) (by decide) "u"⟩

/-- The same with a second offline notification while the first task waits : the second task
takes out the entry that the device got when it came back. -/
def comeBackTwice : List DeviceStep :=
  [.sendOnLineEvent ⟨"n", "u", "d"⟩ false, .sendOnLineEvent ⟨"m", "v", "e"⟩ false,
    .sendOffLineEvent ⟨"n", "u", "d"⟩ false, .sendOffLineEvent ⟨"n", "u", "d"⟩ false,
    .advance 2 true true, .sendOnLineEvent ⟨"n", "u", "d"⟩ false, .advance 3 true true,
    .advance 0 true true, .advance 1 true true, .advance 2 true true, .advance 3 true true,
    .advance 4 true true]

theorem online_again_undone :
    ¬ ∀ ls : List DeviceStep, (ls.foldl Notices.step {}).life.Idle → ∀ uuid,
      ((ls.foldl Notices.step {}).life.context.isDeviceOnline uuid = true ↔
        (ls.foldl Notices.step {}).lastOnline.get uuid = true) := by
  intro h
  have hu := h comeBackTwice (by decide) "u"
  revert hu
  decide

end DHFwk
