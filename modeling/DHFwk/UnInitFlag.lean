import DHFwk.DeviceLife
import DHFwk.Runs

/-!
# The flag of a pending release

`SendOffLineEvent` sets `flagUnInit_` when the last device goes, and `UnInit`, which the
`OFF_LINE` task of that device runs at its end, clears it; meanwhile no device comes online.
`Guarded` is what every step keeps of the flags, the lock and the phases of the tasks : in
particular a set flag never meets the early return of `UnInit` (`Guarded.flag_eq_false`).

What can go wrong is before `UnInit`. The task may be dropped, and a device of another system
may connect between the notification and the test that the task makes : then the task ends
without `UnInit`. A set flag has a task that is still to clear it, in every state of a run,
exactly if neither happens to the last such task (`unInit_flag_iff`).
-/

set_option linter.unusedSectionVars false

namespace DHFwk

open Runs

/-! ## Phases -/

namespace DeviceTask

/-- The phase of an `OFF_LINE` task. -/
def phase : DeviceTask → Option OffLinePhase
  | .offLine _ phase => some phase
  | _ => none

/-- The task is in `UnInit` and holds its lock. -/
def inUnInit (task : DeviceTask) : Prop :=
  task.phase = some .releasing ∨ task.phase = some .uninited ∨ task.phase = some .released

@[simp] theorem not_inUnInit_finished : ¬ DeviceTask.finished.inUnInit := by
  simp [inUnInit, phase]

@[simp] theorem not_inUnInit_onLine (param : TaskParam) : ¬ (onLine param).inUnInit := by
  simp [inUnInit, phase]

@[simp] theorem inUnInit_offLine (param : TaskParam) (phase : OffLinePhase) :
    (offLine param phase).inUnInit ↔
      phase = .releasing ∨ phase = .uninited ∨ phase = .released := by
  simp [inUnInit, DeviceTask.phase]

/-- The task is before the point of `UnInit` that clears the flag. -/
def beforeClear : DeviceTask → Bool
  | .offLine _ .released => false
  | .offLine _ _ => true
  | _ => false

end DeviceTask

namespace DeviceLife

/-- How many tasks are still to clear the flag. -/
def pendingUnInit (s : DeviceLife) : ℕ :=
  s.taskCount DeviceTask.beforeClear

variable {s : DeviceLife} {id : ℕ} {param : TaskParam} {task : DeviceTask} {dropped : Bool}

/-- What a task other than the one written is, some task still is. -/
theorem exists_get_set {P : DeviceTask → Prop} (h : ∃ id', P (s.tasks.get id'))
    (hid : ¬ P (s.tasks.get id)) : ∃ id', P ((s.tasks.set id task).get id') := by
  obtain ⟨id', hid'⟩ := h
  refine ⟨id', ?_⟩
  rwa [Table.get_set_ne s.tasks]
  rintro rfl
  exact hid hid'

/-! ## What every step keeps -/

/-- While the flag is set no device is online; a task in `UnInit` holds the lock; and the
resources are released while `isInit_` or the flag is set only in an `UnInit` that is still to
clear it. -/
structure Guarded (s : DeviceLife) : Prop where
  fresh : s.Fresh
  offline : s.flagUnInit_ = true → s.context.realTimeOnLineNetworkIdSet_ = ∅
  holder : ∀ id, (s.tasks.get id).inUnInit → s.releaseProcessMutex_ = some id
  inited : s.releaseStatus_ = true → s.isInit_ = true →
    ∃ id, (s.tasks.get id).phase = some .releasing
  flagged : s.releaseStatus_ = true → s.flagUnInit_ = true →
    ∃ id, (s.tasks.get id).phase = some .releasing ∨ (s.tasks.get id).phase = some .uninited

theorem Guarded.start : Guarded {} where
  fresh _ _ := rfl
  offline h := by cases h
  holder _ h := by rcases h with h | h | h <;> cases h
  inited h := by cases h
  flagged h := by cases h

/-- A task that enters `UnInit` with the flag set does not find the resources released. -/
theorem Guarded.flag_eq_false (h : s.Guarded) (hm : s.releaseProcessMutex_.isSome = false)
    (hr : s.releaseStatus_ = true) : s.flagUnInit_ = false := by
  by_contra hf
  rw [Bool.not_eq_false] at hf
  obtain ⟨id, hid⟩ := h.flagged hr hf
  have hheld := h.holder id (hid.imp_right Or.inl)
  rw [hheld] at hm
  cases hm

theorem Guarded.init (h : s.Guarded) : s.init.Guarded :=
  ⟨h.fresh, h.offline, h.holder, fun hr => absurd hr Bool.false_ne_true,
    fun hr => absurd hr Bool.false_ne_true⟩

theorem Guarded.ensureInit (h : s.Guarded) : s.ensureInit.Guarded := by
  unfold DeviceLife.ensureInit
  split_ifs
  · exact h
  · exact h.init

/-- A task that is pushed is not in `UnInit`. -/
theorem Guarded.pushTask (h : s.Guarded) (htask : ¬ task.inUnInit) :
    (s.pushTask task dropped).Guarded := by
  cases dropped with
  | true => exact h
  | false =>
    have hfinished : s.tasks.get s.nextTask = .finished := h.fresh _ le_rfl
    refine ⟨h.fresh.pushTask task, h.offline, fun id hid => ?_, fun hr hi => ?_, fun hr hf => ?_⟩
    · have hget : ((s.tasks.set s.nextTask task).get id).inUnInit := hid
      rw [Table.get_set] at hget
      split_ifs at hget with hn
      · exact absurd hget htask
      · exact h.holder id hget
    · exact exists_get_set (P := fun task => task.phase = some .releasing) (h.inited hr hi)
        (by rw [hfinished]; simp [DeviceTask.phase])
    · exact exists_get_set
        (P := fun task => task.phase = some .releasing ∨ task.phase = some .uninited)
        (h.flagged hr hf) (by rw [hfinished]; simp [DeviceTask.phase])

/-- A device that goes offline sets the flag only if no device is online. -/
theorem Guarded.goOffLine (h : s.Guarded) (param : TaskParam) : (s.goOffLine param).Guarded := by
  have he := h.ensureInit
  refine ⟨he.fresh, fun hf => ?_, he.holder, he.inited, fun hr _ => ?_⟩
  · have hor : s.flagUnInit_ = true ∨
        (s.context.deleteRealTimeOnlineDeviceNetworkId param.networkId).isDeserted = true :=
      Bool.or_eq_true_iff.1 hf
    rcases hor with hf | hd
    · show s.context.realTimeOnLineNetworkIdSet_.erase param.networkId = ∅
      rw [h.offline hf]
      rfl
    · exact Finset.card_eq_zero.1 (of_decide_eq_true hd).1
  · obtain ⟨id, hid⟩ := he.inited hr (by
      unfold DeviceLife.ensureInit
      split_ifs with hi
      · exact hi
      · rfl)
    exact ⟨id, Or.inl hid⟩

/-- A task that goes on outside `UnInit`, where nothing but the entries changes. -/
theorem Guarded.outside {t : DeviceLife} (h : s.Guarded) (hfresh : t.Fresh)
    (hflags : (t.isInit_, t.flagUnInit_, t.releaseStatus_, t.releaseProcessMutex_) =
      (s.isInit_, s.flagUnInit_, s.releaseStatus_, s.releaseProcessMutex_))
    (honline : t.context.realTimeOnLineNetworkIdSet_ = s.context.realTimeOnLineNetworkIdSet_)
    (htasks : t.tasks = s.tasks.set id task) (hold : ¬ (s.tasks.get id).inUnInit)
    (hnew : ¬ task.inUnInit) : t.Guarded := by
  simp only [Prod.mk.injEq] at hflags
  obtain ⟨hi, hf, hr, hm⟩ := hflags
  refine ⟨hfresh, ?_, fun id' hid' => ?_, ?_, ?_⟩
  · rw [hf, honline]
    exact h.offline
  · rw [htasks, Table.get_set] at hid'
    rw [hm]
    split_ifs at hid' with hn
    · exact absurd hid' hnew
    · exact h.holder id' hid'
  · rw [hr, hi, htasks]
    exact fun hr hi => exists_get_set (P := fun task => task.phase = some .releasing)
      (h.inited hr hi) fun hp => hold (Or.inl hp)
  · rw [hr, hf, htasks]
    exact fun hr hf => exists_get_set
      (P := fun task => task.phase = some .releasing ∨ task.phase = some .uninited)
      (h.flagged hr hf) fun hp => hold (hp.imp_right Or.inl)

/-- The task that holds the lock is the only one in `UnInit`. -/
theorem Guarded.not_inUnInit_of_ne (h : s.Guarded) {id' : ℕ} (hid : (s.tasks.get id).inUnInit)
    (hne : id' ≠ id) : ¬ (s.tasks.get id').inUnInit := fun hid' =>
  hne (Option.some.inj ((h.holder id' hid').symm.trans (h.holder id hid)))

/-- Where the resources are released and `isInit_` is set, `UnInit` is before clearing it. -/
theorem Guarded.phase_of_inited (h : s.Guarded) (hid : (s.tasks.get id).inUnInit)
    (hr : s.releaseStatus_ = true) (hi : s.isInit_ = true) :
    (s.tasks.get id).phase = some .releasing := by
  obtain ⟨id', hid'⟩ := h.inited hr hi
  by_cases hne : id' = id
  · rwa [hne] at hid'
  · exact absurd (Or.inl hid') (h.not_inUnInit_of_ne hid hne)

/-- Where the resources are released and the flag is set, `UnInit` is before clearing it. -/
theorem Guarded.phase_of_flagged (h : s.Guarded) (hid : (s.tasks.get id).inUnInit)
    (hr : s.releaseStatus_ = true) (hf : s.flagUnInit_ = true) :
    (s.tasks.get id).phase = some .releasing ∨ (s.tasks.get id).phase = some .uninited := by
  obtain ⟨id', hid'⟩ := h.flagged hr hf
  by_cases hne : id' = id
  · rwa [hne] at hid'
  · exact absurd (hid'.imp_right Or.inl) (h.not_inUnInit_of_ne hid hne)

/-- The task that holds the lock goes on in `UnInit` or leaves it. -/
theorem Guarded.inside {t : DeviceLife} (h : s.Guarded) (hfresh : t.Fresh)
    (hold : (s.tasks.get id).inUnInit) (htasks : t.tasks = s.tasks.set id task)
    (hoffline : t.flagUnInit_ = true → t.context.realTimeOnLineNetworkIdSet_ = ∅)
    (hmutex : task.inUnInit → t.releaseProcessMutex_ = s.releaseProcessMutex_)
    (hinited : t.releaseStatus_ = true → t.isInit_ ≠ true)
    (hflagged : t.releaseStatus_ = true → t.flagUnInit_ = true →
      task.phase = some .uninited) : t.Guarded := by
  refine ⟨hfresh, hoffline, fun id' hid' => ?_, fun hr hi => absurd hi (hinited hr),
    fun hr hf => ⟨id, Or.inr ?_⟩⟩
  · rw [htasks, Table.get_set] at hid'
    split_ifs at hid' with hn
    · rw [hn, hmutex hid', h.holder id hold]
    · exact absurd hid' (h.not_inUnInit_of_ne hold hn)
  · rw [htasks, Table.get_set_self]
    exact hflagged hr hf

theorem Guarded.enterUnInit (h : s.Guarded) (hm : s.releaseProcessMutex_.isSome = false)
    (hfresh : (({ s with releaseStatus_ := true, releaseProcessMutex_ := some id } :
      DeviceLife).setTask id (.offLine param .releasing)).Fresh) :
    (({ s with releaseStatus_ := true, releaseProcessMutex_ := some id } :
      DeviceLife).setTask id (.offLine param .releasing)).Guarded := by
  have hself : ((s.tasks.set id (.offLine param .releasing)).get id).phase =
      some .releasing := by
    rw [Table.get_set_self]
    rfl
  refine ⟨hfresh, h.offline, fun id' hid' => ?_, fun _ _ => ⟨id, hself⟩,
    fun _ _ => ⟨id, Or.inl hself⟩⟩
  by_cases hne : id' = id
  · rw [hne]
    rfl
  · have hget : ((s.tasks.set id (.offLine param .releasing)).get id').inUnInit := hid'
    rw [Table.get_set_ne s.tasks hne] at hget
    rw [h.holder id' hget] at hm
    cases hm

theorem Guarded.advance (h : s.Guarded) (id : ℕ) (dmOnline hdfInuse : Bool) :
    (s.advance id dmOnline hdfInuse).Guarded := by
  have hfresh : (s.advance id dmOnline hdfInuse).Fresh :=
    h.fresh.step (.advance id dmOnline hdfInuse)
  revert hfresh
  unfold DeviceLife.advance
  cases ht : s.tasks.get id with
  | finished => exact fun _ => h
  | onLine param =>
    intro hfresh
    exact h.outside hfresh rfl rfl rfl (by simp [ht]) (by simp)
  | offLine param phase =>
    intro hfresh
    cases phase with
    | waiting =>
      exact h.outside hfresh rfl
        DHContext.removeOnlineDeviceIdEntryByNetworkId_realTimeOnLineNetworkIdSet_ rfl
        (by simp [ht]) (by simp)
    | removed =>
      refine h.outside hfresh rfl rfl rfl (by simp [ht]) ?_
      split_ifs <;> simp
    | deserted =>
      simp only [offLineTask] at hfresh ⊢
      split_ifs at hfresh ⊢ with hm hr
      · exact h
      · exact h.outside hfresh rfl rfl rfl (by simp [ht]) (by simp)
      · exact h.enterUnInit (Bool.eq_false_iff.2 hm) hfresh
    | releasing =>
      exact h.inside hfresh (by simp [ht]) rfl h.offline (fun _ => rfl)
        (fun _ hi => Bool.false_ne_true hi) fun _ _ => rfl
    | uninited =>
      have hin : (s.tasks.get id).inUnInit := by simp [ht]
      refine h.inside hfresh hin rfl (fun hf => absurd hf Bool.false_ne_true)
        (fun _ => rfl) (fun hr hi => ?_) fun _ hf => absurd hf Bool.false_ne_true
      have hphase := h.phase_of_inited hin hr hi
      rw [ht] at hphase
      cases hphase
    | released =>
      have hin : (s.tasks.get id).inUnInit := by simp [ht]
      simp only [offLineTask] at hfresh ⊢
      rcases s.checkExitSAOrNot_cases dmOnline hdfInuse with hs | hs <;> rw [hs] at hfresh ⊢
      · refine h.inside hfresh hin rfl h.offline (fun hn => absurd hn (by simp))
          (fun hr hi => ?_) fun hr hf => ?_
        · have hphase := h.phase_of_inited hin hr hi
          rw [ht] at hphase
          cases hphase
        · have hphase := h.phase_of_flagged hin hr hf
          rw [ht] at hphase
          rcases hphase with hphase | hphase <;> cases hphase
      · exact h.inside hfresh hin rfl h.offline (fun hn => absurd hn (by simp))
          (fun hr _ => Bool.false_ne_true hr) fun hr _ => absurd hr Bool.false_ne_true

theorem Guarded.step (h : s.Guarded) (l : DeviceStep) : (s.step l).Guarded := by
  cases l with
  | sendOnLineEvent param dropped =>
    show (s.sendOnLineEvent param dropped).2.Guarded
    cases ha : s.acceptsOnLine param with
    | false => rwa [(sendOnLineEvent_of_not_accepts ha dropped).2]
    | true =>
      rw [sendOnLineEvent_of_accepts ha dropped]
      have hflag : s.flagUnInit_ = false := (acceptsOnLine_iff.1 ha).2.1
      have hon : ({ s with context := s.onLineContext param } : DeviceLife).Guarded :=
        ⟨h.fresh, fun hf => absurd (hf.symm.trans hflag) Bool.noConfusion, h.holder, h.inited,
          h.flagged⟩
      exact hon.ensureInit.pushTask (by simp)
  | sendOffLineEvent param dropped =>
    show (s.sendOffLineEvent param dropped).2.Guarded
    cases ha : s.acceptsOffLine param with
    | false =>
      rcases (sendOffLineEvent_of_not_accepts ha dropped).2 with hs | hs <;> rw [hs]
      · exact h
      · exact h.ensureInit
    | true =>
      rw [sendOffLineEvent_of_accepts ha dropped]
      exact (h.goOffLine param).pushTask (by simp)
  | addIsomerismConnectDev isomerismDeviceId =>
    refine ⟨h.fresh, fun hf => ?_, h.holder, h.inited, h.flagged⟩
    rw [← h.offline hf]
    exact DHContext.addIsomerismConnectDev_realTimeOnLineNetworkIdSet_
  | delIsomerismConnectDev isomerismDeviceId =>
    refine ⟨h.fresh, fun hf => ?_, h.holder, h.inited, h.flagged⟩
    rw [← h.offline hf]
    exact DHContext.delIsomerismConnectDev_realTimeOnLineNetworkIdSet_
  | init => exact h.init
  | checkExitSAOrNot dmOnline hdfInuse =>
    show (s.checkExitSAOrNot dmOnline hdfInuse).Guarded
    rcases s.checkExitSAOrNot_cases dmOnline hdfInuse with hs | hs <;> rw [hs]
    · exact h
    · exact h.init
  | advance id dmOnline hdfInuse => exact h.advance id dmOnline hdfInuse

/-! ## The flag -/

/-- A set flag has a task that is still to clear it, so where there is none a new device is
accepted. -/
structure FlagAnswered (s : DeviceLife) : Prop where
  pending : s.flagUnInit_ = true → 0 < s.pendingUnInit
  accepts : s.pendingUnInit = 0 → ∀ param dropped, param.isValid = true →
    s.context.isDeviceOnline param.uuid = false →
    (s.sendOnLineEvent param dropped).1 = DH_FWK_SUCCESS

theorem flagAnswered_iff : s.FlagAnswered ↔ (s.flagUnInit_ = true → 0 < s.pendingUnInit) := by
  refine ⟨FlagAnswered.pending, fun h => ⟨h, fun hzero param dropped hv ho => ?_⟩⟩
  have hflag : s.flagUnInit_ = false := by
    rw [← Bool.not_eq_true]
    intro hf
    have hpos := h hf
    omega
  rw [sendOnLineEvent_of_accepts (acceptsOnLine_iff.2 ⟨hv, hflag, ho⟩) dropped]

/-- The task of a device that goes offline as the last one is queued, and a task that tests
for `UnInit` with the flag set finds no device of another system, unless another task is
still to clear the flag. -/
def UnInitFollows (s : DeviceLife) : DeviceStep → Prop
  | .sendOffLineEvent param dropped => s.acceptsOffLine param = true → dropped = true →
      (s.context.deleteRealTimeOnlineDeviceNetworkId param.networkId).isDeserted = true →
      0 < s.pendingUnInit
  | .advance id _ _ => s.flagUnInit_ = true → (s.tasks.get id).phase = some .removed →
      s.context.getIsomerismConnectCount ≠ 0 → 2 ≤ s.pendingUnInit
  | _ => True

instance (s : DeviceLife) : ∀ l, Decidable (s.UnInitFollows l)
  | .sendOnLineEvent _ _ => inferInstanceAs (Decidable True)
  | .sendOffLineEvent _ _ => inferInstanceAs (Decidable (_ → _))
  | .addIsomerismConnectDev _ => inferInstanceAs (Decidable True)
  | .delIsomerismConnectDev _ => inferInstanceAs (Decidable True)
  | .init => inferInstanceAs (Decidable True)
  | .checkExitSAOrNot _ _ => inferInstanceAs (Decidable True)
  | .advance _ _ _ => inferInstanceAs (Decidable (_ → _))

/-- A notification that a device goes offline. -/
theorem pending_offLine_iff (h : s.Guarded) (hs : s.flagUnInit_ = true → 0 < s.pendingUnInit) :
    ((s.sendOffLineEvent param dropped).2.flagUnInit_ = true →
        0 < (s.sendOffLineEvent param dropped).2.pendingUnInit) ↔
      s.UnInitFollows (.sendOffLineEvent param dropped) := by
  have hensure : s.ensureInit.pendingUnInit = s.pendingUnInit := taskCount_congr ensureInit_tasks
  cases ha : s.acceptsOffLine param with
  | false =>
    refine iff_of_true ?_ fun ha' => absurd (ha'.symm.trans ha) Bool.noConfusion
    rcases (sendOffLineEvent_of_not_accepts ha dropped).2 with he | he <;> rw [he]
    · exact hs
    · rwa [ensureInit_flagUnInit_, hensure]
  | true =>
    have hgo : (s.goOffLine param).pendingUnInit = s.pendingUnInit := hensure
    have hfresh : (s.goOffLine param).Fresh := (h.goOffLine param).fresh
    rw [sendOffLineEvent_of_accepts ha dropped, pushTask_flagUnInit_]
    cases dropped with
    | false =>
      refine iff_of_true (fun _ => ?_) fun _ hd => absurd hd Bool.false_ne_true
      rw [pendingUnInit, taskCount_pushTask rfl hfresh]
      exact Nat.succ_pos _
    | true =>
      have hdropped : ((s.goOffLine param).pushTask (.offLine param .waiting) true).pendingUnInit =
          s.pendingUnInit := hgo
      rw [hdropped]
      constructor
      · exact fun hp _ _ hd => hp (Bool.or_eq_true_iff.2 (Or.inr hd))
      · intro hu hf
        rcases Bool.or_eq_true_iff.1 hf with hf | hd
        · exact hs hf
        · exact hu ha rfl hd

/-- A task that tests whether any device is left. -/
theorem pending_removed_iff {dmOnline hdfInuse : Bool} (h : s.Guarded)
    (ht : s.tasks.get id = .offLine param .removed)
    (hs : s.flagUnInit_ = true → 0 < s.pendingUnInit) :
    ((s.offLineTask id param dmOnline hdfInuse .removed).flagUnInit_ = true →
        0 < (s.offLineTask id param dmOnline hdfInuse .removed).pendingUnInit) ↔
      s.UnInitFollows (.advance id dmOnline hdfInuse) := by
  have hphase : (s.tasks.get id).phase = some .removed := by rw [ht]; rfl
  cases hd : s.context.isDeserted with
  | true =>
    have htask : s.offLineTask id param dmOnline hdfInuse .removed =
        s.setTask id (.offLine param .deserted) := by simp [offLineTask, hd]
    have hiso : s.context.getIsomerismConnectCount = 0 := (of_decide_eq_true hd).2
    refine iff_of_true (fun hf => ?_) fun _ _ hne => absurd hiso hne
    rw [htask] at hf ⊢
    rw [pendingUnInit, taskCount_of_same rfl rfl (by rw [ht]; rfl)]
    exact hs hf
  | false =>
    have htask : s.offLineTask id param dmOnline hdfInuse .removed = s.setTask id .finished := by
      simp [offLineTask, hd]
    have hcount : ((s.setTask id .finished).pendingUnInit : ℤ) = s.pendingUnInit - 1 := by
      have hset := taskCount_of_set (t := s.setTask id .finished) (q := DeviceTask.beforeClear)
        rfl rfl
      rw [ht] at hset
      simpa [DeviceTask.beforeClear, pendingUnInit] using hset
    rw [htask]
    constructor
    · intro hp hf _ _
      have hpos := hp hf
      omega
    · intro hu hf
      have hiso : s.context.getIsomerismConnectCount ≠ 0 := by
        intro hzero
        refine Bool.false_ne_true (hd.symm.trans (decide_eq_true ⟨?_, hzero⟩))
        rw [DHContext.getRealTimeOnlineDeviceCount, h.offline hf]
        rfl
      have htwo := hu hf hphase hiso
      omega

/-- A task that goes on. -/
theorem pending_advance_iff (h : s.Guarded) (id : ℕ) (dmOnline hdfInuse : Bool)
    (hs : s.flagUnInit_ = true → 0 < s.pendingUnInit) :
    ((s.advance id dmOnline hdfInuse).flagUnInit_ = true →
        0 < (s.advance id dmOnline hdfInuse).pendingUnInit) ↔
      s.UnInitFollows (.advance id dmOnline hdfInuse) := by
  -- a task that goes on as it counts, with the flag or without
  have hsame : ∀ {t : DeviceLife} {task : DeviceTask}, (t.flagUnInit_ = true →
      s.flagUnInit_ = true) → t.tasks = s.tasks.set id task →
      (s.tasks.get id).beforeClear = task.beforeClear →
      (t.flagUnInit_ = true → 0 < t.pendingUnInit) := by
    intro t task hflag ht htask hf
    rw [pendingUnInit, taskCount_of_same rfl ht htask]
    exact hs (hflag hf)
  -- only the test for `UnInit` is under the condition
  have helse : (s.tasks.get id).phase ≠ some .removed →
      s.UnInitFollows (.advance id dmOnline hdfInuse) := fun hne _ hp => absurd hp hne
  unfold DeviceLife.advance
  cases ht : s.tasks.get id with
  | finished => exact iff_of_true hs (helse (by simp [ht, DeviceTask.phase]))
  | onLine param =>
    exact iff_of_true (hsame (fun hf => hf) rfl (by rw [ht]; rfl))
      (helse (by simp [ht, DeviceTask.phase]))
  | offLine param phase =>
    by_cases hphase : phase = .removed
    · subst hphase
      exact pending_removed_iff h ht hs
    · refine iff_of_true ?_ (helse (by simpa [ht, DeviceTask.phase] using hphase))
      cases phase with
      | waiting => exact hsame (fun hf => hf) rfl (by rw [ht]; rfl)
      | removed => exact absurd rfl hphase
      | deserted =>
        simp only [offLineTask]
        split_ifs with hm hr
        · exact hs
        · have hflag : s.flagUnInit_ = false := h.flag_eq_false (Bool.eq_false_iff.2 hm) hr
          exact fun hf => absurd (hf.symm.trans hflag) Bool.noConfusion
        · exact hsame (fun hf => hf) rfl (by rw [ht]; rfl)
      | releasing => exact hsame (fun hf => hf) rfl (by rw [ht]; rfl)
      | uninited => exact fun hf => absurd hf Bool.false_ne_true
      | released =>
        simp only [offLineTask]
        rcases s.checkExitSAOrNot_cases dmOnline hdfInuse with he | he <;> rw [he]
        · exact hsame (fun hf => hf) rfl (by rw [ht]; rfl)
        · exact hsame (fun hf => hf) rfl (by rw [ht]; rfl)

/-- Where a set flag has a task that is still to clear it, a step keeps this exactly if it
meets the condition. -/
theorem flagAnswered_step_iff (l : DeviceStep) (h : s.Guarded) (hs : s.FlagAnswered) :
    (s.step l).FlagAnswered ↔ s.UnInitFollows l := by
  rw [flagAnswered_iff] at hs ⊢
  cases l with
  | sendOnLineEvent param dropped =>
    refine iff_of_true ?_ trivial
    show (s.sendOnLineEvent param dropped).2.flagUnInit_ = true →
      0 < (s.sendOnLineEvent param dropped).2.pendingUnInit
    cases ha : s.acceptsOnLine param with
    | false => rwa [(sendOnLineEvent_of_not_accepts ha dropped).2]
    | true =>
      have hflag : s.flagUnInit_ = false := (acceptsOnLine_iff.1 ha).2.1
      rw [sendOnLineEvent_of_accepts ha dropped, pushTask_flagUnInit_, ensureInit_flagUnInit_]
      exact fun hf => absurd (hf.symm.trans hflag) Bool.noConfusion
  | sendOffLineEvent param dropped => exact pending_offLine_iff h hs
  | addIsomerismConnectDev isomerismDeviceId => exact iff_of_true hs trivial
  | delIsomerismConnectDev isomerismDeviceId => exact iff_of_true hs trivial
  | init => exact iff_of_true hs trivial
  | checkExitSAOrNot dmOnline hdfInuse =>
    refine iff_of_true ?_ trivial
    show (s.checkExitSAOrNot dmOnline hdfInuse).flagUnInit_ = true →
      0 < (s.checkExitSAOrNot dmOnline hdfInuse).pendingUnInit
    rcases s.checkExitSAOrNot_cases dmOnline hdfInuse with he | he <;> rw [he] <;> exact hs
  | advance id dmOnline hdfInuse => exact pending_advance_iff h id dmOnline hdfInuse hs

end DeviceLife

/-! ## Runs -/

/-- The set flag has a task that is still to clear it, and where there is none a new device is
accepted, in every state that a run reaches, exactly if its steps all meet the condition. -/
theorem unInit_flag_iff (ls : List DeviceStep) :
    Along DeviceLife.step DeviceLife.UnInitFollows {} ls ↔
      ∀ pre post, ls = pre ++ post → (pre.foldl DeviceLife.step {}).FlagAnswered := by
  have hguarded : ∀ (s : DeviceLife) (l : DeviceStep), s.Guarded → (s.step l).Guarded :=
    fun _ l h => h.step l
  have hstep : ∀ (s : DeviceLife) (l : DeviceStep), s.Guarded → s.FlagAnswered →
      ((s.step l).FlagAnswered ↔ s.UnInitFollows l) := fun _ l h hs =>
    DeviceLife.flagAnswered_step_iff l h hs
  have hinit : ({} : DeviceLife).FlagAnswered :=
    DeviceLife.flagAnswered_iff.2 fun hf => absurd hf Bool.false_ne_true
  exact along_iff hguarded hstep ls DeviceLife.Guarded.start hinit

/-- The only device goes offline, and a device of another system connects before its task
tests whether any device is left. -/
def connectBeforeTest : List DeviceStep :=
  [.sendOnLineEvent ⟨"n", "u", "d"⟩ false, .advance 0 true true,
    .sendOffLineEvent ⟨"n", "u", "d"⟩ false, .advance 1 true true,
    .addIsomerismConnectDev "i", .advance 1 true true]

/-- No task is left in the end, but no device can come online. -/
theorem unInit_flag_left :
    ¬ ∀ ls : List DeviceStep, (ls.foldl DeviceLife.step {}).FlagAnswered := by
  intro h
  have hnew := (h connectBeforeTest).accepts (by decide) ⟨"m", "v", "e"⟩ false (by decide)
    (by decide)
  revert hnew
  decide

end DHFwk
