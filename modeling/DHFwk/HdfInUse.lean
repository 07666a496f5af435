import DHFwk.HdfOperate
import DHFwk.Runs

/-!
# The count of loads in use

The manager keeps one count beside the counts of its operators. `imbalance` is what the one
is above the sum of the others. A call shifts it in two cases only : an
unload that finds an operator without loads, left by a first load that failed or by a
reset, and a reset of an operator with loads. So the counts agree after every call of a run
exactly if neither happens in it (`hdf_inuse_iff`).
-/

set_option linter.unusedSectionVars false

namespace DHFwk

variable {Lib : Type}

namespace HdfOperateManager

/-- The sum of the counts of the operators. -/
def sumLoadRef (m : HdfOperateManager Lib) : Int :=
  m.hdfOperateMap_.sum fun _ hdfOperate => hdfOperate.hdfLoadRef_

/-- The driver of a type is loaded. -/
def IsLoaded (m : HdfOperateManager Lib) (t : DHType) : Prop :=
  0 < (m.hdfOperateMap_.get t).hdfLoadRef_

/-- How far the count of the manager is above the counts of its operators. -/
def imbalance (m : HdfOperateManager Lib) : Int :=
  m.hdfInuseRefCount_ - m.sumLoadRef

/-- No operator counts below zero. -/
def LoadsNonneg (m : HdfOperateManager Lib) : Prop :=
  ∀ t, 0 ≤ (m.hdfOperateMap_.get t).hdfLoadRef_

variable {m : HdfOperateManager Lib}

theorem LoadsNonneg.sumLoadRef (h : m.LoadsNonneg) : 0 ≤ m.sumLoadRef :=
  Table.sum_nonneg m.hdfOperateMap_ h

theorem LoadsNonneg.sumLoadRef_pos_iff (h : m.LoadsNonneg) :
    0 < m.sumLoadRef ↔ ∃ t, m.IsLoaded t :=
  Table.sum_pos_iff m.hdfOperateMap_ (fun _ => rfl) h

end HdfOperateManager

/-! ## One call -/

namespace HdfOperateManager

variable {m m' : HdfOperateManager Lib} {o : HdfOutcome Lib} {t : DHType}
  {hdfOperate : HdfOperator Lib}

/-- Writing back an operator shifts the sum by its count. -/
theorem sumLoadRef_set (m : HdfOperateManager Lib) (t : DHType) (hdfOperate : HdfOperator Lib) :
    (m.hdfOperateMap_.set t hdfOperate).sum (fun _ hdfOperate => hdfOperate.hdfLoadRef_) =
      m.sumLoadRef - (m.hdfOperateMap_.get t).hdfLoadRef_ + hdfOperate.hdfLoadRef_ :=
  Table.sum_set (fun _ => rfl) m.hdfOperateMap_ t hdfOperate

theorem loadsNonneg_set (h : m.LoadsNonneg) (hr : 0 ≤ hdfOperate.hdfLoadRef_) (t' : DHType) :
    0 ≤ ((m.hdfOperateMap_.set t hdfOperate).get t').hdfLoadRef_ := by
  rw [Table.get_set]
  split_ifs
  · exact hr
  · exact h t'

/-- Finding or creating an operator moves no count. -/
theorem findOrCreate_counts (h : m.findOrCreate o t = .ok (hdfOperate, m')) :
    m'.imbalance = m.imbalance ∧ m'.hdfInuseRefCount_ = m.hdfInuseRefCount_ ∧
      (m.LoadsNonneg → m'.LoadsNonneg) ∧ m'.hdfOperateMap_.get t = hdfOperate := by
  rcases findOrCreate_cases h with ⟨hl, rfl⟩ | ⟨hl, ptr, m₁, hs, rfl, rfl⟩
  · exact ⟨rfl, rfl, id, Table.get_of_lookup hl⟩
  · obtain ⟨hmap, huse⟩ := sameLoads_sourcePtr hs
    refine ⟨?_, huse, fun hn t' => ?_, Table.get_set_self ..⟩
    · have hsum := sumLoadRef_set m t { sourcePtr_ := ptr }
      rw [Table.get_of_lookup_none hl] at hsum
      unfold imbalance
      rw [huse, sumLoadRef, hmap, hsum]
      show _ - (m.sumLoadRef - 0 + 0) = _
      omega
    · rw [hmap]
      exact loadsNonneg_set hn le_rfl t'

/-- A load keeps the imbalance. -/
theorem imbalance_load (o : HdfOutcome Lib) (t : DHType) (m : HdfOperateManager Lib) :
    (m.loadDistributedHDF o t).manager.imbalance = m.imbalance := by
  rcases m.loadDistributedHDF_cases o t with h | ⟨hdfOperate, m', hf, h | h⟩
  · rw [h]
  all_goals
    obtain ⟨hi, -, -, hg⟩ := findOrCreate_counts hf
    rw [h, ← hi]
    rw [imbalance, imbalance, sumLoadRef, sumLoadRef_set, hg]
    dsimp only
    omega

/-- The end of an unload takes one off the count of the manager, and off the sum what the
operator counts less than before; an operator below zero is gone like one at zero. -/
theorem imbalance_finishUnLoad (o : HdfOutcome Lib) (t : DHType) (m : HdfOperateManager Lib)
    (hdfOperate : HdfOperator Lib) : (m.finishUnLoad o t hdfOperate).manager.imbalance =
      m.imbalance - 1 + (m.hdfOperateMap_.get t).hdfLoadRef_ - max hdfOperate.hdfLoadRef_ 0 := by
  have herased : (m.hdfOperateMap_.remove t).sum (fun _ hdfOperate => hdfOperate.hdfLoadRef_) =
      m.sumLoadRef - (m.hdfOperateMap_.get t).hdfLoadRef_ :=
    Table.sum_remove (fun _ => rfl) m.hdfOperateMap_ t
  rw [imbalance, sumLoadRef, finishUnLoad_hdfOperateMap, finishUnLoad_hdfInuseRefCount, imbalance]
  by_cases hr : hdfOperate.hdfLoadRef_ ≤ 0
  · rw [if_pos hr, herased]
    omega
  · rw [if_neg hr, sumLoadRef_set]
    omega

theorem loadsNonneg_finishUnLoad (h : m.LoadsNonneg) :
    (m.finishUnLoad o t hdfOperate).manager.LoadsNonneg := by
  intro t'
  rw [finishUnLoad_hdfOperateMap]
  by_cases hr : hdfOperate.hdfLoadRef_ ≤ 0
  · rw [if_pos hr, Table.get_remove]
    split_ifs
    · exact le_rfl
    · exact h t'
  · rw [if_neg hr]
    exact loadsNonneg_set h (by omega) t'

theorem loadsNonneg_load (h : m.LoadsNonneg) :
    (m.loadDistributedHDF o t).manager.LoadsNonneg := by
  rcases m.loadDistributedHDF_cases o t with hr | ⟨hdfOperate, m', hf, hr⟩
  · rw [hr]
    exact h
  · obtain ⟨-, -, hn, hg⟩ := findOrCreate_counts hf
    have ht : 0 ≤ hdfOperate.hdfLoadRef_ := hg ▸ hn h t
    rcases hr with hr | hr
    · rw [hr]
      exact loadsNonneg_set (hn h) (show 0 ≤ hdfOperate.hdfLoadRef_ + 1 by omega)
    · rw [hr]
      exact loadsNonneg_set (hn h) ht

theorem loadsNonneg_unLoad (h : m.LoadsNonneg) :
    (m.unLoadDistributedHDF o t).manager.LoadsNonneg := by
  rcases m.unLoadDistributedHDF_cases o t with ⟨-, hr⟩ | ⟨_, -, ⟨-, hr⟩ | ⟨-, hr⟩ | ⟨-, hr⟩⟩
  · rwa [hr]
  · rw [hr]
    exact loadsNonneg_finishUnLoad h
  · rw [hr]
    exact loadsNonneg_finishUnLoad h
  · rwa [hr]

theorem loadsNonneg_resetRefCount (h : m.LoadsNonneg) : (m.resetRefCount t).LoadsNonneg := by
  unfold resetRefCount
  split
  · exact h
  · exact fun t' => loadsNonneg_set h le_rfl t'

/-- A reset leaves the loads it takes off in the count of the manager. -/
theorem imbalance_resetRefCount (t : DHType) (m : HdfOperateManager Lib) :
    (m.resetRefCount t).imbalance = m.imbalance + (m.hdfOperateMap_.get t).hdfLoadRef_ := by
  unfold resetRefCount
  split
  · rename_i hl
    rw [Table.get_of_lookup_none hl]
    exact (add_zero _).symm
  · rw [imbalance, imbalance, sumLoadRef, sumLoadRef_set, HdfOperator.resetRefCount]
    dsimp only
    omega

/-- A last unload creates the task with no load left in the count. -/
theorem exitDfwk_unLoad (h : (m.unLoadDistributedHDF o t).exitDfwk = true) :
    (m.unLoadDistributedHDF o t).manager.hdfInuseRefCount_ ≤ 0 := by
  rcases m.unLoadDistributedHDF_cases o t with ⟨-, hr⟩ | ⟨_, -, ⟨-, hr⟩ | ⟨-, hr⟩ | ⟨-, hr⟩⟩
  · rw [hr] at h
    cases h
  · rw [hr] at h ⊢
    exact of_decide_eq_true h
  · rw [hr] at h ⊢
    exact of_decide_eq_true h
  · rw [hr] at h
    cases h

end HdfOperateManager

/-! ## Runs -/

namespace HdfResult

/-- The counts agree : the count of the manager is the sum of the counts of the operators and
not negative, it says whether a driver is loaded, and the task that ends the service is
created only when none is. -/
structure InUse (r : HdfResult Lib) : Prop where
  hdfInuseRefCount_eq : r.manager.hdfInuseRefCount_ = r.manager.sumLoadRef
  hdfInuseRefCount_nonneg : 0 ≤ r.manager.hdfInuseRefCount_
  isAnyHdfInuse_iff : r.manager.isAnyHdfInuse = true ↔ ∃ t, r.manager.IsLoaded t
  exitDfwk : r.exitDfwk = true → ¬∃ t, r.manager.IsLoaded t

/-- The call does not unload an operator without loads, and does not reset one with loads. -/
def Balanced (r : HdfResult Lib) (l : HdfStep Lib) : Prop :=
  match l.op with
  | .load _ => True
  | .unLoad t => r.manager.hdfOperateMap_.lookup t ≠ none → r.manager.IsLoaded t
  | .resetRefCount t => ¬r.manager.IsLoaded t

/-- What every call keeps. -/
structure Sound (r : HdfResult Lib) : Prop where
  loads : r.manager.LoadsNonneg
  exitDfwk : r.exitDfwk = true → r.manager.hdfInuseRefCount_ ≤ 0

variable {r : HdfResult Lib} {l : HdfStep Lib}

theorem sound_init : (init : HdfResult Lib).Sound where
  loads _ := le_rfl
  exitDfwk h := absurd h Bool.false_ne_true

theorem Sound.step (h : r.Sound) (l : HdfStep Lib) : (r.step l).Sound := by
  obtain ⟨op, o⟩ := l
  cases op with
  | load t =>
    refine ⟨HdfOperateManager.loadsNonneg_load h.loads, fun he => ?_⟩
    have hno : (r.manager.loadDistributedHDF o t).exitDfwk = false := by
      rcases r.manager.loadDistributedHDF_cases o t with hr | ⟨_, _, -, hr | hr⟩
      all_goals rw [hr]
    exact absurd (hno.symm.trans he) Bool.false_ne_true
  | unLoad t =>
    exact ⟨HdfOperateManager.loadsNonneg_unLoad h.loads, HdfOperateManager.exitDfwk_unLoad⟩
  | resetRefCount t =>
    exact ⟨HdfOperateManager.loadsNonneg_resetRefCount h.loads,
      fun he => absurd he Bool.false_ne_true⟩

/-- The counts agree exactly if the count of the manager is the sum of the others. -/
theorem Sound.inUse_iff (h : r.Sound) : r.InUse ↔ r.manager.imbalance = 0 := by
  have hsum := h.loads.sumLoadRef
  constructor
  · intro hu
    exact sub_eq_zero.2 hu.hdfInuseRefCount_eq
  · intro hi
    have heq : r.manager.hdfInuseRefCount_ = r.manager.sumLoadRef := sub_eq_zero.1 hi
    refine ⟨heq, heq ▸ hsum, ?_, fun he hl => ?_⟩
    · rw [← h.loads.sumLoadRef_pos_iff, ← heq, HdfOperateManager.isAnyHdfInuse, decide_eq_true_eq]
    · have hexit := h.exitDfwk he
      have hpos := h.loads.sumLoadRef_pos_iff.2 hl
      omega

/-- Where the counts agree, a call keeps them so exactly if it is balanced. -/
theorem Sound.imbalance_step (h : r.Sound) (hi : r.manager.imbalance = 0) (l : HdfStep Lib) :
    (r.step l).manager.imbalance = 0 ↔ r.Balanced l := by
  obtain ⟨op, o⟩ := l
  cases op with
  | load t => exact iff_of_true ((r.manager.imbalance_load o t).trans hi) trivial
  | unLoad t =>
    show (r.manager.unLoadDistributedHDF o t).manager.imbalance = 0 ↔ (_ → _)
    have h0 := h.loads t
    rcases r.manager.unLoadDistributedHDF_cases o t with
      ⟨hl, hr⟩ | ⟨op, hl, ⟨href, hr⟩ | ⟨href, hr⟩ | ⟨href, hr⟩⟩
    · exact iff_of_true (hr ▸ hi) fun hne => absurd hl hne
    all_goals
      have hget := Table.get_of_lookup hl
      rw [HdfOperateManager.IsLoaded, hget, hr]
      rw [hget] at h0
    · rw [HdfOperateManager.imbalance_finishUnLoad, hi, hget]
      refine iff_of_false (by omega) fun hload => ?_
      have hpos := hload (hl ▸ Option.some_ne_none op)
      omega
    · rw [HdfOperateManager.imbalance_finishUnLoad, hi, hget]
      exact iff_of_true (by dsimp only; omega) fun _ => href
    · exact iff_of_true hi fun _ => by omega
  | resetRefCount t =>
    show (r.manager.resetRefCount t).imbalance = 0 ↔ ¬_
    have h0 := h.loads t
    rw [HdfOperateManager.imbalance_resetRefCount, hi, HdfOperateManager.IsLoaded]
    omega

end HdfResult

/-- The counts agree after every call of a run exactly if no call of it unloads an operator
without loads or resets one with loads. -/
theorem hdf_inuse_iff (steps : List (HdfStep Lib)) :
    Runs.Along HdfResult.step HdfResult.Balanced HdfResult.init steps ↔
      ∀ pre post, steps = pre ++ post → (pre.foldl HdfResult.step HdfResult.init).InUse := by
  have hsound : ∀ (r : HdfResult Lib) (l : HdfStep Lib), r.Sound → (r.step l).Sound :=
    fun r l h => h.step l
  refine Runs.along_iff hsound (fun r l h hu => ?_) steps HdfResult.sound_init
    (HdfResult.sound_init.inUse_iff.2 rfl)
  rw [(h.step l).inUse_iff]
  exact h.imbalance_step (h.inUse_iff.1 hu) l

/-- A camera is not loaded at the first attempt : the unload that follows takes off the load
of the audio, and the service is told to end. And a reset leaves its load in the count. -/
theorem hdf_inuse_drift :
    let load (t : DHType) (code : Int) : HdfStep Unit :=
      { op := .load t, outcome := { dlopen := none, load := code } }
    let other (op : HdfOp) : HdfStep Unit := { op := op, outcome := { dlopen := none } }
    let run (steps : List (HdfStep Unit)) := steps.foldl HdfResult.step HdfResult.init
    let ended := run [load DHType.AUDIO 0, load .CAMERA ERR_DH_FWK_NO_HDF_SUPPORT,
      other (.unLoad .CAMERA)]
    let reset := run [load DHType.AUDIO 0, other (.resetRefCount DHType.AUDIO)]
    (ended.exitDfwk, ended.manager.hdfInuseRefCount_, ended.manager.sumLoadRef) = (true, 0, 1) ∧
      (reset.manager.isAnyHdfInuse, reset.manager.sumLoadRef) = (true, 0) := by
  decide

end DHFwk
