import DHFwk.Basic

/-!
# Loading hardware drivers

`HdfOperator` and `HdfOperateManager` of `hdf_operate.cpp`. An operator counts the loads of
the driver of its type (`hdfLoadRef_`) and asks its source to load it at the first and to
unload it at the last. The manager keeps an operator for each type that has been loaded,
counts the loads of all types (`hdfInuseRefCount_`), and opens the library of a type itself
when the component loader has no source for it (`sourceHandlerDataMap_`).

A source pointer is known by where it comes from : the component loader, or the library
with a given handle. `HdfOutcome` are the answers of the loader, of the dynamic linker and
of the source, which are free.
-/

namespace DHFwk

/-- Where a source pointer comes from. -/
inductive SourcePtr (Lib : Type)
  | loader
  | library (sourceHandler : Lib)
  deriving DecidableEq, Repr, Inhabited

/-- `HdfOperator`. -/
structure HdfOperator (Lib : Type) where
  sourcePtr_ : SourcePtr Lib
  hdfLoadRef_ : Int := 0
  deriving DecidableEq, Repr

instance {Lib : Type} : Inhabited (HdfOperator Lib) :=
  ⟨{ sourcePtr_ := .loader }⟩

/-- `SourceHandlerData`; its source pointer is the one out of `sourceHandler`. -/
structure SourceHandlerData (Lib : Type) where
  refCount : Int
  sourceHandler : Lib
  deriving DecidableEq, Repr

/-- The answers that one call gets : from the component loader, from `dlopen` and `dlsym`,
from the function that `dlsym` finds, from the source, and from `dlclose`. -/
structure HdfOutcome (Lib : Type) where
  getSource : Int := DH_FWK_SUCCESS
  dlopen : Option Lib
  dlsym : Bool := true
  getSourceHardware : Bool := true
  load : Int := DH_FWK_SUCCESS
  unLoad : Int := DH_FWK_SUCCESS
  dlclose : Int := 0

/-! ## One operator -/

namespace HdfOperator

variable {Lib : Type} (o : HdfOutcome Lib) (hdfOperate : HdfOperator Lib)

/-- `HdfOperator::LoadDistributedHDF`. -/
def loadDistributedHDF : Int × HdfOperator Lib :=
  if hdfOperate.hdfLoadRef_ > 0 then
    (DH_FWK_SUCCESS, { hdfOperate with hdfLoadRef_ := hdfOperate.hdfLoadRef_ + 1 })
  else if o.load ≠ DH_FWK_SUCCESS then (o.load, hdfOperate)
  else (DH_FWK_SUCCESS, { hdfOperate with hdfLoadRef_ := hdfOperate.hdfLoadRef_ + 1 })

/-- `HdfOperator::UnLoadDistributedHDF`. -/
def unLoadDistributedHDF : Int × HdfOperator Lib :=
  if hdfOperate.hdfLoadRef_ ≤ 0 then (DH_FWK_SUCCESS, hdfOperate)
  else if hdfOperate.hdfLoadRef_ > 1 then
    (DH_FWK_SUCCESS, { hdfOperate with hdfLoadRef_ := hdfOperate.hdfLoadRef_ - 1 })
  else if o.unLoad ≠ DH_FWK_SUCCESS then (o.unLoad, hdfOperate)
  else (DH_FWK_SUCCESS, { hdfOperate with hdfLoadRef_ := hdfOperate.hdfLoadRef_ - 1 })

/-- `HdfOperator::ResetRefCount`. -/
def resetRefCount : HdfOperator Lib :=
  { hdfOperate with hdfLoadRef_ := 0 }

/-- `HdfOperator::IsNeedErase`. -/
def isNeedErase : Bool :=
  decide (hdfOperate.hdfLoadRef_ ≤ 0)

/-- A load adds one, or fails where nothing is loaded. -/
theorem loadDistributedHDF_cases :
    hdfOperate.loadDistributedHDF o =
        (DH_FWK_SUCCESS, { hdfOperate with hdfLoadRef_ := hdfOperate.hdfLoadRef_ + 1 }) ∨
      (hdfOperate.loadDistributedHDF o).1 ≠ DH_FWK_SUCCESS ∧
        (hdfOperate.loadDistributedHDF o).2 = hdfOperate := by
  unfold loadDistributedHDF
  split_ifs with hl hr
  · exact Or.inl rfl
  · exact Or.inr ⟨hr, rfl⟩
  · exact Or.inl rfl

/-- An unload takes one off if there is one, or fails at the last. -/
theorem unLoadDistributedHDF_cases :
    hdfOperate.unLoadDistributedHDF o = (DH_FWK_SUCCESS, hdfOperate) ∧
        hdfOperate.hdfLoadRef_ ≤ 0 ∨
      hdfOperate.unLoadDistributedHDF o =
          (DH_FWK_SUCCESS, { hdfOperate with hdfLoadRef_ := hdfOperate.hdfLoadRef_ - 1 }) ∧
        0 < hdfOperate.hdfLoadRef_ ∨
      (hdfOperate.unLoadDistributedHDF o).1 ≠ DH_FWK_SUCCESS ∧
        (hdfOperate.unLoadDistributedHDF o).2 = hdfOperate ∧ hdfOperate.hdfLoadRef_ = 1 := by
  unfold unLoadDistributedHDF
  split_ifs with hl hk hr
  · exact Or.inl ⟨rfl, hl⟩
  · exact Or.inr (Or.inl ⟨rfl, by omega⟩)
  · exact Or.inr (Or.inr ⟨hr, rfl, by omega⟩)
  · exact Or.inr (Or.inl ⟨rfl, by omega⟩)

/-- Where the source unloads, an unload of an operator with loads takes one off. -/
theorem unLoadDistributedHDF_of_pos (hl : 0 < hdfOperate.hdfLoadRef_)
    (ho : o.unLoad = DH_FWK_SUCCESS) : hdfOperate.unLoadDistributedHDF o =
      (DH_FWK_SUCCESS, { hdfOperate with hdfLoadRef_ := hdfOperate.hdfLoadRef_ - 1 }) := by
  unfold unLoadDistributedHDF
  rw [if_neg (not_le.2 hl), if_neg (not_not.2 ho)]
  exact ite_self _

end HdfOperator

/-! ## The manager -/

/-- `HdfOperateManager`, and what the last `dlclose` for each type returned. -/
structure HdfOperateManager (Lib : Type) where
  hdfOperateMap_ : Table DHType (HdfOperator Lib) := ∅
  sourceHandlerDataMap_ : Table DHType (SourceHandlerData Lib) := ∅
  hdfInuseRefCount_ : Int := 0
  lastDlclose : Table DHType Int := ∅

/-- What a call returns, whether it created the `EXIT_DFWK` task, and what it leaves. -/
structure HdfResult (Lib : Type) where
  ret : Int := DH_FWK_SUCCESS
  exitDfwk : Bool := false
  manager : HdfOperateManager Lib

/-- The types whose library can be opened. -/
def hasSourceLoc (dhType : DHType) : Bool :=
  dhType = DHType.AUDIO ∨ dhType = DHType.CAMERA

namespace HdfOperateManager

variable {Lib : Type} (o : HdfOutcome Lib) (dhType : DHType) (m : HdfOperateManager Lib)

/-- `RigidGetSourcePtr` : a source pointer out of the library of a type, opening the library
if it is not open. -/
def rigidGetSourcePtr : Except Int (SourcePtr Lib × HdfOperateManager Lib) :=
  match m.sourceHandlerDataMap_.lookup dhType with
  | some data =>
    let data := { data with refCount := data.refCount + 1 }
    .ok (.library data.sourceHandler,
      { m with sourceHandlerDataMap_ := m.sourceHandlerDataMap_.set dhType data })
  | none =>
    if ¬hasSourceLoc dhType then .error ERR_DH_FWK_NO_HDF_SUPPORT
    else match o.dlopen with
      | none => .error ERR_DH_FWK_LOADER_HANDLER_IS_NULL
      | some sourceHandler =>
        if ¬o.dlsym ∨ ¬o.getSourceHardware then .error ERR_DH_FWK_LOADER_HANDLER_IS_NULL
        else
          let data : SourceHandlerData Lib := { refCount := 1, sourceHandler := sourceHandler }
          .ok (.library sourceHandler,
            { m with sourceHandlerDataMap_ := m.sourceHandlerDataMap_.set dhType data })

/-- `RigidReleaseSourcePtr` : the last release closes the library. -/
def rigidReleaseSourcePtr : Int × HdfOperateManager Lib :=
  match m.sourceHandlerDataMap_.lookup dhType with
  | none => (DH_FWK_SUCCESS, m)
  | some data =>
    if data.refCount > 1 then
      let data := { data with refCount := data.refCount - 1 }
      (DH_FWK_SUCCESS,
        { m with sourceHandlerDataMap_ := m.sourceHandlerDataMap_.set dhType data })
    else
      let m := { m with lastDlclose := m.lastDlclose.set dhType o.dlclose }
      if o.dlclose ≠ 0 then (ERR_DH_FWK_LOADER_DLCLOSE_FAIL, m)
      else (DH_FWK_SUCCESS,
        { m with sourceHandlerDataMap_ := m.sourceHandlerDataMap_.remove dhType })

/-- The source pointer for a new operator : from the component loader, else out of the
library. -/
def sourcePtr : Except Int (SourcePtr Lib × HdfOperateManager Lib) :=
  if o.getSource ≠ DH_FWK_SUCCESS then m.rigidGetSourcePtr o dhType else .ok (.loader, m)

/-- Find the operator of a type, or create it. -/
def findOrCreate : Except Int (HdfOperator Lib × HdfOperateManager Lib) :=
  match m.hdfOperateMap_.lookup dhType with
  | some hdfOperate => .ok (hdfOperate, m)
  | none => (m.sourcePtr o dhType).map fun (ptr, m) =>
      let hdfOperate : HdfOperator Lib := { sourcePtr_ := ptr }
      (hdfOperate, { m with hdfOperateMap_ := m.hdfOperateMap_.set dhType hdfOperate })

/-- `HdfOperateManager::LoadDistributedHDF`. -/
def loadDistributedHDF : HdfResult Lib :=
  match m.findOrCreate o dhType with
  | .error ret => { ret := ret, manager := m }
  | .ok (hdfOperate, m) =>
    let (ret, hdfOperate) := hdfOperate.loadDistributedHDF o
    let m := { m with hdfOperateMap_ := m.hdfOperateMap_.set dhType hdfOperate }
    if ret = DH_FWK_SUCCESS then
      { ret := ret, manager := { m with hdfInuseRefCount_ := m.hdfInuseRefCount_ + 1 } }
    else { ret := ret, manager := m }

/-- The end of `HdfOperateManager::UnLoadDistributedHDF`, after the operator has been counted
down : it is erased once it has no loads, its library is released, and a last unload creates
the task that ends the service. -/
def finishUnLoad (hdfOperate : HdfOperator Lib) : HdfResult Lib :=
  let m := { m with hdfOperateMap_ :=
    if hdfOperate.isNeedErase then m.hdfOperateMap_.remove dhType
    else m.hdfOperateMap_.set dhType hdfOperate }
  let m := (m.rigidReleaseSourcePtr o dhType).2
  let m := { m with hdfInuseRefCount_ := m.hdfInuseRefCount_ - 1 }
  { exitDfwk := decide (m.hdfInuseRefCount_ ≤ 0), manager := m }

/-- `HdfOperateManager::UnLoadDistributedHDF`. -/
def unLoadDistributedHDF : HdfResult Lib :=
  match m.hdfOperateMap_.lookup dhType with
  | none => { manager := m }
  | some hdfOperate =>
    let (ret, hdfOperate) := hdfOperate.unLoadDistributedHDF o
    if ret = DH_FWK_SUCCESS then m.finishUnLoad o dhType hdfOperate
    else { ret := ret, manager := m }

/-- `HdfOperateManager::ResetRefCount`. -/
def resetRefCount : HdfOperateManager Lib :=
  match m.hdfOperateMap_.lookup dhType with
  | none => m
  | some hdfOperate =>
    { m with hdfOperateMap_ := m.hdfOperateMap_.set dhType hdfOperate.resetRefCount }

/-- `HdfOperateManager::IsAnyHdfInuse`. -/
def isAnyHdfInuse : Bool :=
  decide (m.hdfInuseRefCount_ > 0)

/-! ### What a call can do -/

variable {o dhType m}

/-- Opening and closing libraries leaves the operators and the count alone. -/
structure SameLoads (m m' : HdfOperateManager Lib) : Prop where
  hdfOperateMap_ : m'.hdfOperateMap_ = m.hdfOperateMap_
  hdfInuseRefCount_ : m'.hdfInuseRefCount_ = m.hdfInuseRefCount_

/-- A pointer out of the library counts its uses, or is the first. -/
theorem rigidGetSourcePtr_cases {ptr : SourcePtr Lib} {m' : HdfOperateManager Lib}
    (h : m.rigidGetSourcePtr o dhType = .ok (ptr, m')) :
    ∃ data : SourceHandlerData Lib, ptr = .library data.sourceHandler ∧
      m' = { m with sourceHandlerDataMap_ := m.sourceHandlerDataMap_.set dhType data } ∧
      (m.sourceHandlerDataMap_.lookup dhType = none ∧ data.refCount = 1 ∨
        ∃ old, m.sourceHandlerDataMap_.lookup dhType = some old ∧
          data = { old with refCount := old.refCount + 1 }) := by
  unfold rigidGetSourcePtr at h
  split at h
  · rename_i old hl
    obtain ⟨rfl, rfl⟩ := Prod.mk.inj (Except.ok.inj h)
    exact ⟨_, rfl, rfl, Or.inr ⟨old, hl, rfl⟩⟩
  · rename_i hl
    by_cases ht : hasSourceLoc dhType = true
    · rw [if_neg (not_not.2 ht)] at h
      split at h
      · cases h
      · by_cases hs : ¬o.dlsym = true ∨ ¬o.getSourceHardware = true
        · rw [if_pos hs] at h
          cases h
        · rw [if_neg hs] at h
          obtain ⟨rfl, rfl⟩ := Prod.mk.inj (Except.ok.inj h)
          exact ⟨_, rfl, rfl, Or.inl ⟨hl, rfl⟩⟩
    · rw [if_pos ht] at h
      cases h

theorem sameLoads_sourcePtr {ptr : SourcePtr Lib} {m' : HdfOperateManager Lib}
    (h : m.sourcePtr o dhType = .ok (ptr, m')) : SameLoads m m' := by
  unfold sourcePtr at h
  split_ifs at h
  · obtain ⟨data, -, rfl, -⟩ := rigidGetSourcePtr_cases h
    exact ⟨rfl, rfl⟩
  · obtain ⟨-, rfl⟩ := Prod.mk.inj (Except.ok.inj h)
    exact ⟨rfl, rfl⟩

/-- A release finds no library open, counts one use less, or is the last and closes it. -/
theorem rigidReleaseSourcePtr_cases (o : HdfOutcome Lib) (dhType : DHType)
    (m : HdfOperateManager Lib) :
    m.sourceHandlerDataMap_.lookup dhType = none ∧ (m.rigidReleaseSourcePtr o dhType).2 = m ∨
      ∃ data, m.sourceHandlerDataMap_.lookup dhType = some data ∧
        (1 < data.refCount ∧ (m.rigidReleaseSourcePtr o dhType).2 =
            { m with sourceHandlerDataMap_ := (m.sourceHandlerDataMap_.set dhType
                { data with refCount := data.refCount - 1 }) } ∨
          data.refCount ≤ 1 ∧ o.dlclose ≠ 0 ∧ (m.rigidReleaseSourcePtr o dhType).2 =
            { m with lastDlclose := m.lastDlclose.set dhType o.dlclose } ∨
          data.refCount ≤ 1 ∧ o.dlclose = 0 ∧ (m.rigidReleaseSourcePtr o dhType).2 =
            { m with
              sourceHandlerDataMap_ := m.sourceHandlerDataMap_.remove dhType,
              lastDlclose := m.lastDlclose.set dhType o.dlclose }) := by
  unfold rigidReleaseSourcePtr
  split
  · rename_i hl
    exact Or.inl ⟨hl, rfl⟩
  · rename_i data hl
    refine Or.inr ⟨data, hl, ?_⟩
    by_cases hr : data.refCount > 1
    · rw [if_pos hr]
      exact Or.inl ⟨hr, rfl⟩
    · rw [if_neg hr]
      refine Or.inr ?_
      by_cases hc : o.dlclose = 0
      · rw [if_neg (not_not.2 hc)]
        exact Or.inr ⟨not_lt.1 hr, hc, rfl⟩
      · rw [if_pos hc]
        exact Or.inl ⟨not_lt.1 hr, hc, rfl⟩

theorem sameLoads_rigidReleaseSourcePtr (o : HdfOutcome Lib) (dhType : DHType)
    (m : HdfOperateManager Lib) : SameLoads m (m.rigidReleaseSourcePtr o dhType).2 := by
  rcases m.rigidReleaseSourcePtr_cases o dhType with ⟨-, h⟩ | ⟨_, -, ⟨-, h⟩ | ⟨-, -, h⟩ | ⟨-, -, h⟩⟩
  all_goals
    rw [h]
    exact ⟨rfl, rfl⟩

/-- The end of an unload erases the operator or writes it back. -/
theorem finishUnLoad_hdfOperateMap (o : HdfOutcome Lib) (dhType : DHType)
    (m : HdfOperateManager Lib) (hdfOperate : HdfOperator Lib) :
    (m.finishUnLoad o dhType hdfOperate).manager.hdfOperateMap_ =
      if hdfOperate.hdfLoadRef_ ≤ 0 then m.hdfOperateMap_.remove dhType
      else m.hdfOperateMap_.set dhType hdfOperate := by
  refine (sameLoads_rigidReleaseSourcePtr ..).hdfOperateMap_.trans (if_congr ?_ rfl rfl)
  rw [HdfOperator.isNeedErase, decide_eq_true_eq]

theorem finishUnLoad_hdfInuseRefCount (o : HdfOutcome Lib) (dhType : DHType)
    (m : HdfOperateManager Lib) (hdfOperate : HdfOperator Lib) :
    (m.finishUnLoad o dhType hdfOperate).manager.hdfInuseRefCount_ = m.hdfInuseRefCount_ - 1 :=
  congrArg (· - 1) (sameLoads_rigidReleaseSourcePtr ..).hdfInuseRefCount_

/-- An operator that is found is in the map, one that is created has no loads and is entered
where none was. -/
theorem findOrCreate_cases {hdfOperate : HdfOperator Lib} {m' : HdfOperateManager Lib}
    (h : m.findOrCreate o dhType = .ok (hdfOperate, m')) :
    m.hdfOperateMap_.lookup dhType = some hdfOperate ∧ m' = m ∨
      m.hdfOperateMap_.lookup dhType = none ∧ ∃ ptr m₁, m.sourcePtr o dhType = .ok (ptr, m₁) ∧
        hdfOperate = { sourcePtr_ := ptr } ∧
        m' = { m₁ with hdfOperateMap_ := m₁.hdfOperateMap_.set dhType hdfOperate } := by
  unfold findOrCreate at h
  split at h
  · rename_i hl
    obtain ⟨rfl, rfl⟩ := Prod.mk.inj (Except.ok.inj h)
    exact Or.inl ⟨hl, rfl⟩
  · rename_i hl
    cases hs : m.sourcePtr o dhType with
    | error ret =>
      rw [hs] at h
      cases h
    | ok p =>
      obtain ⟨ptr, m₁⟩ := p
      rw [hs] at h
      obtain ⟨rfl, rfl⟩ := Prod.mk.inj (Except.ok.inj h)
      exact Or.inr ⟨hl, ptr, m₁, rfl, rfl, rfl⟩

/-- A load : no source is found, or an operator is found or created and counts the load, or
fails to. -/
theorem loadDistributedHDF_cases (o : HdfOutcome Lib) (dhType : DHType)
    (m : HdfOperateManager Lib) :
    m.loadDistributedHDF o dhType =
        { ret := (m.loadDistributedHDF o dhType).ret, manager := m } ∨
      ∃ hdfOperate m', m.findOrCreate o dhType = .ok (hdfOperate, m') ∧
        (m.loadDistributedHDF o dhType = { manager := { m' with
            hdfOperateMap_ := m'.hdfOperateMap_.set dhType
              { hdfOperate with hdfLoadRef_ := hdfOperate.hdfLoadRef_ + 1 },
            hdfInuseRefCount_ := m'.hdfInuseRefCount_ + 1 } } ∨
          m.loadDistributedHDF o dhType = {
            ret := (m.loadDistributedHDF o dhType).ret,
            manager := { m' with
              hdfOperateMap_ := m'.hdfOperateMap_.set dhType hdfOperate } }) := by
  unfold loadDistributedHDF
  cases hf : m.findOrCreate o dhType with
  | error ret => exact Or.inl rfl
  | ok p =>
    obtain ⟨hdfOperate, m'⟩ := p
    refine Or.inr ⟨hdfOperate, m', rfl, ?_⟩
    rcases hdfOperate.loadDistributedHDF_cases o with h | ⟨hr, h⟩
    · exact Or.inl (by simp only [h, if_true])
    · exact Or.inr (by simp only [h, if_neg hr])

/-- An unload : there is no operator, or there is one and it has no loads, counts one down, or
fails at the last. -/
theorem unLoadDistributedHDF_cases (o : HdfOutcome Lib) (dhType : DHType)
    (m : HdfOperateManager Lib) :
    m.hdfOperateMap_.lookup dhType = none ∧ m.unLoadDistributedHDF o dhType = { manager := m } ∨
      ∃ hdfOperate, m.hdfOperateMap_.lookup dhType = some hdfOperate ∧
        (hdfOperate.hdfLoadRef_ ≤ 0 ∧
            m.unLoadDistributedHDF o dhType = m.finishUnLoad o dhType hdfOperate ∨
          0 < hdfOperate.hdfLoadRef_ ∧ m.unLoadDistributedHDF o dhType =
            m.finishUnLoad o dhType
              { hdfOperate with hdfLoadRef_ := hdfOperate.hdfLoadRef_ - 1 } ∨
          hdfOperate.hdfLoadRef_ = 1 ∧ m.unLoadDistributedHDF o dhType =
            { ret := (m.unLoadDistributedHDF o dhType).ret, manager := m }) := by
  unfold unLoadDistributedHDF
  split
  · rename_i hl
    exact Or.inl ⟨hl, rfl⟩
  · rename_i hdfOperate hl
    refine Or.inr ⟨hdfOperate, hl, ?_⟩
    rcases hdfOperate.unLoadDistributedHDF_cases o with ⟨h, hr⟩ | ⟨h, hr⟩ | ⟨h, -, hr⟩
    · exact Or.inl ⟨hr, by simp only [h, if_true]⟩
    · exact Or.inr (Or.inl ⟨hr, by simp only [h, if_true]⟩)
    · exact Or.inr (Or.inr ⟨hr, by simp only [if_neg h]⟩)

end HdfOperateManager

/-! ## Calls as steps -/

/-- The calls that move the counts. -/
inductive HdfOp
  | load (dhType : DHType)
  | unLoad (dhType : DHType)
  | resetRefCount (dhType : DHType)
  deriving DecidableEq, Repr

/-- Run a call. -/
def HdfOp.run {Lib : Type} (o : HdfOutcome Lib) (m : HdfOperateManager Lib) :
    HdfOp → HdfResult Lib
  | .load dhType => m.loadDistributedHDF o dhType
  | .unLoad dhType => m.unLoadDistributedHDF o dhType
  | .resetRefCount dhType => { manager := m.resetRefCount dhType }

/-- One step of a run : a call and the answers it gets. -/
structure HdfStep (Lib : Type) where
  op : HdfOp
  outcome : HdfOutcome Lib

namespace HdfResult

variable {Lib : Type}

/-- Before the first call. -/
def init : HdfResult Lib :=
  { manager := {} }

/-- Run one call after another. -/
def step (r : HdfResult Lib) (l : HdfStep Lib) : HdfResult Lib :=
  l.op.run l.outcome r.manager

end HdfResult

end DHFwk
