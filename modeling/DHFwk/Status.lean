import DHFwk.Basic

/-!
# The status of a hardware type

`DHStatus K L` is `DHSourceStatus` and `DHSinkStatus` of `component_manager.h` at once :
the load count `refLoad`, for every hardware `k : K` an enable count `refEnable` and the
state of every calling process, and the listeners `L` of the processes. The source side
keys hardware by `DHStatusSourceEnableInfoKey`, the sink side by the hardware id.

Everything the component manager writes under its lock is one of four updates : `write`
sets the state of one caller and the two counts, `drop` forgets one hardware,
`resetEnableStatus` zeroes the counts of a type and disables its automatic callers, and
`recoverActiveEnable` disables its active callers. Each comes with what it makes of the
counts, of the states, and of `sumRefEnable`, the sum of the enable counts.

The counts are `int32_t` in the source and integers here : passing `2 ^ 31` takes as many
enabled callers.
-/

set_option linter.unusedSectionVars false

namespace DHFwk

/-- `EnableState`. -/
inductive EnableState
  | DISABLED | ENABLED
  deriving DecidableEq, Repr

/-- `DHStatusCtrlKey` : a calling process. -/
structure DHStatusCtrlKey where
  uid : Int
  pid : Int
  deriving DecidableEq, Repr

/-- The framework's own automatic enabling calls as `(0, 0)`, every other caller is active. -/
def DHStatusCtrlKey.isActive (c : DHStatusCtrlKey) : Bool :=
  decide (c.uid ≠ 0 ∨ c.pid ≠ 0)

/-- `DHStatusCtrl`. -/
structure DHStatusCtrl where
  enableState : EnableState := .DISABLED
  deriving DecidableEq, Repr

instance : Inhabited DHStatusCtrl := ⟨{}⟩

/-- `DHStatusEnableInfo`. -/
structure DHStatusEnableInfo where
  refEnable : Int := 0
  dhStatusCtrl : Table DHStatusCtrlKey DHStatusCtrl := ∅

instance : Inhabited DHStatusEnableInfo := ⟨{}⟩

/-- `DHStatusSourceEnableInfoKey`. -/
structure DHStatusSourceEnableInfoKey where
  networkId : String
  dhId : String
  deriving DecidableEq, Repr

/-- `DHSourceStatus` and `DHSinkStatus`. -/
structure DHStatus (K L : Type) where
  refLoad : Int := 0
  enableInfos : Table K DHStatusEnableInfo := ∅
  listeners : Table DHStatusCtrlKey L := ∅

instance (K L : Type) : Inhabited (DHStatus K L) := ⟨{}⟩

abbrev DHSourceStatus (L : Type) := DHStatus DHStatusSourceEnableInfoKey L

abbrev DHSinkStatus (L : Type) := DHStatus String L

namespace DHStatus

variable {K L : Type} [DecidableEq K]

/-! ## Reading -/

/-- What is recorded for hardware `k`. -/
def enableInfo (s : DHStatus K L) (k : K) : DHStatusEnableInfo :=
  s.enableInfos.get k

/-- The enable count of hardware `k`. -/
def refEnable (s : DHStatus K L) (k : K) : Int :=
  (s.enableInfo k).refEnable

/-- The state of caller `c` for hardware `k`. -/
def enableState (s : DHStatus K L) (k : K) (c : DHStatusCtrlKey) : EnableState :=
  ((s.enableInfo k).dhStatusCtrl.get c).enableState

/-- The sum of the enable counts of all hardware. -/
def sumRefEnable (s : DHStatus K L) : Int :=
  s.enableInfos.sum fun _ info => info.refEnable

/-! ## Writing -/

/-- Set the state of `c` for `k`, the enable count of `k` and the load count. -/
def write (s : DHStatus K L) (k : K) (c : DHStatusCtrlKey) (st : EnableState)
    (refEnable refLoad : Int) : DHStatus K L :=
  { s with
    refLoad := refLoad
    enableInfos := s.enableInfos.set k
      { refEnable := refEnable
        dhStatusCtrl := (s.enableInfo k).dhStatusCtrl.set c { enableState := st } } }

/-- The entries of `k` and `c` are created where missing; nothing else happens. -/
def touch (s : DHStatus K L) (k : K) (c : DHStatusCtrlKey) : DHStatus K L :=
  s.write k c (s.enableState k c) (s.refEnable k) s.refLoad

/-- `c` is enabled, both counts go up. -/
def addRef (s : DHStatus K L) (k : K) (c : DHStatusCtrlKey) : DHStatus K L :=
  s.write k c .ENABLED (s.refEnable k + 1) (s.refLoad + 1)

/-- `c` is enabled, both counts become one. -/
def firstRef (s : DHStatus K L) (k : K) (c : DHStatusCtrlKey) : DHStatus K L :=
  s.write k c .ENABLED 1 1

/-- `c` is disabled, both counts go down. -/
def deleteRef (s : DHStatus K L) (k : K) (c : DHStatusCtrlKey) : DHStatus K L :=
  s.write k c .DISABLED (s.refEnable k - 1) (s.refLoad - 1)

/-- `c` is disabled, both counts become zero. -/
def lastRef (s : DHStatus K L) (k : K) (c : DHStatusCtrlKey) : DHStatus K L :=
  s.write k c .DISABLED 0 0

/-- The entry of `k` is erased and its enable count taken off the load count. -/
def drop (s : DHStatus K L) (k : K) : DHStatus K L :=
  { s with
    refLoad := s.refLoad - s.refEnable k
    enableInfos := s.enableInfos.remove k }

/-- The counts become zero and the automatic callers are disabled. -/
def resetEnableStatus (s : DHStatus K L) : DHStatus K L :=
  { s with
    refLoad := 0
    enableInfos := s.enableInfos.mapVals fun _ info =>
      { refEnable := 0
        dhStatusCtrl := info.dhStatusCtrl.mapVals fun c ctrl =>
          if c.isActive then ctrl else { enableState := .DISABLED } } }

/-- The active callers are disabled; the counts stay. -/
def recoverActiveEnable (s : DHStatus K L) : DHStatus K L :=
  { s with
    enableInfos := s.enableInfos.mapVals fun _ info =>
      { info with
        dhStatusCtrl := info.dhStatusCtrl.mapVals fun c ctrl =>
          if c.isActive && ctrl.enableState = .ENABLED then { enableState := .DISABLED }
          else ctrl } }

/-- The hardware and callers that are enabled. -/
def enabled (s : DHStatus K L) : List (K × DHStatusCtrlKey) :=
  s.enableInfos.entries.flatMap fun e =>
    (e.2.dhStatusCtrl.entries.filter fun e' => e'.2.enableState = .ENABLED).map fun e' =>
      (e.1, e'.1)

/-- The hardware and active callers that `recoverActiveEnable` disables. -/
def activeEnabled (s : DHStatus K L) : List (K × DHStatusCtrlKey) :=
  s.enableInfos.entries.flatMap fun e =>
    (e.2.dhStatusCtrl.entries.filter fun e' => e'.1.isActive && e'.2.enableState = .ENABLED).map
      fun e' => (e.1, e'.1)

/-- The listeners of the callers that are not disabled for `k`. -/
def enabledListeners (s : DHStatus K L) (k : K) : List L :=
  (s.enableInfo k).dhStatusCtrl.entries.filterMap fun e =>
    if e.2.enableState = .DISABLED then none else s.listeners.lookup e.1

/-! ## What the updates make of the record -/

variable (s : DHStatus K L) (k k' : K) (c c' : DHStatusCtrlKey) (st : EnableState) (re rl : Int)

variable {s k c} in
/-- A caller that is not in one state is in the other. -/
theorem eq_disabled (h : ¬s.enableState k c = .ENABLED) : s.enableState k c = .DISABLED := by
  cases hk : s.enableState k c with
  | DISABLED => rfl
  | ENABLED => exact absurd hk h

variable {s k c} in
theorem eq_enabled (h : ¬s.enableState k c = .DISABLED) : s.enableState k c = .ENABLED := by
  cases hk : s.enableState k c with
  | DISABLED => exact absurd hk h
  | ENABLED => rfl

theorem enableInfo_write : (s.write k c st re rl).enableInfo k' = if k' = k then
    { refEnable := re, dhStatusCtrl := (s.enableInfo k).dhStatusCtrl.set c { enableState := st } }
    else s.enableInfo k' :=
  Table.get_set ..

@[simp] theorem refLoad_write : (s.write k c st re rl).refLoad = rl :=
  rfl

@[simp] theorem refEnable_write :
    (s.write k c st re rl).refEnable k' = if k' = k then re else s.refEnable k' := by
  unfold refEnable
  rw [enableInfo_write]
  split_ifs <;> rfl

@[simp] theorem enableState_write : (s.write k c st re rl).enableState k' c' =
    if k' = k ∧ c' = c then st else s.enableState k' c' := by
  unfold enableState
  rw [enableInfo_write]
  by_cases hk : k' = k
  · subst hk
    by_cases hc : c' = c <;> simp [hc, Table.get_set]
  · simp [hk]

@[simp] theorem sumRefEnable_write :
    (s.write k c st re rl).sumRefEnable = s.sumRefEnable - s.refEnable k + re :=
  Table.sum_set (fun _ => rfl) ..

@[simp] theorem refLoad_drop : (s.drop k).refLoad = s.refLoad - s.refEnable k :=
  rfl

@[simp] theorem refEnable_touch : (s.touch k c).refEnable k' = s.refEnable k' := by
  rw [touch, refEnable_write]
  split_ifs with h
  · rw [h]
  · rfl

theorem enableInfo_drop :
    (s.drop k).enableInfo k' = if k' = k then default else s.enableInfo k' :=
  Table.get_remove ..

@[simp] theorem refEnable_drop :
    (s.drop k).refEnable k' = if k' = k then 0 else s.refEnable k' := by
  unfold refEnable
  rw [enableInfo_drop]
  split_ifs <;> rfl

@[simp] theorem enableState_drop : (s.drop k).enableState k' c =
    if k' = k then .DISABLED else s.enableState k' c := by
  unfold enableState
  rw [enableInfo_drop]
  split_ifs <;> rfl

@[simp] theorem sumRefEnable_drop :
    (s.drop k).sumRefEnable = s.sumRefEnable - s.refEnable k :=
  Table.sum_remove (fun _ => rfl) ..

@[simp] theorem refLoad_resetEnableStatus : s.resetEnableStatus.refLoad = 0 :=
  rfl

theorem enableInfo_resetEnableStatus : s.resetEnableStatus.enableInfo k =
    { refEnable := 0
      dhStatusCtrl := (s.enableInfo k).dhStatusCtrl.mapVals fun c ctrl =>
        if c.isActive then ctrl else { enableState := .DISABLED } } :=
  Table.get_mapVals _ _ rfl

@[simp] theorem refEnable_resetEnableStatus : s.resetEnableStatus.refEnable k = 0 := by
  rw [refEnable, enableInfo_resetEnableStatus]

@[simp] theorem enableState_resetEnableStatus : s.resetEnableStatus.enableState k c =
    if c.isActive then s.enableState k c else .DISABLED := by
  rw [enableState, enableInfo_resetEnableStatus, Table.get_mapVals _ _ (by split_ifs <;> rfl)]
  split_ifs <;> rfl

@[simp] theorem sumRefEnable_resetEnableStatus : s.resetEnableStatus.sumRefEnable = 0 := by
  rw [sumRefEnable, resetEnableStatus, Table.sum_mapVals]
  exact Table.sum_eq_zero _ fun _ _ => rfl

@[simp] theorem refLoad_recoverActiveEnable : s.recoverActiveEnable.refLoad = s.refLoad :=
  rfl

theorem enableInfo_recoverActiveEnable : s.recoverActiveEnable.enableInfo k =
    { s.enableInfo k with
      dhStatusCtrl := (s.enableInfo k).dhStatusCtrl.mapVals fun c ctrl =>
        if c.isActive && ctrl.enableState = .ENABLED then { enableState := .DISABLED }
        else ctrl } :=
  Table.get_mapVals _ _ rfl

@[simp] theorem refEnable_recoverActiveEnable :
    s.recoverActiveEnable.refEnable k = s.refEnable k := by
  rw [refEnable, enableInfo_recoverActiveEnable]
  rfl

@[simp] theorem enableState_recoverActiveEnable : s.recoverActiveEnable.enableState k c =
    if c.isActive then .DISABLED else s.enableState k c := by
  rw [enableState, enableInfo_recoverActiveEnable,
    Table.get_mapVals _ _ (by split_ifs <;> rfl), enableState]
  cases h : ((s.enableInfo k).dhStatusCtrl.get c).enableState <;>
    cases hc : c.isActive <;> simp [h]

@[simp] theorem sumRefEnable_recoverActiveEnable :
    s.recoverActiveEnable.sumRefEnable = s.sumRefEnable := by
  rw [sumRefEnable, recoverActiveEnable, Table.sum_mapVals]
  rfl

/-- `enabled` lists the callers that are enabled. -/
theorem mem_enabled {s : DHStatus K L} {k : K} {c : DHStatusCtrlKey} :
    (k, c) ∈ s.enabled ↔ s.enableState k c = .ENABLED := by
  simp only [enabled, List.mem_flatMap, List.mem_map, List.mem_filter, decide_eq_true_eq,
    Prod.mk.injEq]
  constructor
  · rintro ⟨e, he, e', ⟨he', hs⟩, rfl, rfl⟩
    rwa [enableState, enableInfo, Table.get_of_lookup (List.mem_dlookup s.enableInfos.nodupKeys he),
      Table.get_of_lookup (List.mem_dlookup e.2.dhStatusCtrl.nodupKeys he')]
  · intro hs
    obtain ⟨info, hk, hi⟩ : ∃ info, s.enableInfos.lookup k = some info ∧ s.enableInfo k = info := by
      cases hk : s.enableInfos.lookup k with
      | none =>
        rw [enableState, enableInfo, Table.get_of_lookup_none hk] at hs
        cases hs
      | some info => exact ⟨info, rfl, Table.get_of_lookup hk⟩
    rw [enableState, hi] at hs
    cases hc : info.dhStatusCtrl.lookup c with
    | none => simp [Table.get_of_lookup_none hc] at hs
    | some ctrl =>
      rw [Table.get_of_lookup hc] at hs
      exact ⟨⟨k, info⟩, AList.mem_lookup_iff.1 hk, ⟨c, ctrl⟩,
        ⟨AList.mem_lookup_iff.1 hc, hs⟩, rfl, rfl⟩

/-- `activeEnabled` lists the active callers among them. -/
theorem mem_activeEnabled {s : DHStatus K L} {k : K} {c : DHStatusCtrlKey} :
    (k, c) ∈ s.activeEnabled ↔ c.isActive = true ∧ s.enableState k c = .ENABLED := by
  have hactive : (k, c) ∈ s.activeEnabled ↔ c.isActive = true ∧ (k, c) ∈ s.enabled := by
    simp only [activeEnabled, enabled, List.mem_flatMap, List.mem_map, List.mem_filter,
      Bool.and_eq_true, decide_eq_true_eq, Prod.mk.injEq]
    constructor
    · rintro ⟨e, he, e', ⟨he', ha, hs⟩, rfl, rfl⟩
      exact ⟨ha, e, he, e', ⟨he', hs⟩, rfl, rfl⟩
    · rintro ⟨ha, e, he, e', ⟨he', hs⟩, rfl, rfl⟩
      exact ⟨e, he, e', ⟨he', ha, hs⟩, rfl, rfl⟩
  rw [hactive, mem_enabled]

end DHStatus

end DHFwk
