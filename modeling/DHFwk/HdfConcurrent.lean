import DHFwk.HdfOperate
import DHFwk.Runs

/-!
# Concurrent loads and unloads

`HdfOperateManager::LoadDistributedHDF` and `UnLoadDistributedHDF` of one type, split where
they take and leave a lock : find the operator or create it, load or unload it, erase it if
it has no loads, count. Any number of calls run at a time, and `HdfShared.step` moves one of
them by one step. An operator outlives its place in the map as long as a call has it, so
operators are numbered and the map holds the number of one of them.

In every run in which unloads count down operators with loads only, and no operator is erased
that has loads or that a load has found and not yet counted (`HdfShared.Orderly`), the
operator in the map counts all loads that were not unloaded (`loads_kept`). An erase in
between a load's finding its operator and counting in it loses the load (`load_lost`).
-/

set_option linter.unusedSectionVars false

namespace DHFwk

variable {Lib : Type}

/-- Where a call stands : the operator it has found and is about to load or unload, or the
counting that is left to do. -/
inductive HdfCall
  | returned
  | loading (i : ℕ)
  | loaded
  | unLoading (i : ℕ)
  | unLoaded (i : ℕ)
  | erased
  deriving DecidableEq, Repr, Inhabited

/-- What a call has counted in its operator and not yet in the manager. -/
def HdfCall.pending : HdfCall → Int
  | .loaded => 1
  | .unLoaded _ | .erased => -1
  | .returned | .loading _ | .unLoading _ => 0

/-- What the calls on one type share : the operators that were created, the one in the map,
the count of the manager, and where each call stands. `loads` and `unLoads` are the calls
that have returned success, of the unloads those that found an operator. -/
structure HdfShared (Lib : Type) where
  operators : Table ℕ (HdfOperator Lib) := ∅
  mapped : Option ℕ := none
  next : ℕ := 0
  hdfInuseRefCount_ : Int := 0
  calls : Table ℕ HdfCall := ∅
  loads : ℕ := 0
  unLoads : ℕ := 0

/-- One step of one call. A load is told how it gets a source pointer if it needs one. -/
inductive HdfMove (Lib : Type)
  | load (id : ℕ) (source : Except Int (SourcePtr Lib))
  | unLoad (id : ℕ)
  | advance (id : ℕ) (o : HdfOutcome Lib)

namespace HdfShared

variable (s : HdfShared Lib) (id i : ℕ) (o : HdfOutcome Lib)

/-- The count of an operator. -/
def ref : Int := (s.operators.get i).hdfLoadRef_

/-- Where a call goes next. -/
def put (c : HdfCall) : HdfShared Lib :=
  { s with calls := s.calls.set id c }

/-- The first step of a load, under the lock of the map. -/
def findOrCreate (source : Except Int (SourcePtr Lib)) : HdfShared Lib :=
  match s.mapped, source with
  | some i, _ => s.put id (.loading i)
  | none, .error _ => s
  | none, .ok ptr =>
    { s with
      operators := s.operators.set s.next { sourcePtr_ := ptr },
      mapped := some s.next,
      next := s.next + 1 }.put id (.loading s.next)

/-- The first step of an unload, under the lock of the map : without an operator it returns. -/
def find : HdfShared Lib :=
  match s.mapped with
  | some i => s.put id (.unLoading i)
  | none => s

/-- A load under the lock of its operator. -/
def loadOperator : HdfShared Lib :=
  let (ret, hdfOperate) := (s.operators.get i).loadDistributedHDF o
  { s with operators := s.operators.set i hdfOperate }.put id
    (if ret = DH_FWK_SUCCESS then .loaded else .returned)

/-- An unload under the lock of its operator. -/
def unLoadOperator : HdfShared Lib :=
  let (ret, hdfOperate) := (s.operators.get i).unLoadDistributedHDF o
  { s with operators := s.operators.set i hdfOperate }.put id
    (if ret = DH_FWK_SUCCESS then .unLoaded i else .returned)

/-- An unload whose operator has no loads erases what the map holds for the type. -/
def erase : HdfShared Lib :=
  { s with mapped := if (s.operators.get i).isNeedErase then none else s.mapped }.put id .erased

/-- The last step of a load. -/
def countLoad : HdfShared Lib :=
  { s with hdfInuseRefCount_ := s.hdfInuseRefCount_ + 1, loads := s.loads + 1 }.put id .returned

/-- The last step of an unload. -/
def countUnLoad : HdfShared Lib :=
  { s with
    hdfInuseRefCount_ := s.hdfInuseRefCount_ - 1, unLoads := s.unLoads + 1 }.put id .returned

/-- The next step of a call. -/
def advance : HdfShared Lib :=
  match s.calls.get id with
  | .returned => s
  | .loading i => s.loadOperator id i o
  | .loaded => s.countLoad id
  | .unLoading i => s.unLoadOperator id i o
  | .unLoaded i => s.erase id i
  | .erased => s.countUnLoad id

/-- Move one call; a call begins when the last one of its number has returned. -/
def step : HdfMove Lib → HdfShared Lib
  | .load id source => if s.calls.get id = .returned then s.findOrCreate id source else s
  | .unLoad id => if s.calls.get id = .returned then s.find id else s
  | .advance id o => s.advance id o

/-- The number of loads that have found an operator and not yet counted in it. -/
def loadsAt : ℕ := s.calls.count fun _ c => decide (c = .loading i)

/-- No call is running. -/
def AllReturned : Prop := s.calls.count (fun _ c => decide (c ≠ .returned)) = 0

instance : Decidable s.AllReturned := inferInstanceAs (Decidable (_ = _))

/-- An unload counts down an operator with loads, and an erase takes out of the map no
operator that has loads or that a load is about to count in. -/
def Orderly : HdfMove Lib → Prop
  | .advance id _ =>
    match s.calls.get id with
    | .unLoading i => 0 < s.ref i
    | .unLoaded i => s.ref i ≤ 0 → ∀ j ∈ s.mapped, s.ref j ≤ 0 ∧ s.loadsAt j = 0
    | _ => True
  | _ => True

instance (m : HdfMove Lib) : Decidable (s.Orderly m) :=
  match m with
  | .load .. | .unLoad .. => inferInstanceAs (Decidable True)
  | .advance id _ =>
    match h : s.calls.get id with
    | .unLoading i => decidable_of_iff (0 < s.ref i) (by rw [Orderly, h])
    | .unLoaded i =>
      decidable_of_iff (s.ref i ≤ 0 → ∀ j ∈ s.mapped, s.ref j ≤ 0 ∧ s.loadsAt j = 0)
        (by rw [Orderly, h])
    | .returned | .loading _ | .loaded | .erased => isTrue (by rw [Orderly, h]; trivial)

/-! ## The invariant -/

/-- The loads that all operators count. -/
def sumRef : Int :=
  s.operators.sum fun _ hdfOperate => hdfOperate.hdfLoadRef_

/-- What the calls have counted in operators and not yet in the manager. -/
def pending : Int :=
  s.calls.sum fun _ c => c.pending

/-- The operators count the loads that were not unloaded, all in the operator in the map, and
every load that is about to count has found that operator. -/
structure Kept : Prop where
  sumRef_eq : s.sumRef = s.loads - s.unLoads + s.pending
  ref_nonneg : ∀ i, 0 ≤ s.ref i
  ref_eq_zero : ∀ i, s.mapped ≠ some i → s.ref i = 0
  loading : ∀ id i, s.calls.get id = .loading i → s.mapped = some i

variable {s id i o}

theorem sumRef_set (s : HdfShared Lib) (i : ℕ) (hdfOperate : HdfOperator Lib) :
    (s.operators.set i hdfOperate).sum (fun _ hdfOperate => hdfOperate.hdfLoadRef_) =
      s.sumRef - s.ref i + hdfOperate.hdfLoadRef_ :=
  Table.sum_set (fun _ => rfl) s.operators i hdfOperate

theorem pending_put (s : HdfShared Lib) (id : ℕ) (c : HdfCall) :
    (s.put id c).pending = s.pending - (s.calls.get id).pending + c.pending :=
  Table.sum_set (fun _ => rfl) s.calls id c

theorem ref_set (s : HdfShared Lib) (i j : ℕ) (hdfOperate : HdfOperator Lib) :
    ((s.operators.set i hdfOperate).get j).hdfLoadRef_ =
      if j = i then hdfOperate.hdfLoadRef_ else s.ref j := by
  rw [Table.get_set]
  split_ifs
  · rfl
  · rfl

/-- Moving a call on keeps what holds of the calls that are about to load. -/
theorem loading_put {c : HdfCall} {mapped : Option ℕ}
    (h : ∀ id' j, id' ≠ id → s.calls.get id' = .loading j → mapped = some j)
    (hc : ∀ j, c = .loading j → mapped = some j) (id' j : ℕ)
    (hj : (s.put id c).calls.get id' = .loading j) : mapped = some j := by
  by_cases hid : id' = id
  · subst hid
    rw [put, Table.get_set_self] at hj
    exact hc j hj
  · rw [put, Table.get_set_ne _ hid] at hj
    exact h id' j hid hj

namespace Kept

/-- Moving on a call that has nothing to count. -/
theorem put (h : s.Kept) {c : HdfCall} (hp : c.pending = (s.calls.get id).pending)
    (hc : ∀ j, c = .loading j → s.mapped = some j) : (s.put id c).Kept where
  sumRef_eq := by
    have hsum := h.sumRef_eq
    rw [pending_put, hp]
    show s.sumRef = s.loads - s.unLoads + _
    omega
  ref_nonneg := h.ref_nonneg
  ref_eq_zero := h.ref_eq_zero
  loading := loading_put (fun id' j _ => h.loading id' j) hc

/-- Moving on a call after it has changed the count of the operator in the map. -/
theorem putOperator (h : s.Kept) {hdfOperate : HdfOperator Lib} {c : HdfCall}
    (hm : s.mapped ≠ some i → hdfOperate.hdfLoadRef_ = 0) (h0 : 0 ≤ hdfOperate.hdfLoadRef_)
    (hp : c.pending - (s.calls.get id).pending = hdfOperate.hdfLoadRef_ - s.ref i)
    (hc : ∀ j, c ≠ .loading j) :
    ({ s with operators := s.operators.set i hdfOperate }.put id c).Kept where
  sumRef_eq := by
    have hsum := h.sumRef_eq
    have hput : ({ s with operators := s.operators.set i hdfOperate }.put id c).pending =
        s.pending - (s.calls.get id).pending + c.pending := pending_put s id c
    have hset : ({ s with operators := s.operators.set i hdfOperate }.put id c).sumRef =
        s.sumRef - s.ref i + hdfOperate.hdfLoadRef_ := sumRef_set s i hdfOperate
    rw [hset, hput]
    show _ = (s.loads - s.unLoads + _ : ℤ)
    omega
  ref_nonneg j := by
    show 0 ≤ ((s.operators.set i hdfOperate).get j).hdfLoadRef_
    rw [ref_set]
    split_ifs
    · exact h0
    · exact h.ref_nonneg j
  ref_eq_zero j hj := by
    show ((s.operators.set i hdfOperate).get j).hdfLoadRef_ = 0
    rw [ref_set]
    split_ifs with hi
    · exact hm (hi ▸ hj)
    · exact h.ref_eq_zero j hj
  loading := loading_put (fun id' j _ => h.loading id' j) fun j hj => absurd hj (hc j)

theorem findOrCreate (h : s.Kept) (hr : s.calls.get id = .returned)
    (source : Except Int (SourcePtr Lib)) : (s.findOrCreate id source).Kept := by
  unfold HdfShared.findOrCreate
  split
  · rename_i i hm
    refine h.put (by rw [hr]; rfl) fun j hj => ?_
    rw [hm, HdfCall.loading.inj hj]
  · exact h
  · rename_i ptr hm
    have hnone : ∀ j, s.ref j = 0 := fun j => h.ref_eq_zero j (hm ▸ (Option.some_ne_none j).symm)
    have hsum : (s.operators.set s.next { sourcePtr_ := ptr }).sum
        (fun _ hdfOperate => hdfOperate.hdfLoadRef_) = s.sumRef := by
      rw [sumRef_set, hnone]
      exact (add_zero _).trans (sub_zero _)
    have href : ∀ j, ((s.operators.set s.next { sourcePtr_ := ptr }).get j).hdfLoadRef_ = 0 := by
      intro j
      rw [ref_set]
      split_ifs
      · rfl
      · exact hnone j
    refine ⟨?_, fun j => (href j).ge, fun j _ => href j, loading_put (fun id' j _ hj => ?_) ?_⟩
    · refine hsum.trans (h.sumRef_eq.trans ?_)
      show _ = (s.loads - s.unLoads + (s.put id (.loading s.next)).pending : ℤ)
      rw [pending_put, hr]
      exact congrArg _ ((add_zero _).trans (sub_zero _)).symm
    · exact absurd (hm.symm.trans (h.loading id' j hj)) (Option.some_ne_none j).symm
    · exact fun j hj => congrArg some (HdfCall.loading.inj hj)

theorem find (h : s.Kept) (hr : s.calls.get id = .returned) : (s.find id).Kept := by
  unfold HdfShared.find
  split
  · exact h.put (by rw [hr]; rfl) fun j hj => by cases hj
  · exact h

/-- A load counts in the operator it has found, which is the one in the map. -/
theorem loadOperator (h : s.Kept) (hc : s.calls.get id = .loading i) :
    (s.loadOperator id i o).Kept := by
  have hm := h.loading id i hc
  have h0 := h.ref_nonneg i
  unfold HdfShared.loadOperator
  rcases (s.operators.get i).loadDistributedHDF_cases o with hl | ⟨hr, hl⟩
  · rw [hl]
    refine h.putOperator (fun hne => absurd hm hne) (show 0 ≤ s.ref i + 1 by omega) ?_
      fun j hj => by cases hj
    rw [hc]
    exact (add_sub_cancel_left (s.ref i) 1).symm
  · simp only [hl, if_neg hr]
    refine h.putOperator (fun hne => absurd hm hne) h0 ?_ fun j hj => by cases hj
    rw [hc]
    exact (sub_self (s.ref i)).symm

/-- An unload counts down an operator that has loads, which is the one in the map. -/
theorem unLoadOperator (h : s.Kept) (hc : s.calls.get id = .unLoading i) (hpos : 0 < s.ref i) :
    (s.unLoadOperator id i o).Kept := by
  have hm : s.mapped = some i := by
    by_contra hne
    exact absurd (h.ref_eq_zero i hne) hpos.ne'
  unfold HdfShared.unLoadOperator
  rcases (s.operators.get i).unLoadDistributedHDF_cases o with ⟨-, hl⟩ | ⟨hl, -⟩ | ⟨hr, hl, -⟩
  · exact absurd hl (not_le.2 hpos)
  · rw [hl]
    refine h.putOperator (fun hne => absurd hm hne) (show 0 ≤ s.ref i - 1 by omega) ?_
      fun j hj => by cases hj
    rw [hc]
    show (-1 - 0 : ℤ) = s.ref i - 1 - s.ref i
    omega
  · simp only [hl, if_neg hr]
    refine h.putOperator (fun hne => absurd hm hne) hpos.le ?_ fun j hj => by cases hj
    rw [hc]
    exact (sub_self (s.ref i)).symm

/-- An erase takes out of the map an operator without loads that no load has found. -/
theorem erase (h : s.Kept) (hc : s.calls.get id = .unLoaded i)
    (hd : s.ref i ≤ 0 → ∀ j ∈ s.mapped, s.ref j ≤ 0 ∧ s.loadsAt j = 0) :
    (s.erase id i).Kept := by
  have hpend : (s.put id .erased).pending = s.pending := by
    rw [pending_put, hc]
    show s.pending - -1 + -1 = s.pending
    omega
  by_cases he : s.ref i ≤ 0
  · have hgone : (if (s.operators.get i).isNeedErase then none else s.mapped) = none :=
      if_pos (decide_eq_true he)
    unfold HdfShared.erase
    rw [hgone]
    refine ⟨?_, h.ref_nonneg, fun j _ => ?_, loading_put (fun id' j _ hj => ?_) nofun⟩
    · exact h.sumRef_eq.trans (congrArg (fun p : ℤ => s.loads - s.unLoads + p) hpend.symm)
    · by_cases hj : s.mapped = some j
      · exact le_antisymm (hd he j hj).1 (h.ref_nonneg j)
      · exact h.ref_eq_zero j hj
    · have hnone := (hd he j (h.loading id' j hj)).2
      have hone : 1 ≤ s.loadsAt j := Table.one_le_count s.calls (fun _ => rfl) (decide_eq_true hj)
      omega
  · have hstay : (if (s.operators.get i).isNeedErase then none else s.mapped) = s.mapped :=
      if_neg fun hdec => he (of_decide_eq_true hdec)
    unfold HdfShared.erase
    rw [hstay]
    exact h.put (by rw [hc]; rfl) nofun

theorem countLoad (h : s.Kept) (hc : s.calls.get id = .loaded) : (s.countLoad id).Kept where
  sumRef_eq := by
    have hput : (s.countLoad id).pending = s.pending - 1 + 0 := by
      rw [show s.pending - 1 = s.pending - (s.calls.get id).pending by rw [hc]; rfl]
      exact pending_put s id .returned
    have hsum := h.sumRef_eq
    rw [hput]
    show s.sumRef = ((s.loads + 1 : ℕ) : ℤ) - s.unLoads + _
    omega
  ref_nonneg := h.ref_nonneg
  ref_eq_zero := h.ref_eq_zero
  loading := loading_put (fun id' j _ => h.loading id' j) nofun

theorem countUnLoad (h : s.Kept) (hc : s.calls.get id = .erased) : (s.countUnLoad id).Kept where
  sumRef_eq := by
    have hput : (s.countUnLoad id).pending = s.pending - -1 + 0 := by
      rw [show s.pending - -1 = s.pending - (s.calls.get id).pending by rw [hc]; rfl]
      exact pending_put s id .returned
    have hsum := h.sumRef_eq
    rw [hput]
    show s.sumRef = (s.loads : ℤ) - ((s.unLoads + 1 : ℕ) : ℤ) + _
    omega
  ref_nonneg := h.ref_nonneg
  ref_eq_zero := h.ref_eq_zero
  loading := loading_put (fun id' j _ => h.loading id' j) nofun

/-- Every orderly step keeps the invariant. -/
theorem step (h : s.Kept) {m : HdfMove Lib} (ho : s.Orderly m) : (s.step m).Kept := by
  cases m with
  | load id source =>
    simp only [HdfShared.step]
    split_ifs with hr
    · exact h.findOrCreate hr source
    · exact h
  | unLoad id =>
    simp only [HdfShared.step]
    split_ifs with hr
    · exact h.find hr
    · exact h
  | advance id o =>
    show (s.advance id o).Kept
    simp only [Orderly] at ho
    unfold HdfShared.advance
    cases hc : s.calls.get id with
    | returned => exact h
    | loading i => exact h.loadOperator hc
    | loaded => exact h.countLoad hc
    | unLoading i =>
      rw [hc] at ho
      exact h.unLoadOperator hc ho
    | unLoaded i =>
      rw [hc] at ho
      exact h.erase hc ho
    | erased => exact h.countUnLoad hc

end Kept

theorem kept_init : ({} : HdfShared Lib).Kept where
  sumRef_eq := rfl
  ref_nonneg _ := le_rfl
  ref_eq_zero _ _ := rfl
  loading _ _ h := by cases h

theorem AllReturned.get_calls (h : s.AllReturned) (id : ℕ) : s.calls.get id = .returned := by
  by_contra hne
  have hone := Table.one_le_count (p := fun _ c => decide (c ≠ .returned)) s.calls
    (fun _ => rfl) (decide_eq_true hne)
  rw [h] at hone
  exact absurd hone (by decide)

theorem AllReturned.pending_eq_zero (h : s.AllReturned) : s.pending = 0 := by
  have hsum : s.pending = s.calls.sum fun _ _ => 0 :=
    Table.sum_congr s.calls fun id => by rw [h.get_calls id]; rfl
  rw [hsum]
  exact Table.sum_eq_zero s.calls fun _ _ => rfl

/-- Once all calls have returned and there were more loads than unloads, the operator in the
map counts the difference. -/
theorem Kept.mapped_ref (h : s.Kept) (hr : s.AllReturned) (hlt : s.unLoads < s.loads) :
    ∃ i, s.mapped = some i ∧ s.ref i = s.loads - s.unLoads := by
  have hsum := h.sumRef_eq
  rw [hr.pending_eq_zero] at hsum
  have hpos : 0 < s.sumRef := by omega
  obtain ⟨i, hi⟩ := (Table.sum_pos_iff s.operators (fun _ => rfl) h.ref_nonneg).1 hpos
  have hm : ∀ j, s.ref j ≠ 0 → s.mapped = some j := by
    intro j hj
    by_contra hne
    exact hj (h.ref_eq_zero j hne)
  refine ⟨i, hm i hi.ne', ?_⟩
  -- the other operators count nothing, so the operator in the map counts the whole sum
  have hone : s.sumRef = s.ref i := by
    refine Table.sum_eq_single (fun _ => rfl) s.operators i fun j hj => h.ref_eq_zero j fun hj' => ?_
    exact hj (Option.some.inj (hj'.symm.trans (hm i hi.ne')))
  omega

/-! ## Calls that run alone -/

/-- The steps of a load. -/
def loadCall (id : ℕ) (source : Except Int (SourcePtr Lib)) (o : HdfOutcome Lib) :
    List (HdfMove Lib) :=
  [.load id source, .advance id o, .advance id o]

/-- The steps of an unload. -/
def unLoadCall (id : ℕ) (o : HdfOutcome Lib) : List (HdfMove Lib) :=
  [.unLoad id, .advance id o, .advance id o, .advance id o]

/-- What the calls share is what the manager has for the type. -/
structure Shows (s : HdfShared Lib) (m : HdfOperateManager Lib) (t : DHType) : Prop where
  hdfOperateMap_ : m.hdfOperateMap_.lookup t = s.mapped.map s.operators.get
  hdfInuseRefCount_ : m.hdfInuseRefCount_ = s.hdfInuseRefCount_

/-- A load that has found its operator goes on as the manager does with that operator. -/
theorem shows_load {m m' : HdfOperateManager Lib} {t : DHType} (h : Shows s m' t)
    (hc : s.calls.get id = .loading i) (hm : s.mapped = some i)
    (hf : m.findOrCreate o t = .ok (s.operators.get i, m')) :
    Shows ([HdfMove.advance id o, .advance id o].foldl step s)
      (m.loadDistributedHDF o t).manager t := by
  obtain ⟨-, huse⟩ := h
  rcases (s.operators.get i).loadDistributedHDF_cases o with hl | ⟨hr, hl⟩
  · constructor
    · simp [step, advance, hc, loadOperator, hl, put, countLoad, hm,
        HdfOperateManager.loadDistributedHDF, hf]
    · simp [step, advance, hc, loadOperator, hl, put, countLoad, huse,
        HdfOperateManager.loadDistributedHDF, hf]
  · constructor
    · simp [step, advance, hc, loadOperator, hl, hr, put, hm,
        HdfOperateManager.loadDistributedHDF, hf]
    · simp [step, advance, hc, loadOperator, hl, hr, put, huse,
        HdfOperateManager.loadDistributedHDF, hf]

/-- A load that runs alone does what the load of the manager does. -/
theorem shows_loadCall {m : HdfOperateManager Lib} {t : DHType} (h : Shows s m t)
    (hr : s.calls.get id = .returned) (o : HdfOutcome Lib) :
    Shows ((loadCall id ((m.sourcePtr o t).map Prod.fst) o).foldl step s)
      (m.loadDistributedHDF o t).manager t := by
  have hfirst : ∀ source, s.step (.load id source) = s.findOrCreate id source := fun source =>
    if_pos hr
  rw [loadCall, List.foldl_cons, hfirst]
  cases hm : s.mapped with
  | some i =>
    have hl : m.hdfOperateMap_.lookup t = some (s.operators.get i) := by
      rw [h.hdfOperateMap_, hm]
      rfl
    have hf : m.findOrCreate o t = .ok (s.operators.get i, m) := by
      unfold HdfOperateManager.findOrCreate
      rw [hl]
    unfold findOrCreate
    rw [hm]
    exact shows_load ⟨h.hdfOperateMap_, h.hdfInuseRefCount_⟩ (Table.get_set_self ..) hm hf
  | none =>
    have hl : m.hdfOperateMap_.lookup t = none := by
      rw [h.hdfOperateMap_, hm]
      rfl
    unfold findOrCreate
    rw [hm]
    cases hs : m.sourcePtr o t with
    | error ret =>
      have hload : m.loadDistributedHDF o t = { ret := ret, manager := m } := by
        unfold HdfOperateManager.loadDistributedHDF HdfOperateManager.findOrCreate
        rw [hl, hs]
        rfl
      have hskip : s.step (.advance id o) = s := by
        show s.advance id o = s
        unfold advance
        rw [hr]
      rw [hload]
      show Shows (step (step s (.advance id o)) (.advance id o)) m t
      rw [hskip, hskip]
      exact h
    | ok p =>
      obtain ⟨ptr, m₁⟩ := p
      have hsame := HdfOperateManager.sameLoads_sourcePtr hs
      let op : HdfOperator Lib := { sourcePtr_ := ptr }
      let s₁ : HdfShared Lib := { s with
        operators := s.operators.set s.next op,
        mapped := some s.next,
        next := s.next + 1 }.put id (.loading s.next)
      have hop : s₁.operators.get s.next = op := Table.get_set_self ..
      have hf : m.findOrCreate o t = .ok (s₁.operators.get s.next,
          { m₁ with hdfOperateMap_ := m₁.hdfOperateMap_.set t op }) := by
        unfold HdfOperateManager.findOrCreate
        rw [hl, hs, hop]
        rfl
      have hshow : Shows s₁ { m₁ with hdfOperateMap_ := m₁.hdfOperateMap_.set t op } t := by
        constructor
        · show (m₁.hdfOperateMap_.set t op).lookup t = some (s₁.operators.get s.next)
          rw [Table.lookup_set_self, hop]
        · exact hsame.hdfInuseRefCount_.trans h.hdfInuseRefCount_
      exact shows_load hshow (Table.get_set_self ..) rfl hf

/-- The steps of an unload that has found its operator, one after another. -/
theorem run_unLoading {hdfOperate : HdfOperator Lib} (hc : s.calls.get id = .unLoading i)
    (hop : (s.operators.get i).unLoadDistributedHDF o = (DH_FWK_SUCCESS, hdfOperate)) :
    [HdfMove.advance id o, .advance id o, .advance id o].foldl step s =
      (({ s with operators := s.operators.set i hdfOperate }.put id
        (.unLoaded i)).erase id i).countUnLoad id := by
  simp [step, advance, hc, unLoadOperator, hop, put, erase]

/-- An unload that has counted its operator down ends as the manager does. -/
theorem shows_finishUnLoad {m : HdfOperateManager Lib} {t : DHType} {hdfOperate : HdfOperator Lib}
    (h : Shows s m t) (hc : s.calls.get id = .unLoading i) (hm : s.mapped = some i)
    (hop : (s.operators.get i).unLoadDistributedHDF o = (DH_FWK_SUCCESS, hdfOperate)) :
    Shows ([HdfMove.advance id o, .advance id o, .advance id o].foldl step s)
      (m.finishUnLoad o t hdfOperate).manager t := by
  rw [run_unLoading hc hop]
  constructor
  · rw [HdfOperateManager.finishUnLoad_hdfOperateMap]
    simp only [countUnLoad, erase, put, HdfOperator.isNeedErase, Table.get_set_self, hm,
      decide_eq_true_eq]
    split_ifs
    · exact Table.lookup_remove_self ..
    · rw [Table.lookup_set_self, Option.map_some, Table.get_set_self]
  · rw [HdfOperateManager.finishUnLoad_hdfInuseRefCount, h.hdfInuseRefCount_]
    rfl

/-- An unload that runs alone does what the unload of the manager does. -/
theorem shows_unLoadCall {m : HdfOperateManager Lib} {t : DHType} (h : Shows s m t)
    (hr : s.calls.get id = .returned) (o : HdfOutcome Lib) :
    Shows ((unLoadCall id o).foldl step s) (m.unLoadDistributedHDF o t).manager t := by
  have hfirst : s.step (.unLoad id) = s.find id := if_pos hr
  rw [unLoadCall, List.foldl_cons, hfirst]
  cases hm : s.mapped with
  | none =>
    have hl : m.hdfOperateMap_.lookup t = none := by
      rw [h.hdfOperateMap_, hm]
      rfl
    have hunload : m.unLoadDistributedHDF o t = { manager := m } := by
      unfold HdfOperateManager.unLoadDistributedHDF
      rw [hl]
    have hskip : s.step (.advance id o) = s := by
      show s.advance id o = s
      unfold advance
      rw [hr]
    unfold find
    rw [hm, hunload]
    show Shows (step (step (step s (.advance id o)) (.advance id o)) (.advance id o)) m t
    rw [hskip, hskip, hskip]
    exact h
  | some i =>
    have hl : m.hdfOperateMap_.lookup t = some (s.operators.get i) := by
      rw [h.hdfOperateMap_, hm]
      rfl
    have hfound : Shows (s.put id (.unLoading i)) m t :=
      ⟨h.hdfOperateMap_, h.hdfInuseRefCount_⟩
    have hc : (s.put id (.unLoading i)).calls.get id = .unLoading i := Table.get_set_self ..
    unfold find HdfOperateManager.unLoadDistributedHDF
    rw [hm, hl]
    rcases (s.operators.get i).unLoadDistributedHDF_cases o with ⟨hop, -⟩ | ⟨hop, -⟩ | ⟨hf, hop, -⟩
    · simp only [hop, if_true]
      exact shows_finishUnLoad hfound hc hm hop
    · simp only [hop, if_true]
      exact shows_finishUnLoad hfound hc hm hop
    · simp only [if_neg hf]
      constructor
      · simp [step, advance, unLoadOperator, put, hop, hf, hm, hl]
      · simp [step, advance, unLoadOperator, put, hf, h.hdfInuseRefCount_]

/-! ## Later unloads -/

/-- An unload that runs alone and finds loads takes one off, and erases the operator with the
last one. -/
theorem run_unLoadCall (hr : s.calls.get id = .returned) (hm : s.mapped = some i)
    (hpos : 0 < s.ref i) (ho : o.unLoad = DH_FWK_SUCCESS) :
    let s' := (unLoadCall id o).foldl step s
    s'.calls.get id = .returned ∧ s'.ref i = s.ref i - 1 ∧
      s'.mapped = if s.ref i ≤ 1 then none else some i := by
  have hfirst : s.step (.unLoad id) = s.put id (.unLoading i) := by
    refine (if_pos hr).trans ?_
    unfold find
    rw [hm]
  have hc : (s.put id (.unLoading i)).calls.get id = .unLoading i := Table.get_set_self ..
  rw [unLoadCall, List.foldl_cons, hfirst,
    run_unLoading hc ((s.operators.get i).unLoadDistributedHDF_of_pos o hpos ho)]
  refine ⟨Table.get_set_self .., ?_, ?_⟩
  · show ((s.operators.set i _).get i).hdfLoadRef_ = _
    rw [Table.get_set_self]
    rfl
  · show (if HdfOperator.isNeedErase ((s.operators.set i _).get i) then none else s.mapped) = _
    rw [Table.get_set_self, hm]
    refine if_congr ?_ rfl rfl
    rw [HdfOperator.isNeedErase, decide_eq_true_eq]
    show s.ref i - 1 ≤ 0 ↔ s.ref i ≤ 1
    omega

/-- As many unloads as there are loads unload the driver and erase its operator. -/
theorem run_unLoadCalls (ho : o.unLoad = DH_FWK_SUCCESS) :
    ∀ (n : ℕ) {s : HdfShared Lib}, s.calls.get id = .returned → s.mapped = some i →
      s.ref i = (n + 1 : ℕ) →
      let s' := (List.replicate (n + 1) (unLoadCall id o)).flatten.foldl step s
      s'.mapped = none ∧ s'.ref i = 0
  | n, s, hr, hm, href => by
    obtain ⟨hr', href', hm'⟩ := run_unLoadCall hr hm (by omega) ho
    rw [List.replicate_succ, List.flatten_cons, List.foldl_append]
    cases n with
    | zero =>
      rw [if_pos (by omega)] at hm'
      exact ⟨hm', by rw [List.replicate_zero, List.flatten_nil, List.foldl_nil]; omega⟩
    | succ n =>
      rw [if_neg (by omega)] at hm'
      exact run_unLoadCalls ho n hr' hm' (by omega)

end HdfShared

/-- In every orderly run of concurrent loads and unloads : no operator outside the map counts
a load, and once all calls have returned and more loads than unloads that found an operator
have succeeded, the operator in the map counts the difference, and as many later unloads
unload the driver and erase it. -/
theorem loads_kept (moves : List (HdfMove Lib))
    (h : Runs.Along HdfShared.step HdfShared.Orderly {} moves) :
    let s : HdfShared Lib := moves.foldl HdfShared.step {}
    (∀ i, s.mapped ≠ some i → s.ref i = 0) ∧
      (s.AllReturned → s.unLoads < s.loads →
        ∃ i, s.mapped = some i ∧ s.ref i = s.loads - s.unLoads ∧
          ∀ id (o : HdfOutcome Lib), o.unLoad = DH_FWK_SUCCESS →
            let s' := (List.replicate (s.loads - s.unLoads)
              (HdfShared.unLoadCall id o)).flatten.foldl HdfShared.step s
            s'.mapped = none ∧ s'.ref i = 0) := by
  intro s
  have hstep : ∀ (s : HdfShared Lib) (m : HdfMove Lib), s.Kept → s.Orderly m → (s.step m).Kept :=
    fun _ _ hs hm => hs.step hm
  have hk : s.Kept := h.invariant hstep HdfShared.kept_init
  refine ⟨hk.ref_eq_zero, fun hr hlt => ?_⟩
  obtain ⟨i, hm, href⟩ := hk.mapped_ref hr hlt
  refine ⟨i, hm, href, fun id o ho => ?_⟩
  obtain ⟨n, hn⟩ : ∃ n, s.loads - s.unLoads = n + 1 := ⟨s.loads - s.unLoads - 1, by omega⟩
  rw [hn]
  exact HdfShared.run_unLoadCalls ho n (hr.get_calls id) hm (by omega)

/-- Two loads and an unload, in turns. -/
def HdfShared.turns : List (HdfMove Unit) :=
  let o : HdfOutcome Unit := { dlopen := none }
  [.load 0 (.ok .loader), .load 1 (.ok .loader), .advance 0 o, .unLoad 2, .advance 1 o,
    .advance 1 o, .advance 2 o, .advance 0 o, .advance 2 o, .advance 2 o]

theorem loads_kept_turns :
    let s := HdfShared.turns.foldl HdfShared.step {}
    ∃ i, s.mapped = some i ∧ s.ref i = 1 := by
  obtain ⟨i, hm, href, -⟩ := (loads_kept HdfShared.turns (by decide)).2 (by decide) (by decide)
  exact ⟨i, hm, href⟩

/-- A second load finds the operator, an unload then takes off the load of the first and
erases the operator, and the second load counts in what is no longer in the map. -/
theorem load_lost :
    let o : HdfOutcome Unit := { dlopen := none }
    let found : List (HdfMove Unit) := [.load 1 (.ok .loader)]
    let counted : List (HdfMove Unit) := [.advance 1 o, .advance 1 o]
    let s : HdfShared Unit := (HdfShared.loadCall 0 (.ok .loader) o ++ found ++
      HdfShared.unLoadCall 2 o ++ counted).foldl HdfShared.step {}
    s.AllReturned ∧ (s.loads, s.unLoads) = (2, 1) ∧ s.mapped = none ∧ s.ref 0 = 1 := by
  decide

end DHFwk
