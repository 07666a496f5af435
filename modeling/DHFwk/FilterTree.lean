import Mathlib.Data.List.Basic

/-!
# Trees of filters

A `Pipeline` calls its head filters, each of them calls the filters that it feeds
(`nextFiltersMap_`), and a second pass waits until all of them are in the state that was asked
for. A filter drops what the calls of the filters that it feeds return; the wait finds a filter
that is not in the state and takes up its error code.

`waitAllState` asks the filters below one by one, and where one of them reports a failure it
goes on with the error code of that filter, not with what the wait returned. The failure of a
filter surfaces (`surfaces`) only if each of the filters that pass it on fails in its own step
too, save the head : of the filters that one filter feeds, the last that reports decides.
`pipeline_reports` is the exact condition under which `Start`, `Resume` and `Prepare` report
what happened.
-/

set_option linter.unusedSectionVars false

namespace DHFwk

/-- What a step of a filter returns, `OK` or an error. -/
abbrev Status := Int

abbrev Status.OK : Status := 0

inductive FilterState
  | CREATED
  | INITIALIZED
  | PREPARING
  | READY
  | RUNNING
  | PAUSED
  | STOPPED
  | RELEASED
  | ERROR
  deriving DecidableEq, Repr

/-- A filter without the filters that it feeds. `doPrepare`, `doStart` and `doResume` are what
its own steps return. -/
structure FilterNode where
  doPrepare : Status := Status.OK
  doStart : Status := Status.OK
  doResume : Status := Status.OK
  errCode_ : Status := Status.OK
  curState_ : FilterState := .INITIALIZED
  deriving DecidableEq, Repr

/-- A filter without a task of its own, and the filters of its `nextFiltersMap_` that are not
null, in the order of the map. -/
inductive Filter
  | mk (node : FilterNode) (nextFilters : List Filter)

namespace Filter

def node : Filter → FilterNode
  | mk node _ => node

def nextFilters : Filter → List Filter
  | mk _ nextFilters => nextFilters

/-! ## The calls of a filter -/

/-- `StartDone` and `ResumeDone`. -/
def stepDone (doStep : FilterNode → Status) (node : FilterNode) : Status × FilterNode :=
  let ret := doStep node
  (ret, { node with
    errCode_ := ret
    curState_ := if ret = Status.OK then .RUNNING else .ERROR })

mutual

/-- `Start` and `Resume` : the filters below first, whatever they return. -/
def run (doStep : FilterNode → Status) : Filter → Status × Filter
  | mk node nextFilters =>
    let done := stepDone doStep node
    (done.1, mk done.2 (runNext doStep nextFilters))

def runNext (doStep : FilterNode → Status) : List Filter → List Filter
  | [] => []
  | filter :: filters => (run doStep filter).2 :: runNext doStep filters

end

def start : Filter → Status × Filter :=
  run FilterNode.doStart

def resume : Filter → Status × Filter :=
  run FilterNode.doResume

mutual

/-- `PrepareDone`. -/
def prepare : Filter → Status × Filter
  | mk node nextFilters =>
    let ret := node.doPrepare
    if ret ≠ Status.OK then (ret, mk { node with errCode_ := ret } nextFilters)
    else (ret, mk { node with errCode_ := ret, curState_ := .READY } (prepareNext nextFilters))

def prepareNext : List Filter → List Filter
  | [] => []
  | filter :: filters => (prepare filter).2 :: prepareNext filters

end

mutual

/-- A filter that is not in the state is waited for in vain, as nothing else runs. -/
def waitAllState (state : FilterState) : Filter → Status
  | mk node nextFilters =>
    if node.curState_ ≠ state then node.errCode_
    else waitNext state Status.OK nextFilters

/-- `res` is what the filters before these have given. -/
def waitNext (state : FilterState) : Status → List Filter → Status
  | res, [] => res
  | res, filter :: filters =>
    waitNext state
      (if waitAllState state filter ≠ Status.OK then filter.node.errCode_ else res) filters

end

mutual

/-- The filter and those that are reachable from it. -/
def reachable : Filter → List FilterNode
  | mk node nextFilters => node :: reachableNext nextFilters

def reachableNext : List Filter → List FilterNode
  | [] => []
  | filter :: filters => reachable filter ++ reachableNext filters

end

end Filter

/-! ## The calls of a pipeline -/

namespace Pipeline

open DHFwk.Filter

/-- The first pass stops at a head that fails. -/
def callHeads (call : Filter → Status × Filter) : List Filter → Status × List Filter
  | [] => (Status.OK, [])
  | filter :: filters =>
    let (ret, filter') := call filter
    if ret ≠ Status.OK then (ret, filter' :: filters)
    else
      let (ret', filters') := callHeads call filters
      (ret', filter' :: filters')

/-- The second pass stops at a head that reports a failure. -/
def waitHeads (state : FilterState) : List Filter → Status
  | [] => Status.OK
  | filter :: filters =>
    let ret := waitAllState state filter
    if ret ≠ Status.OK then ret else waitHeads state filters

/-- Both passes. The heads that are not null are the list. -/
def callAndWait (call : Filter → Status × Filter) (state : FilterState) (filters_ : List Filter) :
    Status × List Filter :=
  let (ret, filters') := callHeads call filters_
  if ret ≠ Status.OK then (ret, filters') else (waitHeads state filters', filters')

def prepare : List Filter → Status × List Filter :=
  callAndWait Filter.prepare .READY

def start : List Filter → Status × List Filter :=
  callAndWait Filter.start .RUNNING

def resume : List Filter → Status × List Filter :=
  callAndWait Filter.resume .RUNNING

/-- A call reports : `OK` means that all filters are in the state, and a filter whose step
fails makes it an error. -/
def Reports (doStep : FilterNode → Status) (state : FilterState) (filters_ : List Filter)
    (result : Status × List Filter) : Prop :=
  (result.1 = Status.OK → ∀ node ∈ reachableNext result.2, node.curState_ = state) ∧
    ((∃ node ∈ reachableNext filters_, doStep node ≠ Status.OK) → result.1 ≠ Status.OK)

end Pipeline

/-! ## Which failures surface -/

namespace Filter

section Surface

variable (fails : FilterNode → Bool) (shows : FilterNode → List Filter → Bool)

mutual

/-- The filter, or what is below it, reports a failure to the filter that feeds it. `shows`
tells whether a filter whose own step fails is found. -/
def surfaces : Filter → Bool
  | mk node nextFilters =>
    if fails node then shows node nextFilters
    else lastReport nextFilters = some true

/-- Of the last filter that reports a failure, whether its own step fails. -/
def lastReport : List Filter → Option Bool
  | [] => none
  | filter :: filters =>
    match lastReport filters with
    | some own => some own
    | none => if surfaces filter then some (fails filter.node) else none

end

/-- A head is asked for its own result before the wait. -/
def headReports (filter : Filter) : Bool :=
  fails filter.node || lastReport fails shows filter.nextFilters = some true

end Surface

/-- The filters whose step fails. -/
def failsBy (doStep : FilterNode → Status) (node : FilterNode) : Bool :=
  doStep node ≠ Status.OK

/-- A filter that fails to start or to resume is in `ERROR`. -/
def showsRun (_ : FilterNode) (_ : List Filter) : Bool :=
  true

/-- A filter that fails to prepare keeps its state, and so do those below. -/
def showsPrepare (node : FilterNode) (nextFilters : List Filter) : Bool :=
  node.curState_ ≠ .READY || waitNext .READY Status.OK nextFilters ≠ Status.OK

variable {doStep : FilterNode → Status} {state : FilterState}

/-- If the wait on each filter tells whether it surfaces and a filter that surfaces has an error
code exactly if it fails, the wait on all of them tells what the last one reports. -/
theorem waitNext_cons_iff {fails : FilterNode → Bool} {shows : FilterNode → List Filter → Bool}
    {filter filter' : Filter} {filters filters' : List Filter}
    (hwait : waitAllState state filter' ≠ Status.OK ↔ surfaces fails shows filter = true)
    (hcode : filter'.node.errCode_ ≠ Status.OK ↔ fails filter.node = true)
    (hrest : ∀ res, waitNext state res filters' ≠ Status.OK ↔
      (lastReport fails shows filters).getD (decide (res ≠ Status.OK)) = true) (res : Status) :
    waitNext state res (filter' :: filters') ≠ Status.OK ↔
      (lastReport fails shows (filter :: filters)).getD (decide (res ≠ Status.OK)) = true := by
  rw [waitNext, hrest, lastReport]
  cases lastReport fails shows filters with
  | some own => rfl
  | none =>
    by_cases hs : surfaces fails shows filter = true
    · rw [if_pos (hwait.2 hs), if_pos hs]
      simp only [Option.getD_none, Option.getD_some, decide_eq_true_eq]
      exact hcode
    · rw [if_neg (mt hwait.1 hs), if_neg hs]

theorem run_errCode (doStep : FilterNode → Status) :
    ∀ filter : Filter, (run doStep filter).2.node.errCode_ ≠ Status.OK ↔
      failsBy doStep filter.node = true
  | mk node nextFilters => by
    rw [failsBy, decide_eq_true_eq, run]
    rfl

mutual

/-- After `Start` or `Resume` the wait on a filter tells whether it surfaces. -/
theorem waitAllState_run (doStep : FilterNode → Status) :
    ∀ filter : Filter, waitAllState .RUNNING (run doStep filter).2 ≠ Status.OK ↔
      surfaces (failsBy doStep) showsRun filter = true
  | mk node nextFilters => by
    rw [run, waitAllState, surfaces]
    by_cases hf : doStep node = Status.OK
    · have hfail : failsBy doStep node = false := by simp [failsBy, hf]
      have hstate : (stepDone doStep node).2.curState_ = .RUNNING := if_pos hf
      rw [if_neg (not_not.2 hstate), hfail, waitNext_runNext doStep nextFilters Status.OK]
      cases lastReport (failsBy doStep) showsRun nextFilters <;> simp
    · have hfail : failsBy doStep node = true := by simp [failsBy, hf]
      have hstate : (stepDone doStep node).2.curState_ = .ERROR := if_neg hf
      rw [hstate, hfail]
      exact iff_of_true hf rfl

theorem waitNext_runNext (doStep : FilterNode → Status) :
    ∀ (filters : List Filter) (res : Status),
      waitNext .RUNNING res (runNext doStep filters) ≠ Status.OK ↔
        (lastReport (failsBy doStep) showsRun filters).getD (decide (res ≠ Status.OK)) = true
  | [], res => by simp [runNext, waitNext, lastReport]
  | filter :: filters, res => by
    rw [runNext]
    exact waitNext_cons_iff (waitAllState_run doStep filter) (run_errCode doStep filter)
      (waitNext_runNext doStep filters) res

end

theorem prepare_errCode : ∀ filter : Filter, (prepare filter).2.node.errCode_ ≠ Status.OK ↔
    failsBy FilterNode.doPrepare filter.node = true
  | mk node nextFilters => by
    rw [failsBy, decide_eq_true_eq, prepare]
    split_ifs <;> rfl

mutual

/-- After `Prepare` the wait on a filter tells whether it surfaces. -/
theorem waitAllState_prepare :
    ∀ filter : Filter, waitAllState .READY (prepare filter).2 ≠ Status.OK ↔
      surfaces (failsBy FilterNode.doPrepare) showsPrepare filter = true
  | mk node nextFilters => by
    rw [prepare, surfaces]
    by_cases hf : node.doPrepare = Status.OK
    · have hfail : failsBy FilterNode.doPrepare node = false := by simp [failsBy, hf]
      rw [if_neg (not_not.2 hf), hfail, waitAllState, if_neg (not_not.2 rfl),
        waitNext_prepareNext nextFilters Status.OK]
      cases lastReport (failsBy FilterNode.doPrepare) showsPrepare nextFilters <;> simp
    · have hfail : failsBy FilterNode.doPrepare node = true := by simp [failsBy, hf]
      rw [if_pos hf, hfail, waitAllState]
      by_cases hstate : node.curState_ = .READY
      · simp [showsPrepare, hstate]
      · simp [showsPrepare, hstate, hf]

theorem waitNext_prepareNext :
    ∀ (filters : List Filter) (res : Status),
      waitNext .READY res (prepareNext filters) ≠ Status.OK ↔
        (lastReport (failsBy FilterNode.doPrepare) showsPrepare filters).getD
          (decide (res ≠ Status.OK)) = true
  | [], res => by simp [prepareNext, waitNext, lastReport]
  | filter :: filters, res => by
    rw [prepareNext]
    exact waitNext_cons_iff (waitAllState_prepare filter) (prepare_errCode filter)
      (waitNext_prepareNext filters) res

end

/-! ## The states that the calls leave -/

mutual

theorem curState_run :
    ∀ filter : Filter, (∀ node ∈ reachable filter, doStep node = Status.OK) →
      ∀ node ∈ reachable (run doStep filter).2, node.curState_ = .RUNNING
  | mk node nextFilters, h => by
    rw [reachable, List.forall_mem_cons] at h
    rw [run, reachable, List.forall_mem_cons]
    exact ⟨if_pos h.1, curState_runNext nextFilters h.2⟩

theorem curState_runNext :
    ∀ filters : List Filter, (∀ node ∈ reachableNext filters, doStep node = Status.OK) →
      ∀ node ∈ reachableNext (runNext doStep filters), node.curState_ = .RUNNING
  | [], _ => fun _ hmem => (List.not_mem_nil hmem).elim
  | filter :: filters, h => by
    rw [reachableNext, List.forall_mem_append] at h
    rw [runNext, reachableNext, List.forall_mem_append]
    exact ⟨curState_run filter h.1, curState_runNext filters h.2⟩

end

mutual

theorem curState_prepare :
    ∀ filter : Filter, (∀ node ∈ reachable filter, node.doPrepare = Status.OK) →
      ∀ node ∈ reachable (prepare filter).2, node.curState_ = .READY
  | mk node nextFilters, h => by
    rw [reachable, List.forall_mem_cons] at h
    rw [prepare, if_neg (not_not.2 h.1), reachable, List.forall_mem_cons]
    exact ⟨rfl, curState_prepareNext nextFilters h.2⟩

theorem curState_prepareNext :
    ∀ filters : List Filter, (∀ node ∈ reachableNext filters, node.doPrepare = Status.OK) →
      ∀ node ∈ reachableNext (prepareNext filters), node.curState_ = .READY
  | [], _ => fun _ hmem => (List.not_mem_nil hmem).elim
  | filter :: filters, h => by
    rw [reachableNext, List.forall_mem_append] at h
    rw [prepareNext, reachableNext, List.forall_mem_append]
    exact ⟨curState_prepare filter h.1, curState_prepareNext filters h.2⟩

end

theorem run_fst (doStep : FilterNode → Status) :
    ∀ filter : Filter, (run doStep filter).1 = doStep filter.node
  | mk node nextFilters => by
    rw [run]
    rfl

theorem prepare_fst : ∀ filter : Filter, (prepare filter).1 = filter.node.doPrepare
  | mk node nextFilters => by
    rw [prepare]
    split_ifs <;> rfl

end Filter

/-! ## What a pipeline reports -/

namespace Pipeline

open DHFwk.Filter

variable {call : Filter → Status × Filter} {state : FilterState} {doStep : FilterNode → Status}
  {shows : FilterNode → List Filter → Bool}

theorem callHeads_eq (call : Filter → Status × Filter) :
    ∀ filters : List Filter, (callHeads call filters).1 = Status.OK →
      (∀ filter ∈ filters, (call filter).1 = Status.OK) ∧
        (callHeads call filters).2 = filters.map fun filter => (call filter).2
  | [], _ => ⟨fun _ hmem => (List.not_mem_nil hmem).elim, rfl⟩
  | filter :: filters, h => by
    by_cases hret : (call filter).1 = Status.OK
    · simp only [callHeads, hret, ne_eq, not_true_eq_false, if_false] at h ⊢
      obtain ⟨hall, hmap⟩ := callHeads_eq call filters h
      rw [hmap, List.forall_mem_cons]
      exact ⟨⟨hret, hall⟩, rfl⟩
    · simp only [callHeads, ne_eq, hret, not_false_eq_true, if_true] at h

theorem callHeads_fst (call : Filter → Status × Filter) :
    ∀ filters : List Filter, (∀ filter ∈ filters, (call filter).1 = Status.OK) →
      (callHeads call filters).1 = Status.OK
  | [], _ => rfl
  | filter :: filters, h => by
    rw [List.forall_mem_cons] at h
    simp only [callHeads, h.1, ne_eq, not_true_eq_false, if_false]
    exact callHeads_fst call filters h.2

theorem waitHeads_eq (state : FilterState) :
    ∀ filters : List Filter, waitHeads state filters = Status.OK ↔
      ∀ filter ∈ filters, waitAllState state filter = Status.OK
  | [] => by simp [waitHeads]
  | filter :: filters => by
    rw [waitHeads, List.forall_mem_cons]
    by_cases hwait : waitAllState state filter = Status.OK
    · simp only [hwait, ne_eq, not_true_eq_false, if_false, true_and]
      exact waitHeads_eq state filters
    · simp [hwait]

theorem headReports_eq_false {fails : FilterNode → Bool} :
    ∀ filter : Filter, headReports fails shows filter = false ↔
      fails filter.node = false ∧ surfaces fails shows filter = false
  | mk node nextFilters => by
    rw [headReports, surfaces, Filter.node, Filter.nextFilters, Bool.or_eq_false_iff]
    exact and_congr_right fun hfail => by rw [hfail, if_neg Bool.false_ne_true]

/-- A call returns `OK` exactly if no head fails or passes a failure on. -/
theorem callAndWait_fst (hret : ∀ filter, (call filter).1 = doStep filter.node)
    (hwait : ∀ filter, waitAllState state (call filter).2 ≠ Status.OK ↔
      surfaces (failsBy doStep) shows filter = true) (filters_ : List Filter) :
    (callAndWait call state filters_).1 = Status.OK ↔
      filters_.any (headReports (failsBy doStep) shows) = false := by
  have hhead : ∀ filter : Filter, ¬headReports (failsBy doStep) shows filter = true ↔
      (call filter).1 = Status.OK ∧ waitAllState state (call filter).2 = Status.OK := by
    intro filter
    rw [Bool.not_eq_true, headReports_eq_false, hret, ← not_ne_iff (a := waitAllState _ _), hwait,
      Bool.not_eq_true]
    refine and_congr_left fun _ => ?_
    simp [failsBy]
  rw [List.any_eq_false, callAndWait]
  by_cases hcall : (callHeads call filters_).1 = Status.OK
  · obtain ⟨hall, hmap⟩ := callHeads_eq call filters_ hcall
    simp only [hcall, ne_eq, not_true_eq_false, if_false]
    rw [waitHeads_eq, hmap, List.forall_mem_map]
    exact forall₂_congr fun filter hmem => by rw [hhead, and_iff_right (hall filter hmem)]
  · simp only [ne_eq, hcall, not_false_eq_true, if_true, false_iff]
    intro hnone
    refine hcall (callHeads_fst call filters_ fun filter hmem => ?_)
    exact ((hhead filter).1 (hnone filter hmem)).1

/-- If a step fails anywhere, a head fails or passes a failure on. -/
def Surfaces (doStep : FilterNode → Status) (shows : FilterNode → List Filter → Bool)
    (filters_ : List Filter) : Prop :=
  (∃ node ∈ reachableNext filters_, doStep node ≠ Status.OK) →
    filters_.any (headReports (failsBy doStep) shows) = true

theorem reachableNext_map {f : Filter → Filter} {P : FilterNode → Prop} :
    ∀ filters : List Filter, (∀ filter ∈ filters, ∀ node ∈ reachable (f filter), P node) →
      ∀ node ∈ reachableNext (filters.map f), P node
  | [], _ => fun _ hmem => (List.not_mem_nil hmem).elim
  | filter :: filters, h => by
    rw [List.forall_mem_cons] at h
    rw [List.map_cons, reachableNext, List.forall_mem_append]
    exact ⟨h.1, reachableNext_map filters h.2⟩

theorem reachable_sub : ∀ {filters : List Filter} {filter : Filter}, filter ∈ filters →
    ∀ node ∈ reachable filter, node ∈ reachableNext filters
  | _ :: filters, filter, hmem, node, hnode => by
    rw [reachableNext, List.mem_append]
    rcases List.mem_cons.1 hmem with rfl | hmem
    · exact .inl hnode
    · exact .inr (reachable_sub hmem node hnode)

theorem reports_iff (hret : ∀ filter, (call filter).1 = doStep filter.node)
    (hwait : ∀ filter, waitAllState state (call filter).2 ≠ Status.OK ↔
      surfaces (failsBy doStep) shows filter = true)
    (hstate : ∀ filter, (∀ node ∈ reachable filter, doStep node = Status.OK) →
      ∀ node ∈ reachable (call filter).2, node.curState_ = state) (filters_ : List Filter) :
    Reports doStep state filters_ (callAndWait call state filters_) ↔
      Surfaces doStep shows filters_ := by
  have hfst := callAndWait_fst hret hwait filters_
  constructor
  · rintro ⟨-, hreport⟩ hfails
    rw [← Bool.not_eq_false, ← hfst]
    exact hreport hfails
  · intro hsurface
    refine ⟨fun hok => ?_, fun hfails hok => ?_⟩
    · have hsucceed : ∀ node ∈ reachableNext filters_, doStep node = Status.OK := by
        intro node hmem
        by_contra hfail
        have := hsurface ⟨node, hmem, hfail⟩
        rw [hfst.1 hok] at this
        exact Bool.false_ne_true this
      have hcall : (callHeads call filters_).1 = Status.OK := by
        by_contra hcall
        simp only [callAndWait, ne_eq, hcall, not_false_eq_true, if_true] at hok
      have hheads : (callAndWait call state filters_).2 =
          filters_.map fun filter => (call filter).2 := by
        simp only [callAndWait, hcall, ne_eq, not_true_eq_false, if_false]
        exact (callHeads_eq call filters_ hcall).2
      rw [hheads]
      refine reachableNext_map filters_ fun filter hmem => hstate filter fun node hnode => ?_
      exact hsucceed node (reachable_sub hmem node hnode)
    · have := hsurface hfails
      rw [hfst.1 hok] at this
      exact Bool.false_ne_true this

/-- `Prepare`, `Start` and `Resume` report what happened exactly if a failing step surfaces. -/
theorem pipeline_reports (filters_ : List Filter) :
    (Reports FilterNode.doPrepare .READY filters_ (prepare filters_) ↔
        Surfaces FilterNode.doPrepare showsPrepare filters_) ∧
      (Reports FilterNode.doStart .RUNNING filters_ (start filters_) ↔
        Surfaces FilterNode.doStart showsRun filters_) ∧
      (Reports FilterNode.doResume .RUNNING filters_ (resume filters_) ↔
        Surfaces FilterNode.doResume showsRun filters_) :=
  ⟨reports_iff prepare_fst waitAllState_prepare curState_prepare filters_,
    reports_iff (run_fst _) (waitAllState_run _) curState_run filters_,
    reports_iff (run_fst _) (waitAllState_run _) curState_run filters_⟩

/-- An input, its decoder and the output that the decoder feeds, which fails. -/
def inputDecoderOutput (output : FilterNode) : List Filter :=
  [.mk {} [.mk {} [.mk output []]]]

/-- The output that a decoder feeds does not start, does not resume or does not prepare, and the
pipeline returns `OK`. -/
theorem pipeline_not_reports :
    ¬Reports FilterNode.doStart .RUNNING (inputDecoderOutput { doStart := 3 })
        (start (inputDecoderOutput { doStart := 3 })) ∧
      ¬Reports FilterNode.doResume .RUNNING (inputDecoderOutput { doResume := 3 })
        (resume (inputDecoderOutput { doResume := 3 })) ∧
      ¬Reports FilterNode.doPrepare .READY (inputDecoderOutput { doPrepare := 3 })
        (prepare (inputDecoderOutput { doPrepare := 3 })) := by
  refine ⟨fun h => ?_, fun h => ?_, fun h => ?_⟩
  · exact absurd (h.1 rfl) (by decide)
  · exact absurd (h.1 rfl) (by decide)
  · exact absurd (h.1 rfl) (by decide)

end Pipeline

end DHFwk
