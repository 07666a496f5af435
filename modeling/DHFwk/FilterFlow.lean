import DHFwk.Runs
import DHFwk.FilterTree
import DHFwk.TreeCalls

/-!
# What runs while a pipeline is called

`Start` and `Resume` of a filter go to the filters that it feeds before the filter itself, `Pause`
and `Stop` to the filter first : a filter that runs feeds filters that run, or that have failed
(`Feeds`), also while a call is under way. `Release` goes the way of `Start`, and `Prepare` makes
filters ready from below and lets each link filters that are new.

`flows_iff` says which calls keep this at every moment of every run of a pipeline. `Start`,
`Resume`, `Pause` and `Stop` always do. `Release` does unless it releases a filter that one that
still runs feeds, `Prepare` unless it reaches a filter that runs and makes a filter that it feeds
ready, or has it link one (`PrepareKeeps`).

A pipeline lets go of its filters in `Stop` and in `Release`. None of them runs then
(`dropped_rest`), and there is no other way out of it.
-/

set_option linter.unusedSectionVars false

namespace DHFwk

namespace Flow

open TreeCalls TreeCalls.NodeTree

/-! ## Filters -/

/-- A filter. `id` tells it from others as its address does. -/
structure Filter where
  id : ℕ
  curState_ : FilterState := .INITIALIZED
  errCode_ : Status := Status.OK
  deriving DecidableEq, Repr

/-- A filter that `DoPrepare` links, what its own `DoPrepare` returns, and those that this one
links. -/
abbrev Linked := NodeTree (ℕ × Status)

/-- `LinkNext` and `LinkPipeLine`. -/
def link : Linked → NodeTree Filter
  | node (id, _) _ => node { id := id } []

/-- `StartDone`, `PauseDone`, `ResumeDone`, `StopDone` and `ReleaseDone`. -/
def stepDone (state : FilterState) (doStep : ℕ → Status) (filter : Filter) : Filter :=
  { filter with
    errCode_ := doStep filter.id
    curState_ := if doStep filter.id = Status.OK then state else .ERROR }

def start (doStart : ℕ → Status) : NodeTree Filter → List (NodeTree Filter) × NodeTree Filter :=
  upward (stepDone .RUNNING doStart)

def resume (doResume : ℕ → Status) : NodeTree Filter → List (NodeTree Filter) × NodeTree Filter :=
  upward (stepDone .RUNNING doResume)

def release (doRelease : ℕ → Status) : NodeTree Filter → List (NodeTree Filter) × NodeTree Filter :=
  upward (stepDone .RELEASED doRelease)

def pause (doPause : ℕ → Status) : NodeTree Filter → List (NodeTree Filter) × NodeTree Filter :=
  downward (stepDone .PAUSED doPause)

def stop (doStop : ℕ → Status) : NodeTree Filter → List (NodeTree Filter) × NodeTree Filter :=
  downward (stepDone .STOPPED doStop)

mutual

/-- `PrepareDone` of a filter that was linked in the same call. -/
def prepareLinked : Linked → List (NodeTree Filter) × NodeTree Filter
  | node (id, ret) linked =>
    let filter : Filter := { id := id, errCode_ := ret }
    let begun := node filter (linked.map link)
    if ret ≠ Status.OK then ([begun], begun)
    else
      let (moments, next) := prepareAllLinked linked
      let ready := node { filter with curState_ := .READY } next
      (begun :: (moments.map (node filter) ++ [ready]), ready)

def prepareAllLinked : List Linked → List (List (NodeTree Filter)) × List (NodeTree Filter)
  | [] => ([], [])
  | l :: ls =>
    let (moments, t) := prepareLinked l
    let (moments', ts) := prepareAllLinked ls
    (moments.map (· :: ls.map link) ++ moments'.map (t :: ·), t :: ts)

end

section Prepare

-- what `DoPrepare` of a filter returns, and the filters that it links
variable (doPrepare : ℕ → Status × List Linked)

mutual

/-- `PrepareDone` : the next filters may be added in `DoPrepare`. -/
def prepare : NodeTree Filter → List (NodeTree Filter) × NodeTree Filter
  | node filter next =>
    let (ret, linked) := doPrepare filter.id
    let filter := { filter with errCode_ := ret }
    let begun := node filter (next ++ linked.map link)
    if ret ≠ Status.OK then ([begun], begun)
    else
      let (moments, next) := prepareNext linked next
      let ready := node { filter with curState_ := .READY } next
      (begun :: (moments.map (node filter) ++ [ready]), ready)

/-- The filters that were there, then those that are new. -/
def prepareNext (linked : List Linked) :
    List (NodeTree Filter) → List (List (NodeTree Filter)) × List (NodeTree Filter)
  | [] => prepareAllLinked linked
  | t :: ts =>
    let (moments, t') := prepare t
    let (moments', ts') := prepareNext linked ts
    (moments.map (· :: (ts ++ linked.map link)) ++ moments'.map (t' :: ·), t' :: ts')

end

end Prepare

/-! ## Pipelines -/

/-- A pipeline. `dropped` are the filters that it has let go of. -/
structure Pipeline where
  filters_ : List (NodeTree Filter) := []
  dropped : List (NodeTree Filter) := []

/-- The calls of a pipeline, each with what the steps of the filters return. -/
inductive Call
  | addHeadFilters (filtersIn : List (NodeTree Filter))
  | prepare (doPrepare : ℕ → Status × List Linked)
  | start (doStart : ℕ → Status)
  | pause (doPause : ℕ → Status)
  | resume (doResume : ℕ → Status)
  | stop (doStop : ℕ → Status)
  | release (doRelease : ℕ → Status)

/-- The heads in turn, up to the first whose own step fails. -/
def callHeads (ok : Filter → Prop) [DecidablePred ok]
    (call : NodeTree Filter → List (NodeTree Filter) × NodeTree Filter) :
    List (NodeTree Filter) → List (List (NodeTree Filter)) × List (NodeTree Filter)
  | [] => ([], [])
  | t :: ts =>
    let (moments, t') := call t
    let (moments', ts') := if ok t.value then callHeads ok call ts else ([], ts)
    (moments.map (· :: ts) ++ moments'.map (t' :: ·), t' :: ts')

def linkPipeLine : NodeTree Filter → NodeTree Filter
  | node filter next => node { filter with curState_ := .INITIALIZED } next

/-- Heads that the pipeline has are not added again. -/
def addHeadFilters (filters_ filtersIn : List (NodeTree Filter)) : List (NodeTree Filter) :=
  filters_ ++ (filtersIn.filter fun t => t.value.id ∉ filters_.map (·.value.id)).map linkPipeLine

/-- What a call does to the filters of a pipeline, moment by moment and all in all. -/
def run (filters_ : List (NodeTree Filter)) :
    Call → List (List (NodeTree Filter)) × List (NodeTree Filter)
  | .addHeadFilters filtersIn =>
    ([addHeadFilters filters_ filtersIn], addHeadFilters filters_ filtersIn)
  | .prepare doPrepare =>
    callHeads (fun filter => (doPrepare filter.id).1 = Status.OK) (prepare doPrepare) filters_
  | .start doStart => callHeads (doStart ·.id = Status.OK) (start doStart) filters_
  | .resume doResume => callHeads (doResume ·.id = Status.OK) (resume doResume) filters_
  | .pause doPause => callHeads (fun _ => True) (pause doPause) filters_
  | .stop doStop => callHeads (fun _ => True) (stop doStop) filters_
  | .release doRelease => callHeads (fun _ => True) (release doRelease) filters_

/-- `Stop` and `Release` clear the filters at last. -/
def step (pipeline : Pipeline) (call : Call) : Pipeline :=
  let filters := (run pipeline.filters_ call).2
  match call with
  | .stop _ | .release _ => { filters_ := [], dropped := pipeline.dropped ++ filters }
  | _ => { pipeline with filters_ := filters }

/-! ## What keeps it flowing -/

/-- A filter that runs feeds one that runs, or that has failed. -/
def Feeds (filter next : Filter) : Prop :=
  filter.curState_ = .RUNNING → next.curState_ = .RUNNING ∨ next.curState_ = .ERROR

def Flowing (filters_ : List (NodeTree Filter)) : Prop :=
  ∀ t ∈ filters_, t.Safe Feeds

/-- The heads that a call gets to. -/
def called (ok : Filter → Prop) [DecidablePred ok] : List (NodeTree Filter) → List (NodeTree Filter)
  | [] => []
  | t :: ts => t :: if ok t.value then called ok ts else []

mutual

/-- The filters that `Prepare` gets to, each with those below. -/
def reached (doPrepare : ℕ → Status × List Linked) : NodeTree Filter → List (NodeTree Filter)
  | node filter next =>
    node filter next ::
      if (doPrepare filter.id).1 = Status.OK then reachedNext doPrepare next else []

def reachedNext (doPrepare : ℕ → Status × List Linked) :
    List (NodeTree Filter) → List (NodeTree Filter)
  | [] => []
  | t :: ts => reached doPrepare t ++ reachedNext doPrepare ts

end

/-- A filter that runs links nothing and is not prepared together with one that it feeds. -/
def PrepareKeeps (doPrepare : ℕ → Status × List Linked) (t : NodeTree Filter) : Prop :=
  t.value.curState_ = .RUNNING → (doPrepare t.value.id).2 = [] ∧
    ((doPrepare t.value.id).1 = Status.OK → ∀ t' ∈ t.next, (doPrepare t'.value.id).1 ≠ Status.OK)

/-- The calls that keep the filters flowing. -/
def Keeps (filters_ : List (NodeTree Filter)) : Call → Prop
  | .addHeadFilters filtersIn =>
    ∀ t ∈ filtersIn, t.value.id ∉ filters_.map (·.value.id) → Flowing t.next
  | .prepare doPrepare =>
    ∀ t ∈ called (fun filter => (doPrepare filter.id).1 = Status.OK) filters_,
      ∀ t' ∈ reached doPrepare t, PrepareKeeps doPrepare t'
  | .release doRelease =>
    ∀ t ∈ filters_, ∀ e ∈ t.edges, e.1.curState_ = .RUNNING → doRelease e.2.id ≠ Status.OK
  | .start _ | .resume _ | .pause _ | .stop _ => True

/-! ## Calls that change the states only -/

section Steps

variable {doStep : ℕ → Status} {t : NodeTree Filter}

theorem stepDone_running (state : FilterState) (doStep : ℕ → Status) (filter : Filter) :
    (stepDone state doStep filter).curState_ = state ∨
      (stepDone state doStep filter).curState_ = .ERROR := by
  rw [stepDone]
  dsimp only
  split_ifs
  · exact .inl rfl
  · exact .inr rfl

/-- A step that does not make a filter run makes it feed nothing. -/
theorem feeds_of_stepDone {state : FilterState} (hstate : state ≠ .RUNNING)
    (filter next : Filter) : Feeds (stepDone state doStep filter) next := by
  intro hrun
  obtain h | h := stepDone_running state doStep filter
  · exact absurd (h.symm.trans hrun) hstate
  · exact absurd (h.symm.trans hrun) (by decide)

theorem start_safe (h : t.Safe Feeds) :
    ∀ m ∈ (upward (stepDone .RUNNING doStep) t).1, m.Safe Feeds :=
  (upward_safe_iff h).2 fun e _ =>
    ⟨fun _ => stepDone_running .RUNNING doStep e.2, fun _ => stepDone_running .RUNNING doStep e.2⟩

theorem pause_safe {state : FilterState} (hstate : state ≠ .RUNNING) (h : t.Safe Feeds) :
    ∀ m ∈ (downward (stepDone state doStep) t).1, m.Safe Feeds :=
  (downward_safe_iff h).2 fun e _ =>
    ⟨feeds_of_stepDone hstate e.1 e.2, feeds_of_stepDone hstate e.1 _⟩

/-- A filter that is released no longer runs. -/
theorem feeds_release_iff (filter next : Filter) :
    Feeds filter (stepDone .RELEASED doStep next) ↔
      (filter.curState_ = .RUNNING → doStep next.id ≠ Status.OK) := by
  refine forall_congr' fun _ => ?_
  rw [stepDone]
  dsimp only
  split_ifs with hok
  · simp [hok]
  · simp [hok]

theorem release_safe_iff (h : t.Safe Feeds) :
    (∀ m ∈ (release doStep t).1, m.Safe Feeds) ↔
      ∀ e ∈ t.edges, e.1.curState_ = .RUNNING → doStep e.2.id ≠ Status.OK := by
  rw [release, upward_safe_iff h]
  refine forall₂_congr fun e _ => ?_
  rw [feeds_release_iff]
  exact and_iff_left (feeds_of_stepDone (by decide) e.1 _)

end Steps

/-! ## Prepare -/

section Prepared

/-- Nothing runs. -/
def Quiet (t : NodeTree Filter) : Prop :=
  ∀ filter ∈ t.nodes, filter.curState_ ≠ .RUNNING

theorem quiet_node_iff {filter : Filter} {next : List (NodeTree Filter)} :
    Quiet (node filter next) ↔ filter.curState_ ≠ .RUNNING ∧ ∀ t ∈ next, Quiet t := by
  rw [Quiet, nodes, List.forall_mem_cons, forall_mem_nodesBelow]
  rfl

theorem Quiet.safe {t : NodeTree Filter} (h : Quiet t) : t.Safe Feeds :=
  safe_of_nodes fun filter hmem _ hrun => absurd hrun (h filter hmem)

theorem curState_link : ∀ l : Linked, (link l).value.curState_ = .INITIALIZED
  | node _ _ => rfl

theorem quiet_link : ∀ l : Linked, Quiet (link l)
  | node _ _ => quiet_node_iff.2 ⟨by simp, fun _ hmem => (List.not_mem_nil hmem).elim⟩

theorem quiet_map_link (linked : List Linked) : ∀ t ∈ linked.map link, Quiet t :=
  List.forall_mem_map.2 fun l _ => quiet_link l

theorem prepareLinked_last : ∀ l : Linked, (prepareLinked l).2 ∈ (prepareLinked l).1
  | node (id, ret) linked => by
    rw [prepareLinked]
    dsimp only
    split_ifs <;> simp

theorem prepareAllLinked_last : ∀ ls : List Linked, (prepareAllLinked ls).2 = ls.map link ∨
    (prepareAllLinked ls).2 ∈ (prepareAllLinked ls).1
  | [] => .inl rfl
  | l :: ls => .inr (mem_inTurn (prepareLinked_last l) (prepareAllLinked_last ls))

mutual

theorem quiet_prepareLinked : ∀ {l : Linked} {m : NodeTree Filter}, m ∈ (prepareLinked l).1 →
    Quiet m
  | node (id, ret) linked, m, hm => by
    have hnext : ∀ t ∈ (prepareAllLinked linked).2, Quiet t := by
      obtain hsame | hlast := prepareAllLinked_last linked
      · rw [hsame]
        exact quiet_map_link linked
      · exact quiet_prepareAllLinked hlast
    rw [prepareLinked] at hm
    dsimp only at hm
    split_ifs at hm with hret
    · rw [List.mem_singleton.1 hm]
      exact quiet_node_iff.2 ⟨by simp, quiet_map_link linked⟩
    · simp only [List.mem_cons, List.mem_append, List.mem_map, List.not_mem_nil, or_false] at hm
      obtain rfl | ⟨l, hl, rfl⟩ | rfl := hm
      · exact quiet_node_iff.2 ⟨by simp, quiet_map_link linked⟩
      · exact quiet_node_iff.2 ⟨by simp, quiet_prepareAllLinked hl⟩
      · exact quiet_node_iff.2 ⟨by simp, hnext⟩

theorem quiet_prepareAllLinked : ∀ {ls : List Linked} {ts : List (NodeTree Filter)},
    ts ∈ (prepareAllLinked ls).1 → ∀ t ∈ ts, Quiet t
  | l :: ls, ts, hts => by
    rw [prepareAllLinked] at hts
    dsimp only at hts
    simp only [List.mem_append, List.mem_map] at hts
    obtain ⟨m, hm, rfl⟩ | ⟨ts, hts, rfl⟩ := hts
    · rw [List.forall_mem_cons]
      exact ⟨quiet_prepareLinked hm, quiet_map_link ls⟩
    · rw [List.forall_mem_cons]
      exact ⟨quiet_prepareLinked (prepareLinked_last l), quiet_prepareAllLinked hts⟩

end

variable {doPrepare : ℕ → Status × List Linked} {linked : List Linked}

/-- A filter that runs has linked nothing if what it feeds runs. -/
theorem safeBelow_link_iff {filter : Filter} {next : List (NodeTree Filter)}
    (h : SafeBelow Feeds filter next) :
    SafeBelow Feeds filter (next ++ linked.map link) ↔
      (filter.curState_ = .RUNNING → linked = []) := by
  rw [SafeBelow, List.forall_mem_append, List.forall_mem_map]
  constructor
  · rintro ⟨-, hlink⟩ hrun
    refine List.eq_nil_iff_forall_not_mem.2 fun l hl => ?_
    have hstate := (hlink l hl).1 hrun
    rw [curState_link] at hstate
    exact absurd hstate (by decide)
  · intro hnil
    refine ⟨h, fun l hl => ⟨fun hrun => ?_, (quiet_link l).safe⟩⟩
    rw [hnil hrun] at hl
    exact (List.not_mem_nil hl).elim

theorem prepare_last : ∀ t : NodeTree Filter, (prepare doPrepare t).2 ∈ (prepare doPrepare t).1
  | node filter next => by
    rw [prepare]
    dsimp only
    split_ifs <;> simp

theorem prepareNext_last : ∀ ts : List (NodeTree Filter),
    (prepareNext doPrepare linked ts).2 = ts ++ linked.map link ∨
      (prepareNext doPrepare linked ts).2 ∈ (prepareNext doPrepare linked ts).1
  | [] => prepareAllLinked_last linked
  | t :: ts => .inr (mem_inTurn (prepare_last t) (prepareNext_last ts))

/-- The state of a filter while it is prepared. -/
theorem prepare_moment : ∀ {t m : NodeTree Filter}, m ∈ (prepare doPrepare t).1 →
    m.value.curState_ = t.value.curState_ ∨
      (doPrepare t.value.id).1 = Status.OK ∧ m.value.curState_ = .READY
  | node filter next, m, hm => by
    rw [prepare] at hm
    dsimp only at hm
    split_ifs at hm with hret
    · rw [List.mem_singleton.1 hm]
      exact .inl rfl
    · simp only [List.mem_cons, List.mem_append, List.mem_map, List.not_mem_nil, or_false] at hm
      obtain rfl | ⟨l, hl, rfl⟩ | rfl := hm
      · exact .inl rfl
      · exact .inl rfl
      · exact .inr ⟨not_not.1 hret, rfl⟩

theorem prepare_ready : ∀ {t : NodeTree Filter}, (doPrepare t.value.id).1 = Status.OK →
    (prepare doPrepare t).2.value.curState_ = .READY
  | node filter next, hret => by
    have hok : (doPrepare filter.id).1 = Status.OK := hret
    rw [prepare]
    dsimp only
    rw [if_neg (not_not.2 hok)]
    rfl

theorem feeds_prepare_iff {filter : Filter} {t : NodeTree Filter} (h : Feeds filter t.value) :
    (∀ m ∈ (prepare doPrepare t).1, Feeds filter m.value) ↔
      (filter.curState_ = .RUNNING → (doPrepare t.value.id).1 ≠ Status.OK) := by
  constructor
  · intro hall hrun hret
    obtain hbad | hbad := hall _ (prepare_last t) hrun
    · exact absurd ((prepare_ready hret).symm.trans hbad) (by decide)
    · exact absurd ((prepare_ready hret).symm.trans hbad) (by decide)
  · intro hret m hm hrun
    obtain hsame | ⟨hok, -⟩ := prepare_moment hm
    · rw [hsame]
      exact h hrun
    · exact absurd hok (hret hrun)

mutual

theorem prepare_safe_iff : ∀ {t : NodeTree Filter}, t.Safe Feeds →
    ((∀ m ∈ (prepare doPrepare t).1, m.Safe Feeds) ↔
      ∀ t' ∈ reached doPrepare t, PrepareKeeps doPrepare t')
  | node filter next, h => by
    have hlink : SafeBelow Feeds filter (next ++ (doPrepare filter.id).2.map link) ↔
        (filter.curState_ = .RUNNING → (doPrepare filter.id).2 = []) :=
      safeBelow_link_iff (safe_node_iff.1 h)
    rw [reached, List.forall_mem_cons]
    by_cases hret : (doPrepare filter.id).1 = Status.OK
    · have hnext : SafeBelow Feeds filter (next ++ (doPrepare filter.id).2.map link) →
          ((∀ l ∈ (prepareNext doPrepare (doPrepare filter.id).2 next).1,
              SafeBelow Feeds filter l) ↔
            (filter.curState_ = .RUNNING → ∀ t ∈ next, (doPrepare t.value.id).1 ≠ Status.OK) ∧
              ∀ t' ∈ reachedNext doPrepare next, PrepareKeeps doPrepare t') :=
        prepareNext_safe_iff
      rw [prepare]
      dsimp only
      rw [if_neg (not_not.2 hret), if_pos hret, List.forall_mem_cons, List.forall_mem_append,
        List.forall_mem_map, List.forall_mem_singleton]
      simp only [safe_node_iff]
      constructor
      · rintro ⟨hbegun, hbelow, -⟩
        obtain ⟨hown, hall⟩ := (hnext hbegun).1 hbelow
        exact ⟨fun hrun => ⟨hlink.1 hbegun hrun, fun _ => hown hrun⟩, hall⟩
      · rintro ⟨hown, hall⟩
        have hbegun := hlink.2 fun hrun => (hown hrun).1
        have hbelow := (hnext hbegun).2 ⟨fun hrun => (hown hrun).2 hret, hall⟩
        refine ⟨hbegun, hbelow, fun t ht => ⟨fun hrun => absurd hrun (by simp), ?_⟩⟩
        obtain hsame | hlast := prepareNext_last next
        · rw [hsame] at ht
          exact (hbegun t ht).2
        · exact (hbelow _ hlast t ht).2
    · rw [prepare]
      dsimp only
      rw [if_pos hret, if_neg hret, List.forall_mem_singleton, safe_node_iff]
      constructor
      · intro hbegun
        exact ⟨fun hrun => ⟨hlink.1 hbegun hrun, fun hok => absurd hok hret⟩, by simp⟩
      · rintro ⟨hown, -⟩
        exact hlink.2 fun hrun => (hown hrun).1

theorem prepareNext_safe_iff : ∀ {filter : Filter} {linked : List Linked}
    {ts : List (NodeTree Filter)}, SafeBelow Feeds filter (ts ++ linked.map link) →
      ((∀ l ∈ (prepareNext doPrepare linked ts).1, SafeBelow Feeds filter l) ↔
        (filter.curState_ = .RUNNING → ∀ t ∈ ts, (doPrepare t.value.id).1 ≠ Status.OK) ∧
          ∀ t' ∈ reachedNext doPrepare ts, PrepareKeeps doPrepare t')
  | filter, linked, [], h => by
    have hnil : filter.curState_ = .RUNNING → linked = [] :=
      (safeBelow_link_iff fun _ hmem => (List.not_mem_nil hmem).elim).1 h
    refine iff_of_true (fun l hl t ht => ?_) ⟨by simp, by simp [reachedNext]⟩
    refine ⟨fun hrun => ?_, (quiet_prepareAllLinked hl t ht).safe⟩
    rw [hnil hrun] at hl
    exact (List.not_mem_nil hl).elim
  | filter, linked, t :: ts, h => by
    obtain ⟨hvalue, ht⟩ := (safeBelow_cons_iff.1 h).1
    have hts : SafeBelow Feeds filter (ts ++ linked.map link) := (safeBelow_cons_iff.1 h).2
    rw [prepareNext]
    dsimp only
    rw [safeBelow_inTurn_iff (prepare_last t) hts, feeds_prepare_iff hvalue, prepare_safe_iff ht,
      prepareNext_safe_iff hts, reachedNext, List.forall_mem_append]
    simp only [List.forall_mem_cons]
    constructor
    · rintro ⟨⟨hown, hbelow⟩, hrest, hnext⟩
      exact ⟨fun hrun => ⟨hown hrun, hrest hrun⟩, hbelow, hnext⟩
    · rintro ⟨hown, hbelow, hnext⟩
      exact ⟨⟨fun hrun => (hown hrun).1, hbelow⟩, fun hrun => (hown hrun).2, hnext⟩

end

end Prepared

/-! ## Runs of a pipeline -/

section Heads

variable {ok : Filter → Prop} [DecidablePred ok]
  {call : NodeTree Filter → List (NodeTree Filter) × NodeTree Filter}

theorem callHeads_last (hlast : ∀ t, (call t).2 ∈ (call t).1) : ∀ filters_ : List (NodeTree Filter),
    (callHeads ok call filters_).2 = filters_ ∨
      (callHeads ok call filters_).2 ∈ (callHeads ok call filters_).1
  | [] => .inl rfl
  | t :: ts => by
    have hrest : (if ok t.value then callHeads ok call ts else ([], ts)).2 = ts ∨
        (if ok t.value then callHeads ok call ts else ([], ts)).2 ∈
          (if ok t.value then callHeads ok call ts else ([], ts)).1 := by
      split_ifs
      · exact callHeads_last hlast ts
      · exact .inl rfl
    rw [callHeads]
    exact .inr (mem_inTurn (hlast t) hrest)

theorem callHeads_flowing_iff (hlast : ∀ t, (call t).2 ∈ (call t).1) :
    ∀ {filters_ : List (NodeTree Filter)}, Flowing filters_ →
      ((∀ l ∈ (callHeads ok call filters_).1, Flowing l) ↔
        ∀ t ∈ called ok filters_, ∀ m ∈ (call t).1, m.Safe Feeds)
  | [], _ => by simp [callHeads, called]
  | t :: ts, h => by
    have hts : Flowing ts := fun t' ht' => h t' (List.mem_cons_of_mem t ht')
    rw [callHeads, called, List.forall_mem_cons]
    dsimp only
    simp only [Flowing]
    rw [forall_inTurn_iff (hlast t) hts]
    refine and_congr_right fun _ => ?_
    split_ifs
    · exact callHeads_flowing_iff hlast hts
    · simp

theorem called_sub : ∀ {filters_ : List (NodeTree Filter)} {t : NodeTree Filter},
    t ∈ called ok filters_ → t ∈ filters_
  | t' :: ts, t, ht => by
    rw [called, List.mem_cons] at ht
    split_ifs at ht
    · exact List.mem_cons.2 (ht.imp_right called_sub)
    · exact List.mem_cons.2 (ht.imp_right fun hmem => (List.not_mem_nil hmem).elim)

/-- Where no failure stops a call, it gets to all heads. -/
theorem called_true : ∀ filters_ : List (NodeTree Filter),
    called (fun _ => True) filters_ = filters_
  | [] => rfl
  | t :: ts => by rw [called, if_pos trivial, called_true ts]

end Heads

section Calls

variable {filters_ : List (NodeTree Filter)}

theorem addHeadFilters_flowing_iff {filtersIn : List (NodeTree Filter)} (h : Flowing filters_) :
    Flowing (addHeadFilters filters_ filtersIn) ↔ Keeps filters_ (.addHeadFilters filtersIn) := by
  have hlink : ∀ t : NodeTree Filter, (linkPipeLine t).Safe Feeds ↔ Flowing t.next
    | node filter next => by
      rw [linkPipeLine, safe_node_iff]
      exact ⟨fun hbelow t ht => (hbelow t ht).2,
        fun hnext t ht => ⟨fun hrun => absurd hrun (by simp), hnext t ht⟩⟩
  rw [Flowing, addHeadFilters, List.forall_mem_append, List.forall_mem_map]
  refine (and_iff_right h).trans ?_
  simp only [hlink, List.mem_filter, decide_eq_true_eq, and_imp]
  rfl

/-- A call keeps the filters flowing at all its moments. -/
theorem run_flowing_iff (h : Flowing filters_) : ∀ call : Call,
    (∀ l ∈ (run filters_ call).1, Flowing l) ↔ Keeps filters_ call
  | .addHeadFilters filtersIn => by
    rw [run, List.forall_mem_singleton]
    exact addHeadFilters_flowing_iff h
  | .prepare doPrepare => by
    refine (callHeads_flowing_iff prepare_last h).trans ?_
    exact forall₂_congr fun t ht => prepare_safe_iff (h t (called_sub ht))
  | .start doStart => by
    refine (callHeads_flowing_iff upward_last h).trans ?_
    exact iff_of_true (fun t ht => start_safe (h t (called_sub ht))) trivial
  | .resume doResume => by
    refine (callHeads_flowing_iff upward_last h).trans ?_
    exact iff_of_true (fun t ht => start_safe (h t (called_sub ht))) trivial
  | .pause doPause => by
    refine (callHeads_flowing_iff downward_last h).trans ?_
    exact iff_of_true (fun t ht => pause_safe (by decide) (h t (called_sub ht))) trivial
  | .stop doStop => by
    refine (callHeads_flowing_iff downward_last h).trans ?_
    exact iff_of_true (fun t ht => pause_safe (by decide) (h t (called_sub ht))) trivial
  | .release doRelease => by
    refine (callHeads_flowing_iff upward_last h).trans ?_
    rw [called_true]
    exact forall₂_congr fun t ht => release_safe_iff (h t ht)

theorem run_last : ∀ call : Call, (run filters_ call).2 = filters_ ∨
    (run filters_ call).2 ∈ (run filters_ call).1
  | .addHeadFilters _ => .inr List.mem_cons_self
  | .prepare _ => callHeads_last prepare_last filters_
  | .start _ => callHeads_last upward_last filters_
  | .resume _ => callHeads_last upward_last filters_
  | .pause _ => callHeads_last downward_last filters_
  | .stop _ => callHeads_last downward_last filters_
  | .release _ => callHeads_last upward_last filters_

theorem step_flowing (pipeline : Pipeline) (call : Call) (h : Flowing pipeline.filters_)
    (hkeeps : Keeps pipeline.filters_ call) : Flowing (step pipeline call).filters_ := by
  have hrun : Flowing (run pipeline.filters_ call).2 := by
    obtain hsame | hlast := run_last call
    · rwa [hsame]
    · exact (run_flowing_iff h call).2 hkeeps _ hlast
  cases call with
  | stop _ | release _ => exact fun _ hmem => (List.not_mem_nil hmem).elim
  | _ => exact hrun

end Calls

/-- In a run of a pipeline a filter that runs feeds filters that run or have failed at every
moment of every call exactly if every call keeps it so. -/
theorem flows_iff (calls : List Call) :
    Runs.Along step (fun pipeline call => Keeps pipeline.filters_ call) {} calls ↔
      ∀ pre call post, calls = pre ++ call :: post →
        ∀ filters ∈ (run (pre.foldl step {}).filters_ call).1, Flowing filters := by
  have hempty : Flowing ({} : Pipeline).filters_ := fun _ hmem => (List.not_mem_nil hmem).elim
  have hmoments : Runs.Along step
      (fun pipeline call => ∀ filters ∈ (run pipeline.filters_ call).1, Flowing filters) {} calls ↔
        ∀ pre call post, calls = pre ++ call :: post →
          ∀ filters ∈ (run (pre.foldl step {}).filters_ call).1, Flowing filters :=
    Runs.along_iff_forall calls
  rw [← hmoments]
  exact Runs.along_congr step_flowing (fun pipeline call h => (run_flowing_iff h call).symm) calls
    hempty

/-! ## What a pipeline has let go of -/

section LetGo

variable {filters_ : List (NodeTree Filter)} {doPrepare : ℕ → Status × List Linked}

/-- A filter that neither runs nor waits to. -/
def AtRest (filter : Filter) : Prop :=
  filter.curState_ = .STOPPED ∨ filter.curState_ = .RELEASED ∨ filter.curState_ = .ERROR

def ids (filters_ : List (NodeTree Filter)) : List ℕ :=
  (nodesBelow filters_).map (·.id)

theorem ids_cons (filter : Filter) (next ts : List (NodeTree Filter)) :
    ids (node filter next :: ts) = filter.id :: (ids next ++ ids ts) := by
  rw [ids, nodesBelow, nodes, List.map_append, List.map_cons]
  rfl

theorem ids_append : ∀ ts ts' : List (NodeTree Filter), ids (ts ++ ts') = ids ts ++ ids ts'
  | [], _ => rfl
  | node filter next :: ts, ts' => by
    rw [List.cons_append, ids_cons, ids_cons, ids_append ts ts', List.cons_append,
      List.append_assoc]

theorem ids_subset {t t' : NodeTree Filter} {ts ts' : List (NodeTree Filter)}
    (h : ids [t] ⊆ ids [t']) (hs : ids ts ⊆ ids ts') : ids (t :: ts) ⊆ ids (t' :: ts') := by
  have hcons : ∀ t ts, ids (t :: ts) = ids [t] ++ ids ts := fun t ts => ids_append [t] ts
  rw [hcons t, hcons t']
  exact List.append_subset.2 ⟨List.subset_append_of_subset_left _ h,
    List.subset_append_of_subset_right _ hs⟩

theorem ids_mapBelow (state : FilterState) (doStep : ℕ → Status) (ts : List (NodeTree Filter)) :
    ids (mapBelow (stepDone state doStep) ts) = ids ts := by
  rw [ids, nodesBelow_mapBelow, List.map_map]
  rfl

theorem ids_mapNodes (state : FilterState) (doStep : ℕ → Status) (t : NodeTree Filter) :
    ids [t.mapNodes (stepDone state doStep)] = ids [t] :=
  ids_mapBelow state doStep [t]

mutual

/-- `Prepare` lets go of nothing. -/
theorem ids_prepare : ∀ t : NodeTree Filter, ids [t] ⊆ ids [(prepare doPrepare t).2]
  | node filter next => by
    have hnext : ids next ⊆ ids (prepareNext doPrepare (doPrepare filter.id).2 next).2 :=
      ids_prepareNext _ next
    rw [prepare]
    dsimp only
    split_ifs
    · rw [ids_cons, ids_cons, ids_append]
      grind
    · rw [ids_cons, ids_cons]
      grind

theorem ids_prepareNext : ∀ (linked : List Linked) (ts : List (NodeTree Filter)),
    ids ts ⊆ ids (prepareNext doPrepare linked ts).2
  | _, [] => List.nil_subset _
  | linked, t :: ts => by
    rw [prepareNext]
    exact ids_subset (ids_prepare t) (ids_prepareNext linked ts)

end

theorem ids_callHeads {ok : Filter → Prop} [DecidablePred ok]
    {call : NodeTree Filter → List (NodeTree Filter) × NodeTree Filter}
    (hcall : ∀ t, ids [t] ⊆ ids [(call t).2]) :
    ∀ ts : List (NodeTree Filter), ids ts ⊆ ids (callHeads ok call ts).2
  | [] => List.nil_subset _
  | t :: ts => by
    have hrest : ids ts ⊆ ids (if ok t.value then callHeads ok call ts else ([], ts)).2 := by
      split_ifs
      · exact ids_callHeads hcall ts
      · exact List.Subset.refl _
    rw [callHeads]
    exact ids_subset (hcall t) hrest

theorem ids_upward {state : FilterState} {doStep : ℕ → Status} (t : NodeTree Filter) :
    ids [t] ⊆ ids [(upward (stepDone state doStep) t).2] := by
  rw [upward_snd, ids_mapNodes]
  exact List.Subset.refl _

theorem ids_downward {state : FilterState} {doStep : ℕ → Status} (t : NodeTree Filter) :
    ids [t] ⊆ ids [(downward (stepDone state doStep) t).2] := by
  rw [downward_snd, ids_mapNodes]
  exact List.Subset.refl _

theorem ids_run : ∀ call : Call, ids filters_ ⊆ ids (run filters_ call).2
  | .addHeadFilters filtersIn => by
    rw [run, addHeadFilters, ids_append]
    exact List.subset_append_left _ _
  | .prepare _ => ids_callHeads ids_prepare filters_
  | .start _ => ids_callHeads ids_upward filters_
  | .resume _ => ids_callHeads ids_upward filters_
  | .pause _ => ids_callHeads ids_downward filters_
  | .stop _ => ids_callHeads ids_downward filters_
  | .release _ => ids_callHeads ids_upward filters_

/-- The filters that a pipeline has or has had. -/
def held (pipeline : Pipeline) : List ℕ :=
  ids pipeline.filters_ ++ ids pipeline.dropped

theorem held_step (pipeline : Pipeline) (call : Call) :
    held pipeline ⊆ held (step pipeline call) := by
  have hrun : ids pipeline.filters_ ⊆ ids (run pipeline.filters_ call).2 := ids_run call
  cases call with
  | stop _ | release _ =>
    rw [held, held, step]
    dsimp only
    rw [ids_append]
    grind
  | _ => exact List.append_subset.2 ⟨List.subset_append_of_subset_left _ hrun,
      List.subset_append_right _ _⟩

theorem callHeads_true (call : NodeTree Filter → List (NodeTree Filter) × NodeTree Filter) :
    ∀ ts : List (NodeTree Filter),
      (callHeads (fun _ => True) call ts).2 = ts.map fun t => (call t).2
  | [] => rfl
  | t :: ts => by
    rw [List.map_cons, ← callHeads_true call ts, callHeads]
    dsimp only
    rw [if_pos trivial]

theorem atRest_stepDone {state : FilterState} (hstate : state = .STOPPED ∨ state = .RELEASED)
    (doStep : ℕ → Status) (filter : Filter) : AtRest (stepDone state doStep filter) := by
  obtain h | h := stepDone_running state doStep filter
  · rw [AtRest, h]
    exact hstate.imp_right .inl
  · exact .inr (.inr h)

theorem dropped_step (pipeline : Pipeline) (call : Call)
    (h : ∀ filter ∈ nodesBelow pipeline.dropped, AtRest filter) :
    ∀ filter ∈ nodesBelow (step pipeline call).dropped, AtRest filter := by
  rw [forall_mem_nodesBelow] at h ⊢
  cases call with
  | stop doStop =>
    refine List.forall_mem_append.2 ⟨h, ?_⟩
    rw [run, callHeads_true, List.forall_mem_map]
    intro t _
    rw [stop, downward_snd, nodes_mapNodes, List.forall_mem_map]
    exact fun filter _ => atRest_stepDone (.inl rfl) doStop filter
  | release doRelease =>
    refine List.forall_mem_append.2 ⟨h, ?_⟩
    rw [run, callHeads_true, List.forall_mem_map]
    intro t _
    rw [release, upward_snd, nodes_mapNodes, List.forall_mem_map]
    exact fun filter _ => atRest_stepDone (.inr rfl) doRelease filter
  | _ => exact h

end LetGo

end Flow

end DHFwk
