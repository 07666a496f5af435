import DHFwk.SinkRefs
import DHFwk.SourceRefs

/-!
# What a start is taken for

`StartSource` and `StartSink` let a thread initialise the component and put the future of its
code in a map; `WaitForResult` waits for each future of the map in turn, two seconds at most. A
code other than success makes its verdict false. A future that is not ready in time leaves the
verdict as it is, so a start that has not answered yet is taken for one that succeeded
(`waitForResult_reports_iff`).

`EnableSinkInternal`, `RealEnableSource` and `EnableMetaSourceInternal` go by that verdict. A
run notes for every type what the start reported that its references go back to : every enabled
caller goes back to a success, in every state, exactly if no enable that starts the component
and succeeds otherwise has its start time out (`sourceStarts_iff`, `sinkStarts_iff`).
-/

set_option linter.unusedSectionVars false

namespace DHFwk

open Runs

/-- `UNINIT_COMPONENT_TIMEOUT_SECONDS`, in milliseconds. -/
abbrev UNINIT_COMPONENT_TIMEOUT_MS : ℕ := 2000

/-! ## Waiting for a map of futures -/

/-- `std::future_status`. -/
inductive FutureStatus
  | ready | timeout | deferred
  deriving DecidableEq, Repr

/-- `std::shared_future<int32_t>` : its value, and from when on it is there, if ever. A deferred
one is not computed by waiting. -/
structure SharedFuture where
  value : Int
  readyAt : Option ℕ
  deferred : Bool := false
  deriving DecidableEq, Repr

/-- `wait_for`, with the time at which it returns. -/
def SharedFuture.waitFor (f : SharedFuture) (ms now : ℕ) : FutureStatus × ℕ :=
  if f.deferred then (.deferred, now)
  else match f.readyAt with
    | none => (.timeout, now + ms)
    | some t => if t ≤ now + ms then (.ready, max now t) else (.timeout, now + ms)

/-- `ActionResult`, in the order of the map. -/
abbrev ActionResult := List (DHType × SharedFuture)

/-- What the waits read and write : the time, the flag that a stop timed out, and the futures of
the start or stop before. -/
structure Waits where
  now : ℕ := 0
  isUnInitTimeOut_ : Bool := false
  actionResult : ActionResult := []
  deriving DecidableEq, Repr

/-- One turn of the loop of `WaitForResult`. -/
def waitStep (action : Action) (r : Bool × Waits) (iter : DHType × SharedFuture) : Bool × Waits :=
  let (status, now) := iter.2.waitFor UNINIT_COMPONENT_TIMEOUT_MS r.2.now
  let w := { r.2 with now := now }
  match status with
  | .ready => (r.1 && iter.2.value = DH_FWK_SUCCESS, w)
  | .timeout =>
    (r.1, if action = .STOP_SOURCE ∨ action = .STOP_SINK then { w with isUnInitTimeOut_ := true }
      else w)
  | .deferred => (r.1, w)

/-- `WaitForResult`. -/
def waitForResult (action : Action) (actionsResult : ActionResult) (w : Waits) : Bool × Waits :=
  actionsResult.foldl (waitStep action) (true, w)

/-- The value of each future, and how the wait for it ends. -/
def waited : ActionResult → ℕ → List (Int × FutureStatus)
  | [], _ => []
  | iter :: rest, now =>
    let (status, now) := iter.2.waitFor UNINIT_COMPONENT_TIMEOUT_MS now
    (iter.2.value, status) :: waited rest now

theorem waitStep_now (action : Action) (r : Bool × Waits) (iter : DHType × SharedFuture) :
    (waitStep action r iter).2.now = (iter.2.waitFor UNINIT_COMPONENT_TIMEOUT_MS r.2.now).2 := by
  unfold waitStep
  cases h : (iter.2.waitFor UNINIT_COMPONENT_TIMEOUT_MS r.2.now).1 with
  | timeout =>
    simp only [h]
    split_ifs <;> rfl
  | _ => simp only [h]

theorem waitStep_fst (action : Action) (r : Bool × Waits) (iter : DHType × SharedFuture) :
    (waitStep action r iter).1 = true ↔ r.1 = true ∧
      ((iter.2.waitFor UNINIT_COMPONENT_TIMEOUT_MS r.2.now).1 = .ready →
        iter.2.value = DH_FWK_SUCCESS) := by
  unfold waitStep
  cases h : (iter.2.waitFor UNINIT_COMPONENT_TIMEOUT_MS r.2.now).1 <;> simp [h]

theorem foldl_waitStep_fst (action : Action) :
    ∀ (actionsResult : ActionResult) (r : Bool × Waits),
      (actionsResult.foldl (waitStep action) r).1 = true ↔
        r.1 = true ∧ ∀ e ∈ waited actionsResult r.2.now, e.2 = .ready → e.1 = DH_FWK_SUCCESS
  | [], r => by simp [waited]
  | iter :: rest, r => by
    rw [List.foldl_cons, foldl_waitStep_fst action rest, waitStep_fst, waitStep_now]
    simp only [waited, List.forall_mem_cons, and_assoc]

/-- The verdict is true exactly if no future became ready in time with an error. -/
theorem waitForResult_fst (action : Action) (actionsResult : ActionResult) (w : Waits) :
    (waitForResult action actionsResult w).1 = true ↔
      ∀ e ∈ waited actionsResult w.now, e.2 = .ready → e.1 = DH_FWK_SUCCESS := by
  rw [waitForResult, foldl_waitStep_fst]
  exact and_iff_right rfl

/-- A true verdict says that every future became ready in time with success, exactly if all
became ready in time or one did with an error. -/
theorem waitForResult_reports_iff (action : Action) (actionsResult : ActionResult) (w : Waits) :
    ((waitForResult action actionsResult w).1 = true →
        ∀ e ∈ waited actionsResult w.now, e.2 = .ready ∧ e.1 = DH_FWK_SUCCESS) ↔
      (∀ e ∈ waited actionsResult w.now, e.2 = .ready) ∨
        ∃ e ∈ waited actionsResult w.now, e.2 = .ready ∧ e.1 ≠ DH_FWK_SUCCESS := by
  rw [waitForResult_fst]
  constructor
  · intro h
    by_cases hgood : ∀ e ∈ waited actionsResult w.now, e.2 = .ready → e.1 = DH_FWK_SUCCESS
    · exact Or.inl fun e he => (h hgood e he).1
    · push Not at hgood
      exact Or.inr hgood
  · rintro (hready | ⟨e, he, hr, hv⟩) hgood
    · exact fun e he => ⟨hready e he, hgood e he (hready e he)⟩
    · exact absurd (hgood e he hr) hv

/-! ## The calls of a body -/

/-- What a thread makes of its promise : the code, and after how long, if ever. -/
structure InitAnswer where
  value : Int := DH_FWK_SUCCESS
  after : Option ℕ := some 0
  deriving DecidableEq, Repr

/-- The answer does not come within the waiting time. -/
def InitAnswer.TimesOut (a : InitAnswer) : Prop :=
  ∀ ms ∈ a.after, UNINIT_COMPONENT_TIMEOUT_MS < ms

instance (a : InitAnswer) : Decidable a.TimesOut :=
  inferInstanceAs (Decidable (∀ ms ∈ a.after, _))

/-- The answer comes within the waiting time and says success. -/
def InitAnswer.reportsSuccess (a : InitAnswer) : Bool :=
  ¬a.TimesOut ∧ a.value = DH_FWK_SUCCESS

/-- How the inner calls of a body turn out. -/
structure StartOutcome where
  init : Int := DH_FWK_SUCCESS
  uninit : Int := DH_FWK_SUCCESS
  start : Int := DH_FWK_SUCCESS
  stop : Int := DH_FWK_SUCCESS
  initAnswer : InitAnswer := {}
  releaseAnswer : InitAnswer := {}
  enable : Int := DH_FWK_SUCCESS
  disable : Int := DH_FWK_SUCCESS
  modemEnable : Int := DH_FWK_SUCCESS
  modemDisable : Int := DH_FWK_SUCCESS

namespace StartOutcome

/-- `StartSource`, `StartSink`, `StopSource` and `StopSink` : the thread is started if they
succeed. -/
def launch (ret : Int) (a : InitAnswer) (dhType : DHType) : Call Waits := fun w =>
  (ret, { w with actionResult :=
    if ret = DH_FWK_SUCCESS then
      [(dhType, { value := a.value, readyAt := a.after.map (w.now + ·) })]
    else [] })

/-- `WaitForResult`, on the futures of the call before it. -/
def await (action : Action) (w : Waits) : Bool × Waits :=
  waitForResult action w.actionResult w

/-- The inner calls of the source side with these outcomes. -/
def sourceCalls (o : StartOutcome) : SourceCalls Waits where
  initCompSource _ := fun w => (o.init, w)
  uninitCompSource _ _ := fun w => (o.uninit, w)
  startSource := launch o.start o.initAnswer
  stopSource := launch o.stop o.releaseAnswer
  waitForResult action _ := await action
  enable _ _ _ _ _ _ := fun w => (o.enable, w)
  disable _ _ _ _ := fun w => (o.disable, w)
  modemEnable _ _ _ := fun w => (o.modemEnable, w)
  modemDisable _ _ _ := fun w => (o.modemDisable, w)

/-- The inner calls of the sink side with these outcomes. -/
def sinkCalls (o : StartOutcome) : SinkCalls Waits where
  initCompSink _ := fun w => (o.init, w)
  uninitCompSink _ _ := fun w => (o.uninit, w)
  startSink := launch o.start o.initAnswer
  stopSink := launch o.stop o.releaseAnswer
  waitForResult action _ := await action
  configDistributedHardware _ _ _ := fun w => w

variable {o : StartOutcome}

theorem await_launch (action : Action) (a : InitAnswer) (dhType : DHType) (w : Waits) :
    (await action (launch DH_FWK_SUCCESS a dhType w).2).1 = true ↔
      a.TimesOut ∨ a.value = DH_FWK_SUCCESS := by
  obtain ⟨value, after⟩ := a
  rw [await, waitForResult_fst]
  cases after with
  | none => simp [launch, waited, SharedFuture.waitFor, InitAnswer.TimesOut]
  | some ms =>
    by_cases hms : ms ≤ UNINIT_COMPONENT_TIMEOUT_MS
    · simp [launch, waited, SharedFuture.waitFor, InitAnswer.TimesOut, hms]
    · have hlt : UNINIT_COMPONENT_TIMEOUT_MS < ms := not_le.1 hms
      simp [launch, waited, SharedFuture.waitFor, InitAnswer.TimesOut, hms, hlt]

/-- A start that is launched and waited for. -/
theorem start_fst {action : Action} {undo : Call Waits} (ret : Int) (a : InitAnswer)
    (dhType : DHType) (w : Waits) :
    ((launch ret a dhType).andThen ((Call.ofBool (await action)
      ERR_DH_FWK_COMPONENT_ENABLE_TIMEOUT).orUndo undo) w).1 = 0 ↔
      ret = DH_FWK_SUCCESS ∧ (a.TimesOut ∨ a.value = DH_FWK_SUCCESS) := by
  rw [Call.andThen_fst_eq_zero]
  refine and_congr_right fun hret => ?_
  obtain rfl : ret = DH_FWK_SUCCESS := hret
  have horUndo : ∀ (m : Call Waits) (w : Waits), (m.orUndo undo w).1 = (m w).1 := by
    intro m w
    unfold Call.orUndo
    split_ifs <;> rfl
  have hbool : ∀ w : Waits, (Call.ofBool (await action)
      ERR_DH_FWK_COMPONENT_ENABLE_TIMEOUT w).1 = 0 ↔ (await action w).1 = true := by
    intro w
    unfold Call.ofBool
    split_ifs with h <;> simp [h]
  rw [horUndo, hbool, await_launch]

theorem load_fst (o : StartOutcome) (dhType : DHType) (w : Waits) :
    (o.sourceCalls.load dhType w).1 = 0 ↔ o.init = DH_FWK_SUCCESS ∧ o.start = DH_FWK_SUCCESS ∧
      (o.initAnswer.TimesOut ∨ o.initAnswer.value = DH_FWK_SUCCESS) := by
  rw [SourceCalls.load, Call.andThen_fst_eq_zero]
  exact and_congr_right fun _ => start_fst ..

theorem startSinkAndWait_fst (o : StartOutcome) (dhType : DHType) (w : Waits) :
    (o.sinkCalls.startSinkAndWait dhType w).1 = 0 ↔ o.init = DH_FWK_SUCCESS ∧
      o.start = DH_FWK_SUCCESS ∧
      (o.initAnswer.TimesOut ∨ o.initAnswer.value = DH_FWK_SUCCESS) := by
  rw [SinkCalls.startSinkAndWait, Call.andThen_fst_eq_zero]
  exact and_congr_right fun _ => start_fst ..

end StartOutcome

/-! ## References and starts -/

namespace DHStatus

variable {K L : Type} [DecidableEq K]

/-- A caller is enabled, or some count is not zero. -/
def InUse (s : DHStatus K L) : Prop :=
  (∃ k c, s.enableState k c = .ENABLED) ∨ s.refLoad ≠ 0 ∨ ∃ k, s.refEnable k ≠ 0

variable {s s' : DHStatus K L} {k : K} {c : DHStatusCtrlKey}

/-- A status that is not in use. -/
theorem not_inUse (h : ¬s.InUse) (k : K) (c : DHStatusCtrlKey) :
    s.enableState k c ≠ .ENABLED ∧ s.refEnable k = 0 ∧ s.refLoad = 0 := by
  refine ⟨fun hs => h (Or.inl ⟨k, c, hs⟩), ?_, ?_⟩
  · by_contra hk
    exact h (Or.inr (Or.inr ⟨k, hk⟩))
  · by_contra hl
    exact h (Or.inr (Or.inl hl))

theorem inUse_touch (h : (s.touch k c).InUse) : s.InUse := by
  rcases h with ⟨k', c', hs⟩ | hl | ⟨k', hk⟩
  · refine Or.inl ⟨k', c', ?_⟩
    rw [touch, enableState_write] at hs
    split_ifs at hs with heq
    · obtain ⟨rfl, rfl⟩ := heq
      exact hs
    · exact hs
  · exact Or.inr (Or.inl hl)
  · rw [refEnable_touch] at hk
    exact Or.inr (Or.inr ⟨k', hk⟩)

theorem inUse_drop (h : (s.drop k).InUse) : s.InUse := by
  rcases h with ⟨k', c', hs⟩ | hl | ⟨k', hk⟩
  · rw [enableState_drop] at hs
    split_ifs at hs
    exact Or.inl ⟨k', c', hs⟩
  · rw [refLoad_drop] at hl
    by_cases hk : s.refEnable k = 0
    · rw [hk, sub_zero] at hl
      exact Or.inr (Or.inl hl)
    · exact Or.inr (Or.inr ⟨k, hk⟩)
  · rw [refEnable_drop] at hk
    split_ifs at hk
    · exact absurd rfl hk
    · exact Or.inr (Or.inr ⟨k', hk⟩)

theorem inUse_resetEnableStatus (h : s.resetEnableStatus.InUse) : s.InUse := by
  rcases h with ⟨k', c', hs⟩ | hl | ⟨k', hk⟩
  · rw [enableState_resetEnableStatus] at hs
    split_ifs at hs
    exact Or.inl ⟨k', c', hs⟩
  · exact absurd (refLoad_resetEnableStatus s) hl
  · exact absurd (refEnable_resetEnableStatus s k') hk

theorem inUse_recoverActiveEnable (h : s.recoverActiveEnable.InUse) : s.InUse := by
  rcases h with ⟨k', c', hs⟩ | hl | ⟨k', hk⟩
  · rw [enableState_recoverActiveEnable] at hs
    split_ifs at hs
    exact Or.inl ⟨k', c', hs⟩
  · exact Or.inr (Or.inl hl)
  · rw [refEnable_recoverActiveEnable] at hk
    exact Or.inr (Or.inr ⟨k', hk⟩)

theorem enableState_firstRef (s : DHStatus K L) (k : K) (c : DHStatusCtrlKey) :
    (s.firstRef k c).enableState k c = .ENABLED := by
  simp [firstRef]

end DHStatus

/-- Only an enable brings a status into use. -/
theorem StatusChange.inUse {K L : Type} [DecidableEq K] {op : StatusOp K} {s s' : DHStatus K L}
    (h : StatusChange op s s') (hop : ∀ t k c, op ≠ .enable t k c) (hs : s'.InUse) : s.InUse := by
  cases h with
  | kept => exact hs
  | enable_touch t k c => exact absurd rfl (hop t k c)
  | disable_touch => exact DHStatus.inUse_touch hs
  | addRef t k c => exact absurd rfl (hop t k c)
  | firstRef t k c => exact absurd rfl (hop t k c)
  | deleteRef _ k c _ henabled => exact Or.inl ⟨k, c, henabled⟩
  | lastRef _ k c _ henabled => exact Or.inl ⟨k, c, henabled⟩
  | drop => exact DHStatus.inUse_drop hs
  | reset => exact DHStatus.inUse_resetEnableStatus hs
  | recover => exact DHStatus.inUse_recoverActiveEnable hs

/-- A first reference that is settled brings a status into use only if its calls succeed. -/
theorem inUse_settle_firstRef {K L W : Type} [DecidableEq K] {calls : Call W} {w : W}
    {s : DHStatus K L} {k : K} {c : DHStatusCtrlKey} (h : ¬s.InUse)
    (hs : (settle calls (s.touch k c) (s.firstRef k c) w).2.1.InUse) :
    (settle calls (s.touch k c) (s.firstRef k c) w).1 = DH_FWK_SUCCESS := by
  by_contra hfail
  have hcalls : (calls w).1 ≠ DH_FWK_SUCCESS := hfail
  rw [settle_status_of_failure hcalls] at hs
  exact h (DHStatus.inUse_touch hs)

/-- The caller of a first reference is enabled if its calls succeed. -/
theorem enabled_settle_firstRef {K L W : Type} [DecidableEq K] {calls : Call W} {w : W}
    {s : DHStatus K L} {k : K} {c : DHStatusCtrlKey}
    (h : (settle calls (s.touch k c) (s.firstRef k c) w).1 = DH_FWK_SUCCESS) :
    (settle calls (s.touch k c) (s.firstRef k c) w).2.1.enableState k c = .ENABLED := by
  have hcalls : (calls w).1 = DH_FWK_SUCCESS := h
  rw [settle_status_of_success hcalls]
  exact DHStatus.enableState_firstRef ..

/-! ## Runs of either side -/

/-- What the two sides have in common : the status of each type, the body of a step with its
type, whether it starts the component, and the codes on which a start goes on. -/
structure StartSystem (K L M S : Type) [DecidableEq K] where
  status : M → DHType → DHStatus K L
  run : M → S → Int × M
  dhType : S → DHType
  starts : M → S → Bool
  outcome : S → StartOutcome
  enableCode : S → Int
  other : ∀ m l t, t ≠ dhType l → status (run m l).2 t = status m t
  starts_fst : ∀ m l, starts m l = true → ((run m l).1 = DH_FWK_SUCCESS ↔
    (outcome l).init = DH_FWK_SUCCESS ∧ (outcome l).start = DH_FWK_SUCCESS ∧
      ((outcome l).initAnswer.TimesOut ∨ (outcome l).initAnswer.value = DH_FWK_SUCCESS) ∧
      enableCode l = DH_FWK_SUCCESS)
  starts_enables : ∀ m l, starts m l = true → (run m l).1 = DH_FWK_SUCCESS →
    ∃ k c, (status (run m l).2 (dhType l)).enableState k c = .ENABLED
  inUse_run : ∀ m l, (status (run m l).2 (dhType l)).InUse →
    (status m (dhType l)).InUse ∨ starts m l = true ∧ (run m l).1 = DH_FWK_SUCCESS

/-- A side in a run, with what the start reported that the references of each type go back
to. -/
structure StartRun (M : Type) where
  manager : M
  reported : DHType → Bool := fun _ => false

namespace StartSystem

variable {K L M S : Type} [DecidableEq K] (sys : StartSystem K L M S)

/-- Run one body; one that starts the component and succeeds has its own report noted. -/
def step (r : StartRun M) (l : S) : StartRun M where
  manager := (sys.run r.manager l).2
  reported t :=
    if sys.starts r.manager l ∧ (sys.run r.manager l).1 = DH_FWK_SUCCESS ∧ t = sys.dhType l then
      (sys.outcome l).initAnswer.reportsSuccess
    else r.reported t

/-- A start whose other calls all succeed does not time out. -/
def InTime (r : StartRun M) (l : S) : Prop :=
  sys.starts r.manager l = true → (sys.outcome l).init = DH_FWK_SUCCESS →
    (sys.outcome l).start = DH_FWK_SUCCESS → sys.enableCode l = DH_FWK_SUCCESS →
    ¬(sys.outcome l).initAnswer.TimesOut

/-- Every enabled caller goes back to a start that reported success. -/
def EnabledReported (r : StartRun M) : Prop :=
  ∀ t k c, (sys.status r.manager t).enableState k c = .ENABLED → r.reported t = true

/-- Every type in use goes back to a start that reported success. -/
def UseReported (r : StartRun M) : Prop :=
  ∀ t, (sys.status r.manager t).InUse → r.reported t = true

variable {sys} {r : StartRun M} {l : S}

theorem reportsSuccess_of_inTime (hl : sys.InTime r l) (hs : sys.starts r.manager l = true)
    (hret : (sys.run r.manager l).1 = DH_FWK_SUCCESS) :
    (sys.outcome l).initAnswer.reportsSuccess = true := by
  obtain ⟨hi, hst, ha, he⟩ := (sys.starts_fst r.manager l hs).1 hret
  have hin := hl hs hi hst he
  exact decide_eq_true ⟨hin, ha.resolve_left hin⟩

theorem UseReported.step (h : sys.UseReported r) (hl : sys.InTime r l) :
    sys.UseReported (sys.step r l) := by
  intro t ht
  show (if _ then _ else _) = true
  split_ifs with hs
  · exact reportsSuccess_of_inTime hl hs.1 hs.2.1
  · refine h t ?_
    by_cases hd : t = sys.dhType l
    · subst hd
      exact (sys.inUse_run r.manager l ht).resolve_right fun hret => hs ⟨hret.1, hret.2, rfl⟩
    · have hother := sys.other r.manager l t hd
      rwa [← hother]

theorem UseReported.enabled (h : sys.UseReported r) : sys.EnabledReported r :=
  fun t k c hs => h t (Or.inl ⟨k, c, hs⟩)

/-- Where the types in use go back to a success, a step leaves the enabled callers so exactly
if its start is in time. -/
theorem enabledReported_step_iff (h : sys.UseReported r) :
    sys.EnabledReported (sys.step r l) ↔ sys.InTime r l := by
  refine ⟨fun hr hs hi hst he htime => ?_, fun hl => (h.step hl).enabled⟩
  have hret : (sys.run r.manager l).1 = DH_FWK_SUCCESS :=
    (sys.starts_fst r.manager l hs).2 ⟨hi, hst, Or.inl htime, he⟩
  obtain ⟨k, c, hkc⟩ := sys.starts_enables r.manager l hs hret
  have hrep : (sys.step r l).reported (sys.dhType l) =
      (sys.outcome l).initAnswer.reportsSuccess := if_pos ⟨hs, hret, rfl⟩
  have hsuccess := hr (sys.dhType l) k c hkc
  rw [hrep] at hsuccess
  exact (of_decide_eq_true hsuccess).1 htime

/-- The starts of a run are all in time exactly if in every state that it reaches every enabled
caller goes back to a start that reported success. -/
theorem inTime_iff (sys : StartSystem K L M S) {m : M} (hm : ∀ t, ¬(sys.status m t).InUse) (ls : List S) :
    Along sys.step sys.InTime { manager := m } ls ↔
      ∀ pre post, ls = pre ++ post → sys.EnabledReported (pre.foldl sys.step { manager := m }) := by
  have hkept : ∀ (r : StartRun M) (l : S), sys.UseReported r → sys.InTime r l →
      sys.UseReported (sys.step r l) := fun _ _ h hl => h.step hl
  have hstep : ∀ (r : StartRun M) (l : S), sys.UseReported r → sys.EnabledReported r →
      (sys.EnabledReported (sys.step r l) ↔ sys.InTime r l) := fun _ _ h _ =>
    enabledReported_step_iff h
  have hinit : sys.UseReported { manager := m } := fun t ht => absurd ht (hm t)
  exact along_iff_of_kept hkept hstep ls hinit hinit.enabled

end StartSystem

theorem not_inUse_default {K L : Type} [DecidableEq K] : ¬(default : DHStatus K L).InUse := by
  rintro (⟨k, c, hs⟩ | hl | ⟨k, hk⟩)
  · cases hs
  · exact hl rfl
  · exact hk rfl

/-! ## The source side -/

section source

variable {L W : Type} {q : Queries} {m : SourceManager L Waits} {o : StartOutcome}

/-- The body has to start the component : its checks let it through, its caller is not enabled,
and nothing is counted. -/
def SourceOp.starts (q : Queries) (m : SourceManager L W) : SourceOp → Bool
  | .enableSource networkId d caller =>
    let s := m.status d.dhType
    let k : DHStatusSourceEnableInfoKey := { networkId := networkId, dhId := d.id }
    checkEnableSourceParam q networkId d = DH_FWK_SUCCESS ∧ s.enableState k caller ≠ .ENABLED ∧
      s.refEnable k = 0 ∧ s.refLoad = 0
  | .enableMetaSource networkId d =>
    let s := m.status d.dhType
    let k : DHStatusSourceEnableInfoKey := { networkId := networkId, dhId := d.id }
    s.enableState k autoCaller ≠ .ENABLED ∧ s.refEnable k ≤ 0 ∧ s.refLoad ≤ 0
  | _ => false

/-- The code of the call that enables the hardware once the component is started. -/
def SourceOp.enableCode (o : StartOutcome) : SourceOp → Int
  | .enableMetaSource _ _ => o.modemEnable
  | _ => o.enable

/-- A step of the source side. -/
structure SourceStart where
  op : SourceOp
  queries : Queries
  outcome : StartOutcome

/-- A component that is started and then enables its hardware. -/
theorem firstEnable_fst (o : StartOutcome) (dhType : DHType) (ret : Int) (w : Waits) :
    ((o.sourceCalls.load dhType).andThen
      (Call.orUndo (fun w => (ret, w)) (o.sourceCalls.abandon dhType)) w).1 = 0 ↔
      o.init = DH_FWK_SUCCESS ∧ o.start = DH_FWK_SUCCESS ∧
        (o.initAnswer.TimesOut ∨ o.initAnswer.value = DH_FWK_SUCCESS) ∧ ret = DH_FWK_SUCCESS := by
  have hcode : ∀ w : Waits,
      (Call.orUndo (fun w => (ret, w)) (o.sourceCalls.abandon dhType) w).1 = ret := by
    intro w
    unfold Call.orUndo
    split_ifs <;> rfl
  rw [Call.andThen_fst_eq_zero, StartOutcome.load_fst, hcode, and_assoc, and_assoc]

theorem enableSourceInternal_of_starts {networkId : String} {d : DHDescriptor}
    {caller : DHStatusCtrlKey} (h : (SourceOp.enableSource networkId d caller).starts q m = true) :
    m.enableSourceInternal q o.sourceCalls networkId d caller = m.put d.dhType
      (settle (realEnableSource o.sourceCalls networkId (q.getUUIDByNetworkId networkId) d
        caller.isActive)
        ((m.status d.dhType).touch { networkId := networkId, dhId := d.id } caller)
        ((m.status d.dhType).firstRef { networkId := networkId, dhId := d.id } caller) m.world) := by
  obtain ⟨hq, hs, hk, hl⟩ := of_decide_eq_true h
  simp [SourceManager.enableSourceInternal, enableSourceStatus, hq, hs, hk, hl]

theorem enableMetaSource_of_starts {networkId : String} {d : DHDescriptor}
    (h : (SourceOp.enableMetaSource networkId d).starts q m = true) :
    m.enableMetaSource o.sourceCalls networkId d = m.put d.dhType
      (settle (enableMetaSourceInternal o.sourceCalls networkId d)
        ((m.status d.dhType).touch { networkId := networkId, dhId := d.id } autoCaller)
        ((m.status d.dhType).firstRef { networkId := networkId, dhId := d.id } autoCaller)
        m.world) := by
  obtain ⟨hs, hk, hl⟩ := of_decide_eq_true h
  simp [SourceManager.enableMetaSource, enableMetaSourceStatus, hs, not_lt.2 hk, not_lt.2 hl]

theorem sourceStarts_fst {op : SourceOp} (h : op.starts q m = true) :
    (op.run q o.sourceCalls m).1 = DH_FWK_SUCCESS ↔
      o.init = DH_FWK_SUCCESS ∧ o.start = DH_FWK_SUCCESS ∧
        (o.initAnswer.TimesOut ∨ o.initAnswer.value = DH_FWK_SUCCESS) ∧
        op.enableCode o = DH_FWK_SUCCESS := by
  cases op with
  | enableSource networkId d caller =>
    rw [SourceOp.run, enableSourceInternal_of_starts h]
    exact firstEnable_fst o d.dhType o.enable m.world
  | enableMetaSource networkId d =>
    rw [SourceOp.run, enableMetaSource_of_starts h]
    exact firstEnable_fst o d.dhType o.modemEnable m.world
  | _ => cases h

theorem SourceManager.status_put_self (m : SourceManager L W) (t : DHType)
    (r : Int × DHSourceStatus L × W) : (m.put t r).2.status t = r.2.1 := by
  rw [status, put, Table.get_set_self]

theorem sourceStarts_enables {op : SourceOp} (h : op.starts q m = true)
    (hret : (op.run q o.sourceCalls m).1 = DH_FWK_SUCCESS) :
    ∃ k c, ((op.run q o.sourceCalls m).2.status op.statusOp.dhType).enableState k c =
      .ENABLED := by
  cases op with
  | enableSource networkId d caller =>
    refine ⟨{ networkId := networkId, dhId := d.id }, caller, ?_⟩
    simp only [SourceOp.run, enableSourceInternal_of_starts h, SourceOp.statusOp,
      StatusOp.dhType, SourceManager.status_put_self] at hret ⊢
    exact enabled_settle_firstRef hret
  | enableMetaSource networkId d =>
    refine ⟨{ networkId := networkId, dhId := d.id }, autoCaller, ?_⟩
    simp only [SourceOp.run, enableMetaSource_of_starts h, SourceOp.statusOp, StatusOp.dhType,
      SourceManager.status_put_self] at hret ⊢
    exact enabled_settle_firstRef hret
  | _ => cases h

theorem sourceInUse_run (q : Queries) (o : StartOutcome) (m : SourceManager L Waits)
    (op : SourceOp) (h : ((op.run q o.sourceCalls m).2.status op.statusOp.dhType).InUse) :
    (m.status op.statusOp.dhType).InUse ∨
      op.starts q m = true ∧ (op.run q o.sourceCalls m).1 = DH_FWK_SUCCESS := by
  by_cases huse : (m.status op.statusOp.dhType).InUse
  · exact Or.inl huse
  have hchange := (op.statusStep q o.sourceCalls m).change
  refine Or.inr ?_
  cases op with
  | enableSource networkId d caller =>
    obtain ⟨hs, hk, hl⟩ := DHStatus.not_inUse huse { networkId := networkId, dhId := d.id } caller
    by_cases hq : checkEnableSourceParam q networkId d = DH_FWK_SUCCESS
    · have hstarts : (SourceOp.enableSource networkId d caller).starts q m = true :=
        decide_eq_true ⟨hq, hs, hk, hl⟩
      refine ⟨hstarts, ?_⟩
      simp only [SourceOp.run, enableSourceInternal_of_starts hstarts, SourceOp.statusOp,
        StatusOp.dhType, SourceManager.status_put_self] at h ⊢
      exact inUse_settle_firstRef huse h
    · refine absurd ?_ huse
      simpa [SourceOp.run, SourceManager.enableSourceInternal, hq] using h
  | enableMetaSource networkId d =>
    obtain ⟨hs, hk, hl⟩ :=
      DHStatus.not_inUse huse { networkId := networkId, dhId := d.id } autoCaller
    have hstarts : (SourceOp.enableMetaSource networkId d).starts q m = true :=
      decide_eq_true ⟨hs, hk.le, hl.le⟩
    refine ⟨hstarts, ?_⟩
    simp only [SourceOp.run, enableMetaSource_of_starts hstarts, SourceOp.statusOp,
      StatusOp.dhType, SourceManager.status_put_self] at h ⊢
    exact inUse_settle_firstRef huse h
  | _ =>
    refine absurd (hchange.inUse (fun t k c heq => ?_) h) huse
    cases heq

/-- The source side. -/
def sourceStarts (L : Type) :
    StartSystem DHStatusSourceEnableInfoKey L (SourceManager L Waits) SourceStart where
  status := SourceManager.status
  run m l := l.op.run l.queries l.outcome.sourceCalls m
  dhType l := l.op.statusOp.dhType
  starts m l := l.op.starts l.queries m
  outcome := SourceStart.outcome
  enableCode l := l.op.enableCode l.outcome
  other m l := (l.op.statusStep l.queries l.outcome.sourceCalls m).other
  starts_fst _ _ := sourceStarts_fst
  starts_enables _ _ := sourceStarts_enables
  inUse_run m l := sourceInUse_run l.queries l.outcome m l.op

end source

/-! ## The sink side -/

section sink

variable {L W : Type} {q : Queries} {m : SinkManager L Waits} {o : StartOutcome}

/-- The body has to start the component. -/
def SinkOp.starts (q : Queries) (m : SinkManager L W) : SinkOp → Bool
  | .enableSink d caller =>
    let s := m.status d.dhType
    q.isDHTypeSupport d.dhType ∧
      checkAudioConfigGate q q.getLocalNetworkId d "sink" = DH_FWK_SUCCESS ∧
      s.enableState d.id caller ≠ .ENABLED ∧ s.refEnable d.id = 0 ∧ s.refLoad = 0
  | _ => false

/-- A step of the sink side. -/
structure SinkStart where
  op : SinkOp
  queries : Queries
  outcome : StartOutcome

theorem SinkManager.status_put_self (m : SinkManager L W) (t : DHType)
    (r : Int × DHSinkStatus L × W) : (m.put t r).2.status t = r.2.1 := by
  rw [status, put, Table.get_set_self]

theorem enableSinkInternal_of_starts {d : DHDescriptor} {caller : DHStatusCtrlKey}
    (h : (SinkOp.enableSink d caller).starts q m = true) :
    m.enableSinkInternal q o.sinkCalls d caller = m.put d.dhType
      (settle ((o.sinkCalls.startSinkAndWait d.dhType).andThen (o.sinkCalls.configure d))
        ((m.status d.dhType).touch d.id caller) ((m.status d.dhType).firstRef d.id caller)
        m.world) := by
  obtain ⟨hsup, hgate, hs, hk, hl⟩ := of_decide_eq_true h
  simp [SinkManager.enableSinkInternal, enableSinkStatus, hsup, hgate, hs, hk, hl]

theorem sinkStarts_fst {op : SinkOp} (h : op.starts q m = true) :
    (op.run q o.sinkCalls m).1 = DH_FWK_SUCCESS ↔
      o.init = DH_FWK_SUCCESS ∧ o.start = DH_FWK_SUCCESS ∧
        (o.initAnswer.TimesOut ∨ o.initAnswer.value = DH_FWK_SUCCESS) ∧
        DH_FWK_SUCCESS = DH_FWK_SUCCESS := by
  cases op with
  | enableSink d caller =>
    rw [SinkOp.run, enableSinkInternal_of_starts h]
    have hcalls : ((o.sinkCalls.startSinkAndWait d.dhType).andThen (o.sinkCalls.configure d)
        m.world).1 = 0 ↔ (o.sinkCalls.startSinkAndWait d.dhType m.world).1 = 0 := by
      rw [Call.andThen_fst_eq_zero]
      exact and_iff_left rfl
    refine hcalls.trans ((StartOutcome.startSinkAndWait_fst o d.dhType m.world).trans ?_)
    simp
  | _ => cases h

theorem sinkStarts_enables {op : SinkOp} (h : op.starts q m = true)
    (hret : (op.run q o.sinkCalls m).1 = DH_FWK_SUCCESS) :
    ∃ k c, ((op.run q o.sinkCalls m).2.status op.statusOp.dhType).enableState k c =
      .ENABLED := by
  cases op with
  | enableSink d caller =>
    refine ⟨d.id, caller, ?_⟩
    simp only [SinkOp.run, enableSinkInternal_of_starts h, SinkOp.statusOp, StatusOp.dhType,
      SinkManager.status_put_self] at hret ⊢
    exact enabled_settle_firstRef hret
  | _ => cases h

theorem sinkInUse_run (q : Queries) (o : StartOutcome) (m : SinkManager L Waits) (op : SinkOp)
    (h : ((op.run q o.sinkCalls m).2.status op.statusOp.dhType).InUse) :
    (m.status op.statusOp.dhType).InUse ∨
      op.starts q m = true ∧ (op.run q o.sinkCalls m).1 = DH_FWK_SUCCESS := by
  by_cases huse : (m.status op.statusOp.dhType).InUse
  · exact Or.inl huse
  have hchange := (op.statusStep q o.sinkCalls m).change
  refine Or.inr ?_
  cases op with
  | enableSink d caller =>
    obtain ⟨hs, hk, hl⟩ := DHStatus.not_inUse huse d.id caller
    by_cases hq : q.isDHTypeSupport d.dhType = true ∧
        checkAudioConfigGate q q.getLocalNetworkId d "sink" = DH_FWK_SUCCESS
    · have hstarts : (SinkOp.enableSink d caller).starts q m = true :=
        decide_eq_true ⟨hq.1, hq.2, hs, hk, hl⟩
      refine ⟨hstarts, ?_⟩
      simp only [SinkOp.run, enableSinkInternal_of_starts hstarts, SinkOp.statusOp,
        StatusOp.dhType, SinkManager.status_put_self] at h ⊢
      exact inUse_settle_firstRef huse h
    · refine absurd ?_ huse
      simp only [SinkOp.run, SinkManager.enableSinkInternal] at h
      split_ifs at h with hsup hgate
      · exact h
      · exact absurd ⟨hsup, not_not.1 hgate⟩ hq
      · exact h
  | _ =>
    refine absurd (hchange.inUse (fun t k c heq => ?_) h) huse
    cases heq

/-- The sink side. -/
def sinkStarts (L : Type) : StartSystem String L (SinkManager L Waits) SinkStart where
  status := SinkManager.status
  run m l := l.op.run l.queries l.outcome.sinkCalls m
  dhType l := l.op.statusOp.dhType
  starts m l := l.op.starts l.queries m
  outcome := SinkStart.outcome
  enableCode _ := DH_FWK_SUCCESS
  other m l := (l.op.statusStep l.queries l.outcome.sinkCalls m).other
  starts_fst _ _ := sinkStarts_fst
  starts_enables _ _ := sinkStarts_enables
  inUse_run m l := sinkInUse_run l.queries l.outcome m l.op

end sink

/-! ## Both sides -/

/-- What is taken for a success : `WaitForResult` answers true only for futures that all became
ready in time with success, exactly if all became ready in time or one did with an error; and on
either side every enabled caller goes back to a start that reported success, in every state that
a run reaches, exactly if no start whose other calls all succeed times out. -/
theorem start_reported_iff (action : Action) (actionsResult : ActionResult) (w : Waits) (L : Type)
    (sources : List SourceStart) (sinks : List SinkStart) :
    (((waitForResult action actionsResult w).1 = true →
        ∀ e ∈ waited actionsResult w.now, e.2 = .ready ∧ e.1 = DH_FWK_SUCCESS) ↔
      (∀ e ∈ waited actionsResult w.now, e.2 = .ready) ∨
        ∃ e ∈ waited actionsResult w.now, e.2 = .ready ∧ e.1 ≠ DH_FWK_SUCCESS) ∧
    (Along (sourceStarts L).step (sourceStarts L).InTime { manager := { world := w } } sources ↔
      ∀ pre post, sources = pre ++ post → (sourceStarts L).EnabledReported
        (pre.foldl (sourceStarts L).step { manager := { world := w } })) ∧
    (Along (sinkStarts L).step (sinkStarts L).InTime { manager := { world := w } } sinks ↔
      ∀ pre post, sinks = pre ++ post → (sinkStarts L).EnabledReported
        (pre.foldl (sinkStarts L).step { manager := { world := w } })) := by
  refine ⟨waitForResult_reports_iff action actionsResult w, ?_, ?_⟩
  · exact (sourceStarts L).inTime_iff (fun _ => not_inUse_default) sources
  · exact (sinkStarts L).inTime_iff (fun _ => not_inUse_default) sinks

/-- An enable whose start never answers. -/
def slowStart : SinkStart where
  op := .enableSink { id := "c", dhType := .CAMERA } { uid := 1, pid := 1 }
  queries := .permissive
  outcome := { initAnswer := { after := none } }

/-- The verdict is true of a future that is never ready, and the caller of an enable that starts
the component so is enabled. -/
theorem start_not_reported :
    ¬((∀ action actionsResult w, (waitForResult action actionsResult w).1 = true →
        ∀ e ∈ waited actionsResult w.now, e.2 = .ready ∧ e.1 = DH_FWK_SUCCESS) ∨
      ∀ (w : Waits) (ls : List SinkStart), (sinkStarts Unit).EnabledReported
        (ls.foldl (sinkStarts Unit).step { manager := { world := w } })) := by
  rintro (h | h)
  · have hready := h .START_SINK [(.CAMERA, { value := 0, readyAt := none })] {} (by decide)
    exact absurd (hready _ (List.mem_singleton.2 rfl)).1 (by decide)
  · have hreported := h {} [slowStart] .CAMERA "c" { uid := 1, pid := 1 } (by decide)
    exact absurd hreported (by decide)

end DHFwk
