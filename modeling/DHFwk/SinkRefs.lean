import DHFwk.RefCounts
import DHFwk.Runs
import DHFwk.SinkStatus

/-!
# The sink reference counts and the last user

A run interleaves the bodies of the sink side, each with its own answers and its own
outcomes of the inner calls (`SinkStep`). `SinkOp.statusStep` is what a body does to the
record : one of the changes of `StatusChange`, the same as on the source side. So the
counts obey the same law in every run whose bodies are patient and timely, and in these
runs a disable stops and unloads the sink only if nobody else uses the type
(`sinkRefs_exact`).

The counts drift as on the source side where recovery is interleaved with its callers, and
then a disable stops a sink that somebody else uses (`sinkRefs_drift`).
-/

set_option linter.unusedSectionVars false

namespace DHFwk

/-! ## What a body does to the record -/

/-- The body as an operation on the record. -/
def SinkOp.statusOp : SinkOp → StatusOp String
  | .enableSink d caller => .enable d.dhType d.id caller
  | .disableSink d caller => .disable d.dhType d.id caller
  | .forceDisableSink d => .force d.dhType d.id
  | .resetSinkEnableStatus dhType _ => .reset dhType
  | .recoverActiveEnableSink dhType => .recover dhType

section bodies

variable {L W : Type} (c : SinkCalls W) (d : DHDescriptor) (caller : DHStatusCtrlKey)
  (s : DHSinkStatus L) (w : W)

theorem enableSinkStatus_change :
    StatusChange (.enable d.dhType d.id caller) s (enableSinkStatus c d caller s w).2.1 := by
  simp only [enableSinkStatus]
  split_ifs with h hc
  · exact .enable_touch ..
  · exact .addRef _ _ _ _ (DHStatus.eq_disabled h)
  · obtain ⟨he, hl⟩ := not_or.1 hc
    exact .settle_firstRef h (by omega) (by omega)

theorem disableSinkStatus_change :
    StatusChange (.disable d.dhType d.id caller) s (disableSinkStatus c d caller s w).2.1 := by
  simp only [disableSinkStatus]
  split_ifs with h hc
  · exact .disable_touch ..
  · exact .deleteRef _ _ _ _ (DHStatus.eq_enabled h) hc
  · obtain ⟨he, hl⟩ := not_or.1 hc
    exact .settle_lastRef h (by omega) (by omega)

theorem forceDisableSinkStatus_change :
    StatusChange (.force d.dhType d.id) s (forceDisableSinkStatus c d s w).2.1 := by
  simp only [forceDisableSinkStatus]
  split_ifs
  · exact .drop ..
  · exact settle_status (P := StatusChange _ s) (.drop ..) (.drop ..)

/-- A disable makes calls only for a caller that the counts say is the last of its type. -/
theorem disableSinkStatus_world (h : (disableSinkStatus c d caller s w).2.2 ≠ w) :
    s.enableState d.id caller = .ENABLED ∧ s.refLoad ≤ 1 := by
  simp only [disableSinkStatus] at h
  split_ifs at h with hs hc
  · exact absurd rfl h
  · exact absurd rfl h
  · exact ⟨DHStatus.eq_enabled hs, by omega⟩

end bodies

/-- Every body is one of the changes of its type. -/
theorem SinkOp.statusStep {L W : Type} (q : Queries) (c : SinkCalls W) (m : SinkManager L W)
    (op : SinkOp) : StatusStep op.statusOp m.dhSinkStatus_ (op.run q c m).2.dhSinkStatus_ := by
  cases op with
  | enableSink d caller =>
    simp only [SinkOp.run, SinkManager.enableSinkInternal]
    split_ifs
    · exact .of_kept _ (by nofun) (by nofun)
    · exact .of_set (enableSinkStatus_change ..)
    · exact .of_kept _ (by nofun) (by nofun)
  | disableSink d caller =>
    simp only [SinkOp.run, SinkManager.disableSinkInternal]
    split_ifs
    · exact .of_set (disableSinkStatus_change ..)
    · exact .of_kept _ (by nofun) (by nofun)
  | forceDisableSink d =>
    simp only [SinkOp.run, SinkManager.forceDisableSinkInternal]
    split_ifs
    · split
      · exact .of_set (.kept _ _ (by nofun) (by nofun))
      · exact .of_set (forceDisableSinkStatus_change ..)
    · exact .of_kept _ (by nofun) (by nofun)
  | resetSinkEnableStatus dhType keep =>
    simp only [SinkOp.run, SinkManager.resetSinkEnableStatus]
    split
    · exact .of_missing ‹_› (.reset _ _)
    · exact .of_set (Table.get_of_lookup ‹_› ▸ .reset _ _)
  | recoverActiveEnableSink dhType =>
    simp only [SinkOp.run, SinkManager.recoverActiveEnableSink]
    split
    · exact .of_missing ‹_› (.recover _ _)
    · exact .of_set (Table.get_of_lookup ‹_› ▸ .recover _ _)

/-! ## Runs -/

/-- A call that takes a sink away : `StopSink`, `UninitCompSink`. -/
inductive SinkOffCall
  | stopSink (dhType : DHType)
  | uninitCompSink (dhType : DHType)
  deriving DecidableEq, Repr

/-- How the inner calls of a body turn out. -/
structure SinkOutcome where
  init : Int := DH_FWK_SUCCESS
  uninit : Int := DH_FWK_SUCCESS
  start : Int := DH_FWK_SUCCESS
  stop : Int := DH_FWK_SUCCESS
  startReady : Bool := true
  stopReady : Bool := true

/-- The inner calls with these outcomes; the world is the list of the calls that take a sink
away. -/
def SinkOutcome.calls (o : SinkOutcome) : SinkCalls (List SinkOffCall) where
  initCompSink _ := fun w => (o.init, w)
  uninitCompSink t _ := fun w => (o.uninit, .uninitCompSink t :: w)
  startSink _ := fun w => (o.start, w)
  stopSink t := fun w => (o.stop, .stopSink t :: w)
  waitForResult
    | .START_SOURCE, _ | .START_SINK, _ => fun w => (o.startReady, w)
    | .STOP_SOURCE, _ | .STOP_SINK, _ => fun w => (o.stopReady, w)
  configDistributedHardware _ _ _ := fun w => w

/-- One step of a run : a body, what it is told, and how its inner calls turn out. -/
structure SinkStep where
  op : SinkOp
  queries : Queries
  outcome : SinkOutcome

/-- The sink side in a run, with the calls of the last body and who awaits recovery. -/
structure SinkRun (L : Type) where
  manager : SinkManager L (List SinkOffCall)
  awaiting : DHType → Awaiting String

namespace SinkRun

variable {L : Type}

/-- Nothing is recorded, nobody awaits recovery. -/
def init (L : Type) : SinkRun L :=
  { manager := { world := [] }, awaiting := fun _ _ _ => false }

/-- The status of a type. -/
def status (r : SinkRun L) (dhType : DHType) : DHSinkStatus L :=
  r.manager.status dhType

/-- Run one body, and list the calls it makes. -/
def step (r : SinkRun L) (l : SinkStep) : SinkRun L :=
  let manager := (l.op.run l.queries l.outcome.calls { r.manager with world := [] }).2
  { manager := manager
    awaiting := awaitingAfter l.op.statusOp r.manager.dhSinkStatus_ manager.dhSinkStatus_
      r.awaiting }

/-- No caller that awaits recovery disables while something of its type is loaded. -/
def Patient (r : SinkRun L) (l : SinkStep) : Prop :=
  l.op.statusOp.Patient (r.status l.op.statusOp.dhType) (r.awaiting l.op.statusOp.dhType)

/-- The active callers that the recovery step disables all await it. -/
def Timely (r : SinkRun L) (l : SinkStep) : Prop :=
  l.op.statusOp.Timely (r.status l.op.statusOp.dhType) (r.awaiting l.op.statusOp.dhType)

instance (r : SinkRun L) (l : SinkStep) : Decidable (r.Patient l) :=
  StatusOp.decidablePatient ..

instance (r : SinkRun L) (l : SinkStep) : Decidable (r.Timely l) :=
  StatusOp.decidableTimely ..

/-- Every enable count is the number of its users. -/
def AllExact (r : SinkRun L) : Prop :=
  ∀ t, Exact (r.status t) (r.awaiting t)

/-- The calls listed in `r'` are made for an enabled caller, with no user of the type in `r`
besides `c` for `dhId`. -/
def Spares (r r' : SinkRun L) (t : DHType) (dhId : String) (c : DHStatusCtrlKey) : Prop :=
  r'.manager.world ≠ [] → (r.status t).enableState dhId c = .ENABLED ∧
    ∀ k' c', (k', c') ≠ (dhId, c) → (r.status t).enableState k' c' = .ENABLED →
      r.awaiting t k' c' = true

variable {r : SinkRun L} {l : SinkStep}

theorem AllExact.step (h : r.AllExact) (hp : r.Patient l) (ht : r.Timely l) :
    (r.step l).AllExact :=
  (SinkOp.statusStep l.queries l.outcome.calls { r.manager with world := [] } l.op).exact h hp ht

theorem allExact_init : (init L).AllExact := fun _ => exact_default

/-- A patient disable calls only when nobody else uses the type. -/
theorem spares (h : r.AllExact) {d : DHDescriptor} {c : DHStatusCtrlKey}
    (hl : l.op = .disableSink d c) (hp : r.Patient l) :
    Spares r (r.step l) d.dhType d.id c := by
  intro hcalls
  obtain ⟨op, q, o⟩ := l
  obtain rfl : op = .disableSink d c := hl
  have hp : r.awaiting d.dhType d.id c = true → (r.status d.dhType).refLoad = 0 := hp
  have hlast : (r.status d.dhType).enableState d.id c = .ENABLED ∧
      (r.status d.dhType).refLoad ≤ 1 := by
    simp only [step, SinkOp.run, SinkManager.disableSinkInternal] at hcalls
    split_ifs at hcalls
    · exact disableSinkStatus_world o.calls d c (r.status d.dhType) [] hcalls
    · exact absurd rfl hcalls
  exact ⟨hlast.1, fun k' c' hne hs' =>
    (h d.dhType).awaiting_of_last hp hlast.1 hlast.2 hne hs'⟩

end SinkRun

/-- The sink reference counts and the last user : in every run in which no caller that
awaits recovery disables while something of its type is loaded, and in which the recovery
step disables those active callers only that await it, in every state no enable count is
negative, it is the number of enabled callers that do not await recovery, and the load
count is the sum of the enable counts; and a disable stops and unloads the sink only for an
enabled caller, and only if no other caller that does not await recovery is enabled for
hardware of its type. -/
theorem sinkRefs_exact {L : Type} (steps : List SinkStep)
    (h : Runs.Along SinkRun.step (fun r l => r.Patient l ∧ r.Timely l) (SinkRun.init L) steps) :
    (∀ pre post, steps = pre ++ post → ∀ t k,
      let r := pre.foldl SinkRun.step (SinkRun.init L)
      0 ≤ (r.status t).refEnable k ∧
        (r.status t).refEnable k = (r.status t).users (r.awaiting t) k ∧
        (r.status t).refLoad = (r.status t).sumRefEnable ∧
        ((∀ c, r.awaiting t k c = false) →
          (r.status t).refEnable k = (r.status t).enabledCallers k)) ∧
    ∀ pre l post d c, steps = pre ++ l :: post → l.op = .disableSink d c →
      SinkRun.Spares (pre.foldl SinkRun.step (SinkRun.init L))
        ((pre ++ [l]).foldl SinkRun.step (SinkRun.init L)) d.dhType d.id c := by
  have hinv : ∀ pre post, steps = pre ++ post →
      (pre.foldl SinkRun.step (SinkRun.init L)).AllExact := by
    rintro pre post rfl
    have hstep : ∀ (r : SinkRun L) (l : SinkStep), r.AllExact → r.Patient l ∧ r.Timely l →
        (r.step l).AllExact := fun r l hr hl => hr.step hl.1 hl.2
    exact h.of_append.1.invariant hstep SinkRun.allExact_init
  refine ⟨fun pre post hs t k => ?_, ?_⟩
  · exact (hinv pre post hs t).counts k
  · rintro pre l post d c rfl hd
    rw [List.foldl_append]
    exact SinkRun.spares (hinv pre _ rfl) hd h.of_append.2.1.1

/-! ## Runs with fixed outcomes -/

/-- A step with every request let through and every call successful. -/
def SinkOp.smoothly (op : SinkOp) : SinkStep :=
  { op := op, queries := .permissive, outcome := {} }

theorem sinkRefs_exact_recovered :
    let d : DHDescriptor := { id := "c", dhType := .CAMERA }
    let one : DHStatusCtrlKey := { uid := 1, pid := 1 }
    let steps := [SinkOp.enableSink d one, .resetSinkEnableStatus .CAMERA true,
      .recoverActiveEnableSink .CAMERA, .enableSink d one, .disableSink d one].map SinkOp.smoothly
    let r := steps.foldl SinkRun.step (SinkRun.init Unit)
    (r.status .CAMERA).refEnable "c" = (r.status .CAMERA).users (r.awaiting .CAMERA) "c" ∧
      (r.status .CAMERA).refLoad = (r.status .CAMERA).sumRefEnable :=
  have h := (sinkRefs_exact (L := Unit) _ (by decide)).1 _ [] (List.append_nil _).symm .CAMERA _
  ⟨h.2.1, h.2.2.1⟩

/-- After the reset an active caller is enabled with its count zeroed; a caller enabled
between the reset and the step that disables the active callers leaves its count behind;
and a caller that disables before it is recovered stops the sink that somebody else uses. -/
theorem sinkRefs_drift :
    let d : DHDescriptor := { id := "c", dhType := .CAMERA }
    let one : DHStatusCtrlKey := { uid := 1, pid := 1 }
    let two : DHStatusCtrlKey := { uid := 2, pid := 2 }
    let run (ops : List SinkOp) :=
      (ops.map SinkOp.smoothly).foldl SinkRun.step (SinkRun.init Unit)
    let counts (r : SinkRun Unit) :=
      ((r.status .CAMERA).refEnable "c", (r.status .CAMERA).enabledCallers "c")
    let shared := [SinkOp.enableSink d one, .resetSinkEnableStatus .CAMERA true,
      .enableSink d two]
    counts (run [.enableSink d one, .resetSinkEnableStatus .CAMERA true]) = (0, 1) ∧
    counts (run [.resetSinkEnableStatus .CAMERA true, .enableSink d one,
      .recoverActiveEnableSink .CAMERA]) = (1, 0) ∧
    ((run shared).status .CAMERA).enableState "c" two = .ENABLED ∧
      SinkOffCall.stopSink .CAMERA ∈ (run (shared ++ [.disableSink d one])).manager.world := by
  decide

end DHFwk
