import DHFwk.RefCounts
import DHFwk.Runs
import DHFwk.SourceStatus

/-!
# The source reference counts over whole runs

A run interleaves the bodies of the source side, each with its own answers and its own
outcomes of the inner calls (`SourceStep`). `SourceOp.statusStep` is what a body does to
the record : one of the changes of `StatusChange`. So in every run whose bodies are
patient and timely the enable count of every piece of hardware is the number of its users
and the load count of a type is the sum of its enable counts (`sourceRefs_exact`).

Without these conditions the counts drift (`sourceRefs_drift`) : between the reset and the
step that disables the active callers these are enabled with zeroed counts, a caller that
disables in between takes off a count that no longer has it, and a caller that enables in
between is disabled with its count left standing.
-/

namespace DHFwk

variable {L W : Type}

/-! ## What a body does to the record -/

/-- The body as an operation on the record. -/
def SourceOp.statusOp : SourceOp → StatusOp DHStatusSourceEnableInfoKey
  | .enableSource networkId d caller =>
    .enable d.dhType { networkId := networkId, dhId := d.id } caller
  | .disableSource networkId d caller =>
    .disable d.dhType { networkId := networkId, dhId := d.id } caller
  | .forceDisableSource networkId d => .force d.dhType { networkId := networkId, dhId := d.id }
  | .enableMetaSource networkId d =>
    .enable d.dhType { networkId := networkId, dhId := d.id } autoCaller
  | .disableMetaSource networkId d =>
    .disable d.dhType { networkId := networkId, dhId := d.id } autoCaller
  | .resetSourceEnableStatus dhType _ => .reset dhType
  | .recoverActiveEnableSource dhType => .recover dhType

section bodies

variable (c : SourceCalls W) (networkId uuid : String) (d : DHDescriptor)
  (caller : DHStatusCtrlKey) (s : DHSourceStatus L) (w : W)

theorem enableSourceStatus_change :
    StatusChange (.enable d.dhType { networkId := networkId, dhId := d.id } caller) s
      (enableSourceStatus c networkId uuid d caller s w).2.1 := by
  simp only [enableSourceStatus]
  split_ifs with h
  · exact .enable_touch ..
  · exact .settle_addRef h
  · exact .settle_addRef h
  · exact .settle_firstRef h (by omega) (by omega)

theorem disableSourceStatus_change :
    StatusChange (.disable d.dhType { networkId := networkId, dhId := d.id } caller) s
      (disableSourceStatus c networkId uuid d caller s w).2.1 := by
  simp only [disableSourceStatus]
  split_ifs with h he hl
  · exact .disable_touch ..
  · exact .settle_deleteRef h (Or.inl he)
  · exact .settle_deleteRef h (Or.inr hl)
  · exact .settle_lastRef h (by omega) (by omega)

theorem enableMetaSourceStatus_change :
    StatusChange (.enable d.dhType { networkId := networkId, dhId := d.id } autoCaller) s
      (enableMetaSourceStatus c networkId d s w).2.1 := by
  simp only [enableMetaSourceStatus]
  split_ifs with h
  · exact .enable_touch ..
  · exact .settle_addRef h
  · exact .settle_addRef h
  · exact .settle_firstRef h (by omega) (by omega)

theorem disableMetaSourceStatus_change :
    StatusChange (.disable d.dhType { networkId := networkId, dhId := d.id } autoCaller) s
      (disableMetaSourceStatus c networkId d s w).2.1 := by
  simp only [disableMetaSourceStatus]
  split_ifs with h he hl
  · exact .disable_touch ..
  · exact .settle_deleteRef h (Or.inl he)
  · exact .settle_deleteRef h (Or.inr hl)
  · exact .settle_lastRef h (by omega) (by omega)

theorem forceDisableSourceStatus_change :
    StatusChange (.force d.dhType { networkId := networkId, dhId := d.id }) s
      (forceDisableSourceStatus c networkId uuid d s w).2.1 := by
  simp only [forceDisableSourceStatus]
  split_ifs
  · exact .kept _ _ (by nofun) (by nofun)
  · exact .drop ..
  · exact settle_status (P := StatusChange _ s) (.drop ..) (.drop ..)

end bodies

/-- Every body is one of the changes of its type. -/
theorem SourceOp.statusStep (q : Queries) (c : SourceCalls W) (m : SourceManager L W)
    (op : SourceOp) :
    StatusStep op.statusOp m.dhSourceStatus_ (op.run q c m).2.dhSourceStatus_ := by
  cases op with
  | enableSource networkId d caller =>
    simp only [SourceOp.run, SourceManager.enableSourceInternal]
    split_ifs
    · exact .of_kept _ (by nofun) (by nofun)
    · exact .of_set (enableSourceStatus_change ..)
  | disableSource networkId d caller =>
    simp only [SourceOp.run, SourceManager.disableSourceInternal]
    split_ifs
    · exact .of_set (disableSourceStatus_change ..)
    · exact .of_kept _ (by nofun) (by nofun)
  | forceDisableSource networkId d =>
    simp only [SourceOp.run, SourceManager.forceDisableSourceInternal]
    split
    · exact .of_set (.kept _ _ (by nofun) (by nofun))
    · exact .of_set (forceDisableSourceStatus_change ..)
  | enableMetaSource networkId d => exact .of_set (enableMetaSourceStatus_change ..)
  | disableMetaSource networkId d => exact .of_set (disableMetaSourceStatus_change ..)
  | resetSourceEnableStatus dhType keep =>
    simp only [SourceOp.run, SourceManager.resetSourceEnableStatus]
    split
    · exact .of_missing ‹_› (.reset _ _)
    · exact .of_set (Table.get_of_lookup ‹_› ▸ .reset _ _)
  | recoverActiveEnableSource dhType =>
    simp only [SourceOp.run, SourceManager.recoverActiveEnableSource]
    split
    · exact .of_missing ‹_› (.recover _ _)
    · exact .of_set (Table.get_of_lookup ‹_› ▸ .recover _ _)

/-! ## Runs -/

/-- One step of a run : a body, what it is told, and how its inner calls turn out. -/
structure SourceStep (W : Type) where
  op : SourceOp
  queries : Queries
  calls : SourceCalls W

/-- The source side in a run, with who awaits recovery. -/
structure SourceRun (L W : Type) where
  manager : SourceManager L W
  awaiting : DHType → Awaiting DHStatusSourceEnableInfoKey

namespace SourceRun

/-- Nothing is recorded, nobody awaits recovery. -/
def init (L : Type) {W : Type} (w : W) : SourceRun L W :=
  { manager := { world := w }, awaiting := fun _ _ _ => false }

/-- The status of a type. -/
def status (r : SourceRun L W) (dhType : DHType) : DHSourceStatus L :=
  r.manager.status dhType

/-- Run one body. -/
def step (r : SourceRun L W) (l : SourceStep W) : SourceRun L W :=
  let manager := (l.op.run l.queries l.calls r.manager).2
  { manager := manager
    awaiting := awaitingAfter l.op.statusOp r.manager.dhSourceStatus_ manager.dhSourceStatus_
      r.awaiting }

/-- No caller that awaits recovery disables while something of its type is loaded. -/
def Patient (r : SourceRun L W) (l : SourceStep W) : Prop :=
  l.op.statusOp.Patient (r.status l.op.statusOp.dhType) (r.awaiting l.op.statusOp.dhType)

/-- The active callers that the recovery step disables all await it. -/
def Timely (r : SourceRun L W) (l : SourceStep W) : Prop :=
  l.op.statusOp.Timely (r.status l.op.statusOp.dhType) (r.awaiting l.op.statusOp.dhType)

instance (r : SourceRun L W) (l : SourceStep W) : Decidable (r.Patient l) :=
  StatusOp.decidablePatient ..

instance (r : SourceRun L W) (l : SourceStep W) : Decidable (r.Timely l) :=
  StatusOp.decidableTimely ..

/-- No enable count is below the number of its users. -/
def AllCounted (r : SourceRun L W) : Prop :=
  ∀ t, Counted (r.status t) (r.awaiting t)

/-- Every enable count is the number of its users. -/
def AllExact (r : SourceRun L W) : Prop :=
  ∀ t, Exact (r.status t) (r.awaiting t)

variable {r : SourceRun L W} {l : SourceStep W} {w : W} {steps : List (SourceStep W)}

theorem AllCounted.step (h : r.AllCounted) (hp : r.Patient l) : (r.step l).AllCounted :=
  (SourceOp.statusStep l.queries l.calls r.manager l.op).counted h hp

theorem AllExact.step (h : r.AllExact) (hp : r.Patient l) (ht : r.Timely l) :
    (r.step l).AllExact :=
  (SourceOp.statusStep l.queries l.calls r.manager l.op).exact h hp ht

theorem allCounted_init (w : W) : (init L w).AllCounted := fun _ => counted_default

theorem allExact_init (w : W) : (init L w).AllExact := fun _ => exact_default

/-- In a patient and timely run every enable count is the number of its users. -/
theorem allExact_of_run
    (h : Runs.Along step (fun r l => r.Patient l ∧ r.Timely l) (init L w) steps) :
    (steps.foldl step (init L w)).AllExact :=
  h.invariant (fun _ _ hr hl => hr.step hl.1 hl.2) (allExact_init w)

end SourceRun

/-- The source reference counts : in every run in which no caller that awaits recovery
disables while something of its type is loaded, and in which the recovery step disables
those active callers only that await it : no enable count is negative, it is the number of
enabled callers that do not await recovery, and the load count of a type is the sum of its
enable counts. Once nobody awaits recovery the enable count is the number of enabled
callers. -/
theorem sourceRefs_exact (w : W) (steps : List (SourceStep W))
    (h : Runs.Along SourceRun.step (fun r l => r.Patient l ∧ r.Timely l)
      (SourceRun.init L w) steps) (t : DHType) (k : DHStatusSourceEnableInfoKey) :
    let r := steps.foldl SourceRun.step (SourceRun.init L w)
    0 ≤ (r.status t).refEnable k ∧
      (r.status t).refEnable k = (r.status t).users (r.awaiting t) k ∧
      (r.status t).refLoad = (r.status t).sumRefEnable ∧
      ((∀ c, r.awaiting t k c = false) →
        (r.status t).refEnable k = (r.status t).enabledCallers k) := by
  exact (SourceRun.allExact_of_run h t).counts k

/-! ## Runs with fixed outcomes -/

/-- Calls that all succeed and change nothing. -/
def SourceCalls.succeeding : SourceCalls Unit where
  initCompSource _ := .success
  uninitCompSource _ _ := .success
  startSource _ := .success
  stopSource _ := .success
  waitForResult _ _ w := (true, w)
  enable _ _ _ _ _ _ := .success
  disable _ _ _ _ := .success
  modemEnable _ _ _ := .success
  modemDisable _ _ _ := .success

/-- A step that nothing hinders. -/
def SourceOp.smoothly (op : SourceOp) : SourceStep Unit :=
  { op := op, queries := .permissive, calls := .succeeding }

theorem sourceRefs_exact_recovered :
    let caller : DHStatusCtrlKey := { uid := 1, pid := 2 }
    let d : DHDescriptor := { id := "c", dhType := .CAMERA }
    let k : DHStatusSourceEnableInfoKey := { networkId := "n", dhId := "c" }
    let steps := [SourceOp.enableSource "n" d caller, .resetSourceEnableStatus .CAMERA true,
      .recoverActiveEnableSource .CAMERA, .enableSource "n" d caller].map SourceOp.smoothly
    let r := steps.foldl SourceRun.step (SourceRun.init Unit ())
    (r.status .CAMERA).refEnable k = (r.status .CAMERA).users (r.awaiting .CAMERA) k ∧
      (r.status .CAMERA).refLoad = (r.status .CAMERA).sumRefEnable :=
  have h := sourceRefs_exact (L := Unit) () _ (by decide) .CAMERA _
  ⟨h.2.1, h.2.2.1⟩

/-- After the reset an active caller is enabled with its count zeroed; if it disables
before it is recovered the count of its hardware falls below zero; and a caller enabled
between the reset and the step that disables the active callers leaves its count behind. -/
theorem sourceRefs_drift :
    let d : DHDescriptor := { id := "c", dhType := .CAMERA }
    let d' : DHDescriptor := { id := "c2", dhType := .CAMERA }
    let k : DHStatusSourceEnableInfoKey := { networkId := "n", dhId := "c" }
    let one : DHStatusCtrlKey := { uid := 1, pid := 1 }
    let two : DHStatusCtrlKey := { uid := 2, pid := 2 }
    let counts (ops : List SourceOp) :=
      let r := (ops.map SourceOp.smoothly).foldl SourceRun.step (SourceRun.init Unit ())
      ((r.status .CAMERA).refEnable k, (r.status .CAMERA).enabledCallers k)
    counts [.enableSource "n" d one, .resetSourceEnableStatus .CAMERA true] = (0, 1) ∧
    counts [.enableSource "n" d one, .resetSourceEnableStatus .CAMERA true,
      .enableSource "n" d' two, .enableSource "n" d' one, .disableSource "n" d one] = (-1, 0) ∧
    counts [.resetSourceEnableStatus .CAMERA true, .enableSource "n" d one,
      .recoverActiveEnableSource .CAMERA] = (1, 0) := by
  decide

end DHFwk
