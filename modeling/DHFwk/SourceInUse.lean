import DHFwk.SourceHardware

/-!
# Hardware in use is on

Runs of the source bodies on the hardware. In every run whose disables are patient and
complete, a caller that is enabled and does not await recovery has its hardware on, and a
disable switches off no hardware that another such caller uses (`source_in_use`).

Both conditions are needed (`source_in_use_fails`). A last disable whose unload fails
after the hardware went off returns early and leaves its caller enabled; the next caller is
then told that the hardware is enabled and no enable is made. And a caller that awaits
recovery is not in the count any more, so its disable takes the count of another caller.
-/

set_option linter.unusedSectionVars false

namespace DHFwk

/-! ## One body -/

section body

variable {L : Type}

/-- The hardware and the caller of a disable. -/
def SourceOp.disabler : SourceOp → Option (DHStatusSourceEnableInfoKey × DHStatusCtrlKey)
  | .disableSource networkId d caller => some ({ networkId := networkId, dhId := d.id }, caller)
  | .disableMetaSource networkId d => some ({ networkId := networkId, dhId := d.id }, autoCaller)
  | _ => none

/-- A disable by the last user that has switched its hardware off unloads the component. -/
def SourceOp.Completes (op : SourceOp) (q : Queries) (o : SourceOutcome) (s : DHSourceStatus L)
    (aw : Awaiting DHStatusSourceEnableInfoKey) : Prop :=
  match op with
  | .disableSource networkId d caller => q.isDHTypeSupport d.dhType = true →
    LastUser s aw { networkId := networkId, dhId := d.id } caller →
    o.disable = DH_FWK_SUCCESS → o.Unloads
  | .disableMetaSource networkId d =>
    LastUser s aw { networkId := networkId, dhId := d.id } autoCaller →
    (o.modemDisable = DH_FWK_SUCCESS ∨ o.stop = DH_FWK_SUCCESS) → o.Unloads
  | _ => True

instance SourceOp.decidableCompletes (op : SourceOp) (q : Queries) (o : SourceOutcome)
    (s : DHSourceStatus L) (aw : Awaiting DHStatusSourceEnableInfoKey) :
    Decidable (op.Completes q o s aw) := by
  unfold SourceOp.Completes
  split <;> infer_instance

variable {q : Queries} {o : SourceOutcome} {m : SourceManager L Hardware} {t : DHType}
  {aw : Awaiting DHStatusSourceEnableInfoKey}

theorem powered_put {r : Int × DHSourceStatus L × Hardware} (h : Powered t r.2.1 r.2.2) :
    Powered t ((m.put t r).2.status t) (m.put t r).2.world := by
  rwa [SourceManager.status, SourceManager.put, Table.get_set_self]

/-- A patient and complete body leaves the hardware it counts on. -/
theorem SourceOp.powered (op : SourceOp)
    (h : Counted (m.status op.statusOp.dhType) aw)
    (hp : op.statusOp.Patient (m.status op.statusOp.dhType) aw)
    (hc : op.Completes q o (m.status op.statusOp.dhType) aw)
    (hP : Powered op.statusOp.dhType (m.status op.statusOp.dhType) m.world) :
    Powered op.statusOp.dhType ((op.run q o.calls m).2.status op.statusOp.dhType)
      (op.run q o.calls m).2.world := by
  cases op with
  | enableSource networkId d caller =>
    simp only [SourceOp.run, SourceManager.enableSourceInternal]
    split_ifs
    · exact hP
    · exact powered_put (enableSourceStatus_powered h hP)
  | disableSource networkId d caller =>
    simp only [SourceOp.run, SourceManager.disableSourceInternal]
    split_ifs with hq
    · exact powered_put (disableSourceStatus_powered h hp (hc hq) hP)
    · exact hP
  | forceDisableSource networkId d =>
    simp only [SourceOp.run, SourceManager.forceDisableSourceInternal]
    split
    · exact powered_put hP
    · exact powered_put (forceDisableSourceStatus_powered h hP)
  | enableMetaSource networkId d => exact powered_put (enableMetaSourceStatus_powered h hP)
  | disableMetaSource networkId d => exact powered_put (disableMetaSourceStatus_powered h hc hP)
  | resetSourceEnableStatus dhType keep =>
    simp only [SourceOp.run, SourceOp.statusOp, StatusOp.dhType,
      SourceManager.status_resetSourceEnableStatus]
    exact fun k hk => absurd hk (by simp)
  | recoverActiveEnableSource dhType =>
    simp only [SourceOp.run, SourceOp.statusOp, StatusOp.dhType,
      SourceManager.status_recoverActiveEnableSource,
      SourceManager.world_recoverActiveEnableSource]
    exact hP.mono fun k hk => ⟨by rwa [DHStatus.refEnable_recoverActiveEnable] at hk, rfl⟩

/-- A body leaves the hardware of other types alone. -/
theorem SourceOp.stays (op : SourceOp) : SourceOutcome.Stays op.statusOp.dhType (fun _ => True)
    m.world (op.run q o.calls m).2.world := by
  cases op with
  | enableSource networkId d caller =>
    simp only [SourceOp.run, SourceManager.enableSourceInternal]
    split_ifs
    · exact .refl ..
    · exact enableSourceStatus_stays
  | disableSource networkId d caller =>
    simp only [SourceOp.run, SourceManager.disableSourceInternal]
    split_ifs
    · exact disableSourceStatus_stays.mono fun _ _ => trivial
    · exact .refl ..
  | forceDisableSource networkId d =>
    simp only [SourceOp.run, SourceManager.forceDisableSourceInternal]
    split
    · exact .refl ..
    · exact forceDisableSourceStatus_stays
  | enableMetaSource networkId d => exact enableMetaSourceStatus_stays
  | disableMetaSource networkId d => exact disableMetaSourceStatus_stays.mono fun _ _ => trivial
  | resetSourceEnableStatus dhType keep =>
    simp only [SourceOp.run, SourceManager.world_resetSourceEnableStatus]
    exact (SourceOutcome.keepsStays_uninitCall o.uninit trivial).snd (.refl ..)
  | recoverActiveEnableSource dhType =>
    simp only [SourceOp.run, SourceManager.world_recoverActiveEnableSource]
    exact .refl ..

/-- What a disable calls, it may call. -/
theorem SourceOp.mayCall {op : SourceOp} {k : DHStatusSourceEnableInfoKey}
    {c : DHStatusCtrlKey} (hd : op.disabler = some (k, c)) (hm : m.world.calls = []) :
    ∀ e ∈ (op.run q o.calls m).2.world.calls,
      MayCall (m.status op.statusOp.dhType) op.statusOp.dhType k c e := by
  have hnil : ∀ {A : OffCall → Prop} {w : Hardware},
      SourceOutcome.Stays op.statusOp.dhType A m.world w → ∀ e ∈ w.calls, A e := fun hs e he =>
    (hs.made e he).resolve_right (by simp [hm])
  cases op with
  | disableSource networkId d caller =>
    obtain ⟨rfl, rfl⟩ := Prod.mk.inj (Option.some.inj hd)
    simp only [SourceOp.run, SourceManager.disableSourceInternal]
    split_ifs
    · exact hnil disableSourceStatus_stays
    · exact hnil (.refl ..)
  | disableMetaSource networkId d =>
    obtain ⟨rfl, rfl⟩ := Prod.mk.inj (Option.some.inj hd)
    exact hnil disableMetaSourceStatus_stays
  | _ => cases hd

/-- What patience asks of a disable. -/
theorem SourceOp.patient_of_disabler (op : SourceOp) {k : DHStatusSourceEnableInfoKey}
    {c : DHStatusCtrlKey} {s : DHSourceStatus L} (hd : op.disabler = some (k, c))
    (hp : op.statusOp.Patient s aw) (ha : aw k c = true) : s.refLoad = 0 := by
  cases op with
  | disableSource | disableMetaSource =>
    obtain ⟨rfl, rfl⟩ := Prod.mk.inj (Option.some.inj hd)
    exact hp ha
  | _ => cases hd

end body

/-! ## Runs -/

/-- One step of a run : a body, what it is told, and how its calls turn out. -/
structure HardwareStep where
  op : SourceOp
  queries : Queries
  outcome : SourceOutcome

/-- The step with its calls on the hardware. -/
def HardwareStep.toSource (l : HardwareStep) : SourceStep Hardware :=
  { op := l.op, queries := l.queries, calls := l.outcome.calls }

/-- The hardware that a call switches off. -/
def OffCall.Reaches : OffCall → DHType → DHStatusSourceEnableInfoKey → Prop
  | .disable t k, t', k' => t' = t ∧ k' = k
  | .releaseSource t, t', _ | .uninitCompSource t, t', _ => t' = t

namespace SourceRun

variable {L : Type}

/-- The run with no calls listed. -/
def quiet (r : SourceRun L Hardware) : SourceRun L Hardware :=
  { r with manager := { r.manager with world := { r.manager.world with calls := [] } } }

/-- Run one body, and list the calls it makes. -/
def hardwareStep (r : SourceRun L Hardware) (l : HardwareStep) : SourceRun L Hardware :=
  r.quiet.step l.toSource

/-- A disable by the last user that has switched its hardware off unloads the component. -/
def Completes (r : SourceRun L Hardware) (l : HardwareStep) : Prop :=
  l.op.Completes l.queries l.outcome (r.status l.op.statusOp.dhType)
    (r.awaiting l.op.statusOp.dhType)

instance (r : SourceRun L Hardware) (l : HardwareStep) : Decidable (r.Completes l) :=
  SourceOp.decidableCompletes ..

/-- Every user's hardware is on. -/
def UsersOn (r : SourceRun L Hardware) : Prop :=
  ∀ t k c, (r.status t).enableState k c = .ENABLED → r.awaiting t k c = false →
    r.manager.world.on t k = true

/-- The calls listed in `r'` switch off no hardware that in `r` has a user besides `c` for
`k`. -/
def Spares (r r' : SourceRun L Hardware) (k : DHStatusSourceEnableInfoKey)
    (c : DHStatusCtrlKey) : Prop :=
  ∀ e ∈ r'.manager.world.calls, ∀ t k' c', e.Reaches t k' → (k', c') ≠ (k, c) →
    (r.status t).enableState k' c' = .ENABLED → r.awaiting t k' c' = true

/-- Hardware with a positive enable count is on. -/
def AllPowered (r : SourceRun L Hardware) : Prop :=
  ∀ t, Powered t (r.status t) r.manager.world

variable {r : SourceRun L Hardware} {l : HardwareStep}

theorem usersOn (h : r.AllCounted) (hP : r.AllPowered) : r.UsersOn := fun t k _ hs ha =>
  hP t k ((h t).refEnable_pos hs ha)

theorem allPowered_init (w : Hardware) : (init L w).AllPowered := fun _ _ hk =>
  absurd hk (lt_irrefl 0)

theorem AllCounted.hardwareStep (h : r.AllCounted) (hp : r.Patient l.toSource) :
    (r.hardwareStep l).AllCounted :=
  AllCounted.step (r := r.quiet) h hp

theorem AllPowered.step (hP : r.AllPowered) (h : r.AllCounted) (hp : r.Patient l.toSource)
    (hc : r.Completes l) : (r.hardwareStep l).AllPowered := by
  intro t
  by_cases ht : t = l.op.statusOp.dhType
  · subst ht
    exact l.op.powered (m := r.quiet.manager) (h _) hp hc (hP _)
  · have hs := (l.op.statusStep l.queries l.outcome.calls r.quiet.manager).other t ht
    have hw := (l.op.stays (q := l.queries) (o := l.outcome) (m := r.quiet.manager)).other t ht
    intro k hk
    have hk' : 0 < (r.status t).refEnable k := by
      rw [← show (r.hardwareStep l).status t = r.status t from hs]
      exact hk
    rw [show (r.hardwareStep l).manager.world.on t = r.manager.world.on t from hw]
    exact hP t k hk'

/-- A patient disable spares the hardware that somebody else uses. -/
theorem spares (h : r.AllCounted) (hp : r.Patient l.toSource)
    {k : DHStatusSourceEnableInfoKey} {c : DHStatusCtrlKey} (hd : l.op.disabler = some (k, c)) :
    Spares r (r.hardwareStep l) k c := by
  intro e he t k' c' hr hne hs'
  have hmay : MayCall (r.status l.op.statusOp.dhType) l.op.statusOp.dhType k c e :=
    SourceOp.mayCall (m := r.quiet.manager) hd rfl e he
  obtain ⟨hs, hcall⟩ := hmay
  have hp : r.awaiting l.op.statusOp.dhType k c = true →
      (r.status l.op.statusOp.dhType).refLoad = 0 := l.op.patient_of_disabler hd hp
  obtain rfl : t = l.op.statusOp.dhType := by
    rcases hcall with ⟨rfl, -⟩ | ⟨rfl | rfl, -⟩
    · exact hr.1
    · exact hr
    · exact hr
  rcases hcall with ⟨rfl, hone⟩ | ⟨-, hone⟩
  · obtain ⟨-, rfl⟩ := hr
    exact (h _).awaiting_of_lastEnabled hp hs hone (fun hc => hne (by rw [hc])) hs'
  · exact (h _).awaiting_of_last hp hs hone hne hs'

end SourceRun

/-- Hardware in use is on, and stays on when somebody else disables : in every run in which
no caller that awaits recovery disables while something of its type is loaded, and in which
a disable by the last user that has switched its hardware off unloads the component, every
caller that is enabled and does not await recovery has its hardware on in every state, and
no disable switches off hardware that another such caller uses. -/
theorem source_in_use {L : Type} (w : Hardware) (steps : List HardwareStep)
    (h : Runs.Along SourceRun.hardwareStep (fun r l => r.Patient l.toSource ∧ r.Completes l)
      (SourceRun.init L w) steps) :
    (∀ pre post, steps = pre ++ post →
      (pre.foldl SourceRun.hardwareStep (SourceRun.init L w)).UsersOn) ∧
    ∀ pre l post k c, steps = pre ++ l :: post → l.op.disabler = some (k, c) →
      SourceRun.Spares (pre.foldl SourceRun.hardwareStep (SourceRun.init L w))
        ((pre ++ [l]).foldl SourceRun.hardwareStep (SourceRun.init L w)) k c := by
  have hinv : ∀ pre post, steps = pre ++ post →
      (pre.foldl SourceRun.hardwareStep (SourceRun.init L w)).AllCounted ∧
        (pre.foldl SourceRun.hardwareStep (SourceRun.init L w)).AllPowered := by
    rintro pre post rfl
    have hstep : ∀ (r : SourceRun L Hardware) (l : HardwareStep),
        r.AllCounted ∧ r.AllPowered → r.Patient l.toSource ∧ r.Completes l →
        (r.hardwareStep l).AllCounted ∧ (r.hardwareStep l).AllPowered := fun r l hr hl =>
      ⟨hr.1.hardwareStep hl.1, hr.2.step hr.1 hl.1 hl.2⟩
    exact h.of_append.1.invariant hstep
      ⟨SourceRun.allCounted_init w, SourceRun.allPowered_init w⟩
  refine ⟨fun pre post hs => ?_, ?_⟩
  · obtain ⟨hc, hP⟩ := hinv pre post hs
    exact SourceRun.usersOn hc hP
  · rintro pre l post k c rfl hd
    rw [List.foldl_append]
    exact SourceRun.spares (hinv pre _ rfl).1 h.of_append.2.1.1 hd

/-! ## Runs with fixed outcomes -/

/-- A step with every request let through. -/
def HardwareStep.of (op : SourceOp) (o : SourceOutcome) : HardwareStep :=
  { op := op, queries := .permissive, outcome := o }

/-- All hardware off. -/
def Hardware.off : Hardware := { on := fun _ _ => false }

theorem source_in_use_shared :
    let d : DHDescriptor := { id := "c", dhType := .CAMERA }
    let k : DHStatusSourceEnableInfoKey := { networkId := "n", dhId := "c" }
    let one : DHStatusCtrlKey := { uid := 1, pid := 1 }
    let two : DHStatusCtrlKey := { uid := 2, pid := 2 }
    let steps : List HardwareStep := [.of (.enableSource "n" d one) {},
      .of (.enableSource "n" d two) {}, .of (.disableSource "n" d one) {}]
    (steps.foldl SourceRun.hardwareStep (SourceRun.init Unit .off)).manager.world.on .CAMERA k =
      true :=
  (source_in_use (L := Unit) .off _ (by decide)).1 _ [] (List.append_nil _).symm .CAMERA _
    { uid := 2, pid := 2 } (by decide) (by decide)

/-- The last disable switches its hardware off, waits in vain for the release and leaves its
caller enabled : the next caller is enabled without a call, on hardware that is off. And a
caller that awaits recovery switches off the hardware that the other caller, enabled since
the reset, uses. -/
theorem source_in_use_fails :
    let d : DHDescriptor := { id := "c", dhType := .CAMERA }
    let k : DHStatusSourceEnableInfoKey := { networkId := "n", dhId := "c" }
    let one : DHStatusCtrlKey := { uid := 1, pid := 1 }
    let two : DHStatusCtrlKey := { uid := 2, pid := 2 }
    let run (steps : List HardwareStep) :=
      steps.foldl SourceRun.hardwareStep (SourceRun.init Unit .off)
    let r := run [.of (.enableSource "n" d one) {},
      .of (.disableSource "n" d one) { stopReady := false }, .of (.enableSource "n" d two) {}]
    let before : List HardwareStep := [.of (.enableSource "n" d one) {},
      .of (.resetSourceEnableStatus .CAMERA true) {}, .of (.enableSource "n" d two) {}]
    ((r.status .CAMERA).enableState k two = .ENABLED ∧ r.awaiting .CAMERA k two = false ∧
      r.manager.world.on .CAMERA k = false) ∧
    ((run before).status .CAMERA).enableState k two = .ENABLED ∧
      (run before).awaiting .CAMERA k two = false ∧
      OffCall.disable .CAMERA k ∈
        (run (before ++ [.of (.disableSource "n" d one) {}])).manager.world.calls := by
  decide

end DHFwk
