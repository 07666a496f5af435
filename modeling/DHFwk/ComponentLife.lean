import DHFwk.ComponentHandles
import DHFwk.Runs
import DHFwk.SinkRefs
import DHFwk.SourceRefs

/-!
# The handles follow the load counts

`Matches` says that the component of a type is loaded exactly if its load count is
positive. In every run of enables, disables and forced disables, on both sides, in which no
failure leaves a component behind (`SourceOp.Tidy`, `SinkOp.Tidy`), every type matches after
every operation (`handles_follow_loads`).

Two kinds of failure leave one behind (`handles_left_behind`). A first enable whose start
fails returns without taking the component back, and one whose wait or enable fails ignores
the error of taking it back. A forced disable of the last hardware of a type has taken the
count off before it unloads the component, and keeps it off when the unload fails.
-/

set_option linter.unusedSectionVars false

namespace DHFwk

/-- The component of type `t` is loaded exactly if the load count is positive. -/
def Matches {K L H : Type} (t : DHType) (s : DHStatus K L) (w : Components H) : Prop :=
  if 0 < s.refLoad then w.Holds t else w.Empty t

/-- Nobody awaits recovery. -/
abbrev nobody {K : Type} : Awaiting K := fun _ _ => false

section matching

variable {K L H : Type} [DecidableEq K] {t : DHType} {s s' : DHStatus K L} {w : Components H}
  {k : K} {c : DHStatusCtrlKey}

theorem matches_of_pos (h : 0 < s.refLoad) : Matches t s w ↔ w.Holds t :=
  iff_of_eq (if_pos h)

theorem matches_of_nonpos (h : s.refLoad ≤ 0) : Matches t s w ↔ w.Empty t :=
  iff_of_eq (if_neg (not_lt.2 h))

theorem Matches.of_pos (h : Matches t s w) (hs : 0 < s.refLoad) (hs' : 0 < s'.refLoad) :
    Matches t s' w :=
  (matches_of_pos hs').2 ((matches_of_pos hs).1 h)

/-- An enabled caller keeps its type loaded. -/
theorem Counted.refLoad_pos (h : Counted s nobody) (hs : s.enableState k c = .ENABLED) :
    0 < s.refLoad :=
  (h.refEnable_pos hs rfl).trans_le (h.refEnable_le_refLoad k)

/-- Unloading after the entry of `k` is gone : tidy if the unload succeeds where something
was loaded. -/
theorem settle_drop_matches {o : ComponentOutcome H} {err : Int}
    (hl : ¬(s.drop k).refLoad > 0)
    (hd : 0 < s.refLoad → s.refLoad - s.refEnable k ≤ 0 → o.Unloads) (hm : Matches t s w) :
    let r := settle (Call.andThen (fun w => (o.stop, w)) <|
      (Call.ofBool (fun w => (o.stopReady, w)) err).andThen (uninitComp t o))
      (s.drop k) (s.drop k) w
    Matches t r.2.1 r.2.2 := by
  have hl : (s.drop k).refLoad ≤ 0 := not_lt.1 hl
  have hempty : ∀ w : Components H, w.Empty t → Matches t (s.drop k) w := fun _ hw =>
    (matches_of_nonpos hl).2 hw
  by_cases hpos : 0 < s.refLoad
  · have hu := hd hpos (by rwa [DHStatus.refLoad_drop] at hl)
    have hfail : Call.Triple (Components.Holds t) (Call.andThen (fun w => (o.stop, w)) <|
        (Call.ofBool (fun w => (o.stopReady, w)) err).andThen (uninitComp t o))
        (Matches t (s.drop k)) (Matches t (s.drop k)) :=
      .of_codes (fun w hw hr => hempty _ ((unload_triple uninitComp_holds err).of_success hw hr))
        fun w hw hr => absurd (unload_fst hu hw.1) hr
    exact settle_triple hfail ((matches_of_pos hpos).1 hm)
  · exact settle_triple ((unload_triple uninitComp_empty err).conseq (fun _ hw => hw) hempty
      hempty) ((matches_of_nonpos (not_lt.1 hpos)).1 hm)

end matching

/-! ## The source side -/

section source

variable {L H : Type} {networkId uuid : String} {d : DHDescriptor} {caller : DHStatusCtrlKey}
  {s : DHSourceStatus L} {w : Components H} {o : ComponentOutcome H}

/-- A tidy first enable. -/
theorem firstEnable_matches {enabled : Int} (h : o.TidyStart enabled)
    {k : DHStatusSourceEnableInfoKey} {c : DHStatusCtrlKey} (hl : s.refLoad ≤ 0) :
    Call.Triple (Components.Empty d.dhType)
      ((o.sourceCalls.load d.dhType).andThen <|
        Call.orUndo (fun w => (enabled, w)) (o.sourceCalls.abandon d.dhType))
      (Matches d.dhType (s.firstRef k c)) (Matches d.dhType (s.touch k c)) := by
  have hdone : ∀ w : Components H, w.Holds d.dhType → Matches d.dhType (s.firstRef k c) w :=
    fun w hw => (matches_of_pos Int.one_pos).2 hw
  have hkept : ∀ w : Components H, w.Empty d.dhType → Matches d.dhType (s.touch k c) w :=
    fun w hw => (matches_of_nonpos hl).2 hw
  have henable : Call.Triple (fun w : Components H => w.Holds d.dhType ∧ o.Inits)
      (fun w => (enabled, w)) (Matches d.dhType (s.firstRef k c))
      (fun w => w.Holds d.dhType ∧ o.Inits ∧ enabled ≠ DH_FWK_SUCCESS) :=
    .of_codes (fun w hw _ => hdone w hw.1) fun _ hw hr => ⟨hw.1, hw.2, hr⟩
  have hundo : Call.Triple
      (fun w : Components H => w.Holds d.dhType ∧ o.Inits ∧ enabled ≠ DH_FWK_SUCCESS)
      (o.sourceCalls.abandon d.dhType) (Matches d.dhType (s.touch k c))
      (Matches d.dhType (s.touch k c)) :=
    .ignoring (.of_forall fun _ hw => hw)
      ((uninitComp_tidy (fun hD => (h hD.1).2 (Or.inr hD.2)) _).conseq (fun _ hw => hw) hkept
        fun _ hw => hw)
  exact ((load_triple h (by decide)).conseq (fun _ hw => hw) (fun _ hw => hw) hkept).andThen
    (henable.orUndo hundo)

theorem enableSourceStatus_matches (h : Counted s nobody)
    (hd : ¬s.enableState { networkId := networkId, dhId := d.id } caller = .ENABLED →
      s.refLoad = 0 → o.TidyStart o.enable) (hm : Matches d.dhType s w) :
    Matches d.dhType (enableSourceStatus o.sourceCalls networkId uuid d caller s w).2.1
      (enableSourceStatus o.sourceCalls networkId uuid d caller s w).2.2 := by
  have hle := h.refEnable_le_refLoad { networkId := networkId, dhId := d.id }
  have h0 := h.refEnable_nonneg { networkId := networkId, dhId := d.id }
  have hadd : ∀ {k c}, 0 < s.refLoad → 0 < (s.addRef k c).refLoad := fun {k c} hl =>
    show 0 < s.refLoad + 1 by omega
  simp only [enableSourceStatus]
  split_ifs with hs he hl
  · exact hm
  · exact hm.of_pos (by omega) (hadd (by omega))
  · have hl : 0 < s.refLoad := by omega
    exact settle_triple (.of_codes (fun _ hw _ => hw.of_pos hl (hadd hl)) fun _ hw _ => hw) hm
  · have hl : s.refLoad ≤ 0 := by omega
    exact settle_triple (firstEnable_matches (hd hs (by omega)) hl) ((matches_of_nonpos hl).1 hm)

theorem disableSourceStatus_matches (h : Counted s nobody) (hm : Matches d.dhType s w) :
    Matches d.dhType (disableSourceStatus o.sourceCalls networkId uuid d caller s w).2.1
      (disableSourceStatus o.sourceCalls networkId uuid d caller s w).2.2 := by
  have hle := h.refEnable_le_refLoad { networkId := networkId, dhId := d.id }
  have hdel : ∀ {k c}, 1 < s.refLoad → 0 < (s.deleteRef k c).refLoad := fun {k c} hl =>
    show 0 < s.refLoad - 1 by omega
  simp only [disableSourceStatus]
  split_ifs with hs he hl
  · exact hm
  · exact hm.of_pos (by omega) (hdel (by omega))
  · have hpos : 0 < s.refLoad := by omega
    exact settle_triple (.of_codes (fun _ hw _ => hw.of_pos hpos (hdel hl)) fun _ hw _ => hw) hm
  · have hl := h.refLoad_pos (DHStatus.eq_enabled hs)
    have hdis : Call.Triple (Components.Holds d.dhType)
        (fun w : Components H => (o.disable, w)) (Components.Holds d.dhType)
        (Components.Holds d.dhType) := .of_forall fun _ hw => hw
    exact settle_triple ((hdis.andThen (unload_triple uninitComp_holds _)).conseq
      (fun _ hw => hw) (fun _ hw => (matches_of_nonpos le_rfl).2 hw)
      fun _ hw => (matches_of_pos hl).2 hw) ((matches_of_pos hl).1 hm)

theorem enableMetaSourceStatus_matches (h : Counted s nobody)
    (hd : ¬s.enableState { networkId := networkId, dhId := d.id } autoCaller = .ENABLED →
      s.refLoad = 0 → o.TidyStart o.modemEnable) (hm : Matches d.dhType s w) :
    Matches d.dhType (enableMetaSourceStatus o.sourceCalls networkId d s w).2.1
      (enableMetaSourceStatus o.sourceCalls networkId d s w).2.2 := by
  have hle := h.refEnable_le_refLoad { networkId := networkId, dhId := d.id }
  have h0 := h.refLoad_nonneg
  have hadd : ∀ {k c}, 0 < s.refLoad → 0 < (s.addRef k c).refLoad := fun {k c} hl =>
    show 0 < s.refLoad + 1 by omega
  simp only [enableMetaSourceStatus]
  split_ifs with hs he hl
  · exact hm
  · exact hm.of_pos (by omega) (hadd (by omega))
  · have hmodem : Call.Triple (Matches d.dhType s) (fun w : Components H => (o.modemEnable, w))
        (Matches d.dhType (s.addRef { networkId := networkId, dhId := d.id } autoCaller))
        (Matches d.dhType s) :=
      .of_codes (fun _ hw _ => hw.of_pos hl (hadd hl)) fun _ hw _ => hw
    exact settle_triple (hmodem.orCode (by decide)) hm
  · have hl : s.refLoad ≤ 0 := by omega
    exact settle_triple (firstEnable_matches (hd hs (by omega)) hl) ((matches_of_nonpos hl).1 hm)

theorem disableMetaSourceStatus_matches (h : Counted s nobody) (hm : Matches d.dhType s w) :
    Matches d.dhType (disableMetaSourceStatus o.sourceCalls networkId d s w).2.1
      (disableMetaSourceStatus o.sourceCalls networkId d s w).2.2 := by
  have hle := h.refEnable_le_refLoad { networkId := networkId, dhId := d.id }
  have hdel : ∀ {k c}, 1 < s.refLoad → 0 < (s.deleteRef k c).refLoad := fun {k c} hl =>
    show 0 < s.refLoad - 1 by omega
  simp only [disableMetaSourceStatus]
  split_ifs with hs he hl
  · exact hm
  · exact hm.of_pos (by omega) (hdel (by omega))
  · exact hm.of_pos (by omega) (hdel hl)
  · have hl := h.refLoad_pos (DHStatus.eq_enabled hs)
    have hdis : Call.Triple (Components.Holds d.dhType)
        (fun w : Components H => (o.modemDisable, w)) (Components.Holds d.dhType)
        (Components.Holds d.dhType) := .of_forall fun _ hw => hw
    exact settle_triple ((hdis.ignoring (unload_triple uninitComp_holds _)).conseq
      (fun _ hw => hw) (fun _ hw => (matches_of_nonpos le_rfl).2 hw)
      fun _ hw => (matches_of_pos hl).2 hw) ((matches_of_pos hl).1 hm)

theorem forceDisableSourceStatus_matches (h : Counted s nobody)
    (hd : o.disable = DH_FWK_SUCCESS → 0 < s.refLoad →
      s.refLoad - s.refEnable { networkId := networkId, dhId := d.id } ≤ 0 → o.Unloads)
    (hm : Matches d.dhType s w) :
    Matches d.dhType (forceDisableSourceStatus o.sourceCalls networkId uuid d s w).2.1
      (forceDisableSourceStatus o.sourceCalls networkId uuid d s w).2.2 := by
  simp only [forceDisableSourceStatus]
  split_ifs with hr hl
  · exact hm
  · have h0 := h.refEnable_nonneg { networkId := networkId, dhId := d.id }
    rw [DHStatus.refLoad_drop] at hl
    exact hm.of_pos (by omega) hl
  · exact settle_drop_matches hl (hd (not_not.1 hr)) hm

/-! ### Other types -/

variable (networkId uuid d caller s w o)

theorem enableSourceStatus_local : w.SameElsewhere d.dhType
    (enableSourceStatus o.sourceCalls networkId uuid d caller s w).2.2 := by
  simp only [enableSourceStatus]
  split_ifs
  · exact .refl ..
  · exact .refl ..
  · exact (local_const _ _).settle ..
  · exact ((local_sourceLoad o _).andThen
      ((local_const _ _).orUndo (local_sourceAbandon o _))).settle ..

theorem disableSourceStatus_local : w.SameElsewhere d.dhType
    (disableSourceStatus o.sourceCalls networkId uuid d caller s w).2.2 := by
  simp only [disableSourceStatus]
  split_ifs
  · exact .refl ..
  · exact .refl ..
  · exact (local_const _ _).settle ..
  · exact ((local_const _ o.disable).andThen (local_sourceUnload o _)).settle ..

theorem enableMetaSourceStatus_local : w.SameElsewhere d.dhType
    (enableMetaSourceStatus o.sourceCalls networkId d s w).2.2 := by
  simp only [enableMetaSourceStatus]
  split_ifs
  · exact .refl ..
  · exact .refl ..
  · exact ((local_const _ o.modemEnable).orCode _).settle ..
  · exact ((local_sourceLoad o _).andThen
      ((local_const _ _).orUndo (local_sourceAbandon o _))).settle ..

theorem disableMetaSourceStatus_local : w.SameElsewhere d.dhType
    (disableMetaSourceStatus o.sourceCalls networkId d s w).2.2 := by
  simp only [disableMetaSourceStatus]
  split_ifs
  · exact .refl ..
  · exact .refl ..
  · exact .refl ..
  · exact ((local_const _ o.modemDisable).ignoring (local_sourceUnload o _)).settle ..

theorem forceDisableSourceStatus_local : w.SameElsewhere d.dhType
    (forceDisableSourceStatus o.sourceCalls networkId uuid d s w).2.2 := by
  simp only [forceDisableSourceStatus]
  split_ifs
  · exact .refl ..
  · exact .refl ..
  · exact (local_sourceUnload o _).settle ..

end source

/-! ## The sink side -/

section sink

variable {L H : Type} {d : DHDescriptor} {caller : DHStatusCtrlKey} {s : DHSinkStatus L}
  {w : Components H} {o : ComponentOutcome H}

/-- Handing over parameters keeps the sink loaded. -/
theorem configure_holds : Call.Triple (Components.Holds d.dhType) (o.sinkCalls.configure d)
    (Components.Holds d.dhType) (Components.Holds d.dhType) := .of_forall fun w h => by
  unfold SinkCalls.configure
  split_ifs
  · exact h
  · exact ⟨h.1, lookup_insertNew_self w.comp d.dhType none⟩

theorem enableSinkStatus_matches (h : Counted s nobody)
    (hd : ¬s.enableState d.id caller = .ENABLED → s.refLoad = 0 → o.TidyStart DH_FWK_SUCCESS)
    (hm : Matches d.dhType s w) :
    Matches d.dhType (enableSinkStatus o.sinkCalls d caller s w).2.1
      (enableSinkStatus o.sinkCalls d caller s w).2.2 := by
  have hle := h.refEnable_le_refLoad d.id
  have h0 := h.refEnable_nonneg d.id
  simp only [enableSinkStatus]
  split_ifs with hs hc
  · exact hm
  · exact hm.of_pos (by omega) (show 0 < s.refLoad + 1 by omega)
  · obtain ⟨-, hl⟩ := not_or.1 hc
    have hl := not_not.1 hl
    have hconf : Call.Triple (fun w : Components H => w.Holds d.dhType ∧ o.Inits)
        (o.sinkCalls.configure d) (Matches d.dhType (s.firstRef d.id caller))
        (Matches d.dhType (s.touch d.id caller)) :=
      .of_codes (fun w hw _ => (matches_of_pos Int.one_pos).2 (configure_holds.snd hw.1))
        fun _ _ hr => absurd rfl hr
    exact settle_triple (((load_triple (hd hs hl) (by decide)).conseq (fun _ hw => hw)
      (fun _ hw => hw) fun _ hw => (matches_of_nonpos hl.le).2 hw).andThen hconf)
      ((matches_of_nonpos hl.le).1 hm)

theorem disableSinkStatus_matches (h : Counted s nobody) (hm : Matches d.dhType s w) :
    Matches d.dhType (disableSinkStatus o.sinkCalls d caller s w).2.1
      (disableSinkStatus o.sinkCalls d caller s w).2.2 := by
  have hle := h.refEnable_le_refLoad d.id
  simp only [disableSinkStatus]
  split_ifs with hs hc
  · exact hm
  · exact hm.of_pos (by omega) (show 0 < s.refLoad - 1 by omega)
  · have hl := h.refLoad_pos (DHStatus.eq_enabled hs)
    exact settle_triple ((unload_triple uninitComp_holds _).conseq (fun _ hw => hw)
      (fun _ hw => (matches_of_nonpos le_rfl).2 hw) fun _ hw => (matches_of_pos hl).2 hw)
      ((matches_of_pos hl).1 hm)

theorem forceDisableSinkStatus_matches (h : Counted s nobody)
    (hd : 0 < s.refLoad → s.refLoad - s.refEnable d.id ≤ 0 → o.Unloads)
    (hm : Matches d.dhType s w) :
    Matches d.dhType (forceDisableSinkStatus o.sinkCalls d s w).2.1
      (forceDisableSinkStatus o.sinkCalls d s w).2.2 := by
  simp only [forceDisableSinkStatus]
  split_ifs with hl
  · have h0 := h.refEnable_nonneg d.id
    have hl' : s.refLoad - s.refEnable d.id > 0 := hl
    exact hm.of_pos (by omega) hl
  · exact settle_drop_matches hl hd hm

/-! ### Other types -/

variable (d caller s w o)

theorem enableSinkStatus_local :
    w.SameElsewhere d.dhType (enableSinkStatus o.sinkCalls d caller s w).2.2 := by
  simp only [enableSinkStatus]
  split_ifs
  · exact .refl ..
  · exact .refl ..
  · exact ((local_startSinkAndWait o _).andThen (local_configure o d)).settle ..

theorem disableSinkStatus_local :
    w.SameElsewhere d.dhType (disableSinkStatus o.sinkCalls d caller s w).2.2 := by
  simp only [disableSinkStatus]
  split_ifs
  · exact .refl ..
  · exact .refl ..
  · exact (local_sinkUnload o _).settle ..

theorem forceDisableSinkStatus_local :
    w.SameElsewhere d.dhType (forceDisableSinkStatus o.sinkCalls d s w).2.2 := by
  simp only [forceDisableSinkStatus]
  split_ifs
  · exact .refl ..
  · exact (local_sinkUnload o _).settle ..

end sink

/-! ## Requests -/

section requests

variable {K L H : Type} [DecidableEq K]

/-- If nobody awaits recovery before a body that is not the reset, nobody does after it. -/
theorem awaitingAfter_nobody {op : StatusOp K} {m m' : Table DHType (DHStatus K L)}
    (hop : ∀ t, op ≠ .reset t) : awaitingAfter op m m' (fun _ => nobody) = fun _ => nobody := by
  funext t k c
  unfold awaitingAfter
  split_ifs
  · cases op with
    | reset t => exact absurd rfl (hop t)
    | _ => exact Bool.false_and _
  · rfl

/-- A body that is not the reset keeps the counts when nobody awaits recovery. -/
theorem StatusStep.counted_nobody {op : StatusOp K} {m m' : Table DHType (DHStatus K L)}
    (hs : StatusStep op m m') (hop : ∀ t, op ≠ .reset t) (h : ∀ t, Counted (m.get t) nobody)
    (t : DHType) : Counted (m'.get t) nobody := by
  have hp : op.Patient (m.get op.dhType) nobody := by
    cases op with
    | disable t k c => exact fun ha => absurd ha Bool.false_ne_true
    | _ => trivial
  have hc : Counted (m'.get t) (awaitingAfter op m m' (fun _ => nobody) t) := hs.counted h hp t
  rwa [awaitingAfter_nobody hop] at hc

/-- Every type matches after its own type does and nothing changed for the others. -/
theorem matches_set {m : Table DHType (DHStatus K L)} {w w' : Components H} {u : DHType}
    {s' : DHStatus K L} (hm : ∀ t, Matches t (m.get t) w) (hu : Matches u s' w')
    (he : w.SameElsewhere u w') (t : DHType) : Matches t ((m.set u s').get t) w' := by
  by_cases ht : t = u
  · rwa [ht, Table.get_set_self]
  · rw [Table.get_set_ne m ht, Matches, he.holds_iff ht, he.empty_iff ht]
    exact hm t

end requests

/-- An enable, a disable or a forced disable, not one of the recovery steps. -/
def SourceOp.IsRequest : SourceOp → Prop
  | .resetSourceEnableStatus .. | .recoverActiveEnableSource .. => False
  | _ => True

/-- No failure of a source request leaves a component behind : a first enable is tidy, and a
forced disable of the last hardware of a loaded type unloads it. -/
def SourceOp.Tidy {L H : Type} (q : Queries) (o : ComponentOutcome H)
    (m : SourceManager L (Components H)) : SourceOp → Prop
  | .enableSource networkId d caller =>
    checkEnableSourceParam q networkId d = DH_FWK_SUCCESS →
      ¬(m.status d.dhType).enableState { networkId := networkId, dhId := d.id } caller = .ENABLED →
        (m.status d.dhType).refLoad = 0 → o.TidyStart o.enable
  | .forceDisableSource networkId d =>
    o.disable = DH_FWK_SUCCESS → 0 < (m.status d.dhType).refLoad →
      (m.status d.dhType).refLoad -
        (m.status d.dhType).refEnable { networkId := networkId, dhId := d.id } ≤ 0 → o.Unloads
  | .enableMetaSource networkId d =>
    ¬(m.status d.dhType).enableState { networkId := networkId, dhId := d.id } autoCaller =
        .ENABLED →
      (m.status d.dhType).refLoad = 0 → o.TidyStart o.modemEnable
  | _ => True

instance SourceOp.decidableIsRequest (op : SourceOp) : Decidable op.IsRequest :=
  match op with
  | .enableSource .. | .disableSource .. | .forceDisableSource .. | .enableMetaSource ..
  | .disableMetaSource .. => inferInstanceAs (Decidable True)
  | .resetSourceEnableStatus .. | .recoverActiveEnableSource .. =>
    inferInstanceAs (Decidable False)

instance SourceOp.decidableTidy {L H : Type} (q : Queries) (o : ComponentOutcome H)
    (m : SourceManager L (Components H)) (op : SourceOp) : Decidable (op.Tidy q o m) :=
  match op with
  | .enableSource .. => inferInstanceAs (Decidable (_ → ¬_ → _ → _))
  | .forceDisableSource .. => inferInstanceAs (Decidable (_ → _ → _ → _))
  | .enableMetaSource .. => inferInstanceAs (Decidable (¬_ → _ → _))
  | .disableSource .. | .disableMetaSource .. | .resetSourceEnableStatus ..
  | .recoverActiveEnableSource .. => inferInstanceAs (Decidable True)

/-- An enable, a disable or a forced disable, not one of the recovery steps. -/
def SinkOp.IsRequest : SinkOp → Prop
  | .resetSinkEnableStatus .. | .recoverActiveEnableSink .. => False
  | _ => True

/-- No failure of a sink request leaves a component behind. -/
def SinkOp.Tidy {L H : Type} (q : Queries) (o : ComponentOutcome H)
    (m : SinkManager L (Components H)) : SinkOp → Prop
  | .enableSink d caller =>
    q.isDHTypeSupport d.dhType = true →
      checkAudioConfigGate q q.getLocalNetworkId d "sink" = DH_FWK_SUCCESS →
        ¬(m.status d.dhType).enableState d.id caller = .ENABLED →
          (m.status d.dhType).refLoad = 0 → o.TidyStart DH_FWK_SUCCESS
  | .forceDisableSink d =>
    q.isDHTypeSupport d.dhType = true → 0 < (m.status d.dhType).refLoad →
      (m.status d.dhType).refLoad - (m.status d.dhType).refEnable d.id ≤ 0 → o.Unloads
  | _ => True

instance SinkOp.decidableIsRequest (op : SinkOp) : Decidable op.IsRequest :=
  match op with
  | .enableSink .. | .disableSink .. | .forceDisableSink .. => inferInstanceAs (Decidable True)
  | .resetSinkEnableStatus .. | .recoverActiveEnableSink .. => inferInstanceAs (Decidable False)

instance SinkOp.decidableTidy {L H : Type} (q : Queries) (o : ComponentOutcome H)
    (m : SinkManager L (Components H)) (op : SinkOp) : Decidable (op.Tidy q o m) :=
  match op with
  | .enableSink .. => inferInstanceAs (Decidable (_ → _ → ¬_ → _ → _))
  | .forceDisableSink .. => inferInstanceAs (Decidable (_ → _ → _ → _))
  | .disableSink .. | .resetSinkEnableStatus .. | .recoverActiveEnableSink .. =>
    inferInstanceAs (Decidable True)

section sides

variable {L H : Type} {q : Queries} {o : ComponentOutcome H}

theorem SourceOp.IsRequest.counted {W : Type} {c : SourceCalls W} {m : SourceManager L W}
    {op : SourceOp} (hr : op.IsRequest) (h : ∀ t, Counted (m.status t) nobody) (t : DHType) :
    Counted ((op.run q c m).2.status t) nobody := by
  refine (op.statusStep q c m).counted_nobody (fun u => ?_) h t
  cases op with
  | resetSourceEnableStatus => exact hr.elim
  | _ => nofun

theorem SinkOp.IsRequest.counted {W : Type} {c : SinkCalls W} {m : SinkManager L W}
    {op : SinkOp} (hr : op.IsRequest) (h : ∀ t, Counted (m.status t) nobody) (t : DHType) :
    Counted ((op.run q c m).2.status t) nobody := by
  refine (op.statusStep q c m).counted_nobody (fun u => ?_) h t
  cases op with
  | resetSinkEnableStatus => exact hr.elim
  | _ => nofun

/-- After a tidy source request the handles follow the load counts. -/
theorem SourceOp.matches {m : SourceManager L (Components H)} {op : SourceOp}
    (hr : op.IsRequest) (h : ∀ t, Counted (m.status t) nobody) (hd : op.Tidy q o m)
    (hm : ∀ t, Matches t (m.status t) m.world) (t : DHType) :
    Matches t ((op.run q o.sourceCalls m).2.status t) (op.run q o.sourceCalls m).2.world := by
  cases op with
  | enableSource networkId d caller =>
    simp only [SourceOp.run, SourceManager.enableSourceInternal]
    split_ifs with hp
    · exact hm t
    · exact matches_set hm (enableSourceStatus_matches (h _) (hd (not_not.1 hp)) (hm _))
        (enableSourceStatus_local ..) t
  | disableSource networkId d caller =>
    simp only [SourceOp.run, SourceManager.disableSourceInternal]
    split_ifs
    · exact matches_set hm (disableSourceStatus_matches (h _) (hm _))
        (disableSourceStatus_local ..) t
    · exact hm t
  | forceDisableSource networkId d =>
    simp only [SourceOp.run, SourceManager.forceDisableSourceInternal]
    split
    · exact matches_set hm (hm _) (.refl ..) t
    · exact matches_set hm (forceDisableSourceStatus_matches (h _) hd (hm _))
        (forceDisableSourceStatus_local ..) t
  | enableMetaSource networkId d =>
    exact matches_set hm (enableMetaSourceStatus_matches (h _) hd (hm _))
      (enableMetaSourceStatus_local ..) t
  | disableMetaSource networkId d =>
    exact matches_set hm (disableMetaSourceStatus_matches (h _) (hm _))
      (disableMetaSourceStatus_local ..) t
  | resetSourceEnableStatus => exact hr.elim
  | recoverActiveEnableSource => exact hr.elim

/-- After a tidy sink request the handles follow the load counts. -/
theorem SinkOp.matches {m : SinkManager L (Components H)} {op : SinkOp}
    (hr : op.IsRequest) (h : ∀ t, Counted (m.status t) nobody) (hd : op.Tidy q o m)
    (hm : ∀ t, Matches t (m.status t) m.world) (t : DHType) :
    Matches t ((op.run q o.sinkCalls m).2.status t) (op.run q o.sinkCalls m).2.world := by
  cases op with
  | enableSink d caller =>
    simp only [SinkOp.run, SinkManager.enableSinkInternal]
    split_ifs with hq hg
    · exact hm t
    · exact matches_set hm (enableSinkStatus_matches (h _) (hd hq (not_not.1 hg)) (hm _))
        (enableSinkStatus_local ..) t
    · exact hm t
  | disableSink d caller =>
    simp only [SinkOp.run, SinkManager.disableSinkInternal]
    split_ifs
    · exact matches_set hm (disableSinkStatus_matches (h _) (hm _)) (disableSinkStatus_local ..) t
    · exact hm t
  | forceDisableSink d =>
    simp only [SinkOp.run, SinkManager.forceDisableSinkInternal]
    split_ifs with hq
    · split
      · exact matches_set hm (hm _) (.refl ..) t
      · exact matches_set hm (forceDisableSinkStatus_matches (h _) (hd hq) (hm _))
          (forceDisableSinkStatus_local ..) t
    · exact hm t
  | resetSinkEnableStatus => exact hr.elim
  | recoverActiveEnableSink => exact hr.elim

end sides

/-! ## Both sides -/

/-- Both sides with the handles of their components. -/
abbrev HandleManager (L L' H : Type) :=
  ComponentManager L L' (Components H) (Components H)

/-- An enable, a disable or a forced disable of either side. -/
def ComponentOp.IsRequest : ComponentOp → Prop
  | .source op => op.IsRequest
  | .sink op => op.IsRequest

/-- No failure of a request leaves a component behind. -/
def ComponentOp.Tidy {L L' H : Type} (q : Queries) (o : ComponentOutcome H)
    (m : HandleManager L L' H) : ComponentOp → Prop
  | .source op => op.Tidy q o m.source
  | .sink op => op.Tidy q o m.sink

instance ComponentOp.decidableIsRequest (op : ComponentOp) : Decidable op.IsRequest :=
  match op with
  | .source op => op.decidableIsRequest
  | .sink op => op.decidableIsRequest

instance ComponentOp.decidableTidy {L L' H : Type} (q : Queries) (o : ComponentOutcome H)
    (m : HandleManager L L' H) (op : ComponentOp) : Decidable (op.Tidy q o m) :=
  match op with
  | .source op => op.decidableTidy q o m.source
  | .sink op => op.decidableTidy q o m.sink

/-- One step of a run : an operation, what it is told, and the answers it gets. -/
structure HandleStep (H : Type) where
  op : ComponentOp
  queries : Queries
  outcome : ComponentOutcome H

namespace HandleManager

variable {L L' H : Type}

/-- Nothing is recorded and nothing is loaded. -/
def init : HandleManager L L' H where
  source := { world := {} }
  sink := { world := {} }

/-- Run one operation. -/
def step (m : HandleManager L L' H) (l : HandleStep H) : HandleManager L L' H :=
  (l.op.run l.queries l.outcome.sourceCalls l.outcome.sinkCalls m).2

/-- The step is a request of which no failure leaves a component behind. -/
def TidyRequest (m : HandleManager L L' H) (l : HandleStep H) : Prop :=
  l.op.IsRequest ∧ l.op.Tidy l.queries l.outcome m

instance (m : HandleManager L L' H) (l : HandleStep H) : Decidable (m.TidyRequest l) :=
  inferInstanceAs (Decidable (_ ∧ _))

/-- On either side the counts add up and the handles follow the load counts. -/
structure Matched (m : HandleManager L L' H) : Prop where
  countedSource : ∀ t, Counted (m.source.status t) nobody
  countedSink : ∀ t, Counted (m.sink.status t) nobody
  source : ∀ t, Matches t (m.source.status t) m.source.world
  sink : ∀ t, Matches t (m.sink.status t) m.sink.world

theorem matched_init : (init : HandleManager L L' H).Matched where
  countedSource _ := counted_default
  countedSink _ := counted_default
  source _ := ⟨rfl, rfl, rfl⟩
  sink _ := ⟨rfl, rfl, rfl⟩

theorem Matched.step {m : HandleManager L L' H} {l : HandleStep H} (h : m.Matched)
    (hl : m.TidyRequest l) : (m.step l).Matched := by
  obtain ⟨op, q, o⟩ := l
  obtain ⟨hr, hd⟩ := hl
  cases op with
  | source op =>
    have hr : op.IsRequest := hr
    exact { h with
      countedSource := hr.counted h.countedSource
      source := op.matches hr h.countedSource hd h.source }
  | sink op =>
    have hr : op.IsRequest := hr
    exact { h with
      countedSink := hr.counted h.countedSink
      sink := op.matches hr h.countedSink hd h.sink }

end HandleManager

/-- The handles follow the load count : with nothing loaded there is no handle and no id,
with something loaded there is a handle. -/
def HandlesFollow {K L H : Type} (t : DHType) (s : DHStatus K L) (w : Components H) : Prop :=
  (s.refLoad = 0 → w.comp.lookup t = none ∧ w.compSaId.lookup t = none) ∧
    (0 < s.refLoad → w.comp.lookup t ≠ none)

theorem Matches.handlesFollow {K L H : Type} [DecidableEq K] {t : DHType} {s : DHStatus K L}
    {w : Components H} (h : Matches t s w) : HandlesFollow t s w :=
  ⟨fun hl => ((matches_of_nonpos hl.le).1 h).2, fun hl => ((matches_of_pos hl).1 h).2⟩

/-- In every run of requests in which no failure leaves a component behind the handles of
every type follow its load count after every operation, on both sides. -/
theorem handles_follow_loads {L L' H : Type} (steps : List (HandleStep H))
    (h : Runs.Along HandleManager.step HandleManager.TidyRequest
      (HandleManager.init : HandleManager L L' H) steps) (t : DHType) :
    let m : HandleManager L L' H := steps.foldl HandleManager.step HandleManager.init
    HandlesFollow t (m.source.status t) m.source.world ∧
      HandlesFollow t (m.sink.status t) m.sink.world := by
  have hstep : ∀ (m : HandleManager L L' H) (l : HandleStep H), m.Matched →
      m.TidyRequest l → (m.step l).Matched := fun _ _ hm hl => hm.step hl
  have hm := h.invariant hstep HandleManager.matched_init
  exact ⟨(hm.source t).handlesFollow, (hm.sink t).handlesFollow⟩

/-- A camera is enabled and disabled on the source, and disabled by force on the sink. -/
theorem handles_follow_loads_camera :
    let d : DHDescriptor := { id := "c", dhType := .CAMERA }
    let one : DHStatusCtrlKey := { uid := 1, pid := 1 }
    let smoothly (op : ComponentOp) : HandleStep Unit :=
      { op := op, queries := .permissive,
        outcome := { initPtr := some (), saId := 7, uninitPtr := some () } }
    let late : HandleStep Unit :=
      { op := .source (.enableSource "n" d one), queries := .permissive,
        outcome := { initPtr := some (), saId := 7, startReady := false, uninitPtr := some () } }
    let steps := [late, smoothly (.source (.enableSource "n" d one)),
      smoothly (.source (.disableSource "n" d one)), smoothly (.sink (.enableSink d one)),
      smoothly (.sink (.forceDisableSink d)), smoothly (.sink (.enableSink d one))]
    let m : HandleManager Unit Unit Unit := steps.foldl HandleManager.step HandleManager.init
    HandlesFollow .CAMERA (m.source.status .CAMERA) m.source.world ∧
      HandlesFollow .CAMERA (m.sink.status .CAMERA) m.sink.world :=
  handles_follow_loads _ (by decide) .CAMERA

/-- An enable whose wait fails and whose component is not released leaves the component
behind with no load count; so does a forced disable of the only hardware of its type whose
component is not stopped in time. -/
theorem handles_left_behind :
    let d : DHDescriptor := { id := "c", dhType := .CAMERA }
    let one : DHStatusCtrlKey := { uid := 1, pid := 1 }
    let enable : HandleStep Unit :=
      { op := .source (.enableSource "n" d one), queries := .permissive,
        outcome := { initPtr := some (), uninitPtr := some () } }
    let unreleased : HandleStep Unit :=
      { enable with outcome := { initPtr := some (), startReady := false, uninitPtr := some (),
                                 release := ERR_DH_FWK_LOADER_HANDLER_IS_NULL } }
    let force : HandleStep Unit :=
      { op := .source (.forceDisableSource "n" d), queries := .permissive,
        outcome := { initPtr := none, stopReady := false, uninitPtr := some () } }
    let left (steps : List (HandleStep Unit)) :=
      let m : HandleManager Unit Unit Unit := steps.foldl HandleManager.step HandleManager.init
      ((m.source.status .CAMERA).refLoad, m.source.world.comp.lookup .CAMERA)
    left [unreleased] = (0, some (some ())) ∧ left [enable, force] = (0, some (some ())) := by
  decide

end DHFwk
