import DHFwk.ComponentManager
import DHFwk.SinkRefs
import DHFwk.SourceRefs

/-!
# What a failed body leaves behind

A body that returns an error leaves the record as it was, entries it creates on the way
apart, with one exception : a forced disable takes the entry of its hardware out before it
unloads the component, and does not put it back when the unload fails. So a body keeps the
record on failure exactly if it is not a forced disable that loses an entry in this way
(`failure_keeps_record_iff`).
-/

set_option linter.unusedSectionVars false

namespace DHFwk

namespace DHStatus

variable {K L : Type} [DecidableEq K]

/-- The counts and the states are the same; a missing entry counts as zero and disabled. -/
structure SameRecord (s s' : DHStatus K L) : Prop where
  refLoad : s'.refLoad = s.refLoad
  refEnable : ∀ k, s'.refEnable k = s.refEnable k
  enableState : ∀ k c, s'.enableState k c = s.enableState k c

variable {s : DHStatus K L} {k : K} {c : DHStatusCtrlKey}

theorem SameRecord.refl (s : DHStatus K L) : SameRecord s s :=
  ⟨rfl, fun _ => rfl, fun _ _ => rfl⟩

theorem sameRecord_touch (s : DHStatus K L) (k : K) (c : DHStatusCtrlKey) :
    SameRecord s (s.touch k c) where
  refLoad := rfl
  refEnable k' := refEnable_touch s k k' c
  enableState k' c' := by
    rw [touch, enableState_write]
    split_ifs with h
    · rw [h.1, h.2]
    · rfl

/-- Forgetting an entry shows exactly if the entry says anything. -/
theorem sameRecord_drop_iff (s : DHStatus K L) (k : K) :
    SameRecord s (s.drop k) ↔ ¬(s.refEnable k ≠ 0 ∨ ∃ c, s.enableState k c = .ENABLED) := by
  constructor
  · rintro h (hk | ⟨c, hc⟩)
    · have := h.refEnable k
      rw [refEnable_drop, if_pos rfl] at this
      exact hk this.symm
    · have := h.enableState k c
      rw [enableState_drop, if_pos rfl, hc] at this
      cases this
  · intro h
    obtain ⟨hk, hc⟩ := not_or.1 h
    have hk := not_not.1 hk
    refine ⟨by rw [refLoad_drop, hk, sub_zero], fun k' => ?_, fun k' c => ?_⟩
    · rw [refEnable_drop]
      split_ifs with he
      · rw [he, hk]
      · rfl
    · rw [enableState_drop]
      split_ifs with he
      · rw [he, eq_disabled fun hs => hc ⟨c, hs⟩]
      · rfl

/-- Writing back the status of a type keeps the record of all types if it keeps its own. -/
theorem sameRecord_set_iff {m : Table DHType (DHStatus K L)} {u : DHType} {s' : DHStatus K L} :
    (∀ t, (m.get t).SameRecord ((m.set u s').get t)) ↔ (m.get u).SameRecord s' := by
  constructor
  · intro h
    have := h u
    rwa [Table.get_set_self] at this
  · intro h t
    rw [Table.get_set]
    split_ifs with ht
    · rw [ht]
      exact h
    · exact .refl _

/-- A forced disable whose unload returns `ret` loses what the entry of `k` says : the entry
exists and says something, its hardware is the last that is loaded, and the unload fails. -/
def LosesEntry (s : DHStatus K L) (k : K) (ret : Int) : Prop :=
  s.enableInfos.lookup k ≠ none ∧ s.refLoad - s.refEnable k ≤ 0 ∧ ret ≠ DH_FWK_SUCCESS ∧
    (s.refEnable k ≠ 0 ∨ ∃ c, s.enableState k c = .ENABLED)

end DHStatus

section bodies

variable {K L W : Type} [DecidableEq K] {s : DHStatus K L} {k : K} {c : DHStatusCtrlKey}

/-- A body that ends in its calls keeps on failure what it had before them. -/
theorem settle_keeps_record {calls : Call W} {done : DHStatus K L} {w : W}
    (h : (settle calls (s.touch k c) done w).1 ≠ DH_FWK_SUCCESS) :
    s.SameRecord (settle calls (s.touch k c) done w).2.1 := by
  have hc : (calls w).1 ≠ DH_FWK_SUCCESS := h
  rw [settle_status_of_failure hc]
  exact DHStatus.sameRecord_touch s k c

/-- Unloading after the entry of `k` is gone. -/
theorem settle_drop_keeps_record_iff {calls : Call W} {w : W}
    (hk : s.enableInfos.lookup k ≠ none) (hl : ¬(s.drop k).refLoad > 0) :
    ((settle calls (s.drop k) (s.drop k) w).1 ≠ DH_FWK_SUCCESS →
        s.SameRecord (settle calls (s.drop k) (s.drop k) w).2.1) ↔
      ¬s.LosesEntry k (calls w).1 := by
  have hs : (settle calls (s.drop k) (s.drop k) w).2.1 = s.drop k := ite_self _
  have hl : s.refLoad - s.refEnable k ≤ 0 := by
    rw [DHStatus.refLoad_drop] at hl
    omega
  rw [hs, DHStatus.sameRecord_drop_iff, settle_fst]
  constructor
  · exact fun h hlose => h hlose.2.2.1 hlose.2.2.2
  · exact fun h hr hsays => h ⟨hk, hl, hr, hsays⟩

end bodies

/-! ## The source side -/

section source

variable {L W : Type} (c : SourceCalls W) (networkId uuid : String) (d : DHDescriptor)
  (caller : DHStatusCtrlKey) (s : DHSourceStatus L) (w : W)

theorem enableSourceStatus_keeps_record
    (h : (enableSourceStatus c networkId uuid d caller s w).1 ≠ DH_FWK_SUCCESS) :
    s.SameRecord (enableSourceStatus c networkId uuid d caller s w).2.1 := by
  simp only [enableSourceStatus] at h ⊢
  split_ifs at h ⊢
  all_goals exact settle_keeps_record h

theorem disableSourceStatus_keeps_record
    (h : (disableSourceStatus c networkId uuid d caller s w).1 ≠ DH_FWK_SUCCESS) :
    s.SameRecord (disableSourceStatus c networkId uuid d caller s w).2.1 := by
  simp only [disableSourceStatus] at h ⊢
  split_ifs at h ⊢
  all_goals exact settle_keeps_record h

theorem enableMetaSourceStatus_keeps_record
    (h : (enableMetaSourceStatus c networkId d s w).1 ≠ DH_FWK_SUCCESS) :
    s.SameRecord (enableMetaSourceStatus c networkId d s w).2.1 := by
  simp only [enableMetaSourceStatus] at h ⊢
  split_ifs at h ⊢
  · exact DHStatus.sameRecord_touch ..
  all_goals exact settle_keeps_record h

theorem disableMetaSourceStatus_keeps_record
    (h : (disableMetaSourceStatus c networkId d s w).1 ≠ DH_FWK_SUCCESS) :
    s.SameRecord (disableMetaSourceStatus c networkId d s w).2.1 := by
  simp only [disableMetaSourceStatus] at h ⊢
  split_ifs at h ⊢
  · exact DHStatus.sameRecord_touch ..
  all_goals exact settle_keeps_record h

theorem forceDisableSourceStatus_keeps_record_iff
    (hk : s.enableInfos.lookup { networkId := networkId, dhId := d.id } ≠ none) :
    ((forceDisableSourceStatus c networkId uuid d s w).1 ≠ DH_FWK_SUCCESS →
        s.SameRecord (forceDisableSourceStatus c networkId uuid d s w).2.1) ↔
      ¬((c.disable networkId uuid d.id d.dhType w).1 = DH_FWK_SUCCESS ∧
        s.LosesEntry { networkId := networkId, dhId := d.id }
          (c.unload d.dhType (c.disable networkId uuid d.id d.dhType w).2).1) := by
  simp only [forceDisableSourceStatus]
  split_ifs with hr hl
  · exact iff_of_true (fun _ => .refl s) fun h => hr h.1
  · refine iff_of_true (fun h => absurd rfl h) fun h => ?_
    have := h.2.2.1
    rw [DHStatus.refLoad_drop] at hl
    omega
  · have hr := not_not.1 hr
    rw [settle_drop_keeps_record_iff hk hl, and_iff_right hr]

end source

/-- The forced disable that loses its entry. -/
def SourceOp.LosesEntry {L W : Type} (q : Queries) (c : SourceCalls W) (m : SourceManager L W) :
    SourceOp → Prop
  | .forceDisableSource networkId d =>
    let disabled := c.disable networkId (q.getUUIDByNetworkId networkId) d.id d.dhType m.world
    disabled.1 = DH_FWK_SUCCESS ∧ (m.status d.dhType).LosesEntry
      { networkId := networkId, dhId := d.id } (c.unload d.dhType disabled.2).1
  | _ => False

/-- A source body keeps the record on failure exactly if it loses no entry. -/
theorem SourceOp.keeps_record_iff {L W : Type} (q : Queries) (c : SourceCalls W)
    (m : SourceManager L W) (op : SourceOp) :
    ((op.run q c m).1 ≠ DH_FWK_SUCCESS →
        ∀ t, (m.status t).SameRecord ((op.run q c m).2.status t)) ↔ ¬op.LosesEntry q c m := by
  cases op with
  | enableSource networkId d caller =>
    refine iff_of_true ?_ id
    simp only [SourceOp.run, SourceManager.enableSourceInternal]
    split_ifs
    · exact fun _ _ => .refl _
    · exact fun h => DHStatus.sameRecord_set_iff.2
        (enableSourceStatus_keeps_record c _ _ d caller _ _ h)
  | disableSource networkId d caller =>
    refine iff_of_true ?_ id
    simp only [SourceOp.run, SourceManager.disableSourceInternal]
    split_ifs
    · exact fun h => DHStatus.sameRecord_set_iff.2
        (disableSourceStatus_keeps_record c _ _ d caller _ _ h)
    · exact fun _ _ => .refl _
  | forceDisableSource networkId d =>
    simp only [SourceOp.run, SourceManager.forceDisableSourceInternal, SourceOp.LosesEntry]
    split
    · rename_i hk
      refine iff_of_true (fun _ => DHStatus.sameRecord_set_iff.2 (.refl _)) fun h => ?_
      exact h.2.1 hk
    · rename_i hk
      refine (imp_congr_right fun _ => DHStatus.sameRecord_set_iff).trans ?_
      refine forceDisableSourceStatus_keeps_record_iff c _ _ d _ _ ?_
      rw [hk]
      exact Option.some_ne_none _
  | enableMetaSource networkId d =>
    exact iff_of_true (fun h => DHStatus.sameRecord_set_iff.2
      (enableMetaSourceStatus_keeps_record c _ d _ _ h)) id
  | disableMetaSource networkId d =>
    exact iff_of_true (fun h => DHStatus.sameRecord_set_iff.2
      (disableMetaSourceStatus_keeps_record c _ d _ _ h)) id
  | resetSourceEnableStatus => exact iff_of_true (fun h => absurd rfl h) id
  | recoverActiveEnableSource => exact iff_of_true (fun h => absurd rfl h) id

/-! ## The sink side -/

section sink

variable {L W : Type} (c : SinkCalls W) (d : DHDescriptor) (caller : DHStatusCtrlKey)
  (s : DHSinkStatus L) (w : W)

theorem enableSinkStatus_keeps_record
    (h : (enableSinkStatus c d caller s w).1 ≠ DH_FWK_SUCCESS) :
    s.SameRecord (enableSinkStatus c d caller s w).2.1 := by
  simp only [enableSinkStatus] at h ⊢
  split_ifs at h ⊢
  all_goals exact settle_keeps_record h

theorem disableSinkStatus_keeps_record
    (h : (disableSinkStatus c d caller s w).1 ≠ DH_FWK_SUCCESS) :
    s.SameRecord (disableSinkStatus c d caller s w).2.1 := by
  simp only [disableSinkStatus] at h ⊢
  split_ifs at h ⊢
  all_goals exact settle_keeps_record h

theorem forceDisableSinkStatus_keeps_record_iff (hk : s.enableInfos.lookup d.id ≠ none) :
    ((forceDisableSinkStatus c d s w).1 ≠ DH_FWK_SUCCESS →
        s.SameRecord (forceDisableSinkStatus c d s w).2.1) ↔
      ¬s.LosesEntry d.id (c.unload d.dhType w).1 := by
  simp only [forceDisableSinkStatus]
  split_ifs with hl
  · refine iff_of_true (fun h => absurd rfl h) fun h => ?_
    have := h.2.1
    rw [DHStatus.refLoad_drop] at hl
    omega
  · exact settle_drop_keeps_record_iff hk hl

end sink

/-- The forced disable that loses its entry. -/
def SinkOp.LosesEntry {L W : Type} (q : Queries) (c : SinkCalls W) (m : SinkManager L W) :
    SinkOp → Prop
  | .forceDisableSink d => q.isDHTypeSupport d.dhType = true ∧
      (m.status d.dhType).LosesEntry d.id (c.unload d.dhType m.world).1
  | _ => False

/-- A sink body keeps the record on failure exactly if it loses no entry. -/
theorem SinkOp.keeps_record_iff {L W : Type} (q : Queries) (c : SinkCalls W)
    (m : SinkManager L W) (op : SinkOp) :
    ((op.run q c m).1 ≠ DH_FWK_SUCCESS →
        ∀ t, (m.status t).SameRecord ((op.run q c m).2.status t)) ↔ ¬op.LosesEntry q c m := by
  cases op with
  | enableSink d caller =>
    refine iff_of_true ?_ id
    simp only [SinkOp.run, SinkManager.enableSinkInternal]
    split_ifs
    · exact fun _ _ => .refl _
    · exact fun h => DHStatus.sameRecord_set_iff.2
        (enableSinkStatus_keeps_record c d caller _ _ h)
    · exact fun _ _ => .refl _
  | disableSink d caller =>
    refine iff_of_true ?_ id
    simp only [SinkOp.run, SinkManager.disableSinkInternal]
    split_ifs
    · exact fun h => DHStatus.sameRecord_set_iff.2
        (disableSinkStatus_keeps_record c d caller _ _ h)
    · exact fun _ _ => .refl _
  | forceDisableSink d =>
    simp only [SinkOp.run, SinkManager.forceDisableSinkInternal, SinkOp.LosesEntry]
    split_ifs with hq
    · split
      · rename_i hk
        refine iff_of_true (fun _ => DHStatus.sameRecord_set_iff.2 (.refl _)) fun h => ?_
        exact h.2.1 hk
      · rename_i hk
        rw [and_iff_right hq]
        refine (imp_congr_right fun _ => DHStatus.sameRecord_set_iff).trans ?_
        refine forceDisableSinkStatus_keeps_record_iff c d _ _ ?_
        rw [hk]
        exact Option.some_ne_none _
    · exact iff_of_true (fun _ _ => .refl _) fun h => hq h.1
  | resetSinkEnableStatus => exact iff_of_true (fun h => absurd rfl h) id
  | recoverActiveEnableSink => exact iff_of_true (fun h => absurd rfl h) id

/-- The records of both sides are the same. -/
def ComponentManager.SameRecord {L L' W W' : Type} (m m' : ComponentManager L L' W W') : Prop :=
  (∀ t, (m.source.status t).SameRecord (m'.source.status t)) ∧
    ∀ t, (m.sink.status t).SameRecord (m'.sink.status t)

/-- The forced disable that loses its entry, on either side. -/
def ComponentOp.LosesEntry {L L' W W' : Type} (q : Queries) (c : SourceCalls W)
    (c' : SinkCalls W') (m : ComponentManager L L' W W') : ComponentOp → Prop
  | .source op => op.LosesEntry q c m.source
  | .sink op => op.LosesEntry q c' m.sink

/-- On failure the record stays as it was exactly if the body is not a forced disable that
loses its entry : the entry exists and says something, no other hardware of the type is
loaded, and after the hardware was disabled the unload fails. -/
theorem failure_keeps_record_iff {L L' W W' : Type} (q : Queries) (c : SourceCalls W)
    (c' : SinkCalls W') (m : ComponentManager L L' W W') (op : ComponentOp) :
    ((op.run q c c' m).1 ≠ DH_FWK_SUCCESS → m.SameRecord (op.run q c c' m).2) ↔
      ¬op.LosesEntry q c c' m := by
  cases op with
  | source op =>
    rw [ComponentOp.LosesEntry, ← op.keeps_record_iff q c m.source]
    exact imp_congr_right fun _ => and_iff_left fun _ => .refl _
  | sink op =>
    rw [ComponentOp.LosesEntry, ← op.keeps_record_iff q c' m.sink]
    exact imp_congr_right fun _ => and_iff_right fun _ => .refl _

/-- The only hardware of its type is enabled and then disabled by force, with its component
not released in time : the call fails, and the caller and the counts are gone, so that the
same call again finds nothing to disable. -/
theorem failure_loses_record :
    let d : DHDescriptor := { id := "c", dhType := .CAMERA }
    let one : DHStatusCtrlKey := { uid := 1, pid := 1 }
    let m := ((SinkOp.enableSink d one).run .permissive (SinkOutcome.calls {})
      ({ world := [] } : SinkManager Unit (List SinkOffCall))).2
    let late : SinkCalls (List SinkOffCall) := SinkOutcome.calls { stopReady := false }
    let r := (SinkOp.forceDisableSink d).run .permissive late m
    let again := (SinkOp.forceDisableSink d).run .permissive late r.2
    r.1 = ERR_DH_FWK_COMPONENT_DISABLE_TIMEOUT ∧
      ((m.status .CAMERA).enableState "c" one, (r.2.status .CAMERA).enableState "c" one) =
        (.ENABLED, .DISABLED) ∧
      ((m.status .CAMERA).refLoad, (r.2.status .CAMERA).refLoad) = (1, 0) ∧
      again.1 = ERR_DH_FWK_COMPONENT_REPEAT_CALL := by
  decide

end DHFwk
