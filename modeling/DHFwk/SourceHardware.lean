import DHFwk.SourceRefs

/-!
# The hardware behind the source record

`Hardware` is what the inner calls have made of the hardware : a piece is on after an
enable that succeeded, off after a disable that succeeded, and all hardware of a type is
off after `ReleaseSource` and `UninitCompSource`. It also lists the calls of the running
body that switch off.

The record and the hardware agree in one direction : hardware with a positive enable
count is on (`Powered`). A body keeps this if a disable by the last user, once it has
switched its hardware off, also unloads the component (`Completes`) : where the unload
fails the body returns early and the caller stays enabled on hardware that is off.
-/

set_option linter.unusedSectionVars false

namespace DHFwk

/-! ## Hardware and outcomes -/

/-- A call that switches off : `Disable` of the component or of the modem extension,
`ReleaseSource`, `UninitCompSource`. -/
inductive OffCall
  | disable (dhType : DHType) (k : DHStatusSourceEnableInfoKey)
  | releaseSource (dhType : DHType)
  | uninitCompSource (dhType : DHType)
  deriving DecidableEq, Repr

/-- Which hardware is on, and the switching-off calls made so far. -/
structure Hardware where
  on : DHType → DHStatusSourceEnableInfoKey → Bool
  calls : List OffCall := []

namespace Hardware

variable (w : Hardware) (t : DHType) (k : DHStatusSourceEnableInfoKey)

/-- Switch one piece of hardware. -/
def switch (b : Bool) : Hardware :=
  { w with on := fun t' k' => if t' = t ∧ k' = k then b else w.on t' k' }

/-- Switch all hardware of a type off. -/
def typeOff : Hardware :=
  { w with on := fun t' k' => if t' = t then false else w.on t' k' }

/-- Note a call. -/
def note (e : OffCall) : Hardware :=
  { w with calls := e :: w.calls }

end Hardware

/-- How the inner calls of a body turn out. -/
structure SourceOutcome where
  init : Int := DH_FWK_SUCCESS
  uninit : Int := DH_FWK_SUCCESS
  start : Int := DH_FWK_SUCCESS
  stop : Int := DH_FWK_SUCCESS
  startReady : Bool := true
  stopReady : Bool := true
  enable : Int := DH_FWK_SUCCESS
  disable : Int := DH_FWK_SUCCESS
  modemEnable : Int := DH_FWK_SUCCESS
  modemDisable : Int := DH_FWK_SUCCESS

namespace SourceOutcome

/-- A call that switches a piece of hardware on if it succeeds. -/
def switchOn (ret : Int) (t : DHType) (k : DHStatusSourceEnableInfoKey) : Call Hardware :=
  fun w => (ret, if ret = DH_FWK_SUCCESS then w.switch t k true else w)

/-- A call that switches a piece of hardware off if it succeeds. -/
def switchOff (ret : Int) (t : DHType) (k : DHStatusSourceEnableInfoKey) : Call Hardware :=
  fun w => (ret, (if ret = DH_FWK_SUCCESS then w.switch t k false else w).note (.disable t k))

/-- `StopSource` : it starts `ReleaseSource` if it succeeds. -/
def stopCall (ret : Int) (t : DHType) : Call Hardware :=
  fun w => (ret, if ret = DH_FWK_SUCCESS then (w.typeOff t).note (.releaseSource t) else w)

/-- `UninitCompSource`. -/
def uninitCall (ret : Int) (t : DHType) : Call Hardware :=
  fun w => (ret, (w.typeOff t).note (.uninitCompSource t))

/-- The inner calls with these outcomes, and what they do to the hardware. -/
def calls (o : SourceOutcome) : SourceCalls Hardware where
  initCompSource _ := fun w => (o.init, w)
  uninitCompSource t _ := uninitCall o.uninit t
  startSource _ := fun w => (o.start, w)
  stopSource t := stopCall o.stop t
  waitForResult
    | .START_SOURCE, _ | .START_SINK, _ => fun w => (o.startReady, w)
    | .STOP_SOURCE, _ | .STOP_SINK, _ => fun w => (o.stopReady, w)
  enable networkId _ dhId t _ _ := switchOn o.enable t { networkId := networkId, dhId := dhId }
  disable networkId _ dhId t := switchOff o.disable t { networkId := networkId, dhId := dhId }
  modemEnable networkId dhId t :=
    switchOn o.modemEnable t { networkId := networkId, dhId := dhId }
  modemDisable networkId dhId t :=
    switchOff o.modemDisable t { networkId := networkId, dhId := dhId }

/-- `StopSource`, the wait for it and `UninitCompSource` succeed. -/
def Unloads (o : SourceOutcome) : Prop :=
  o.stop = DH_FWK_SUCCESS ∧ o.stopReady = true ∧ o.uninit = DH_FWK_SUCCESS

instance (o : SourceOutcome) : Decidable o.Unloads :=
  inferInstanceAs (Decidable (_ ∧ _ ∧ _))

/-- The unload succeeds exactly with its three calls, from any world. -/
theorem unload_fst_eq_zero (o : SourceOutcome) (t : DHType) (w : Hardware) :
    (o.calls.unload t w).1 = DH_FWK_SUCCESS ↔ o.Unloads := by
  rw [SourceCalls.unload, Call.andThen_fst_eq_zero, Call.andThen_fst_eq_zero]
  have hw : (if o.stopReady = true then 0 else ERR_DH_FWK_COMPONENT_DISABLE_TIMEOUT) = 0 ↔
      o.stopReady = true := by
    cases o.stopReady <;> simp
  exact and_congr Iff.rfl (and_congr hw Iff.rfl)

/-! ## What the calls of a type leave alone -/

/-- Hardware of other types is as in `w₀`, and the calls made since all satisfy `A`. -/
structure Stays (t : DHType) (A : OffCall → Prop) (w₀ w : Hardware) : Prop where
  other : ∀ t', t' ≠ t → w.on t' = w₀.on t'
  made : ∀ e ∈ w.calls, A e ∨ e ∈ w₀.calls

namespace Stays

variable {t : DHType} {A : OffCall → Prop} {w₀ w : Hardware} {k : DHStatusSourceEnableInfoKey}

theorem refl (t : DHType) (A : OffCall → Prop) (w : Hardware) : Stays t A w w :=
  ⟨fun _ _ => rfl, fun _ he => Or.inr he⟩

theorem mono {B : OffCall → Prop} (h : Stays t A w₀ w) (hAB : ∀ e, A e → B e) :
    Stays t B w₀ w :=
  ⟨h.other, fun e he => (h.made e he).imp_left (hAB e)⟩

theorem switch (h : Stays t A w₀ w) (k : DHStatusSourceEnableInfoKey) (b : Bool) :
    Stays t A w₀ (w.switch t k b) where
  other t' ht' := by
    rw [← h.other t' ht']
    funext k'
    exact if_neg fun hk => ht' hk.1
  made := h.made

theorem typeOff (h : Stays t A w₀ w) : Stays t A w₀ (w.typeOff t) where
  other t' ht' := by
    rw [← h.other t' ht']
    funext k'
    exact if_neg ht'
  made := h.made

theorem note (h : Stays t A w₀ w) {e : OffCall} (he : A e) : Stays t A w₀ (w.note e) where
  other := h.other
  made e' he' := by
    rcases List.mem_cons.1 he' with rfl | he'
    · exact Or.inl he
    · exact h.made e' he'

end Stays

variable {t : DHType} {A : OffCall → Prop} {w₀ : Hardware} {k : DHStatusSourceEnableInfoKey}

/-- A call that keeps `Stays` whatever its code. -/
abbrev KeepsStays (t : DHType) (A : OffCall → Prop) (w₀ : Hardware) (m : Call Hardware) : Prop :=
  Call.Triple (Stays t A w₀) m (Stays t A w₀) (Stays t A w₀)

theorem keepsStays_const (ret : Int) : KeepsStays t A w₀ fun w => (ret, w) :=
  .of_forall fun _ h => h

theorem keepsStays_switchOn (ret : Int) : KeepsStays t A w₀ (switchOn ret t k) :=
  .of_forall fun w h => by
    simp only [switchOn]
    split_ifs
    · exact h.switch k true
    · exact h

theorem keepsStays_switchOff (ret : Int) (hA : A (.disable t k)) :
    KeepsStays t A w₀ (switchOff ret t k) :=
  .of_forall fun w h => by
    simp only [switchOff]
    split_ifs
    · exact (h.switch k false).note hA
    · exact h.note hA

theorem keepsStays_stopCall (ret : Int) (hA : A (.releaseSource t)) :
    KeepsStays t A w₀ (stopCall ret t) :=
  .of_forall fun w h => by
    simp only [stopCall]
    split_ifs
    · exact h.typeOff.note hA
    · exact h

theorem keepsStays_uninitCall (ret : Int) (hA : A (.uninitCompSource t)) :
    KeepsStays t A w₀ (uninitCall ret t) :=
  .of_forall fun _ h => h.typeOff.note hA

theorem keepsStays_ofBool (b : Bool) (err : Int) :
    KeepsStays t A w₀ (Call.ofBool (fun w => (b, w)) err) :=
  .of_forall fun _ h => h

variable (o : SourceOutcome)

theorem keepsStays_load (hA : A (.uninitCompSource t)) : KeepsStays t A w₀ (o.calls.load t) :=
  (keepsStays_const _).andThen <| (keepsStays_const _).andThen <|
    (keepsStays_ofBool _ _).orUndo (keepsStays_uninitCall _ hA)

theorem keepsStays_unload (hA : A (.uninitCompSource t)) (hA' : A (.releaseSource t)) :
    KeepsStays t A w₀ (o.calls.unload t) :=
  (keepsStays_stopCall _ hA').andThen <|
    (keepsStays_ofBool _ _).andThen (keepsStays_uninitCall _ hA)

theorem keepsStays_abandon (hA : A (.uninitCompSource t)) (hA' : A (.releaseSource t)) :
    KeepsStays t A w₀ (o.calls.abandon t) :=
  (keepsStays_stopCall _ hA').ignoring (keepsStays_uninitCall _ hA)

end SourceOutcome

/-! ## Hardware with a positive count is on -/

/-- Hardware of type `t` with a positive enable count is on. -/
def Powered {L : Type} (t : DHType) (s : DHSourceStatus L) (w : Hardware) : Prop :=
  ∀ k, 0 < s.refEnable k → w.on t k = true

section powered

variable {L : Type} {t : DHType} {s s' : DHSourceStatus L} {w w' : Hardware}
  {aw : Awaiting DHStatusSourceEnableInfoKey} {k : DHStatusSourceEnableInfoKey}
  {c : DHStatusCtrlKey}

theorem Powered.mono (h : Powered t s w)
    (hs : ∀ k, 0 < s'.refEnable k → 0 < s.refEnable k ∧ w'.on t k = w.on t k) :
    Powered t s' w' := fun k hk => by
  obtain ⟨hk', hw⟩ := hs k hk
  rw [hw]
  exact h k hk'

/-- With nothing loaded no count is positive. -/
theorem Counted.powered (h : Counted s aw) (hl : s.refLoad ≤ 0) : Powered t s w := fun k hk => by
  have := h.refEnable_le_refLoad k
  omega

theorem Powered.touch (h : Powered t s w) : Powered t (s.touch k c) w :=
  h.mono fun _ hk => ⟨by rwa [DHStatus.refEnable_touch] at hk, rfl⟩

/-- A piece of hardware that is on may be counted. -/
theorem Powered.write_on (h : ∀ k', k' ≠ k → 0 < s.refEnable k' → w'.on t k' = true)
    (hk : w'.on t k = true) (st : EnableState) (re rl : Int) :
    Powered t (s.write k c st re rl) w' := fun k' hk' => by
  rw [DHStatus.refEnable_write] at hk'
  split_ifs at hk' with he
  · rwa [he]
  · exact h k' he hk'

/-- A piece of hardware whose count goes to zero may be off. -/
theorem Powered.write_zero (h : ∀ k', k' ≠ k → 0 < s.refEnable k' → w'.on t k' = true)
    (st : EnableState) {re : Int} (hre : re ≤ 0) (rl : Int) :
    Powered t (s.write k c st re rl) w' := fun k' hk' => by
  rw [DHStatus.refEnable_write] at hk'
  split_ifs at hk' with he
  · omega
  · exact h k' he hk'

theorem switch_on_self (w : Hardware) (t : DHType) (k : DHStatusSourceEnableInfoKey) (b : Bool) :
    (w.switch t k b).on t k = b :=
  if_pos ⟨rfl, rfl⟩

theorem switch_on_ne (w : Hardware) (t : DHType) {k k' : DHStatusSourceEnableInfoKey} (b : Bool)
    (hk : k' ≠ k) : (w.switch t k b).on t k' = w.on t k' :=
  if_neg fun h => hk h.2

/-- Switching on : the hardware may be counted if it worked, nothing happened if not. -/
theorem powered_switchOn (ret : Int) (st : EnableState) (re rl : Int) :
    Call.Triple (Powered t s) (SourceOutcome.switchOn ret t k)
      (Powered t (s.write k c st re rl)) (Powered t (s.touch k c)) := by
  refine .of_codes (fun w h hr => ?_) fun w h hr => ?_
  · simp only [SourceOutcome.switchOn, if_pos (show ret = DH_FWK_SUCCESS from hr)]
    refine Powered.write_on (fun k' hk' hs => ?_) (switch_on_self ..) _ _ _
    rw [switch_on_ne w t true hk']
    exact h k' hs
  · simp only [SourceOutcome.switchOn, if_neg (show ret ≠ DH_FWK_SUCCESS from hr)]
    exact h.touch

/-- Switching off touches one piece of hardware, and none if it fails. -/
theorem switchOff_on_ne (ret : Int) {k' : DHStatusSourceEnableInfoKey} (hk : k' ≠ k) :
    (SourceOutcome.switchOff ret t k w).2.on t k' = w.on t k' := by
  simp only [SourceOutcome.switchOff]
  split_ifs
  · exact switch_on_ne w t false hk
  · rfl

theorem switchOff_on_of_ne {ret : Int} (hr : ret ≠ DH_FWK_SUCCESS) :
    (SourceOutcome.switchOff ret t k w).2.on = w.on := by
  simp only [SourceOutcome.switchOff, if_neg hr]
  rfl

/-- Whether or not it switches off, its hardware may have its count go to zero. -/
theorem powered_switchOff (ret : Int) (st : EnableState) {re : Int} (hre : re ≤ 0) (rl : Int) :
    Call.Triple (Powered t s) (SourceOutcome.switchOff ret t k)
      (Powered t (s.write k c st re rl)) (Powered t (s.write k c st re rl)) :=
  .of_forall fun w h => Powered.write_zero (fun k' hk' hs => by
    rw [switchOff_on_ne ret hk']
    exact h k' hs) st hre rl

/-- A failed switching off changes nothing. -/
theorem powered_switchOff_failed (ret : Int) :
    Call.Triple (Powered t s) (SourceOutcome.switchOff ret t k) (fun _ => ret = DH_FWK_SUCCESS)
      (Powered t (s.touch k c)) :=
  .of_codes (fun _ _ hr => hr) fun _ h hr => Powered.touch fun k' hs => by
    have hr : ret ≠ DH_FWK_SUCCESS := hr
    rw [switchOff_on_of_ne hr]
    exact h k' hs

/-- An unload whose first call fails changes nothing. -/
theorem powered_unload_failed {o : SourceOutcome} (ho : o.stop ≠ DH_FWK_SUCCESS)
    (Q : Hardware → Prop) :
    Call.Triple (Powered t s) (o.calls.unload t) Q (Powered t (s.touch k c)) := by
  have hstop : Call.Triple (Powered t s) (SourceOutcome.stopCall o.stop t) (fun _ => False)
      (Powered t (s.touch k c)) := .of_codes (fun _ _ hr => ho hr) fun w h _ => by
    simp only [SourceOutcome.stopCall, if_neg ho]
    exact h.touch
  exact hstop.andThen fun _ h => h.elim

/-- A first enable, with nothing counted before, ends with its hardware on if it succeeds. -/
theorem powered_firstEnable (o : SourceOutcome) (ret : Int) (h : ∀ k, s.refEnable k ≤ 0) :
    Call.Triple (fun _ => True)
      ((o.calls.load t).andThen ((SourceOutcome.switchOn ret t k).orUndo (o.calls.abandon t)))
      (Powered t (s.firstRef k c)) (Powered t (s.touch k c)) := by
  have h0 : ∀ w, Powered t s w := fun w k hk => absurd hk (not_lt.2 (h k))
  have hload : Call.Triple (fun _ => True) (o.calls.load t) (Powered t s)
      (Powered t (s.touch k c)) :=
    .of_codes (fun _ _ _ => h0 _) fun _ _ _ => (h0 _).touch
  exact hload.andThen ((powered_switchOn ret .ENABLED 1 1).orUndo
    (.of_forall fun w _ => (h0 _).touch))

/-- A last disable : nothing is counted after it, and the hardware goes off before the end
only if it reaches the end. -/
theorem powered_lastDisable (o : SourceOutcome) {m : Call Hardware} {D : Prop}
    (h : ∀ w, Powered t (s.lastRef k c) w)
    (hm : Call.Triple (Powered t s) m (fun _ => D) (Powered t (s.touch k c)))
    (hD : D → o.Unloads) :
    Call.Triple (Powered t s) (m.andThen (o.calls.unload t)) (Powered t (s.lastRef k c))
      (Powered t (s.touch k c)) := by
  refine hm.andThen fun w hw => ?_
  rw [if_pos ((o.unload_fst_eq_zero t w).2 (hD hw))]
  exact h _

end powered

section bodies

variable {L : Type} {networkId uuid : String} {d : DHDescriptor} {caller : DHStatusCtrlKey}
  {s : DHSourceStatus L} {w : Hardware} {aw : Awaiting DHStatusSourceEnableInfoKey}
  {o : SourceOutcome}

theorem enableSourceStatus_powered (h : Counted s aw) (hP : Powered d.dhType s w) :
    Powered d.dhType (enableSourceStatus o.calls networkId uuid d caller s w).2.1
      (enableSourceStatus o.calls networkId uuid d caller s w).2.2 := by
  simp only [enableSourceStatus]
  split_ifs with hs he hl
  · exact hP.touch
  · refine Powered.write_on (fun k _ => hP k) (hP _ ?_) _ _ _
    have := h.refEnable_nonneg { networkId := networkId, dhId := d.id }
    omega
  · exact settle_triple (powered_switchOn o.enable _ _ _) hP
  · refine settle_triple (powered_firstEnable o o.enable fun k => ?_) trivial
    have := h.refEnable_le_refLoad k
    omega

theorem enableMetaSourceStatus_powered (h : Counted s aw) (hP : Powered d.dhType s w) :
    Powered d.dhType (enableMetaSourceStatus o.calls networkId d s w).2.1
      (enableMetaSourceStatus o.calls networkId d s w).2.2 := by
  simp only [enableMetaSourceStatus]
  split_ifs with hs he hl
  · exact hP.touch
  · exact Powered.write_on (fun k _ => hP k) (hP _ he) _ _ _
  · exact settle_triple ((powered_switchOn o.modemEnable _ _ _).orCode (by decide)) hP
  · refine settle_triple (powered_firstEnable o o.modemEnable fun k => ?_) trivial
    have := h.refEnable_le_refLoad k
    omega

/-- `c` is a user of `k`, and the counts say it is the last one of `k` and of the type. -/
def LastUser (s : DHSourceStatus L) (aw : Awaiting DHStatusSourceEnableInfoKey)
    (k : DHStatusSourceEnableInfoKey) (c : DHStatusCtrlKey) : Prop :=
  s.enableState k c = .ENABLED ∧ aw k c = false ∧ s.refEnable k ≤ 1 ∧ s.refLoad ≤ 1

instance (s : DHSourceStatus L) (aw : Awaiting DHStatusSourceEnableInfoKey)
    (k : DHStatusSourceEnableInfoKey) (c : DHStatusCtrlKey) : Decidable (LastUser s aw k c) :=
  inferInstanceAs (Decidable (_ ∧ _ ∧ _ ∧ _))

/-- After the last user is disabled nothing is counted. -/
theorem Counted.powered_lastRef {t : DHType} {k : DHStatusSourceEnableInfoKey}
    {c : DHStatusCtrlKey} (h : Counted s aw) (hs : s.enableState k c = .ENABLED)
    (hk : s.refEnable k ≤ 1) (hl : s.refLoad ≤ 1) (hp : aw k c = true → s.refLoad = 0)
    (w : Hardware) : Powered t (s.lastRef k c) w :=
  (h.keeps (.lastRef t k c s hs hk hl) hp).counted.powered le_rfl

theorem disableSourceStatus_powered (h : Counted s aw)
    (hp : aw { networkId := networkId, dhId := d.id } caller = true → s.refLoad = 0)
    (hc : LastUser s aw { networkId := networkId, dhId := d.id } caller →
      o.disable = DH_FWK_SUCCESS → o.Unloads) (hP : Powered d.dhType s w) :
    Powered d.dhType (disableSourceStatus o.calls networkId uuid d caller s w).2.1
      (disableSourceStatus o.calls networkId uuid d caller s w).2.2 := by
  simp only [disableSourceStatus]
  split_ifs with hs he hl
  · exact hP.touch
  · exact Powered.write_on (fun k _ => hP k) (hP _ (by omega)) _ _ _
  · exact settle_triple ((powered_switchOff o.disable _ (by omega) _).andFailure
      (powered_switchOff_failed o.disable)) hP
  · have hs := DHStatus.eq_enabled hs
    have hlast := h.powered_lastRef (t := d.dhType) hs (by omega) (by omega) hp
    cases ha : aw { networkId := networkId, dhId := d.id } caller with
    | true =>
      have h0 : ∀ w, Powered d.dhType s w := fun w => h.powered (hp ha).le
      exact settle_triple (P := fun _ => True)
        (.of_codes (fun _ _ _ => hlast _) fun _ _ _ => (h0 _).touch) trivial
    | false =>
      exact settle_triple (powered_lastDisable o hlast (powered_switchOff_failed o.disable)
        (hc ⟨hs, ha, by omega, by omega⟩)) hP

theorem disableMetaSourceStatus_powered (h : Counted s aw)
    (hc : LastUser s aw { networkId := networkId, dhId := d.id } autoCaller →
      (o.modemDisable = DH_FWK_SUCCESS ∨ o.stop = DH_FWK_SUCCESS) → o.Unloads)
    (hP : Powered d.dhType s w) :
    Powered d.dhType (disableMetaSourceStatus o.calls networkId d s w).2.1
      (disableMetaSourceStatus o.calls networkId d s w).2.2 := by
  have ha : aw { networkId := networkId, dhId := d.id } autoCaller = false := by
    cases ha : aw { networkId := networkId, dhId := d.id } autoCaller with
    | false => rfl
    | true => exact absurd (h.awaits _ _ ha).1 (by decide)
  simp only [disableMetaSourceStatus]
  split_ifs with hs he hl
  · exact hP.touch
  · exact Powered.write_on (fun k _ => hP k) (hP _ (by omega)) _ _ _
  · exact settle_triple ((powered_switchOff o.modemDisable _ (by omega) _).ignoring .success) hP
  · have hs := DHStatus.eq_enabled hs
    have hlast := h.powered_lastRef (t := d.dhType) hs (by omega) (by omega) (by simp [ha])
    by_cases hD : o.modemDisable = DH_FWK_SUCCESS ∨ o.stop = DH_FWK_SUCCESS
    · have hu := hc ⟨hs, ha, by omega, by omega⟩ hD
      exact settle_triple (P := fun _ => True) (.of_codes (fun _ _ _ => hlast _)
        fun _ _ hr => absurd ((o.unload_fst_eq_zero _ _).2 hu) hr) trivial
    · obtain ⟨hm, hst⟩ := not_or.1 hD
      have hmodem : Call.Triple (Powered d.dhType s)
          (o.calls.modemDisable networkId d.id d.dhType) (Powered d.dhType s)
          (Powered d.dhType s) := .of_forall fun w hw k hk => by
        rw [show (o.calls.modemDisable networkId d.id d.dhType w).2.on = w.on from
          switchOff_on_of_ne hm]
        exact hw k hk
      exact settle_triple (hmodem.ignoring (powered_unload_failed hst _)) hP

theorem forceDisableSourceStatus_powered (h : Counted s aw) (hP : Powered d.dhType s w) :
    Powered d.dhType (forceDisableSourceStatus o.calls networkId uuid d s w).2.1
      (forceDisableSourceStatus o.calls networkId uuid d s w).2.2 := by
  simp only [forceDisableSourceStatus]
  split_ifs with hr hl
  · intro k hk
    rw [show (o.calls.disable networkId uuid d.id d.dhType w).2.on = w.on from
      switchOff_on_of_ne hr]
    exact hP k hk
  · intro k hk
    rw [DHStatus.refEnable_drop] at hk
    split_ifs at hk with he
    · exact absurd hk (lt_irrefl 0)
    · rw [show (o.calls.disable networkId uuid d.id d.dhType w).2.on d.dhType k = w.on d.dhType k
        from switchOff_on_ne o.disable he]
      exact hP k hk
  · have hd : ∀ w, Powered d.dhType (s.drop { networkId := networkId, dhId := d.id }) w :=
      fun w => (h.keeps (.drop d.dhType _ s) trivial).counted.powered (by omega)
    exact settle_triple (P := fun _ => True)
      (.of_codes (fun _ _ _ => hd _) fun _ _ _ => hd _) trivial

/-! ## What the bodies call -/

theorem enableSourceStatus_stays : SourceOutcome.Stays d.dhType (fun _ => True) w
    (enableSourceStatus o.calls networkId uuid d caller s w).2.2 := by
  simp only [enableSourceStatus]
  split_ifs
  · exact .refl ..
  · exact .refl ..
  · exact settle_keeps (SourceOutcome.keepsStays_switchOn o.enable) (.refl ..)
  · exact settle_keeps ((o.keepsStays_load trivial).andThen <|
      (SourceOutcome.keepsStays_switchOn o.enable).orUndo (o.keepsStays_abandon trivial trivial))
      (.refl ..)

theorem enableMetaSourceStatus_stays : SourceOutcome.Stays d.dhType (fun _ => True) w
    (enableMetaSourceStatus o.calls networkId d s w).2.2 := by
  simp only [enableMetaSourceStatus]
  split_ifs
  · exact .refl ..
  · exact .refl ..
  · exact settle_keeps ((SourceOutcome.keepsStays_switchOn o.modemEnable).orCode (by decide))
      (.refl ..)
  · exact settle_keeps ((o.keepsStays_load trivial).andThen <|
      (SourceOutcome.keepsStays_switchOn o.modemEnable).orUndo
        (o.keepsStays_abandon trivial trivial)) (.refl ..)

theorem forceDisableSourceStatus_stays : SourceOutcome.Stays d.dhType (fun _ => True) w
    (forceDisableSourceStatus o.calls networkId uuid d s w).2.2 := by
  have hd : SourceOutcome.Stays d.dhType (fun _ => True) w
      (o.calls.disable networkId uuid d.id d.dhType w).2 :=
    (SourceOutcome.keepsStays_switchOff o.disable trivial).snd (.refl ..)
  simp only [forceDisableSourceStatus]
  split_ifs
  · exact hd
  · exact hd
  · exact settle_keeps (o.keepsStays_unload trivial trivial) hd

/-- What a disable of `k` may call, given the counts. -/
def MayCall (s : DHSourceStatus L) (t : DHType) (k : DHStatusSourceEnableInfoKey)
    (c : DHStatusCtrlKey) (e : OffCall) : Prop :=
  s.enableState k c = .ENABLED ∧
    (e = .disable t k ∧ s.refEnable k ≤ 1 ∨
      (e = .releaseSource t ∨ e = .uninitCompSource t) ∧ s.refLoad ≤ 1)

theorem disableSourceStatus_stays : SourceOutcome.Stays d.dhType
    (MayCall s d.dhType { networkId := networkId, dhId := d.id } caller) w
    (disableSourceStatus o.calls networkId uuid d caller s w).2.2 := by
  simp only [disableSourceStatus]
  split_ifs with hs he hl
  · exact .refl ..
  · exact .refl ..
  all_goals
    have hs := DHStatus.eq_enabled hs
    have he : s.refEnable { networkId := networkId, dhId := d.id } ≤ 1 := by omega
  · exact settle_keeps (SourceOutcome.keepsStays_switchOff o.disable ⟨hs, .inl ⟨rfl, he⟩⟩)
      (.refl ..)
  · have hl : s.refLoad ≤ 1 := by omega
    exact settle_keeps ((SourceOutcome.keepsStays_switchOff o.disable ⟨hs, .inl ⟨rfl, he⟩⟩).andThen
      (o.keepsStays_unload ⟨hs, .inr ⟨.inr rfl, hl⟩⟩ ⟨hs, .inr ⟨.inl rfl, hl⟩⟩)) (.refl ..)

theorem disableMetaSourceStatus_stays : SourceOutcome.Stays d.dhType
    (MayCall s d.dhType { networkId := networkId, dhId := d.id } autoCaller) w
    (disableMetaSourceStatus o.calls networkId d s w).2.2 := by
  simp only [disableMetaSourceStatus]
  split_ifs with hs he hl
  · exact .refl ..
  · exact .refl ..
  all_goals
    have hs := DHStatus.eq_enabled hs
    have he : s.refEnable { networkId := networkId, dhId := d.id } ≤ 1 := by omega
  · exact settle_keeps ((SourceOutcome.keepsStays_switchOff o.modemDisable
      ⟨hs, .inl ⟨rfl, he⟩⟩).ignoring .success) (.refl ..)
  · have hl : s.refLoad ≤ 1 := by omega
    exact settle_keeps ((SourceOutcome.keepsStays_switchOff o.modemDisable
      ⟨hs, .inl ⟨rfl, he⟩⟩).ignoring
        (o.keepsStays_unload ⟨hs, .inr ⟨.inr rfl, hl⟩⟩ ⟨hs, .inr ⟨.inl rfl, hl⟩⟩)) (.refl ..)

end bodies

end DHFwk
