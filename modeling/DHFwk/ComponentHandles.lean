import DHFwk.ComponentManager
import DHFwk.RefCounts

/-!
# The handles of loaded components

`Components H` is what `InitCompSource`, `UninitCompSource` and their sink siblings write :
the handle of each loaded component (`compSource_`, `compSink_`), the id of its ability
(`compSrcSaId_`, `compSinkSaId_`), and whether the monitor exists. `ComponentOutcome` are
the answers of the loader and of the component, which are free.

Each of the four functions keeps or changes the handles of one type as a whole : an `init`
that fails loads nothing, an `uninit` that fails keeps what was loaded.
-/

set_option linter.unusedSectionVars false

namespace DHFwk

/-- The handles of one side; a null pointer is `none`. -/
structure Components (H : Type) where
  comp : Table DHType (Option H) := ∅
  compSaId : Table DHType Int := ∅
  compMonitorPtr : Bool := true

/-- `INVALID_SA_ID`. -/
abbrev INVALID_SA_ID : Int := -1

/-- The answers of the loader and of the component during one operation. -/
structure ComponentOutcome (H : Type) where
  initGet : Int := DH_FWK_SUCCESS
  initPtr : Option H
  saId : Int := INVALID_SA_ID
  start : Int := DH_FWK_SUCCESS
  startReady : Bool := true
  enable : Int := DH_FWK_SUCCESS
  disable : Int := DH_FWK_SUCCESS
  modemEnable : Int := DH_FWK_SUCCESS
  modemDisable : Int := DH_FWK_SUCCESS
  stop : Int := DH_FWK_SUCCESS
  stopReady : Bool := true
  uninitGet : Int := DH_FWK_SUCCESS
  uninitPtr : Option H
  release : Int := DH_FWK_SUCCESS

/-- `std::map::insert` : an entry that exists stays. -/
def Table.insertNew {V : Type} (t : Table DHType V) (k : DHType) (v : V) : Table DHType V :=
  match t.lookup k with
  | some _ => t
  | none => t.set k v

namespace Components

variable {H : Type} (w : Components H) (dhType : DHType)

/-- Enter a handle where there is none. -/
def enterPtr (ptr : Option H) : Components H :=
  { w with comp := Table.insertNew w.comp dhType ptr }

/-- Enter the id of an ability where there is none. -/
def enterSaId (saId : Int) : Components H :=
  { w with compSaId := Table.insertNew w.compSaId dhType saId }

/-- Erase a handle. -/
def erasePtr : Components H :=
  { w with comp := w.comp.remove dhType }

/-- Erase the id of an ability. -/
def eraseSaId : Components H :=
  { w with compSaId := w.compSaId.remove dhType }

end Components

section bodies

variable {H : Type} (dhType : DHType)

/-- `InitCompSource` and `InitCompSink`. Without a monitor the sink takes back what it has
entered (`undo`), the source does not. -/
def initComp (undo : Bool) (o : ComponentOutcome H) : Call (Components H) := fun w =>
  if o.initGet ≠ DH_FWK_SUCCESS then (o.initGet, w)
  else match o.initPtr with
    | none => (ERR_DH_FWK_LOADER_HANDLER_IS_NULL, w)
    | some ptr =>
      if o.saId = INVALID_SA_ID then (DH_FWK_SUCCESS, w.enterPtr dhType (some ptr))
      else
        let w := (w.enterPtr dhType (some ptr)).enterSaId dhType o.saId
        if w.compMonitorPtr then (DH_FWK_SUCCESS, w)
        else if undo then
          (ERR_DH_FWK_COMPONENT_MONITOR_NULL, (w.erasePtr dhType).eraseSaId dhType)
        else (ERR_DH_FWK_COMPONENT_MONITOR_NULL, w)

/-- `InitCompSource`. -/
def initCompSource (o : ComponentOutcome H) : Call (Components H) := initComp dhType false o

/-- `InitCompSink`. -/
def initCompSink (o : ComponentOutcome H) : Call (Components H) := initComp dhType true o

/-- `UninitCompSource` and `UninitCompSink`, after the monitor is found where an id is
entered. -/
def releaseComp (o : ComponentOutcome H) : Call (Components H) := fun w =>
  if o.release ≠ DH_FWK_SUCCESS then (o.release, w)
  else (DH_FWK_SUCCESS, w.erasePtr dhType)

/-- `UninitCompSource` and `UninitCompSink`. -/
def uninitComp (o : ComponentOutcome H) : Call (Components H) := fun w =>
  if o.uninitGet ≠ DH_FWK_SUCCESS then (o.uninitGet, w)
  else match o.uninitPtr, w.compSaId.lookup dhType with
    | none, _ => (ERR_DH_FWK_LOADER_HANDLER_IS_NULL, w)
    | some _, none => releaseComp dhType o w
    | some _, some _ =>
      if ¬w.compMonitorPtr then (ERR_DH_FWK_COMPONENT_MONITOR_NULL, w)
      else releaseComp dhType o (w.eraseSaId dhType)

end bodies

namespace ComponentOutcome

variable {H : Type} (o : ComponentOutcome H)

/-- The calls of the source side with these answers. -/
def sourceCalls : SourceCalls (Components H) where
  initCompSource t := DHFwk.initCompSource t o
  uninitCompSource t _ := uninitComp t o
  startSource _ := fun w => (o.start, w)
  stopSource _ := fun w => (o.stop, w)
  waitForResult
    | .START_SOURCE, _ | .START_SINK, _ => fun w => (o.startReady, w)
    | .STOP_SOURCE, _ | .STOP_SINK, _ => fun w => (o.stopReady, w)
  enable _ _ _ _ _ _ := fun w => (o.enable, w)
  disable _ _ _ _ := fun w => (o.disable, w)
  modemEnable _ _ _ := fun w => (o.modemEnable, w)
  modemDisable _ _ _ := fun w => (o.modemDisable, w)

/-- The calls of the sink side with these answers; `compSink_[dhType]` enters a null pointer
where none was. -/
def sinkCalls : SinkCalls (Components H) where
  initCompSink t := DHFwk.initCompSink t o
  uninitCompSink t _ := uninitComp t o
  startSink _ := fun w => (o.start, w)
  stopSink _ := fun w => (o.stop, w)
  waitForResult
    | .START_SOURCE, _ | .START_SINK, _ => fun w => (o.startReady, w)
    | .STOP_SOURCE, _ | .STOP_SINK, _ => fun w => (o.stopReady, w)
  configDistributedHardware t _ _ := fun w => w.enterPtr t none

/-- The loader hands out a component to load. -/
def Inits : Prop := o.initGet = DH_FWK_SUCCESS ∧ o.initPtr.isSome = true

/-- The loader takes the component back. -/
def Uninits : Prop :=
  o.uninitGet = DH_FWK_SUCCESS ∧ o.uninitPtr.isSome = true ∧ o.release = DH_FWK_SUCCESS

/-- `Stop`, the wait for it and `Uninit` succeed. -/
def Unloads : Prop := o.stop = DH_FWK_SUCCESS ∧ o.stopReady = true ∧ o.Uninits

instance : Decidable o.Inits := inferInstanceAs (Decidable (_ ∧ _))

instance : Decidable o.Uninits := inferInstanceAs (Decidable (_ ∧ _ ∧ _))

instance : Decidable o.Unloads := inferInstanceAs (Decidable (_ ∧ _ ∧ _))

end ComponentOutcome

/-! ## Loaded and not loaded -/

/-- The component of a type is loaded, and the monitor exists. -/
def Components.Holds {H : Type} (t : DHType) (w : Components H) : Prop :=
  w.compMonitorPtr = true ∧ w.comp.lookup t ≠ none

/-- Nothing is entered for a type, and the monitor exists. -/
def Components.Empty {H : Type} (t : DHType) (w : Components H) : Prop :=
  w.compMonitorPtr = true ∧ w.comp.lookup t = none ∧ w.compSaId.lookup t = none

/-- Nothing changes for other types. -/
structure Components.SameElsewhere {H : Type} (t : DHType) (w₀ w : Components H) : Prop where
  comp : ∀ t', t' ≠ t → w.comp.lookup t' = w₀.comp.lookup t'
  compSaId : ∀ t', t' ≠ t → w.compSaId.lookup t' = w₀.compSaId.lookup t'
  compMonitorPtr : w.compMonitorPtr = w₀.compMonitorPtr

section calls

variable {H : Type} {t : DHType} {w w₀ : Components H} {o : ComponentOutcome H} {u : Bool}

theorem lookup_insertNew_self {V : Type} (m : Table DHType V) (k : DHType) (v : V) :
    (Table.insertNew m k v).lookup k ≠ none := by
  unfold Table.insertNew
  split
  · rename_i h
    rw [h]
    exact Option.some_ne_none _
  · rw [Table.lookup_set_self]
    exact Option.some_ne_none _

theorem lookup_insertNew_ne {V : Type} (m : Table DHType V) {k k' : DHType} (h : k' ≠ k) (v : V) :
    (Table.insertNew m k v).lookup k' = m.lookup k' := by
  unfold Table.insertNew
  split
  · rfl
  · exact Table.lookup_set_ne m h v

/-- The loader hands out a component : its handle is entered. -/
theorem initComp_of_inits (h : o.Inits) (hm : w.compMonitorPtr = true) :
    (initComp t u o w).1 = DH_FWK_SUCCESS ∧ (initComp t u o w).2.Holds t := by
  obtain ⟨hg, hp⟩ := h
  obtain ⟨ptr, hp⟩ := Option.isSome_iff_exists.1 hp
  have hptr : (w.enterPtr t (some ptr)).comp.lookup t ≠ none :=
    lookup_insertNew_self w.comp t (some ptr)
  have hm' : ((w.enterPtr t (some ptr)).enterSaId t o.saId).compMonitorPtr = true := hm
  unfold initComp
  rw [if_neg (not_not.2 hg), hp]
  by_cases hs : o.saId = INVALID_SA_ID
  · simp only [if_pos hs]
    exact ⟨trivial, hm, hptr⟩
  · simp only [if_neg hs, if_pos hm']
    exact ⟨trivial, hm, hptr⟩

/-- The loader hands out no component : nothing happens. -/
theorem initComp_of_not_inits (h : ¬o.Inits) :
    (initComp t u o w).1 ≠ DH_FWK_SUCCESS ∧ (initComp t u o w).2 = w := by
  unfold initComp
  by_cases hg : o.initGet = DH_FWK_SUCCESS
  · rw [if_neg (not_not.2 hg)]
    cases hp : o.initPtr with
    | none => exact ⟨show ERR_DH_FWK_LOADER_HANDLER_IS_NULL ≠ DH_FWK_SUCCESS by decide, rfl⟩
    | some ptr => exact absurd ⟨hg, by rw [hp]; rfl⟩ h
  · rw [if_pos hg]
    exact ⟨hg, rfl⟩

/-- Loading : the component is there if it succeeds, nothing is there if not. -/
theorem initComp_triple : Call.Triple (Components.Empty t) (initComp t u o)
    (fun w => w.Holds t ∧ o.Inits) (Components.Empty t) := by
  intro w hw
  by_cases h : o.Inits
  · obtain ⟨hr, hs⟩ := initComp_of_inits (t := t) (u := u) h hw.1
    rw [if_pos hr]
    exact ⟨hs, h⟩
  · obtain ⟨hr, hs⟩ := initComp_of_not_inits (t := t) (w := w) (u := u) h
    rwa [if_neg hr, hs]

/-- The loader takes the component back : nothing is entered for the type any more. -/
theorem uninitComp_of_uninits (h : o.Uninits) (hm : w.compMonitorPtr = true) :
    uninitComp t o w = (DH_FWK_SUCCESS, (w.eraseSaId t).erasePtr t) := by
  obtain ⟨hg, hp, hr⟩ := h
  obtain ⟨ptr, hp⟩ := Option.isSome_iff_exists.1 hp
  unfold uninitComp
  rw [if_neg (not_not.2 hg), hp]
  cases hs : w.compSaId.lookup t with
  | none => simp [releaseComp, hr, Components.eraseSaId, Table.remove_of_lookup_none hs]
  | some saId => simp [releaseComp, hr, hm]

/-- The loader does not take the component back : its handle stays, its id may go. -/
theorem uninitComp_of_not_uninits (h : ¬o.Uninits) (hm : w.compMonitorPtr = true) :
    (uninitComp t o w).1 ≠ DH_FWK_SUCCESS ∧
      ((uninitComp t o w).2 = w ∨ (uninitComp t o w).2 = w.eraseSaId t) := by
  unfold uninitComp
  split_ifs with hg
  · exact ⟨hg, Or.inl rfl⟩
  · cases hp : o.uninitPtr with
    | none => exact ⟨show ERR_DH_FWK_LOADER_HANDLER_IS_NULL ≠ DH_FWK_SUCCESS by decide, Or.inl rfl⟩
    | some ptr =>
      have hr : o.release ≠ DH_FWK_SUCCESS := fun hr =>
        h ⟨not_not.1 hg, by rw [hp]; rfl, hr⟩
      cases hs : w.compSaId.lookup t with
      | none => simp [releaseComp, hr]
      | some saId => simp [releaseComp, hr]

/-- Unloading what is loaded : all of it goes, or it stays loaded. -/
theorem uninitComp_holds : Call.Triple (Components.Holds t) (uninitComp t o)
    (Components.Empty t) (Components.Holds t) := by
  intro w hw
  by_cases h : o.Uninits
  · rw [uninitComp_of_uninits h hw.1]
    exact ⟨hw.1, Table.lookup_remove_self .., Table.lookup_remove_self ..⟩
  · obtain ⟨hr, hs | hs⟩ := uninitComp_of_not_uninits (t := t) h hw.1
    all_goals
      rw [if_neg hr, hs]
      exact hw

/-- Unloading what is not loaded changes nothing. -/
theorem uninitComp_empty : Call.Triple (Components.Empty t) (uninitComp t o)
    (Components.Empty t) (Components.Empty t) := by
  refine .of_forall fun w hw => ?_
  by_cases h : o.Uninits
  · rw [uninitComp_of_uninits h hw.1]
    exact ⟨hw.1, Table.lookup_remove_self .., Table.lookup_remove_self ..⟩
  · obtain ⟨-, hs | hs⟩ := uninitComp_of_not_uninits (t := t) h hw.1
    · rwa [hs]
    · rw [hs]
      exact ⟨hw.1, hw.2.1, Table.lookup_remove_self ..⟩

/-! ## Other types -/

namespace Components.SameElsewhere

theorem refl (t : DHType) (w : Components H) : SameElsewhere t w w :=
  ⟨fun _ _ => rfl, fun _ _ => rfl, rfl⟩

theorem enterPtr (h : SameElsewhere t w₀ w) (ptr : Option H) :
    SameElsewhere t w₀ (w.enterPtr t ptr) where
  comp t' ht := (lookup_insertNew_ne w.comp ht ptr).trans (h.comp t' ht)
  compSaId := h.compSaId
  compMonitorPtr := h.compMonitorPtr

theorem enterSaId (h : SameElsewhere t w₀ w) (saId : Int) :
    SameElsewhere t w₀ (w.enterSaId t saId) where
  comp := h.comp
  compSaId t' ht := (lookup_insertNew_ne w.compSaId ht saId).trans (h.compSaId t' ht)
  compMonitorPtr := h.compMonitorPtr

theorem erasePtr (h : SameElsewhere t w₀ w) : SameElsewhere t w₀ (w.erasePtr t) where
  comp t' ht := (Table.lookup_remove_ne w.comp ht).trans (h.comp t' ht)
  compSaId := h.compSaId
  compMonitorPtr := h.compMonitorPtr

theorem eraseSaId (h : SameElsewhere t w₀ w) : SameElsewhere t w₀ (w.eraseSaId t) where
  comp := h.comp
  compSaId t' ht := (Table.lookup_remove_ne w.compSaId ht).trans (h.compSaId t' ht)
  compMonitorPtr := h.compMonitorPtr

theorem holds_iff (h : SameElsewhere t w₀ w) {t' : DHType} (ht : t' ≠ t) :
    w.Holds t' ↔ w₀.Holds t' := by
  rw [Holds, Holds, h.comp t' ht, h.compMonitorPtr]

theorem empty_iff (h : SameElsewhere t w₀ w) {t' : DHType} (ht : t' ≠ t) :
    w.Empty t' ↔ w₀.Empty t' := by
  rw [Empty, Empty, h.comp t' ht, h.compSaId t' ht, h.compMonitorPtr]

end Components.SameElsewhere

/-- A call that changes its own type only. -/
abbrev Local (t : DHType) (m : Call (Components H)) : Prop :=
  ∀ w₀, Call.Triple (Components.SameElsewhere t w₀) m (Components.SameElsewhere t w₀)
    (Components.SameElsewhere t w₀)

theorem local_const (t : DHType) (ret : Int) :
    Local t fun w : Components H => (ret, w) :=
  fun _ => .of_forall fun _ h => h

theorem local_initComp : Local t (initComp t u o) := fun w₀ => .of_forall fun w h => by
  unfold initComp
  by_cases hg : o.initGet = DH_FWK_SUCCESS
  · rw [if_neg (not_not.2 hg)]
    cases o.initPtr with
    | none => exact h
    | some ptr =>
      simp only
      split_ifs
      · exact h.enterPtr _
      · exact (h.enterPtr _).enterSaId _
      · exact ((h.enterPtr _).enterSaId _).erasePtr.eraseSaId
      · exact (h.enterPtr _).enterSaId _
  · rwa [if_pos hg]

theorem local_releaseComp : Local t (releaseComp t o) := fun w₀ => .of_forall fun w h => by
  unfold releaseComp
  split_ifs
  · exact h
  · exact h.erasePtr

theorem local_uninitComp : Local t (uninitComp t o) := fun w₀ => .of_forall fun w h => by
  unfold uninitComp
  by_cases hg : o.uninitGet = DH_FWK_SUCCESS
  · rw [if_neg (not_not.2 hg)]
    split
    · exact h
    · exact (local_releaseComp w₀).snd h
    · by_cases hm : w.compMonitorPtr = true
      · rw [if_neg (not_not.2 hm)]
        exact (local_releaseComp w₀).snd h.eraseSaId
      · rwa [if_pos hm]
  · rwa [if_pos hg]

section

variable {m k : Call (Components H)}

theorem Local.andThen (hm : Local t m) (hk : Local t k) : Local t (m.andThen k) :=
  fun w₀ => (hm w₀).andThen (hk w₀)

theorem Local.orUndo (hm : Local t m) (hk : Local t k) : Local t (m.orUndo k) :=
  fun w₀ => (hm w₀).orUndo (hk w₀)

theorem Local.ignoring (hm : Local t m) (hk : Local t k) : Local t (m.ignoring k) :=
  fun w₀ => (hm w₀).ignoring (hk w₀)

theorem Local.orCode (hm : Local t m) (err : Int) : Local t (m.orCode err) :=
  fun w₀ => .of_forall fun _ h => (hm w₀).snd h

/-- What a local call leaves. -/
theorem Local.world (hm : Local t m) (w : Components H) : w.SameElsewhere t (m w).2 :=
  (hm w).snd (.refl t w)

/-- A body whose calls are local leaves the handles of other types alone. -/
theorem Local.settle {S : Type} (hm : Local t m) (kept done : S) (w : Components H) :
    w.SameElsewhere t (DHFwk.settle m kept done w).2.2 :=
  hm.world w

end

theorem local_ofBool (t : DHType) (b : Bool) (err : Int) :
    Local t (Call.ofBool (fun w : Components H => (b, w)) err) :=
  fun _ => .of_forall fun _ h => h

theorem local_sourceLoad (o : ComponentOutcome H) (t : DHType) :
    Local t (o.sourceCalls.load t) :=
  local_initComp.andThen <| (local_const t o.start).andThen <|
    (local_ofBool t o.startReady _).orUndo local_uninitComp

theorem local_sourceAbandon (o : ComponentOutcome H) (t : DHType) :
    Local t (o.sourceCalls.abandon t) :=
  (local_const t o.stop).ignoring local_uninitComp

theorem local_sourceUnload (o : ComponentOutcome H) (t : DHType) :
    Local t (o.sourceCalls.unload t) :=
  (local_const t o.stop).andThen <| (local_ofBool t o.stopReady _).andThen local_uninitComp

theorem local_startSinkAndWait (o : ComponentOutcome H) (t : DHType) :
    Local t (o.sinkCalls.startSinkAndWait t) :=
  local_initComp.andThen <| (local_const t o.start).andThen <|
    (local_ofBool t o.startReady _).orUndo local_uninitComp

theorem local_sinkUnload (o : ComponentOutcome H) (t : DHType) :
    Local t (o.sinkCalls.unload t) :=
  (local_const t o.stop).andThen <| (local_ofBool t o.stopReady _).andThen local_uninitComp

theorem local_configure (o : ComponentOutcome H) (d : DHDescriptor) :
    Local d.dhType (o.sinkCalls.configure d) := fun w₀ => .of_forall fun w h => by
  unfold SinkCalls.configure
  split_ifs
  · exact h
  · exact h.enterPtr none

/-! ## Loading and unloading with their waits -/

/-- What keeps a first enable from leaving its component loaded when it fails : the start
succeeds, and the component is taken back if the wait or the enable fails. -/
def ComponentOutcome.TidyStart (o : ComponentOutcome H) (enabled : Int) : Prop :=
  o.Inits → o.start = DH_FWK_SUCCESS ∧
    (o.startReady = false ∨ enabled ≠ DH_FWK_SUCCESS → o.Uninits)

instance (o : ComponentOutcome H) (enabled : Int) : Decidable (o.TidyStart enabled) :=
  inferInstanceAs (Decidable (_ → _ ∧ (_ → _)))

/-- Taking back what was loaded, when the loader does so. -/
theorem uninitComp_tidy {D : Prop} (hD : D → o.Uninits) (E : Components H → Prop) :
    Call.Triple (fun w => w.Holds t ∧ D) (uninitComp t o) (Components.Empty t) E :=
  .of_codes (fun _ hw => uninitComp_holds.of_success hw.1) fun w hw hr =>
    absurd (by rw [uninitComp_of_uninits (hD hw.2) hw.1.1]) hr

/-- A tidy load : the component is there if it succeeds, nothing is there if not. -/
theorem load_triple {enabled : Int} (h : o.TidyStart enabled) {err : Int}
    (herr : err ≠ DH_FWK_SUCCESS) :
    Call.Triple (Components.Empty t)
      ((initComp t u o).andThen <| Call.andThen (fun w => (o.start, w)) <|
        (Call.ofBool (fun w => (o.startReady, w)) err).orUndo (uninitComp t o))
      (fun w => w.Holds t ∧ o.Inits) (Components.Empty t) := by
  have hstart : Call.Triple (fun w : Components H => w.Holds t ∧ o.Inits)
      (fun w => (o.start, w)) (fun w => w.Holds t ∧ o.Inits) (Components.Empty t) :=
    .of_codes (fun _ hw _ => hw) fun _ hw hr => absurd (h hw.2).1 hr
  have hwait : Call.Triple (fun w : Components H => w.Holds t ∧ o.Inits)
      (Call.ofBool (fun w => (o.startReady, w)) err) (fun w => w.Holds t ∧ o.Inits)
      (fun w => w.Holds t ∧ o.Inits ∧ o.startReady = false) := by
    refine .ofBool herr fun w hw => ?_
    cases hb : o.startReady with
    | true => exact hw
    | false => exact ⟨hw.1, hw.2, rfl⟩
  have hundo : Call.Triple (fun w : Components H => w.Holds t ∧ o.Inits ∧ o.startReady = false)
      (uninitComp t o) (Components.Empty t) (Components.Empty t) :=
    uninitComp_tidy (fun hD => (h hD.1).2 (Or.inl hD.2)) _
  exact initComp_triple.andThen (hstart.andThen (hwait.orUndo hundo))

/-- Stopping and waiting leave the handles alone, so unloading does what `Uninit` does. -/
theorem unload_triple {P Q : Components H → Prop} (h : Call.Triple P (uninitComp t o) Q P)
    (err : Int) : Call.Triple P
      (Call.andThen (fun w => (o.stop, w)) <|
        (Call.ofBool (fun w => (o.stopReady, w)) err).andThen (uninitComp t o)) Q P := by
  have hstop : Call.Triple P (fun w => (o.stop, w)) P P := .of_forall fun _ hw => hw
  have hwait : Call.Triple P (Call.ofBool (fun w => (o.stopReady, w)) err) P P :=
    .of_forall fun _ hw => hw
  exact hstop.andThen (hwait.andThen h)

/-- The unload succeeds with its calls. -/
theorem unload_fst {err : Int} (h : o.Unloads) (hm : w.compMonitorPtr = true) :
    (Call.andThen (fun w => (o.stop, w)) ((Call.ofBool (fun w => (o.stopReady, w)) err).andThen
      (uninitComp t o)) w).1 = DH_FWK_SUCCESS := by
  obtain ⟨hs, hb, hu⟩ := h
  rw [Call.andThen_fst_eq_zero, Call.andThen_fst_eq_zero]
  refine ⟨hs, if_pos hb, ?_⟩
  rw [show (Call.ofBool (fun w : Components H => (o.stopReady, w)) err (o.stop, w).2).2 = w from
    rfl, uninitComp_of_uninits hu hm]

end calls

end DHFwk
