import DHFwk.HdfOperate
import DHFwk.Runs

/-!
# The libraries behind the operators

The library of a type is opened once for an operator, when it is created, but released at
every successful unload. So an unload that leaves loads behind closes the library under an
operator that uses it, unless the release only counts or `dlclose` fails (`ClosesUnderUse`),
and a run keeps the library of every operator open exactly if no unload of it does this
(`libraries_open_iff`).

What is open without an operator is what `dlclose` could not close (`Released`), in every run.
-/

set_option linter.unusedSectionVars false

namespace DHFwk

variable {Lib : Type}

namespace HdfOperateManager

/-- The source pointer of the operator of a type. -/
def ptrAt (m : HdfOperateManager Lib) (t : DHType) : Option (SourcePtr Lib) :=
  (m.hdfOperateMap_.lookup t).map HdfOperator.sourcePtr_

/-- The handle of the open library of a type. -/
def libAt (m : HdfOperateManager Lib) (t : DHType) : Option Lib :=
  (m.sourceHandlerDataMap_.lookup t).map SourceHandlerData.sourceHandler

/-- Every operator whose source pointer came out of a library has that library open. -/
def LibrariesOpen (m : HdfOperateManager Lib) : Prop :=
  ∀ t lib, m.ptrAt t = some (.library lib) → m.libAt t = some lib

/-- The last `dlclose` for a type failed. -/
def CloseFailed (m : HdfOperateManager Lib) (t : DHType) : Prop :=
  ∃ code, m.lastDlclose.lookup t = some code ∧ code ≠ 0

/-- A library that is open for a type without an operator is one that `dlclose` failed to
close. -/
def Released (m : HdfOperateManager Lib) : Prop :=
  ∀ t, m.ptrAt t = none → m.libAt t ≠ none → m.CloseFailed t

/-- An open library has an operator and is used once, or `dlclose` failed to close it. -/
def Tracked (m : HdfOperateManager Lib) : Prop :=
  ∀ t data, m.sourceHandlerDataMap_.lookup t = some data →
    m.ptrAt t ≠ none ∧ data.refCount = 1 ∨ m.CloseFailed t

theorem Tracked.released {m : HdfOperateManager Lib} (h : m.Tracked) : m.Released := by
  intro t hp hl
  obtain ⟨lib, hlib⟩ := Option.ne_none_iff_exists'.1 hl
  obtain ⟨data, hdata, -⟩ := Option.map_eq_some_iff.1 hlib
  rcases h t data hdata with ⟨hne, -⟩ | hfail
  · exact absurd hp hne
  · exact hfail

/-! ## Other types -/

/-- A call changes nothing for other types. -/
structure SameElsewhere (t : DHType) (m m' : HdfOperateManager Lib) : Prop where
  hdfOperateMap_ : ∀ t', t' ≠ t → m'.hdfOperateMap_.lookup t' = m.hdfOperateMap_.lookup t'
  sourceHandlerDataMap_ : ∀ t', t' ≠ t →
    m'.sourceHandlerDataMap_.lookup t' = m.sourceHandlerDataMap_.lookup t'
  lastDlclose : ∀ t', t' ≠ t → m'.lastDlclose.lookup t' = m.lastDlclose.lookup t'

variable {m m' : HdfOperateManager Lib} {o : HdfOutcome Lib} {t t' : DHType}

namespace SameElsewhere

theorem refl (t : DHType) (m : HdfOperateManager Lib) : SameElsewhere t m m :=
  ⟨fun _ _ => rfl, fun _ _ => rfl, fun _ _ => rfl⟩

theorem trans {m'' : HdfOperateManager Lib} (h : SameElsewhere t m m')
    (h' : SameElsewhere t m' m'') : SameElsewhere t m m'' where
  hdfOperateMap_ t' ht := (h'.hdfOperateMap_ t' ht).trans (h.hdfOperateMap_ t' ht)
  sourceHandlerDataMap_ t' ht :=
    (h'.sourceHandlerDataMap_ t' ht).trans (h.sourceHandlerDataMap_ t' ht)
  lastDlclose t' ht := (h'.lastDlclose t' ht).trans (h.lastDlclose t' ht)

theorem setOperator (h : SameElsewhere t m m') (hdfOperate : HdfOperator Lib) :
    SameElsewhere t m { m' with hdfOperateMap_ := m'.hdfOperateMap_.set t hdfOperate } :=
  { h with hdfOperateMap_ := fun t' ht =>
      (Table.lookup_set_ne m'.hdfOperateMap_ ht _).trans (h.hdfOperateMap_ t' ht) }

theorem setData (h : SameElsewhere t m m') (data : SourceHandlerData Lib) :
    SameElsewhere t m
      { m' with sourceHandlerDataMap_ := m'.sourceHandlerDataMap_.set t data } :=
  { h with sourceHandlerDataMap_ := fun t' ht =>
      (Table.lookup_set_ne m'.sourceHandlerDataMap_ ht _).trans (h.sourceHandlerDataMap_ t' ht) }

theorem count (h : SameElsewhere t m m') (use : Int) :
    SameElsewhere t m { m' with hdfInuseRefCount_ := use } :=
  ⟨h.hdfOperateMap_, h.sourceHandlerDataMap_, h.lastDlclose⟩

theorem ptrAt (h : SameElsewhere t m m') (ht : t' ≠ t) : m'.ptrAt t' = m.ptrAt t' := by
  rw [HdfOperateManager.ptrAt, HdfOperateManager.ptrAt, h.hdfOperateMap_ t' ht]

theorem libAt (h : SameElsewhere t m m') (ht : t' ≠ t) : m'.libAt t' = m.libAt t' := by
  rw [HdfOperateManager.libAt, HdfOperateManager.libAt, h.sourceHandlerDataMap_ t' ht]

/-- After a call on one type the libraries of all are open if the library of that one is. -/
theorem librariesOpen_iff (h : SameElsewhere t m m') (ho : m.LibrariesOpen) :
    m'.LibrariesOpen ↔
      ∀ lib, m'.ptrAt t = some (.library lib) → m'.libAt t = some lib := by
  constructor
  · exact fun ho' => ho' t
  · intro hself t' lib hp
    by_cases ht : t' = t
    · subst ht
      exact hself lib hp
    · rw [h.ptrAt ht] at hp
      rw [h.libAt ht]
      exact ho t' lib hp

/-- After a call on one type all libraries are tracked if the library of that one is. -/
theorem tracked (h : SameElsewhere t m m') (htr : m.Tracked)
    (hself : ∀ data, m'.sourceHandlerDataMap_.lookup t = some data →
      m'.ptrAt t ≠ none ∧ data.refCount = 1 ∨ m'.CloseFailed t) : m'.Tracked := by
  intro t' data hd
  by_cases ht : t' = t
  · subst ht
    exact hself data hd
  · rw [h.sourceHandlerDataMap_ t' ht] at hd
    rw [h.ptrAt ht, CloseFailed, h.lastDlclose t' ht]
    exact htr t' data hd

end SameElsewhere

/-! ## Loading -/

theorem ptrAt_set (m : HdfOperateManager Lib) (t : DHType) (hdfOperate : HdfOperator Lib)
    (use : Int) : ({ m with
      hdfOperateMap_ := m.hdfOperateMap_.set t hdfOperate,
      hdfInuseRefCount_ := use } : HdfOperateManager Lib).ptrAt t =
        some hdfOperate.sourcePtr_ := by
  rw [ptrAt, Table.lookup_set_self]
  rfl

/-- A load finds no source, or writes back the operator it has found or created. -/
theorem load_writes (o : HdfOutcome Lib) (t : DHType) (m : HdfOperateManager Lib) :
    (m.loadDistributedHDF o t).manager = m ∨
      ∃ hdfOperate m' hdfOperate' use, m.findOrCreate o t = .ok (hdfOperate, m') ∧
        hdfOperate'.sourcePtr_ = hdfOperate.sourcePtr_ ∧
        (m.loadDistributedHDF o t).manager = { m' with
          hdfOperateMap_ := m'.hdfOperateMap_.set t hdfOperate',
          hdfInuseRefCount_ := use } := by
  rcases m.loadDistributedHDF_cases o t with h | ⟨hdfOperate, m', hf, h | h⟩
  · rw [h]
    exact Or.inl rfl
  · exact Or.inr ⟨hdfOperate, m', { hdfOperate with hdfLoadRef_ := hdfOperate.hdfLoadRef_ + 1 },
      m'.hdfInuseRefCount_ + 1, hf, rfl, congrArg HdfResult.manager h⟩
  · exact Or.inr ⟨hdfOperate, m', hdfOperate, m'.hdfInuseRefCount_, hf, rfl,
      congrArg HdfResult.manager h⟩

/-- A load that changes a source pointer has created the operator, with a pointer from the
component loader, or out of the library, which is opened or used once more. -/
theorem load_opens (o : HdfOutcome Lib) (t : DHType) (m : HdfOperateManager Lib) :
    let m' := (m.loadDistributedHDF o t).manager
    SameElsewhere t m m' ∧ m'.lastDlclose = m.lastDlclose ∧
      (m'.ptrAt t = m.ptrAt t ∧ m'.sourceHandlerDataMap_ = m.sourceHandlerDataMap_ ∨
        m.ptrAt t = none ∧
          (m'.ptrAt t = some .loader ∧ m'.sourceHandlerDataMap_ = m.sourceHandlerDataMap_ ∨
            ∃ data : SourceHandlerData Lib, m'.ptrAt t = some (.library data.sourceHandler) ∧
              m'.sourceHandlerDataMap_ = m.sourceHandlerDataMap_.set t data ∧
              (m.libAt t = none → data.refCount = 1))) := by
  intro m'
  rcases load_writes o t m with h | ⟨op, m₁, op', use, hf, hptr, h⟩
  · rw [show m' = m from h]
    exact ⟨.refl t m, rfl, Or.inl ⟨rfl, rfl⟩⟩
  have hself : m'.ptrAt t = some op.sourcePtr_ := by
    rw [show m' = _ from h, ptrAt_set, hptr]
  rw [show m' = _ from h] at hself ⊢
  rcases findOrCreate_cases hf with ⟨hl, rfl⟩ | ⟨hl, ptr, m₂, hs, rfl, rfl⟩
  · refine ⟨((SameElsewhere.refl t m₁).setOperator op').count use, rfl, Or.inl ⟨?_, rfl⟩⟩
    rw [hself, ptrAt, hl]
    rfl
  · have hnone : m.ptrAt t = none := by
      rw [ptrAt, hl]
      rfl
    unfold sourcePtr at hs
    split_ifs at hs
    · obtain ⟨data, rfl, rfl, hdata⟩ := rigidGetSourcePtr_cases hs
      refine ⟨((((SameElsewhere.refl t m).setData data).setOperator _).setOperator op').count use,
        rfl, Or.inr ⟨hnone, Or.inr ⟨data, hself, rfl, fun hlib => ?_⟩⟩⟩
      rcases hdata with ⟨-, hone⟩ | ⟨old, hold, -⟩
      · exact hone
      · rw [libAt, hold] at hlib
        cases hlib
    · obtain ⟨rfl, rfl⟩ := Prod.mk.inj (Except.ok.inj hs)
      exact ⟨(((SameElsewhere.refl t m).setOperator _).setOperator op').count use, rfl,
        Or.inr ⟨hnone, Or.inl ⟨hself, rfl⟩⟩⟩

theorem librariesOpen_load (h : m.LibrariesOpen) :
    (m.loadDistributedHDF o t).manager.LibrariesOpen := by
  obtain ⟨helse, -, hself⟩ := load_opens o t m
  rw [helse.librariesOpen_iff h]
  intro lib hp
  rcases hself with ⟨hptr, hdata⟩ | ⟨-, ⟨hptr, -⟩ | ⟨data, hptr, hdata, -⟩⟩
  · rw [libAt, hdata]
    exact h t lib (hptr ▸ hp)
  · rw [hptr] at hp
    cases hp
  · rw [hptr] at hp
    cases hp
    rw [libAt, hdata, Table.lookup_set_self]
    rfl

theorem tracked_load (h : m.Tracked) : (m.loadDistributedHDF o t).manager.Tracked := by
  obtain ⟨helse, hclose, hself⟩ := load_opens o t m
  refine helse.tracked h fun data hd => ?_
  rw [CloseFailed, hclose]
  rcases hself with ⟨hptr, hdata⟩ | ⟨hnone, ⟨hptr, hdata⟩ | ⟨new, hptr, hdata, hone⟩⟩
  · rw [hdata] at hd
    rw [hptr]
    exact h t data hd
  · rw [hdata] at hd
    rcases h t data hd with ⟨hne, -⟩ | hfail
    · exact absurd hnone hne
    · exact Or.inr hfail
  · rw [hdata, Table.lookup_set_self] at hd
    obtain rfl := Option.some.inj hd
    by_cases hlib : m.libAt t = none
    · exact Or.inl ⟨hptr ▸ Option.some_ne_none _, hone hlib⟩
    · exact Or.inr (h.released t hnone hlib)

/-! ## Unloading -/

/-- A release closes the library of a type : it is used once, and `dlclose` succeeds. -/
def Closes (m : HdfOperateManager Lib) (o : HdfOutcome Lib) (t : DHType) : Prop :=
  ∃ data, m.sourceHandlerDataMap_.lookup t = some data ∧ data.refCount ≤ 1 ∧ o.dlclose = 0

/-- An unload closes the library under an operator that uses it and keeps loads. -/
def ClosesUnderUse (m : HdfOperateManager Lib) (o : HdfOutcome Lib) (t : DHType) : Prop :=
  (∃ op lib, m.hdfOperateMap_.lookup t = some op ∧ op.sourcePtr_ = .library lib ∧
    1 < op.hdfLoadRef_) ∧ m.Closes o t

/-- A release closes the library of its type or leaves its handle; if the library is used once
or could not be closed before, it stays open only if `dlclose` fails. -/
theorem release_closes (o : HdfOutcome Lib) (t : DHType) (m : HdfOperateManager Lib) :
    let m' := (m.rigidReleaseSourcePtr o t).2
    SameElsewhere t m m' ∧
      (m'.libAt t = m.libAt t ∧ ¬m.Closes o t ∨ m'.libAt t = none ∧ m.Closes o t) ∧
      ((∀ data, m.sourceHandlerDataMap_.lookup t = some data →
          data.refCount = 1 ∨ m.CloseFailed t) → m'.libAt t ≠ none → m'.CloseFailed t) := by
  intro m'
  rcases m.rigidReleaseSourcePtr_cases o t with
    ⟨hl, h⟩ | ⟨data, hl, ⟨href, h⟩ | ⟨href, hc, h⟩ | ⟨href, hc, h⟩⟩
  · have hlib : m.libAt t = none := by
      rw [libAt, hl]
      rfl
    rw [show m' = m from h]
    refine ⟨.refl t m, Or.inl ⟨rfl, ?_⟩, fun _ hne => absurd hlib hne⟩
    rintro ⟨data, hd, -⟩
    rw [hl] at hd
    cases hd
  · rw [show m' = _ from h]
    refine ⟨(SameElsewhere.refl t m).setData _, Or.inl ⟨?_, ?_⟩, fun htr _ => ?_⟩
    · rw [libAt, libAt, Table.lookup_set_self, hl]
      rfl
    · rintro ⟨data', hd, hone, -⟩
      obtain rfl := Option.some.inj (hl.symm.trans hd)
      omega
    · rcases htr data hl with hone | hfail
      · omega
      · exact hfail
  · rw [show m' = _ from h]
    refine ⟨⟨fun _ _ => rfl, fun _ _ => rfl, fun t' ht => Table.lookup_set_ne _ ht _⟩,
      Or.inl ⟨rfl, fun ⟨_, _, _, h0⟩ => hc h0⟩, fun _ _ => ⟨o.dlclose, ?_, hc⟩⟩
    exact Table.lookup_set_self ..
  · have hgone : m'.libAt t = none := by
      rw [show m' = _ from h, libAt, Table.lookup_remove_self]
      rfl
    refine ⟨?_, Or.inr ⟨hgone, data, hl, href, hc⟩, fun _ hne => absurd hgone hne⟩
    rw [show m' = _ from h]
    exact ⟨fun _ _ => rfl, fun t' ht => Table.lookup_remove_ne _ ht,
      fun t' ht => Table.lookup_set_ne _ ht _⟩

/-- An unload changes nothing, or ends with the operator counted down. -/
theorem unLoad_finishes (o : HdfOutcome Lib) (t : DHType) (m : HdfOperateManager Lib) :
    (m.unLoadDistributedHDF o t).manager = m ∧ (∀ op, m.hdfOperateMap_.lookup t = some op →
        op.hdfLoadRef_ ≤ 1) ∨
      ∃ op op', m.hdfOperateMap_.lookup t = some op ∧ op'.sourcePtr_ = op.sourcePtr_ ∧
        (op'.hdfLoadRef_ ≤ 0 ↔ op.hdfLoadRef_ ≤ 1) ∧
        (m.unLoadDistributedHDF o t).manager = (m.finishUnLoad o t op').manager := by
  rcases m.unLoadDistributedHDF_cases o t with
    ⟨hl, hr⟩ | ⟨op, hl, ⟨href, hr⟩ | ⟨href, hr⟩ | ⟨href, hr⟩⟩
  · refine Or.inl ⟨hr ▸ rfl, fun op hop => ?_⟩
    rw [hl] at hop
    cases hop
  · exact Or.inr ⟨op, op, hl, rfl, by omega, congrArg HdfResult.manager hr⟩
  · exact Or.inr ⟨op, { op with hdfLoadRef_ := op.hdfLoadRef_ - 1 }, hl, rfl,
      show op.hdfLoadRef_ - 1 ≤ 0 ↔ _ by omega, congrArg HdfResult.manager hr⟩
  · refine Or.inl ⟨congrArg HdfResult.manager hr, fun op' hop => ?_⟩
    obtain rfl := Option.some.inj (hl.symm.trans hop)
    omega

/-- The end of an unload erases the operator or keeps its pointer, and releases the library. -/
theorem finishUnLoad_releases (o : HdfOutcome Lib) (t : DHType) (m : HdfOperateManager Lib)
    (op : HdfOperator Lib) :
    let m' := (m.finishUnLoad o t op).manager
    SameElsewhere t m m' ∧
      m'.ptrAt t = (if op.hdfLoadRef_ ≤ 0 then none else some op.sourcePtr_) ∧
      (m'.libAt t = m.libAt t ∧ ¬m.Closes o t ∨ m'.libAt t = none ∧ m.Closes o t) ∧
      (m.Tracked → m'.libAt t ≠ none → m'.CloseFailed t) := by
  intro m'
  let counted : HdfOperateManager Lib := { m with hdfOperateMap_ :=
    if op.isNeedErase then m.hdfOperateMap_.remove t else m.hdfOperateMap_.set t op }
  have hcounted : SameElsewhere t m counted := by
    refine ⟨fun t' ht => ?_, fun _ _ => rfl, fun _ _ => rfl⟩
    show (ite _ _ _ : Table DHType (HdfOperator Lib)).lookup t' = _
    split_ifs
    · exact Table.lookup_remove_ne _ ht
    · exact Table.lookup_set_ne _ ht _
  obtain ⟨hrel, hlib, hfail⟩ := release_closes o t counted
  refine ⟨(hcounted.trans hrel).count _, ?_, hlib, fun htr => hfail fun data hd => ?_⟩
  · rw [ptrAt, finishUnLoad_hdfOperateMap]
    split_ifs
    · rw [Table.lookup_remove_self]
      rfl
    · rw [Table.lookup_set_self]
      rfl
  · rcases htr t data hd with ⟨-, hone⟩ | hf
    · exact Or.inl hone
    · exact Or.inr hf

/-- After an unload the libraries are open exactly if it closes none under use. -/
theorem librariesOpen_unLoad (h : m.LibrariesOpen) :
    (m.unLoadDistributedHDF o t).manager.LibrariesOpen ↔ ¬m.ClosesUnderUse o t := by
  rcases unLoad_finishes o t m with ⟨hr, hle⟩ | ⟨op, op', hl, hptr, href, hr⟩
  · rw [hr]
    refine iff_of_true h ?_
    rintro ⟨⟨op, lib, hop, -, hgt⟩, -⟩
    exact absurd (hle op hop) (by omega)
  have hold : m.ptrAt t = some op.sourcePtr_ := by
    rw [ptrAt, hl]
    rfl
  obtain ⟨helse, hnew, hlib, -⟩ := finishUnLoad_releases o t m op'
  rw [hr, helse.librariesOpen_iff h, hnew]
  constructor
  · rintro hopen ⟨⟨op'', lib, hop, hp, hgt⟩, hclose⟩
    obtain rfl := Option.some.inj (hl.symm.trans hop)
    rw [if_neg (by omega), hptr, hp] at hopen
    rcases hlib with ⟨-, hno⟩ | ⟨hnone, -⟩
    · exact hno hclose
    · exact Option.some_ne_none _ ((hopen lib rfl).symm.trans hnone)
  · intro hno lib hp
    by_cases hle : op'.hdfLoadRef_ ≤ 0
    · rw [if_pos hle] at hp
      cases hp
    · rw [if_neg hle, hptr] at hp
      have hp' := Option.some.inj hp
      rcases hlib with ⟨hsame, -⟩ | ⟨-, hclose⟩
      · rw [hsame]
        exact h t lib (hold.trans hp)
      · exact absurd ⟨⟨op, lib, hl, hp', by omega⟩, hclose⟩ hno

theorem tracked_unLoad (h : m.Tracked) : (m.unLoadDistributedHDF o t).manager.Tracked := by
  rcases unLoad_finishes o t m with ⟨hr, -⟩ | ⟨op, op', -, -, -, hr⟩
  · rwa [hr]
  · obtain ⟨helse, -, -, hfail⟩ := finishUnLoad_releases o t m op'
    rw [hr]
    refine helse.tracked h fun data hd => Or.inr (hfail h ?_)
    rw [libAt, hd]
    exact Option.some_ne_none _

/-! ## Resetting -/

/-- A reset moves no pointer. -/
theorem ptrAt_resetRefCount (t t' : DHType) (m : HdfOperateManager Lib) :
    (m.resetRefCount t).ptrAt t' = m.ptrAt t' := by
  unfold resetRefCount
  split
  · rfl
  · rename_i op hl
    by_cases ht : t' = t
    · subst ht
      rw [ptrAt, ptrAt, Table.lookup_set_self, hl]
      rfl
    · rw [ptrAt, ptrAt, Table.lookup_set_ne _ ht]

theorem librariesOpen_resetRefCount (h : m.LibrariesOpen) :
    (m.resetRefCount t).LibrariesOpen := by
  intro t' lib hp
  rw [ptrAt_resetRefCount] at hp
  have hsame : (m.resetRefCount t).libAt t' = m.libAt t' := by
    unfold resetRefCount
    split <;> rfl
  rw [hsame]
  exact h t' lib hp

theorem tracked_resetRefCount (h : m.Tracked) : (m.resetRefCount t).Tracked := by
  intro t' data hd
  have hdata : (m.resetRefCount t).sourceHandlerDataMap_ = m.sourceHandlerDataMap_ := by
    unfold resetRefCount
    split <;> rfl
  have hclose : (m.resetRefCount t).lastDlclose = m.lastDlclose := by
    unfold resetRefCount
    split <;> rfl
  rw [hdata] at hd
  rw [ptrAt_resetRefCount, CloseFailed, hclose]
  exact h t' data hd

end HdfOperateManager

/-! ## Runs -/

namespace HdfResult

/-- No library is closed under an operator that uses it. -/
def SparesLibrary (r : HdfResult Lib) (l : HdfStep Lib) : Prop :=
  match l.op with
  | .unLoad t => ¬r.manager.ClosesUnderUse l.outcome t
  | _ => True

variable {r : HdfResult Lib}

theorem librariesOpen_step (h : r.manager.LibrariesOpen) (l : HdfStep Lib) :
    (r.step l).manager.LibrariesOpen ↔ r.SparesLibrary l := by
  obtain ⟨op, o⟩ := l
  cases op with
  | load t => exact iff_of_true (HdfOperateManager.librariesOpen_load h) trivial
  | unLoad t => exact HdfOperateManager.librariesOpen_unLoad h
  | resetRefCount t => exact iff_of_true (HdfOperateManager.librariesOpen_resetRefCount h) trivial

theorem tracked_step (h : r.manager.Tracked) (l : HdfStep Lib) : (r.step l).manager.Tracked := by
  obtain ⟨op, o⟩ := l
  cases op with
  | load t => exact HdfOperateManager.tracked_load h
  | unLoad t => exact HdfOperateManager.tracked_unLoad h
  | resetRefCount t => exact HdfOperateManager.tracked_resetRefCount h

end HdfResult

/-- After every call of a run the library of every operator is open, and none is left open
without an operator unless `dlclose` failed to close it, exactly if no unload of the run
closes a library under an operator that uses it. -/
theorem libraries_open_iff (steps : List (HdfStep Lib)) :
    Runs.Along HdfResult.step HdfResult.SparesLibrary HdfResult.init steps ↔
      ∀ pre post, steps = pre ++ post →
        let m := (pre.foldl HdfResult.step HdfResult.init).manager
        m.LibrariesOpen ∧ m.Released := by
  have hstep : ∀ (r : HdfResult Lib) (l : HdfStep Lib), r.manager.Tracked →
      (r.step l).manager.Tracked := fun _ l h => HdfResult.tracked_step h l
  have hinit : (HdfResult.init : HdfResult Lib).manager.Tracked := fun _ _ h => by cases h
  have hopen : (HdfResult.init : HdfResult Lib).manager.LibrariesOpen := fun _ _ h => by cases h
  refine Runs.along_iff (P := fun r => r.manager.LibrariesOpen ∧ r.manager.Released)
    hstep (fun r l htr ho => ?_) steps hinit ⟨hopen, hinit.released⟩
  rw [← HdfResult.librariesOpen_step ho.1 l]
  exact and_iff_left (hstep r l htr).released

/-- The audio is loaded twice, with its library opened for it : the first unload closes the
library, and the operator goes on with a pointer out of it. -/
theorem library_closed_under_use :
    let step (op : HdfOp) : HdfStep Unit :=
      { op := op,
        outcome := { getSource := ERR_DH_FWK_LOADER_HANDLER_IS_NULL, dlopen := some () } }
    let m := ([HdfOp.load DHType.AUDIO, .load DHType.AUDIO, .unLoad DHType.AUDIO].map step).foldl
      HdfResult.step HdfResult.init |>.manager
    m.ptrAt DHType.AUDIO = some (.library ()) ∧ m.libAt DHType.AUDIO = none := by
  decide

end DHFwk
