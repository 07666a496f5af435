import DHFwk.CriticalFlag

/-!
# The status listeners of the source side

A caller registers a listener for the hardware of a device. The tables are kept by type and by
caller and do not know the device : `RegisterDHStatusListener` and `UnregisterDHStatusListener`
walk over the types that the component loader lists, and stop at the first one that they refuse.

So a caller hears of any device that it enables hardware of, is refused a second device, and loses
all of them with the first. In a run of callers that keep to one device, and to one list of types
(`Single`), what is told is what was asked for (`status_listeners_follow`).
-/

namespace DHFwk

open Runs

/-- What `GetAllCompTypes` lists : the keys of a map. -/
structure CompTypes where
  list : List DHType
  nodup : list.Nodup

section calls

variable {L W : Type} (q : Queries) (c : SourceCalls W) (networkId : String) (d : DHDescriptor)
  (caller : DHStatusCtrlKey) (m : SourceManager L W)

/-- The listener of a caller for a type. -/
def SourceManager.listenerOf (dhType : DHType) : Option L :=
  (m.status dhType).listeners.lookup caller

/-- The listeners that `ForceDisableSourceInternal` collects, with their callers. -/
def SourceManager.forceCallers : List (DHStatusCtrlKey × L) :=
  let s := m.status d.dhType
  (s.enableInfo { networkId := networkId, dhId := d.id }).dhStatusCtrl.entries.filterMap fun e =>
    if e.2.enableState = .DISABLED then none
    else (s.listeners.lookup e.1).map fun listener => (e.1, listener)

/-- Their listeners are those that the model of the call collects. -/
theorem SourceManager.map_forceCallers :
    (m.forceCallers networkId d).map Prod.snd = m.forceListeners networkId d := by
  rw [forceCallers, forceListeners, DHStatus.enabledListeners, List.map_filterMap]
  refine List.filterMap_congr fun e _ => ?_
  split_ifs
  · rfl
  · rw [Option.map_map]
    exact Option.map_id'

/-- What a call leads to : its code, the manager after it, and who is told. -/
structure Outcome (L W : Type) where
  ret : Int
  manager : SourceManager L W
  told : List (DHStatusCtrlKey × L) := []

/-- Only a call that succeeds is told of. -/
def Outcome.of (r : Int × SourceManager L W) (told : List (DHStatusCtrlKey × L)) : Outcome L W :=
  ⟨r.1, r.2, if r.1 = DH_FWK_SUCCESS then told else []⟩

/-- `EnableSource`. -/
def callEnableSource : Outcome L W :=
  .of (m.enableSourceInternal q c networkId d caller)
    ((m.callerListener d caller).map fun listener => (caller, listener)).toList

/-- `DisableSource`. -/
def callDisableSource : Outcome L W :=
  .of (m.disableSourceInternal q c networkId d caller)
    ((m.callerListener d caller).map fun listener => (caller, listener)).toList

/-- `ForceDisableSource`. -/
def callForceDisableSource : Outcome L W :=
  if ¬q.isDHTypeSupport d.dhType then ⟨ERR_DH_FWK_TYPE_NOT_EXIST, m, []⟩
  else .of (m.forceDisableSourceInternal q c networkId d) (m.forceCallers networkId d)

/-- `RegisterDHStatusListener` : the device is not read. -/
def callRegister (listener : L) (compTypes : CompTypes) : Outcome L W :=
  let r := registerDHStatusListener caller listener compTypes.list m.dhSourceStatus_
  { ret := r.1, manager := { m with dhSourceStatus_ := r.2 } }

/-- `UnregisterDHStatusListener` : neither the device nor the listener is read. -/
def callUnregister (compTypes : CompTypes) : Outcome L W :=
  let r := unregisterDHStatusListener caller compTypes.list m.dhSourceStatus_
  { ret := r.1, manager := { m with dhSourceStatus_ := r.2 } }

end calls

/-! ## Runs -/

/-- A call, with what it is told. -/
inductive ListenerStep (L W : Type)
  | registerDHStatusListener (networkId : String) (caller : DHStatusCtrlKey) (listener : L)
    (compTypes : CompTypes)
  | unregisterDHStatusListener (networkId : String) (caller : DHStatusCtrlKey) (listener : L)
    (compTypes : CompTypes)
  | enableSource (networkId : String) (d : DHDescriptor) (caller : DHStatusCtrlKey) (q : Queries)
    (c : SourceCalls W)
  | disableSource (networkId : String) (d : DHDescriptor) (caller : DHStatusCtrlKey) (q : Queries)
    (c : SourceCalls W)
  | forceDisableSource (networkId : String) (d : DHDescriptor) (q : Queries) (c : SourceCalls W)

namespace ListenerStep

variable {L W : Type}

def networkId : ListenerStep L W → String
  | registerDHStatusListener networkId .. | unregisterDHStatusListener networkId ..
  | enableSource networkId .. | disableSource networkId .. | forceDisableSource networkId .. =>
    networkId

def run (m : SourceManager L W) : ListenerStep L W → Outcome L W
  | registerDHStatusListener _ caller listener compTypes =>
    callRegister caller m listener compTypes
  | unregisterDHStatusListener _ caller _ compTypes => callUnregister caller m compTypes
  | enableSource networkId d caller q c => callEnableSource q c networkId d caller m
  | disableSource networkId d caller q c => callDisableSource q c networkId d caller m
  | forceDisableSource networkId d q c => callForceDisableSource q c networkId d m

end ListenerStep

/-- The manager, and the devices that each caller has registered for and not unregistered since. -/
structure ListenerRun (L W : Type) where
  manager : SourceManager L W
  registered : List (DHStatusCtrlKey × String) := []

namespace ListenerRun

variable {L W : Type} (r : ListenerRun L W)

/-- One call. -/
def step (l : ListenerStep L W) : ListenerRun L W where
  manager := (l.run r.manager).manager
  registered :=
    if (l.run r.manager).ret ≠ DH_FWK_SUCCESS then r.registered
    else match l with
      | .registerDHStatusListener networkId caller .. => (caller, networkId) :: r.registered
      | .unregisterDHStatusListener networkId caller .. =>
        r.registered.filter (· ≠ (caller, networkId))
      | _ => r.registered

/-- The caller has registered for the device if it has for any. -/
def Watches (caller : DHStatusCtrlKey) (networkId : String) : Prop :=
  ∀ e ∈ r.registered, e.1 = caller → (caller, networkId) ∈ r.registered

/-- A step of callers that keep to one device and to one list of types. -/
def Single : ListenerStep L W → Prop
  -- a caller without a listener for any of the types, or a registration made before
  | .registerDHStatusListener networkId caller _ compTypes =>
    (∀ t ∈ compTypes.list, r.manager.listenerOf caller t = none) ∨
      (caller, networkId) ∈ r.registered ∧
        ∃ t ∈ compTypes.list.head?, r.manager.listenerOf caller t ≠ none
  -- a caller without a listener for the first type, or with one for each of the types, and for
  -- no other type and no other device
  | .unregisterDHStatusListener networkId caller _ compTypes =>
    (∃ t ∈ compTypes.list.head?, r.manager.listenerOf caller t = none) ∨
      (∀ e ∈ r.registered, e.1 = caller → e.2 = networkId) ∧
        ∀ t, t ∈ compTypes.list ↔ r.manager.listenerOf caller t ≠ none
  | .enableSource networkId _ caller _ _ | .disableSource networkId _ caller _ _ =>
    r.Watches caller networkId
  -- the callers that have the hardware enabled
  | .forceDisableSource networkId d _ _ => ∀ e ∈ r.registered,
    (r.manager.status d.dhType).enableState ⟨networkId, d.id⟩ e.1 ≠ .DISABLED →
      r.Watches e.1 networkId

/-- What a call should do : it tells only callers that have registered for its device. A
registration for another device is accepted, one device that is unregistered leaves the listeners
of a caller that has registered for others, and an error leaves all listeners as they were. -/
structure Follows (l : ListenerStep L W) : Prop where
  told : ∀ e ∈ (l.run r.manager).told, (e.1, l.networkId) ∈ r.registered
  accepted : ∀ networkId caller listener compTypes,
    l = .registerDHStatusListener networkId caller listener compTypes →
    (caller, networkId) ∉ r.registered → (∃ e ∈ r.registered, e.1 = caller) →
      (l.run r.manager).ret = DH_FWK_SUCCESS
  kept : ∀ networkId caller listener compTypes,
    l = .unregisterDHStatusListener networkId caller listener compTypes →
    (∃ e ∈ r.registered, e.1 = caller ∧ e.2 ≠ networkId) →
      ∀ t, (l.run r.manager).manager.listenerOf caller t = r.manager.listenerOf caller t
  unchanged : (l.run r.manager).ret ≠ DH_FWK_SUCCESS → ∀ caller t,
    (l.run r.manager).manager.listenerOf caller t = r.manager.listenerOf caller t

/-- Every listener is that of a caller that has registered for some device. -/
def Inv : Prop :=
  ∀ caller t, r.manager.listenerOf caller t ≠ none → ∃ e ∈ r.registered, e.1 = caller

end ListenerRun

/-! ## What the walk over the types does -/

section walk

variable {K L : Type} (refuses : Table DHStatusCtrlKey L → Bool)
  (change : Table DHStatusCtrlKey L → Table DHStatusCtrlKey L)

/-- A walk that no type refuses changes the listeners of all of them. -/
theorem changeListeners_of_accepted : ∀ {compTypes : List DHType} {m : Table DHType (DHStatus K L)},
    compTypes.Nodup → (∀ t ∈ compTypes, refuses (m.get t).listeners = false) →
      (changeListeners refuses change compTypes m).1 = DH_FWK_SUCCESS ∧
        ∀ t, ((changeListeners refuses change compTypes m).2.get t).listeners =
          if t ∈ compTypes then change (m.get t).listeners else (m.get t).listeners
  | [], m, _, _ => ⟨rfl, fun t => by simp [changeListeners]⟩
  | dhType :: compTypes, m, hnodup, h => by
    obtain ⟨hnotMem, hnodup⟩ := List.nodup_cons.1 hnodup
    have hfirst := h dhType List.mem_cons_self
    unfold changeListeners
    simp only [hfirst, Bool.false_eq_true, if_false]
    obtain ⟨hret, hall⟩ := changeListeners_of_accepted
      (m := m.set dhType { m.get dhType with listeners := change (m.get dhType).listeners }) hnodup
      fun t ht => by
        rw [Table.get_set_ne _ fun heq : t = dhType => hnotMem (heq ▸ ht)]
        exact h t (List.mem_cons_of_mem _ ht)
    refine ⟨hret, fun t => ?_⟩
    rw [hall t, Table.get_set]
    by_cases heq : t = dhType
    · subst heq
      simp [hnotMem]
    · simp [heq]

/-- A walk that the first type refuses changes nothing. -/
theorem changeListeners_of_refused {compTypes : List DHType} {m : Table DHType (DHStatus K L)}
    (h : ∃ t ∈ compTypes.head?, refuses (m.get t).listeners = true) :
    (changeListeners refuses change compTypes m).1 ≠ DH_FWK_SUCCESS ∧
      ∀ t, (changeListeners refuses change compTypes m).2.get t = m.get t := by
  obtain ⟨dhType, hhead, hrefuses⟩ := h
  cases compTypes with
  | nil => cases hhead
  | cons first compTypes =>
    obtain rfl : first = dhType := Option.some_inj.1 hhead
    unfold changeListeners
    simp only [hrefuses, if_true]
    refine ⟨by decide, fun t => ?_⟩
    rw [Table.get_set]
    split_ifs with heq
    · rw [heq]
    · rfl

end walk

section calls

variable {L W : Type} {q : Queries} {c : SourceCalls W} {networkId : String} {d : DHDescriptor}
  {caller : DHStatusCtrlKey} {m : SourceManager L W} {compTypes : CompTypes}

theorem callRegister_of_none (h : ∀ t ∈ compTypes.list, m.listenerOf caller t = none)
    (listener : L) :
    (callRegister caller m listener compTypes).ret = DH_FWK_SUCCESS ∧ ∀ caller' t,
      (callRegister caller m listener compTypes).manager.listenerOf caller' t =
        if t ∈ compTypes.list ∧ caller' = caller then some listener else m.listenerOf caller' t := by
  obtain ⟨hret, hall⟩ := changeListeners_of_accepted
    (fun listeners => (listeners.lookup caller).isSome)
    (fun listeners => listeners.set caller listener) compTypes.nodup
    fun t ht => by rw [Option.isSome_eq_false_iff, Option.isNone_iff_eq_none]; exact h t ht
  refine ⟨hret, fun caller' t => ?_⟩
  show ((changeListeners _ _ _ _).2.get t).listeners.lookup caller' = _
  rw [hall t]
  by_cases ht : t ∈ compTypes.list
  · rw [if_pos ht, Table.lookup_set]
    simp [ht, SourceManager.listenerOf, SourceManager.status]
  · rw [if_neg ht, if_neg fun h => ht h.1]
    rfl

theorem callRegister_of_some (h : ∃ t ∈ compTypes.list.head?, m.listenerOf caller t ≠ none)
    (listener : L) :
    (callRegister caller m listener compTypes).ret ≠ DH_FWK_SUCCESS ∧ ∀ caller' t,
      (callRegister caller m listener compTypes).manager.listenerOf caller' t =
        m.listenerOf caller' t := by
  obtain ⟨t, ht, hsome⟩ := h
  obtain ⟨hret, hall⟩ := changeListeners_of_refused
    (fun listeners => (listeners.lookup caller).isSome)
    (fun listeners => listeners.set caller listener) (m := m.dhSourceStatus_)
    ⟨t, ht, Option.isSome_iff_ne_none.2 hsome⟩
  refine ⟨hret, fun caller' t => ?_⟩
  exact congrArg (fun s : DHSourceStatus L => s.listeners.lookup caller') (hall t)

theorem callUnregister_of_none (h : ∃ t ∈ compTypes.list.head?, m.listenerOf caller t = none) :
    (callUnregister caller m compTypes).ret ≠ DH_FWK_SUCCESS ∧ ∀ caller' t,
      (callUnregister caller m compTypes).manager.listenerOf caller' t =
        m.listenerOf caller' t := by
  obtain ⟨t, ht, hnone⟩ := h
  obtain ⟨hret, hall⟩ := changeListeners_of_refused
    (fun listeners => (listeners.lookup caller).isNone)
    (fun listeners => listeners.remove caller) (m := m.dhSourceStatus_)
    ⟨t, ht, Option.isNone_iff_eq_none.2 hnone⟩
  refine ⟨hret, fun caller' t => ?_⟩
  exact congrArg (fun s : DHSourceStatus L => s.listeners.lookup caller') (hall t)

theorem callUnregister_of_some (h : ∀ t ∈ compTypes.list, m.listenerOf caller t ≠ none) :
    (callUnregister caller m compTypes).ret = DH_FWK_SUCCESS ∧ ∀ caller' t,
      (callUnregister caller m compTypes).manager.listenerOf caller' t =
        if t ∈ compTypes.list ∧ caller' = caller then none else m.listenerOf caller' t := by
  obtain ⟨hret, hall⟩ := changeListeners_of_accepted
    (fun listeners => (listeners.lookup caller).isNone)
    (fun listeners => listeners.remove caller) compTypes.nodup
    fun t ht => by rw [Option.isNone_eq_false_iff, Option.isSome_iff_ne_none]; exact h t ht
  refine ⟨hret, fun caller' t => ?_⟩
  show ((changeListeners _ _ _ _).2.get t).listeners.lookup caller' = _
  rw [hall t]
  by_cases ht : t ∈ compTypes.list
  · rw [if_pos ht, Table.lookup_remove]
    simp [ht, SourceManager.listenerOf, SourceManager.status]
  · rw [if_neg ht, if_neg fun h => ht h.1]
    rfl

/-- An enable or a disable keeps the listeners. -/
theorem listenerOf_run (op : SourceOp) (t : DHType) :
    (op.run q c m).2.listenerOf caller t = m.listenerOf caller t := by
  have hstep := op.statusStep q c m
  have hlisteners : ((op.run q c m).2.status t).listeners = (m.status t).listeners := by
    by_cases ht : t = op.statusOp.dhType
    · subst ht
      exact hstep.change.listeners
    · exact congrArg DHStatus.listeners (hstep.other t ht)
  exact congrArg (fun listeners => listeners.lookup caller) hlisteners

theorem listenerOf_callForceDisableSource (t : DHType) :
    (callForceDisableSource q c networkId d m).manager.listenerOf caller t =
      m.listenerOf caller t := by
  unfold callForceDisableSource
  split_ifs
  · exact listenerOf_run (.forceDisableSource networkId d) t
  · rfl

/-- A caller that is told of a forced disable has the hardware enabled, and a listener. -/
theorem of_mem_forceCallers {e : DHStatusCtrlKey × L} (h : e ∈ m.forceCallers networkId d) :
    (m.status d.dhType).enableState ⟨networkId, d.id⟩ e.1 ≠ .DISABLED ∧
      m.listenerOf e.1 d.dhType = some e.2 := by
  obtain ⟨entry, hentry, hsome⟩ := List.mem_filterMap.1 h
  split_ifs at hsome with hdisabled
  obtain ⟨listener, hlookup, rfl⟩ := Option.map_eq_some_iff.1 hsome
  refine ⟨?_, hlookup⟩
  rw [DHStatus.enableState, Table.get_of_lookup (AList.mem_lookup_iff.2 hentry)]
  exact hdisabled

end calls

namespace ListenerRun

variable {L W : Type} {r : ListenerRun L W} {l : ListenerStep L W}

/-- Where nothing changes, every listener is still that of a caller that has registered. -/
theorem Inv.of_kept (h : r.Inv) (hregistered : (r.step l).registered = r.registered)
    (hsame : ∀ caller t,
      (l.run r.manager).manager.listenerOf caller t = r.manager.listenerOf caller t) :
    (r.step l).Inv := by
  intro caller t hlistener
  rw [hregistered]
  exact h caller t (hsame caller t ▸ hlistener)

theorem Inv.step (h : r.Inv) (hl : r.Single l) : (r.step l).Inv := by
  cases l with
  | registerDHStatusListener networkId caller listener compTypes =>
    obtain hnone | ⟨-, hsome⟩ := hl
    · obtain ⟨hret, hall⟩ := callRegister_of_none hnone listener
      intro caller' t hlistener
      have hregistered : (r.step (.registerDHStatusListener networkId caller listener
          compTypes)).registered = (caller, networkId) :: r.registered := if_neg (not_not.2 hret)
      rw [hregistered]
      by_cases heq : caller' = caller
      · exact ⟨_, List.mem_cons_self, heq.symm⟩
      · have hbefore : r.manager.listenerOf caller' t ≠ none := by
          rwa [← (hall caller' t).trans (if_neg fun hand => heq hand.2)]
        obtain ⟨e, he, hcaller⟩ := h caller' t hbefore
        exact ⟨e, List.mem_cons_of_mem _ he, hcaller⟩
    · obtain ⟨hret, hsame⟩ := callRegister_of_some hsome listener
      exact h.of_kept (if_pos hret) hsame
  | unregisterDHStatusListener networkId caller listener compTypes =>
    obtain hnone | ⟨-, htypes⟩ := hl
    · obtain ⟨hret, hsame⟩ := callUnregister_of_none hnone
      exact h.of_kept (if_pos hret) hsame
    · obtain ⟨hret, hall⟩ := callUnregister_of_some fun t ht => (htypes t).1 ht
      intro caller' t hlistener
      have hregistered : (r.step (.unregisterDHStatusListener networkId caller listener
          compTypes)).registered = r.registered.filter (· ≠ (caller, networkId)) :=
        if_neg (not_not.2 hret)
      rw [hregistered]
      have hafter : (if t ∈ compTypes.list ∧ caller' = caller then none
          else r.manager.listenerOf caller' t) ≠ none := by
        rwa [← hall caller' t]
      split_ifs at hafter with hand
      · exact absurd rfl hafter
      obtain ⟨e, he, hcaller⟩ := h caller' t hafter
      refine ⟨e, List.mem_filter.2 ⟨he, decide_eq_true fun heq => ?_⟩, hcaller⟩
      -- the caller has no listener left
      obtain rfl : caller = caller' := by rw [← hcaller, heq]
      exact hand ⟨(htypes t).2 hafter, rfl⟩
  | enableSource networkId d caller q c =>
    exact h.of_kept (ite_self _) fun _ t => listenerOf_run (.enableSource networkId d caller) t
  | disableSource networkId d caller q c =>
    exact h.of_kept (ite_self _) fun _ t => listenerOf_run (.disableSource networkId d caller) t
  | forceDisableSource networkId d q c =>
    exact h.of_kept (ite_self _) fun _ t => listenerOf_callForceDisableSource t

theorem mem_forceCallers_of_told {q : Queries} {c : SourceCalls W} {networkId : String}
    {d : DHDescriptor} {m : SourceManager L W} {e : DHStatusCtrlKey × L}
    (h : e ∈ (callForceDisableSource q c networkId d m).told) :
    e ∈ m.forceCallers networkId d := by
  unfold callForceDisableSource Outcome.of at h
  split_ifs at h
  · exact h
  · cases h
  · cases h

/-- Only the listener of the caller is told of an enable or a disable, if it succeeds. -/
theorem told_of_mem {caller : DHStatusCtrlKey} {d : DHDescriptor} {m : SourceManager L W}
    {a : Int × SourceManager L W} {e : DHStatusCtrlKey × L}
    (h : e ∈ (Outcome.of a
      ((m.callerListener d caller).map fun listener => (caller, listener)).toList).told) :
    e.1 = caller ∧ m.listenerOf caller d.dhType ≠ none := by
  unfold Outcome.of at h
  dsimp only at h
  split_ifs at h
  · obtain ⟨listener, hlistener, rfl⟩ := Option.map_eq_some_iff.1 (Option.mem_toList.1 h)
    exact ⟨rfl, fun hnone => by
      rw [SourceManager.callerListener, ← SourceManager.listenerOf, hnone] at hlistener
      cases hlistener⟩
  · cases h

theorem Inv.follows (h : r.Inv) (hl : r.Single l) : r.Follows l := by
  cases l with
  | registerDHStatusListener networkId caller listener compTypes =>
    refine ⟨fun e he => (by cases he), ?_, nofun, ?_⟩
    · intro networkId' caller' listener' compTypes' heq hno _
      cases heq
      obtain hnone | ⟨hyes, -⟩ := hl
      · exact (callRegister_of_none hnone listener).1
      · exact absurd hyes hno
    · intro hret
      obtain hnone | ⟨-, hsome⟩ := hl
      · exact absurd (callRegister_of_none hnone listener).1 hret
      · exact (callRegister_of_some hsome listener).2
  | unregisterDHStatusListener networkId caller listener compTypes =>
    refine ⟨fun e he => (by cases he), nofun, ?_, ?_⟩
    · intro networkId' caller' listener' compTypes' heq hother t
      cases heq
      obtain hnone | ⟨honly, -⟩ := hl
      · exact (callUnregister_of_none hnone).2 caller t
      · obtain ⟨e, he, hcaller, hdiffers⟩ := hother
        exact absurd (honly e he hcaller) hdiffers
    · intro hret
      obtain hnone | ⟨-, htypes⟩ := hl
      · exact (callUnregister_of_none hnone).2
      · exact absurd (callUnregister_of_some fun t ht => (htypes t).1 ht).1 hret
  | enableSource networkId d caller q c =>
    refine ⟨fun e he => ?_, nofun, nofun, fun _ _ t => listenerOf_run (.enableSource ..) t⟩
    obtain ⟨rfl, hlistener⟩ := told_of_mem he
    obtain ⟨e', he', hcaller⟩ := h _ _ hlistener
    exact hl e' he' hcaller
  | disableSource networkId d caller q c =>
    refine ⟨fun e he => ?_, nofun, nofun, fun _ _ t => listenerOf_run (.disableSource ..) t⟩
    obtain ⟨rfl, hlistener⟩ := told_of_mem he
    obtain ⟨e', he', hcaller⟩ := h _ _ hlistener
    exact hl e' he' hcaller
  | forceDisableSource networkId d q c =>
    refine ⟨fun e he => ?_, nofun, nofun, fun _ _ t => listenerOf_callForceDisableSource t⟩
    obtain ⟨hstate, hlistener⟩ := of_mem_forceCallers (mem_forceCallers_of_told he)
    obtain ⟨e', he', hcaller⟩ := h e.1 d.dhType (by rw [hlistener]; exact Option.some_ne_none _)
    rw [← hcaller] at hstate ⊢
    exact hl e' he' hstate e' he' rfl

/-- Before anything is registered. -/
def init (w : W) : ListenerRun L W where
  manager := { world := w }

theorem inv_init (w : W) : (init w : ListenerRun L W).Inv :=
  fun _ _ hlistener => absurd rfl hlistener

/-- In every run of callers that keep to one device and one list of types, a call tells only
callers that have registered for its device, a further registration is accepted, one device that is
unregistered leaves the listeners for others, and an error leaves all listeners. -/
theorem status_listeners_follow (w : W) (ls : List (ListenerStep L W))
    (h : Along step Single (init w) ls) :
    ∀ pre l post, ls = pre ++ l :: post → (pre.foldl step (init w)).Follows l := by
  rintro pre l post rfl
  obtain ⟨hpre, hl, -⟩ := h.of_append
  have hinv : (pre.foldl step (init w)).Inv :=
    hpre.invariant (fun _ _ hs hok => hs.step hok) (inv_init w)
  exact hinv.follows hl

/-! ## One caller, two devices -/

/-- A caller of the service. -/
def watcher : DHStatusCtrlKey where
  uid := 1
  pid := 1

def onlyCamera : CompTypes := ⟨[.CAMERA], by decide⟩

def onlyScreen : CompTypes := ⟨[.SCREEN], by decide⟩

def cameraAndScreen : CompTypes := ⟨[.CAMERA, .SCREEN], by decide⟩

def watch (networkId : String) (compTypes : CompTypes) : ListenerStep Unit Unit :=
  .registerDHStatusListener networkId watcher () compTypes

def unwatch (networkId : String) (compTypes : CompTypes) : ListenerStep Unit Unit :=
  .unregisterDHStatusListener networkId watcher () compTypes

/-- The caller enables a camera of the device. -/
def enableCamera (networkId : String) : ListenerStep Unit Unit :=
  .enableSource networkId { id := "c", dhType := .CAMERA } watcher .permissive .succeeding

/-- The caller has registered for the device `a`. -/
def watching (compTypes : CompTypes) : ListenerRun Unit Unit :=
  (init ()).step (watch "a" compTypes)

/-- A caller hears of a device that it has not registered for, is refused it, and stops hearing of
the other one when it takes that back; and a registration that is refused by the second type is
made for the first. -/
theorem status_listeners_mixed :
    ¬(watching onlyCamera).Follows (enableCamera "b") ∧
      ¬(watching onlyCamera).Follows (watch "b" onlyCamera) ∧
      ¬(watching onlyCamera).Follows (unwatch "b" onlyCamera) ∧
      ¬(watching onlyScreen).Follows (watch "a" cameraAndScreen) := by
  refine ⟨fun h => ?_, fun h => ?_, fun h => ?_, fun h => ?_⟩
  · exact absurd (h.told (watcher, ()) (by decide +kernel)) (by decide +kernel)
  · exact absurd (h.accepted _ _ _ _ rfl (by decide +kernel) (by decide +kernel))
      (by decide +kernel)
  · exact absurd (h.kept _ _ _ _ rfl (by decide +kernel) .CAMERA) (by decide +kernel)
  · exact absurd (h.unchanged (by decide +kernel) watcher .CAMERA) (by decide +kernel)

/-- A caller that keeps to one device is told of it, and takes its registration back. -/
theorem status_listeners_one :
    (watching onlyCamera).Follows (enableCamera "a") ∧
      ((watching onlyCamera).step (enableCamera "a")).Follows (unwatch "a" onlyCamera) := by
  have hrun : Along step Single (init () : ListenerRun Unit Unit)
      [watch "a" onlyCamera, enableCamera "a", unwatch "a" onlyCamera] := by
    refine ⟨.inl (by decide +kernel), (by decide +kernel :
      ∀ e ∈ (watching onlyCamera).registered, e.1 = watcher →
        (watcher, "a") ∈ (watching onlyCamera).registered), ?_, trivial⟩
    refine .inr ⟨by decide +kernel, fun t => ?_⟩
    cases t <;> decide +kernel
  exact ⟨status_listeners_follow () _ hrun [watch "a" onlyCamera] _ _ rfl,
    status_listeners_follow () _ hrun [watch "a" onlyCamera, enableCamera "a"] _ [] rfl⟩

end ListenerRun

end DHFwk
