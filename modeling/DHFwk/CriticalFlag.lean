import DHFwk.ComponentLife
import DHFwk.EnabledDevices
import DHFwk.HdfOperate

/-!
# The critical flag

While the service is in use it asks the memory manager not to kill it (`SetCritical`). A request
that enables or loads sets the flag where nothing of its kind is in use, when it is accepted; its
work is done later, by a task. A delay task that each request posts anew clears the flag if it
finds nothing in use.

`SaStatus` puts the flag and the delay task beside the records of the component manager and the
loads of the drivers. A request goes through its phases one by one, the tasks it pushes are run in
any order, and the delay task fires at any time. In a run whose delay task does not fire with
nothing in use while an enable or a load is on its way, the flag is set whenever the service is in
use (`critical_while_in_use`). Where it does, the task enables what it is to enable, and the
service is in use without the flag (`in_use_not_critical`).
-/

set_option linter.unusedSectionVars false

namespace DHFwk

open Runs

/-! ## Business -/

/-- A type has business : it is loaded, and some process listens or no listener is needed. -/
def DHStatus.hasBusiness {K L : Type} (s : DHStatus K L) (unheard : Bool) : Bool :=
  decide (s.refLoad > 0) && (unheard || !s.listeners.entries.isEmpty)

/-- Some type has business; those that `unheard` picks need no listener. -/
def anyBusiness {K L : Type} (unheard : DHType → Bool) (m : Table DHType (DHStatus K L)) : Bool :=
  m.entries.any fun e => e.2.hasBusiness (unheard e.1)

/-- `IsSourceEnabled` : the modem needs no listener. -/
def SourceManager.isSourceEnabled {L W : Type} (m : SourceManager L W) : Bool :=
  anyBusiness (fun dhType => dhType = .MODEM) m.dhSourceStatus_

/-- `IsSinkActiveEnabled`. -/
def SinkManager.isSinkActiveEnabled {L W : Type} (m : SinkManager L W) : Bool :=
  anyBusiness (fun _ => false) m.dhSinkStatus_

section listeners

variable {K L : Type} (caller : DHStatusCtrlKey)

/-- The walk over the types of the component loader that changes the listeners of each : it stops
at the first type whose listeners it refuses. -/
def changeListeners (refuses : Table DHStatusCtrlKey L → Bool)
    (change : Table DHStatusCtrlKey L → Table DHStatusCtrlKey L) :
    List DHType → Table DHType (DHStatus K L) → Int × Table DHType (DHStatus K L)
  | [], m => (DH_FWK_SUCCESS, m)
  | dhType :: compTypes, m =>
    let status := m.get dhType
    if refuses status.listeners then (ERR_DH_FWK_COMPONENT_REPEAT_CALL, m.set dhType status)
    else changeListeners refuses change compTypes <|
      m.set dhType { status with listeners := change status.listeners }

/-- `RegisterDHStatusListener` of either side. -/
def registerDHStatusListener (listener : L) (compTypes : List DHType)
    (m : Table DHType (DHStatus K L)) : Int × Table DHType (DHStatus K L) :=
  changeListeners (fun listeners => (listeners.lookup caller).isSome)
    (fun listeners => listeners.set caller listener) compTypes m

/-- `UnregisterDHStatusListener` of either side. -/
def unregisterDHStatusListener (compTypes : List DHType) (m : Table DHType (DHStatus K L)) :
    Int × Table DHType (DHStatus K L) :=
  changeListeners (fun listeners => (listeners.lookup caller).isNone)
    (fun listeners => listeners.remove caller) compTypes m

end listeners

/-! ## Requests -/

/-- A descriptor as a caller hands it over. -/
structure CallerDescriptor extends DHDescriptor where
  firstCallingTokenId : ℕ := 0
  deriving DecidableEq, Repr

/-- The calls of the service. -/
inductive SaRequest
  | enableSink (descriptors : List CallerDescriptor) (caller : DHStatusCtrlKey)
  | disableSink (descriptors : List CallerDescriptor) (caller : DHStatusCtrlKey)
  | enableSource (networkId : String) (descriptors : List CallerDescriptor)
      (caller : DHStatusCtrlKey)
  | disableSource (networkId : String) (descriptors : List CallerDescriptor)
      (caller : DHStatusCtrlKey)
  | loadDistributedHDF (dhType : DHType)
  | unLoadDistributedHDF (dhType : DHType)
  deriving DecidableEq, Repr

namespace SaRequest

/-- The call enables or loads something. -/
def enables : SaRequest → Bool
  | .enableSink .. | .enableSource .. | .loadDistributedHDF _ => true
  | .disableSink .. | .disableSource .. | .unLoadDistributedHDF _ => false

/-- The tasks that the call pushes. -/
def tasks : SaRequest → List HardwareTask
  | .enableSink descriptors caller => descriptors.map fun d => .enable
      { dhId := d.id, dhType := d.dhType, effectSink := true, callingUid := caller.uid,
        callingPid := caller.pid, firstCallingTokenId := d.firstCallingTokenId,
        customParams := d.customParams }
  | .disableSink descriptors caller => descriptors.map fun d => .disable
      { dhId := d.id, dhType := d.dhType, effectSink := true, callingUid := caller.uid,
        callingPid := caller.pid }
  | .enableSource networkId descriptors caller => descriptors.map fun d => .enable
      { networkId := networkId, dhId := d.id, dhType := d.dhType, effectSource := true,
        callingUid := caller.uid, callingPid := caller.pid,
        firstCallingTokenId := d.firstCallingTokenId, customParams := d.customParams }
  | .disableSource networkId descriptors caller => descriptors.map fun d => .disable
      { networkId := networkId, dhId := d.id, dhType := d.dhType, effectSource := true,
        callingUid := caller.uid, callingPid := caller.pid }
  | .loadDistributedHDF _ | .unLoadDistributedHDF _ => []

end SaRequest

/-- Where a call is : before it looks whether it is the first, before it looks at the drivers as
well, before it sets the flag, before it posts the delay task, or before its work. -/
inductive RequestPhase
  | accepted | asking | raising | delaying | working
  deriving DecidableEq, Repr

/-- The call is past its look at what is in use. -/
def RequestPhase.isPassed : RequestPhase → Bool
  | .accepted | .asking | .raising => false
  | .delaying | .working => true

/-- What becomes of a call : it returns a code, or goes on to its next phase. -/
inductive RequestNext
  | returns (ret : Int)
  | next (phase : RequestPhase)
  deriving DecidableEq, Repr

/-- The phase it goes on to. -/
def RequestNext.phase : RequestNext → Option RequestPhase
  | .returns _ => none
  | .next phase => some phase

theorem RequestNext.eq_next {next : RequestNext} {phase : RequestPhase}
    (h : next.phase = some phase) : next = .next phase := by
  cases next with
  | returns ret => cases h
  | next phase' => exact congrArg RequestNext.next (Option.some.inj h)

/-- Replace an entry of a list, or take it out. -/
def replaceIdx {α : Type} (l : List α) (k : ℕ) : Option α → List α
  | none => l.eraseIdx k
  | some x => l.set k x

theorem mem_of_mem_replaceIdx {α : Type} {l : List α} {k : ℕ} {o : Option α} {x : α}
    (h : x ∈ replaceIdx l k o) : x ∈ l ∨ o = some x := by
  cases o with
  | none => exact .inl (List.mem_of_mem_eraseIdx h)
  | some y => exact (List.mem_or_eq_of_mem_set h).imp_right fun hx => congrArg some hx.symm

/-! ## The service -/

/-- What is in use, the value of the last `SetCritical`, whether the delay task is posted and can
be, the calls that run, and the tasks that are queued. -/
structure SaStatus (L L' W W' Lib : Type) where
  manager : ComponentManager L L' W W'
  hdf : HdfOperateManager Lib := {}
  critical : Bool := false
  delayTask : Bool := false
  saStatusHandler_ : Bool := true
  requests : List (SaRequest × RequestPhase) := []
  tasks : List HardwareTask := []

/-- What can happen, with the answers : a call of the service is accepted or goes on, a task is
executed, a piece of hardware is disabled by force, the delay task fires, or a process registers a
listener or takes it back. `isOnline` says that some device is online. -/
inductive SaStatusStep (L L' W W' Lib : Type)
  | request (r : SaRequest)
  | advance (k : ℕ) (o : HdfOutcome Lib)
  | execute (k : ℕ) (a : TaskAnswers W W') (isOnline : Bool)
  | forceDisableSink (d : DHDescriptor) (a : TaskAnswers W W') (isOnline : Bool)
  | forceDisableSource (networkId : String) (d : DHDescriptor) (a : TaskAnswers W W')
      (isOnline : Bool)
  | fire
  | registerSinkListener (compTypes : List DHType) (caller : DHStatusCtrlKey) (listener : L')
  | unregisterSinkListener (compTypes : List DHType) (caller : DHStatusCtrlKey)
  | registerSourceListener (compTypes : List DHType) (caller : DHStatusCtrlKey) (listener : L)
  | unregisterSourceListener (compTypes : List DHType) (caller : DHStatusCtrlKey)

namespace SaStatus

variable {L L' W W' Lib : Type} (dev : Devices) (s : SaStatus L L' W W' Lib)

/-- `IsSourceEnabled`, `IsSinkActiveEnabled` or `IsAnyHdfInuse`. -/
def inUse : Bool :=
  s.manager.source.isSourceEnabled || s.manager.sink.isSinkActiveEnabled || s.hdf.isAnyHdfInuse

/-- `SetSaToCritical`. -/
def setSaToCritical : SaStatus L L' W W' Lib :=
  { s with critical := true }

/-- `DelaySaStatusTask` : it takes the delay task back and posts it, if there is a handler. -/
def delaySaStatusTask : SaStatus L L' W W' Lib :=
  if s.saStatusHandler_ then { s with delayTask := true } else s

/-- The delay task. -/
def delayTaskFires : SaStatus L L' W W' Lib :=
  if ¬s.delayTask then s
  else
    let s := { s with delayTask := false }
    if !s.manager.source.isSourceEnabled && !s.manager.sink.isSinkActiveEnabled &&
        !s.hdf.isAnyHdfInuse then { s with critical := false }
    else s

/-- Whether a call is the first of its kind; a source that is not the first asks for the drivers
as well. -/
def firstPhase : SaRequest → RequestNext
  | .enableSink .. => .next (if ¬s.manager.sink.isSinkActiveEnabled then .raising else .working)
  | .enableSource networkId .. =>
    if ¬isIdLengthValid networkId then .returns ERR_DH_FWK_PARA_INVALID
    else .next (if ¬s.manager.source.isSourceEnabled then .asking else .working)
  | .loadDistributedHDF _ => .next (if ¬s.hdf.isAnyHdfInuse then .raising else .working)
  | .disableSink .. => .next .delaying
  | .disableSource networkId .. =>
    if ¬isIdLengthValid networkId then .returns ERR_DH_FWK_PARA_INVALID else .next .delaying
  | .unLoadDistributedHDF dhType =>
    if dhType = DHType.AUDIO ∨ dhType = DHType.CAMERA then .next .delaying
    else .returns ERR_DH_FWK_NO_HDF_SUPPORT

/-- The work of a call : it pushes its tasks, and loads or unloads the driver. -/
def work (o : HdfOutcome Lib) : SaRequest → Int × SaStatus L L' W W' Lib
  | .loadDistributedHDF dhType =>
    if dhType = DHType.AUDIO ∨ dhType = DHType.CAMERA then
      let r := s.hdf.loadDistributedHDF o dhType
      (r.ret, { s with hdf := r.manager })
    else (ERR_DH_FWK_NO_HDF_SUPPORT, s)
  | .unLoadDistributedHDF dhType =>
    let r := s.hdf.unLoadDistributedHDF o dhType
    (r.ret, { s with hdf := r.manager })
  | r => (DH_FWK_SUCCESS, { s with tasks := s.tasks ++ r.tasks })

/-- A call goes on by one phase. -/
def goOn (o : HdfOutcome Lib) (r : SaRequest) :
    RequestPhase → SaStatus L L' W W' Lib × RequestNext
  | .accepted => (s, s.firstPhase r)
  | .asking => (s, .next (if ¬s.hdf.isAnyHdfInuse then .raising else .working))
  | .raising => (s.setSaToCritical, .next .delaying)
  | .delaying => (s.delaySaStatusTask, .next .working)
  | .working => ((s.work o r).2, .returns (s.work o r).1)

/-- `ForceDisableSink`. -/
def forceDisableSink (a : TaskAnswers W W') (d : DHDescriptor) (isOnline : Bool) :
    SaStatus L L' W W' Lib :=
  let s := { s with manager := (a.run s.manager (.sink (.forceDisableSink d))).2 }
  if isOnline && !s.manager.sink.isSinkActiveEnabled then s.delaySaStatusTask else s

/-- `ForceDisableSource`. -/
def forceDisableSource (a : TaskAnswers W W') (networkId : String) (d : DHDescriptor)
    (isOnline : Bool) : SaStatus L L' W W' Lib :=
  if ¬a.queries.isDHTypeSupport d.dhType then s
  else
    let s := { s with manager := (a.run s.manager (.source (.forceDisableSource networkId d))).2 }
    if isOnline && (!s.manager.source.isSourceEnabled || !s.hdf.isAnyHdfInuse) then
      s.delaySaStatusTask
    else s

/-- A task is executed. One that disables for an active caller disables, the others disable by
force as `DoAutoDisable` does. -/
def perform (a : TaskAnswers W W') (isOnline : Bool) : HardwareTask → SaStatus L L' W W' Lib
  | .enable p => { s with manager := (registerHardware dev a p s.manager).2 }
  | .disable p =>
    if p.caller.isActive then { s with manager := (doActiveDisable a p s.manager).2 }
    else if dev.localUdid = p.udid then
      if a.isDeserted then s.forceDisableSink a p.descriptor isOnline else s
    else s.forceDisableSource a p.networkId p.descriptor isOnline

/-- Run the source side, or the sink side, on its record. -/
def setSource (r : Int × Table DHType (DHSourceStatus L)) : SaStatus L L' W W' Lib :=
  { s with manager.source.dhSourceStatus_ := r.2 }

def setSink (r : Int × Table DHType (DHSinkStatus L')) : SaStatus L L' W W' Lib :=
  { s with manager.sink.dhSinkStatus_ := r.2 }

def step (s : SaStatus L L' W W' Lib) : SaStatusStep L L' W W' Lib → SaStatus L L' W W' Lib
  | .request r => { s with requests := s.requests ++ [(r, .accepted)] }
  | .advance k o =>
    match s.requests[k]? with
    | none => s
    | some (r, phase) =>
      let (s', next) := s.goOn o r phase
      { s' with requests := replaceIdx s.requests k (next.phase.map fun phase => (r, phase)) }
  | .execute k a isOnline =>
    match s.tasks[k]? with
    | none => s
    | some task => { s with tasks := s.tasks.eraseIdx k }.perform dev a isOnline task
  | .forceDisableSink d a isOnline => s.forceDisableSink a d isOnline
  | .forceDisableSource networkId d a isOnline => s.forceDisableSource a networkId d isOnline
  | .fire => s.delayTaskFires
  | .registerSinkListener compTypes caller listener =>
    s.setSink (registerDHStatusListener caller listener compTypes s.manager.sink.dhSinkStatus_)
  | .unregisterSinkListener compTypes caller =>
    s.setSink (unregisterDHStatusListener caller compTypes s.manager.sink.dhSinkStatus_)
  | .registerSourceListener compTypes caller listener =>
    s.setSource
      (registerDHStatusListener caller listener compTypes s.manager.source.dhSourceStatus_)
  | .unregisterSourceListener compTypes caller =>
    s.setSource (unregisterDHStatusListener caller compTypes s.manager.source.dhSourceStatus_)

/-! ## What is said of a run -/

/-- As `Init` leaves it : nothing is recorded, the flag is not set, and the delay task is posted if
there is a handler. -/
def start (w : W) (w' : W') (saStatusHandler_ : Bool) : SaStatus L L' W W' Lib where
  manager := { source := { world := w }, sink := { world := w' } }
  delayTask := saStatusHandler_
  saStatusHandler_ := saStatusHandler_

/-- No call runs and no task is queued. -/
def isIdle : Bool :=
  s.requests.isEmpty && s.tasks.isEmpty

/-- A task that enables is queued, or a call that enables or loads is past its look at what is in
use. -/
def onItsWay : Bool :=
  (s.tasks.any fun task => task matches .enable _) ||
    s.requests.any fun e => e.1.enables && e.2.isPassed

/-- The delay task does not fire with nothing in use while an enable or a load is on its way, and
where the flag is not set no listener is registered for a type that is loaded. -/
def Timely : SaStatusStep L L' W W' Lib → Prop
  | .fire => s.delayTask = true → s.inUse = false → s.onItsWay = false
  | .registerSinkListener compTypes .. => s.critical = true ∨
      ∀ dhType ∈ compTypes, (s.manager.sink.status dhType).refLoad ≤ 0
  | .registerSourceListener compTypes .. => s.critical = true ∨
      ∀ dhType ∈ compTypes, (s.manager.source.status dhType).refLoad ≤ 0
  | _ => True

instance : ∀ l : SaStatusStep L L' W W' Lib, Decidable (s.Timely l)
  | .fire => inferInstanceAs (Decidable (_ → _ → _))
  | .registerSinkListener .. | .registerSourceListener .. => inferInstanceAs (Decidable (_ ∨ _))
  | .request _ | .advance .. | .execute .. | .forceDisableSink .. | .forceDisableSource ..
  | .unregisterSinkListener .. | .unregisterSourceListener .. => inferInstanceAs (Decidable True)

/-- An idle service that is in use is critical. -/
def Protected : Prop :=
  s.isIdle = true → s.inUse = true → s.critical = true

instance : Decidable s.Protected :=
  inferInstanceAs (Decidable (_ → _ → _))

end SaStatus

/-! ## What a change of a record makes of its business -/

section records

variable {K L : Type} [DecidableEq K] {s s' : DHStatus K L} {m m' : Table DHType (DHStatus K L)}
  {op : StatusOp K} {aw : Awaiting K} {unheard : DHType → Bool} {b : Bool}

theorem DHStatus.hasBusiness_iff : s.hasBusiness b = true ↔
    0 < s.refLoad ∧ (b = true ∨ s.listeners.entries ≠ []) := by
  rw [hasBusiness, Bool.and_eq_true, Bool.or_eq_true, decide_eq_true_eq, Bool.not_eq_true',
    List.isEmpty_eq_false_iff]

theorem anyBusiness_iff :
    anyBusiness unheard m = true ↔ ∃ t, (m.get t).hasBusiness (unheard t) = true := by
  rw [anyBusiness, List.any_eq_true]
  constructor
  · rintro ⟨e, he, hbusiness⟩
    refine ⟨e.1, ?_⟩
    rwa [Table.get_of_lookup (List.mem_dlookup m.nodupKeys he)]
  · rintro ⟨t, hbusiness⟩
    cases hlookup : m.lookup t with
    | none =>
      rw [Table.get_of_lookup_none hlookup] at hbusiness
      cases hbusiness
    | some status =>
      rw [Table.get_of_lookup hlookup] at hbusiness
      exact ⟨⟨t, status⟩, AList.mem_lookup_iff.1 hlookup, hbusiness⟩

/-- A disable or a forced disable. -/
def StatusOp.Disables : StatusOp K → Prop
  | .disable .. | .force .. => True
  | .enable .. | .reset _ | .recover _ => False

theorem StatusChange.listeners (h : StatusChange op s s') : s'.listeners = s.listeners := by
  cases h <;> rfl

/-- What is loaded after a disable was loaded before. -/
theorem StatusChange.refLoad_pos (h : StatusChange op s s') (hs : Counted s aw)
    (hop : op.Disables) (hpos : 0 < s'.refLoad) : 0 < s.refLoad := by
  cases h with
  | kept | disable_touch | recover => exact hpos
  | enable_touch | addRef | firstRef => exact hop.elim
  | deleteRef =>
    have hpos : 0 < s.refLoad - 1 := hpos
    omega
  | lastRef | reset => exact absurd hpos (lt_irrefl 0)
  | drop t k =>
    have hk := hs.refEnable_nonneg k
    have hpos : 0 < s.refLoad - s.refEnable k := hpos
    omega

/-- A disable gives no type business. -/
theorem StatusStep.anyBusiness_of_disables (h : StatusStep op m m')
    (hm : ∀ t, Counted (m.get t) nobody) (hop : op.Disables)
    (hbusiness : anyBusiness unheard m' = true) : anyBusiness unheard m = true := by
  obtain ⟨t, ht⟩ := anyBusiness_iff.1 hbusiness
  refine anyBusiness_iff.2 ⟨t, ?_⟩
  by_cases heq : t = op.dhType
  · subst heq
    rw [DHStatus.hasBusiness_iff] at ht ⊢
    exact ⟨h.change.refLoad_pos (hm _) hop ht.1, h.change.listeners ▸ ht.2⟩
  · rwa [← h.other t heq]

/-- Nothing but the listeners differs. -/
structure DHStatus.SameCounts (s s' : DHStatus K L) : Prop where
  refLoad : s'.refLoad = s.refLoad
  enableInfos : s'.enableInfos = s.enableInfos

theorem Counted.of_sameCounts (h : Counted s aw) (hs : s.SameCounts s') : Counted s' aw := by
  obtain ⟨refLoad, enableInfos, listeners⟩ := s
  obtain ⟨refLoad', enableInfos', listeners'⟩ := s'
  obtain ⟨rfl, rfl⟩ := hs
  exact ⟨h.refLoad_eq, h.users_le, h.awaits⟩

variable {caller : DHStatusCtrlKey} {listener : L} {compTypes : List DHType} {t : DHType}
  {refuses : Table DHStatusCtrlKey L → Bool}
  {change : Table DHStatusCtrlKey L → Table DHStatusCtrlKey L}

/-- What changing the listeners leaves of a type, by what changing those of one type leaves. -/
theorem changeListeners_induction {R : DHStatus K L → DHStatus K L → Prop} (hrefl : ∀ s, R s s)
    (htrans : ∀ {s s' s''}, R s s' → R s' s'' → R s s'')
    (hchange : t ∈ compTypes → ∀ s, R s { s with listeners := change s.listeners }) :
    R (m.get t) ((changeListeners refuses change compTypes m).2.get t) := by
  induction compTypes generalizing m with
  | nil => exact hrefl _
  | cons dhType compTypes ih =>
    unfold changeListeners
    dsimp only
    split_ifs
    · rw [Table.get_set]
      split_ifs with heq
      · exact heq ▸ hrefl _
      · exact hrefl _
    · refine htrans ?_ (ih fun ht => hchange (List.mem_cons_of_mem _ ht))
      rw [Table.get_set]
      split_ifs with heq
      · exact heq ▸ hchange (heq ▸ List.mem_cons_self) _
      · exact hrefl _

theorem changeListeners_sameCounts :
    (m.get t).SameCounts ((changeListeners refuses change compTypes m).2.get t) :=
  changeListeners_induction (fun _ => ⟨rfl, rfl⟩)
    (fun h h' => ⟨h'.refLoad.trans h.refLoad, h'.enableInfos.trans h.enableInfos⟩)
    fun _ _ => ⟨rfl, rfl⟩

/-- A type that is not among those whose listeners change stays as it is. -/
theorem changeListeners_of_notMem (ht : t ∉ compTypes) :
    (changeListeners refuses change compTypes m).2.get t = m.get t :=
  changeListeners_induction (R := fun s s' => s' = s) (fun _ => rfl) (fun h h' => h'.trans h)
    fun hmem => absurd hmem ht

/-- A listener gives business only to types that are loaded. -/
theorem anyBusiness_of_register
    (h : anyBusiness unheard (registerDHStatusListener caller listener compTypes m).2 = true) :
    anyBusiness unheard m = true ∨ ∃ t ∈ compTypes, 0 < (m.get t).refLoad := by
  obtain ⟨t, ht⟩ := anyBusiness_iff.1 h
  by_cases hmem : t ∈ compTypes
  · have hload := (DHStatus.hasBusiness_iff.1 ht).1
    rw [registerDHStatusListener, changeListeners_sameCounts.refLoad] at hload
    exact .inr ⟨t, hmem, hload⟩
  · rw [registerDHStatusListener, changeListeners_of_notMem hmem] at ht
    exact .inl (anyBusiness_iff.2 ⟨t, ht⟩)

/-- No business comes from taking a listener back. -/
theorem anyBusiness_of_unregister
    (h : anyBusiness unheard (unregisterDHStatusListener caller compTypes m).2 = true) :
    anyBusiness unheard m = true := by
  obtain ⟨t, ht⟩ := anyBusiness_iff.1 h
  refine anyBusiness_iff.2 ⟨t, ?_⟩
  refine changeListeners_induction
    (R := fun s s' => s'.hasBusiness (unheard t) = true → s.hasBusiness (unheard t) = true)
    (fun _ => id) (fun h h' => h ∘ h') (fun _ s hs => ?_) ht
  rw [DHStatus.hasBusiness_iff] at hs ⊢
  refine ⟨hs.1, hs.2.imp_right fun hentries hempty => hentries ?_⟩
  show s.listeners.entries.kerase caller = []
  rw [hempty]
  rfl

end records

/-! ## What an operation makes of it -/

/-- A disable or a forced disable of either side. -/
def ComponentOp.Disables : ComponentOp → Prop
  | .source op => op.IsRequest ∧ op.statusOp.Disables
  | .sink op => op.IsRequest ∧ op.statusOp.Disables

namespace ComponentManager

variable {L L' W W' : Type} {dev : Devices} {a : TaskAnswers W W'} {p : HardwareParam}
  {m₀ m : ComponentManager L L' W W'} {op : ComponentOp}

/-- On either side the counts add up. -/
structure AllCounted (m : ComponentManager L L' W W') : Prop where
  source : ∀ t, Counted (m.source.status t) nobody
  sink : ∀ t, Counted (m.sink.status t) nobody

theorem AllCounted.run (h : m.AllCounted) (hop : op.IsRequest) :
    (a.run m op).2.AllCounted := by
  cases op with
  | source op => exact ⟨SourceOp.IsRequest.counted hop h.source, h.sink⟩
  | sink op => exact ⟨h.source, SinkOp.IsRequest.counted hop h.sink⟩

/-- The counts add up, and there is no business that was not there at first. -/
structure Within (m₀ m : ComponentManager L L' W W') : Prop where
  counted : m.AllCounted
  source : m.source.isSourceEnabled = true → m₀.source.isSourceEnabled = true
  sink : m.sink.isSinkActiveEnabled = true → m₀.sink.isSinkActiveEnabled = true

theorem AllCounted.within (h : m.AllCounted) : m.Within m :=
  ⟨h, id, id⟩

theorem Within.run (h : m₀.Within m) (hop : op.Disables) : m₀.Within (a.run m op).2 := by
  cases op with
  | source op =>
    refine ⟨h.counted.run hop.1, fun hs => h.source ?_, h.sink⟩
    exact (op.statusStep a.queries a.sourceCalls m.source).anyBusiness_of_disables h.counted.source
      hop.2 hs
  | sink op =>
    refine ⟨h.counted.run hop.1, h.source, fun hs => h.sink ?_⟩
    exact (op.statusStep a.queries a.sinkCalls m.sink).anyBusiness_of_disables h.counted.sink
      hop.2 hs

/-- A task that disables for an active caller gives no business. -/
theorem AllCounted.doActiveDisable (h : m.AllCounted) : m.Within (doActiveDisable a p m).2 := by
  have hsink : m.Within (if p.effectSink then
      a.run m (.sink (.disableSink p.descriptor p.caller)) else (DH_FWK_SUCCESS, m)).2 := by
    have hop : (ComponentOp.sink (.disableSink p.descriptor p.caller)).Disables :=
      ⟨trivial, trivial⟩
    split_ifs
    · exact h.within.run hop
    · exact h.within
  have hop : (ComponentOp.source (.disableSource p.networkId p.descriptor p.caller)).Disables :=
    ⟨trivial, trivial⟩
  simp only [DHFwk.doActiveDisable]
  by_cases hsource : p.effectSource = true
  · rw [if_neg (not_not.2 hsource)]
    exact hsink.run hop
  · rw [if_pos hsource]
    exact hsink

/-- A task that enables keeps the counts. -/
theorem AllCounted.registerHardware (h : m.AllCounted) :
    (registerHardware dev a p m).2.AllCounted := by
  have hsource : ∀ {m : ComponentManager L L' W W'} {d : DHDescriptor}, m.AllCounted →
      (a.run m (.source (.enableSource p.networkId d p.caller))).2.AllCounted :=
    fun h => h.run trivial
  have hsink : ∀ {d : DHDescriptor}, (a.run m (.sink (.enableSink d p.caller))).2.AllCounted :=
    h.run trivial
  unfold DHFwk.registerHardware
  split_ifs with hactive
  · unfold doActiveEnable
    dsimp only
    split_ifs
    all_goals first
      | exact hsource hsink
      | exact hsource h
      | exact hsink
      | exact h
  · unfold doAutoEnable
    dsimp only
    split_ifs
    all_goals first
      | exact hsource h
      | exact hsink
      | exact h

end ComponentManager

/-- No driver is in use after an unload that was not in use before it. -/
theorem HdfOperateManager.inuse_of_unLoad {Lib : Type} {o : HdfOutcome Lib} {dhType : DHType}
    {m : HdfOperateManager Lib}
    (h : (m.unLoadDistributedHDF o dhType).manager.isAnyHdfInuse = true) :
    m.isAnyHdfInuse = true := by
  simp only [isAnyHdfInuse, decide_eq_true_eq] at h ⊢
  obtain ⟨-, heq⟩ | ⟨hdfOperate, -, ⟨-, heq⟩ | ⟨-, heq⟩ | ⟨-, heq⟩⟩ :=
    m.unLoadDistributedHDF_cases o dhType
  · rwa [heq] at h
  · rw [heq, finishUnLoad_hdfInuseRefCount] at h
    omega
  · rw [heq, finishUnLoad_hdfInuseRefCount] at h
    omega
  · rwa [heq] at h

/-! ## What every step keeps -/

namespace SaStatus

variable {L L' W W' Lib : Type} {dev : Devices} {s t : SaStatus L L' W W' Lib}
  {l : SaStatusStep L L' W W' Lib} {r : SaRequest} {phase : RequestPhase}

theorem inUse_iff : s.inUse = true ↔ s.manager.source.isSourceEnabled = true ∨
    s.manager.sink.isSinkActiveEnabled = true ∨ s.hdf.isAnyHdfInuse = true := by
  rw [inUse, Bool.or_eq_true, Bool.or_eq_true, or_assoc]

theorem onItsWay_iff : s.onItsWay = true ↔ (∃ p, HardwareTask.enable p ∈ s.tasks) ∨
    ∃ e ∈ s.requests, e.1.enables = true ∧ e.2.isPassed = true := by
  rw [onItsWay, Bool.or_eq_true, List.any_eq_true, List.any_eq_true]
  refine or_congr ⟨?_, ?_⟩ (by simp only [Bool.and_eq_true])
  · rintro ⟨_ | _, hmem, htask⟩
    · exact ⟨_, hmem⟩
    · cases htask
  · rintro ⟨p, hmem⟩
    exact ⟨.enable p, hmem, rfl⟩

/-- The service is in use, or is about to be. -/
def Busy (s : SaStatus L L' W W' Lib) : Prop :=
  s.inUse = true ∨ s.onItsWay = true

/-- What holds in every state of a run that is timely : the counts add up, and the flag is set
while the service is busy. -/
structure Guarded (s : SaStatus L L' W W' Lib) : Prop where
  counted : s.manager.AllCounted
  critical : s.Busy → s.critical = true

theorem guarded_start (w : W) (w' : W') (saStatusHandler_ : Bool) :
    (start w w' saStatusHandler_ : SaStatus L L' W W' Lib).Guarded :=
  ⟨⟨fun _ => counted_default, fun _ => counted_default⟩, by rintro (h | h) <;> cases h⟩

/-- A step that makes nobody busy keeps the guard. -/
theorem Guarded.of_busy (h : s.Guarded) (hcounted : t.manager.AllCounted)
    (hcritical : s.critical = true → t.critical = true) (hbusy : t.Busy → s.Busy) : t.Guarded :=
  ⟨hcounted, fun ht => hcritical (h.critical (hbusy ht))⟩

/-- A step of a busy service keeps the guard, if it does not clear the flag. -/
theorem Guarded.of_critical (h : s.Guarded) (hs : s.Busy) (hcounted : t.manager.AllCounted)
    (hcritical : t.critical = s.critical) : t.Guarded :=
  ⟨hcounted, fun _ => hcritical.trans (h.critical hs)⟩

theorem Guarded.delaySaStatusTask (h : s.Guarded) : s.delaySaStatusTask.Guarded := by
  unfold SaStatus.delaySaStatusTask
  split_ifs
  · exact ⟨h.counted, h.critical⟩
  · exact h

/-- An operation that gives no business keeps the guard. -/
theorem Guarded.of_within (h : s.Guarded) {m : ComponentManager L L' W W'}
    (hm : s.manager.Within m) : { s with manager := m }.Guarded := by
  refine h.of_busy hm.counted id ?_
  rintro (hin | hon)
  · rw [inUse_iff] at hin
    exact .inl (inUse_iff.2 (hin.imp hm.source (.imp_left hm.sink)))
  · exact .inr hon

theorem Guarded.forceDisableSink (h : s.Guarded) (a : TaskAnswers W W') (d : DHDescriptor)
    (isOnline : Bool) : (s.forceDisableSink a d isOnline).Guarded := by
  have hop : (ComponentOp.sink (.forceDisableSink d)).Disables := ⟨trivial, trivial⟩
  have hs := h.of_within (h.counted.within.run (a := a) hop)
  simp only [SaStatus.forceDisableSink]
  split_ifs
  · exact hs.delaySaStatusTask
  · exact hs

theorem Guarded.forceDisableSource (h : s.Guarded) (a : TaskAnswers W W') (networkId : String)
    (d : DHDescriptor) (isOnline : Bool) :
    (s.forceDisableSource a networkId d isOnline).Guarded := by
  have hop : (ComponentOp.source (.forceDisableSource networkId d)).Disables := ⟨trivial, trivial⟩
  have hs := h.of_within (h.counted.within.run (a := a) hop)
  simp only [SaStatus.forceDisableSource]
  split_ifs
  · exact hs.delaySaStatusTask
  · exact hs
  · exact h

theorem Guarded.performDisable (h : s.Guarded) (a : TaskAnswers W W') (isOnline : Bool)
    (p : HardwareParam) : (s.perform dev a isOnline (.disable p)).Guarded := by
  simp only [perform]
  split_ifs
  · exact h.of_within h.counted.doActiveDisable
  · exact h.forceDisableSink ..
  · exact h
  · exact h.forceDisableSource ..

/-- A task that is executed is no longer on its way. -/
theorem busy_of_eraseIdx {k : ℕ} (h : { s with tasks := s.tasks.eraseIdx k }.Busy) : s.Busy := by
  refine h.imp_right fun hon => onItsWay_iff.2 ?_
  refine (onItsWay_iff.1 hon).imp_left ?_
  rintro ⟨p, hp⟩
  exact ⟨p, List.mem_of_mem_eraseIdx hp⟩

theorem Guarded.execute (h : s.Guarded) {k : ℕ} {task : HardwareTask} (htask : s.tasks[k]? = task)
    (a : TaskAnswers W W') (isOnline : Bool) :
    ({ s with tasks := s.tasks.eraseIdx k }.perform dev a isOnline task).Guarded := by
  cases task with
  | enable p =>
    have hbusy : s.Busy := .inr (onItsWay_iff.2 (.inl ⟨p, List.mem_of_getElem? htask⟩))
    exact h.of_critical hbusy h.counted.registerHardware rfl
  | disable p =>
    have hs : { s with tasks := s.tasks.eraseIdx k }.Guarded :=
      h.of_busy h.counted id busy_of_eraseIdx
    exact hs.performDisable a isOnline p

/-- A call that enables gets past its look if something is in use. -/
theorem inUse_of_firstPhase (hr : r.enables = true) (hnext : s.firstPhase r = .next phase)
    (hphase : phase.isPassed = true) : s.inUse = true := by
  rw [inUse_iff]
  cases r with
  | enableSink =>
    simp only [firstPhase] at hnext
    split_ifs at hnext with hin
    · exact .inr (.inl hin)
    · cases hnext
      cases hphase
  | enableSource =>
    simp only [firstPhase] at hnext
    split_ifs at hnext with hvalid hin
    · exact .inl hin
    · cases hnext
      cases hphase
  | loadDistributedHDF =>
    simp only [firstPhase] at hnext
    split_ifs at hnext with hin
    · exact .inr (.inr hin)
    · cases hnext
      cases hphase
  | disableSink | disableSource | unLoadDistributedHDF => cases hr

/-- A call that goes on is on its way as it was, or by its new phase. -/
theorem busy_of_replaceIdx {k : ℕ} {o : Option (SaRequest × RequestPhase)}
    (ht : t.requests = s.requests) (h : { t with requests := replaceIdx s.requests k o }.Busy) :
    t.Busy ∨ ∃ e, o = some e ∧ e.1.enables = true ∧ e.2.isPassed = true := by
  obtain hin | hon := h
  · exact .inl (.inl hin)
  obtain htask | ⟨e, hmem, he⟩ := onItsWay_iff.1 hon
  · exact .inl (.inr (onItsWay_iff.2 (.inl htask)))
  obtain hmem | heq := mem_of_mem_replaceIdx hmem
  · exact .inl (.inr (onItsWay_iff.2 (.inr ⟨e, ht ▸ hmem, he⟩)))
  · exact .inr ⟨e, heq, he⟩

theorem delaySaStatusTask_eq (s : SaStatus L L' W W' Lib) :
    ∃ delayTask, s.delaySaStatusTask = { s with delayTask := delayTask } := by
  unfold SaStatus.delaySaStatusTask
  split_ifs
  · exact ⟨_, rfl⟩
  · exact ⟨s.delayTask, rfl⟩

/-- The work of a call pushes tasks, or loads or unloads a driver. -/
theorem work_eq (s : SaStatus L L' W W' Lib) (o : HdfOutcome Lib) (r : SaRequest) :
    ∃ hdf tasks, (s.work o r).2 = { s with hdf := hdf, tasks := s.tasks ++ tasks } ∧
      (r.enables = false → (∀ p, .enable p ∉ tasks) ∧
        (hdf.isAnyHdfInuse = true → s.hdf.isAnyHdfInuse = true)) := by
  cases r with
  | enableSink | enableSource => exact ⟨s.hdf, _, rfl, nofun⟩
  | disableSink | disableSource =>
    refine ⟨s.hdf, _, rfl, fun _ => ⟨fun p hp => ?_, id⟩⟩
    obtain ⟨d, -, hd⟩ := List.mem_map.1 hp
    cases hd
  | loadDistributedHDF dhType =>
    simp only [work]
    split_ifs
    · exact ⟨_, [], by rw [List.append_nil], nofun⟩
    · exact ⟨s.hdf, [], by rw [List.append_nil], nofun⟩
  | unLoadDistributedHDF dhType =>
    refine ⟨(s.hdf.unLoadDistributedHDF o dhType).manager, [], ?_,
      fun _ => ⟨fun _ => List.not_mem_nil, ?_⟩⟩
    · rw [List.append_nil]
      rfl
    · exact HdfOperateManager.inuse_of_unLoad

theorem Guarded.goOn (h : s.Guarded) (hmem : (r, phase) ∈ s.requests) (o : HdfOutcome Lib) (k : ℕ) :
    ({ (s.goOn o r phase).1 with
      requests := replaceIdx s.requests k <|
        (s.goOn o r phase).2.phase.map fun phase => (r, phase) }).Guarded := by
  have hpassed : r.enables = true → phase.isPassed = true → s.Busy := fun hr hphase =>
    .inr (onItsWay_iff.2 (.inr ⟨_, hmem, hr, hphase⟩))
  cases phase with
  | accepted =>
    refine h.of_busy h.counted id fun hbusy => ?_
    obtain hbusy | ⟨e, he, henables, he'⟩ := busy_of_replaceIdx rfl hbusy
    · exact hbusy
    obtain ⟨phase, hnext, rfl⟩ := Option.map_eq_some_iff.1 he
    exact .inl (inUse_of_firstPhase henables (RequestNext.eq_next hnext) he')
  | asking =>
    refine h.of_busy h.counted id fun hbusy => ?_
    obtain hbusy | ⟨e, he, -, he'⟩ := busy_of_replaceIdx rfl hbusy
    · exact hbusy
    obtain rfl := Option.some.inj he
    by_cases hin : s.hdf.isAnyHdfInuse = true
    · exact .inl (inUse_iff.2 (.inr (.inr hin)))
    · rw [if_pos hin] at he'
      cases he'
  | raising => exact ⟨h.counted, fun _ => rfl⟩
  | delaying =>
    obtain ⟨delayTask, heq⟩ := s.delaySaStatusTask_eq
    simp only [SaStatus.goOn, heq]
    refine h.of_busy h.counted id fun hbusy => ?_
    obtain hbusy | ⟨e, he, henables, -⟩ := busy_of_replaceIdx rfl hbusy
    · exact hbusy
    obtain rfl := Option.some.inj he
    exact hpassed henables rfl
  | working =>
    obtain ⟨hdf, tasks, heq, hdisables⟩ := s.work_eq o r
    simp only [SaStatus.goOn, heq]
    cases hr : r.enables with
    | true => exact h.of_critical (hpassed hr rfl) h.counted rfl
    | false =>
      obtain ⟨htasks, hhdf⟩ := hdisables hr
      refine h.of_busy h.counted id fun hbusy => ?_
      obtain (hin | hon) | ⟨e, he, -⟩ :=
        busy_of_replaceIdx (t := { s with hdf := hdf, tasks := s.tasks ++ tasks }) rfl hbusy
      · rw [inUse_iff] at hin
        exact .inl (inUse_iff.2 (hin.imp_right (.imp_right hhdf)))
      · refine .inr (onItsWay_iff.2 ((onItsWay_iff.1 hon).imp_left ?_))
        rintro ⟨p, hp⟩
        exact ⟨p, (List.mem_append.1 hp).resolve_right (htasks p)⟩
      · cases he

/-- The delay task clears the flag where nothing is in use, and then nothing is on its way. -/
theorem Guarded.delayTaskFires (h : s.Guarded) (hl : s.Timely .fire) :
    s.delayTaskFires.Guarded := by
  unfold SaStatus.delayTaskFires
  by_cases hposted : s.delayTask = true
  · rw [if_neg (not_not.2 hposted)]
    dsimp only
    split_ifs with hnone
    · refine ⟨h.counted, fun hbusy => ?_⟩
      have hin : s.inUse = false := by
        rw [Bool.and_eq_true, Bool.and_eq_true, Bool.not_eq_true', Bool.not_eq_true',
          Bool.not_eq_true'] at hnone
        rw [inUse, hnone.1.1, hnone.1.2, hnone.2]
        rfl
      obtain hin' | hon := hbusy
      · exact absurd (hin.symm.trans hin') Bool.false_ne_true
      · exact absurd ((hl hposted hin).symm.trans hon) Bool.false_ne_true
    · exact ⟨h.counted, h.critical⟩
  · rw [if_pos hposted]
    exact h

theorem Guarded.registerSourceListener (h : s.Guarded) {compTypes : List DHType}
    {caller : DHStatusCtrlKey} {listener : L}
    (hl : s.Timely (.registerSourceListener compTypes caller listener)) :
    (s.step dev (.registerSourceListener compTypes caller listener)).Guarded := by
  have hcounted : ∀ t, Counted ((registerDHStatusListener caller listener compTypes
      s.manager.source.dhSourceStatus_).2.get t) nobody :=
    fun t => (h.counted.source t).of_sameCounts changeListeners_sameCounts
  obtain hset | hloaded := hl
  · exact ⟨⟨hcounted, h.counted.sink⟩, fun _ => hset⟩
  refine h.of_within ⟨⟨hcounted, h.counted.sink⟩, fun hs => ?_, id⟩
  obtain hs | ⟨t, ht, hload⟩ := anyBusiness_of_register hs
  · exact hs
  · exact absurd hload (not_lt.2 (hloaded t ht))

theorem Guarded.registerSinkListener (h : s.Guarded) {compTypes : List DHType}
    {caller : DHStatusCtrlKey} {listener : L'}
    (hl : s.Timely (.registerSinkListener compTypes caller listener)) :
    (s.step dev (.registerSinkListener compTypes caller listener)).Guarded := by
  have hcounted : ∀ t, Counted ((registerDHStatusListener caller listener compTypes
      s.manager.sink.dhSinkStatus_).2.get t) nobody :=
    fun t => (h.counted.sink t).of_sameCounts changeListeners_sameCounts
  obtain hset | hloaded := hl
  · exact ⟨⟨h.counted.source, hcounted⟩, fun _ => hset⟩
  refine h.of_within ⟨⟨h.counted.source, hcounted⟩, id, fun hs => ?_⟩
  obtain hs | ⟨t, ht, hload⟩ := anyBusiness_of_register hs
  · exact hs
  · exact absurd hload (not_lt.2 (hloaded t ht))

/-- A timely step keeps the guard. -/
theorem Guarded.step (h : s.Guarded) (hl : s.Timely l) : (s.step dev l).Guarded := by
  cases l with
  | request r =>
    refine h.of_busy h.counted id (.imp_right fun hon => ?_)
    refine onItsWay_iff.2 ((onItsWay_iff.1 hon).imp_right ?_)
    rintro ⟨e, hmem, he⟩
    obtain hmem | hmem := List.mem_append.1 hmem
    · exact ⟨e, hmem, he⟩
    · obtain rfl := List.mem_singleton.1 hmem
      cases he.2
  | advance k o =>
    cases hr : s.requests[k]? with
    | none =>
      simp only [SaStatus.step, hr]
      exact h
    | some e =>
      simp only [SaStatus.step, hr]
      exact h.goOn (List.mem_of_getElem? hr) o k
  | execute k a isOnline =>
    cases htask : s.tasks[k]? with
    | none =>
      simp only [SaStatus.step, htask]
      exact h
    | some task =>
      simp only [SaStatus.step, htask]
      exact h.execute htask a isOnline
  | forceDisableSink d a isOnline => exact h.forceDisableSink a d isOnline
  | forceDisableSource networkId d a isOnline => exact h.forceDisableSource a networkId d isOnline
  | fire => exact h.delayTaskFires hl
  | registerSinkListener compTypes caller listener => exact h.registerSinkListener hl
  | registerSourceListener compTypes caller listener => exact h.registerSourceListener hl
  | unregisterSinkListener compTypes caller =>
    refine h.of_within ⟨⟨h.counted.source, fun t => ?_⟩, id, anyBusiness_of_unregister⟩
    exact (h.counted.sink t).of_sameCounts changeListeners_sameCounts
  | unregisterSourceListener compTypes caller =>
    refine h.of_within ⟨⟨fun t => ?_, h.counted.sink⟩, anyBusiness_of_unregister, id⟩
    exact (h.counted.source t).of_sameCounts changeListeners_sameCounts

end SaStatus

/-! ## The runs that keep the flag -/

/-- The service is critical while it is in use : in every run from the start whose delay task does
not fire with nothing in use while an enable or a load is on its way, and whose listeners are not
registered for types that are loaded without the flag, the flag is set in every state in which
something is in use and no call or task is left. -/
theorem critical_while_in_use {L L' W W' Lib : Type} (dev : Devices) (w : W) (w' : W')
    (saStatusHandler_ : Bool) (ls : List (SaStatusStep L L' W W' Lib))
    (h : Along (SaStatus.step dev) SaStatus.Timely (SaStatus.start w w' saStatusHandler_) ls) :
    ∀ pre post, ls = pre ++ post →
      (pre.foldl (SaStatus.step dev) (SaStatus.start w w' saStatusHandler_)).Protected := by
  rintro pre post rfl - hin
  have hstep : ∀ (s : SaStatus L L' W W' Lib) (l : SaStatusStep L L' W W' Lib), s.Guarded →
      s.Timely l → (s.step dev l).Guarded := fun _ _ hs hl => hs.step hl
  exact (h.of_append.1.invariant hstep (SaStatus.guarded_start w w' saStatusHandler_)).critical
    (.inl hin)

/-- A step of a run with answers that let everything pass. -/
abbrev SmoothStep := SaStatusStep Unit Unit Unit (List SinkOffCall) Unit

/-- The call at hand goes through some of its phases. -/
def callGoesOn (phases : ℕ) : List SmoothStep :=
  List.replicate phases (.advance 0 { dlopen := none })

/-- A process listens for cameras, and asks for one of another device. -/
def cameraAskedFor : List SmoothStep :=
  [.registerSourceListener [.CAMERA] ⟨1, 1⟩ (),
    .request (.enableSource "n1" [{ id := "c", dhType := .CAMERA }] ⟨1, 1⟩)]

/-- The task that enables is executed before the delay task fires. -/
def enabledInTime : List SmoothStep :=
  cameraAskedFor ++ callGoesOn 5 ++ [.execute 0 (.smooth false) true, .fire]

theorem critical_while_in_use_camera :
    let s := enabledInTime.foldl (SaStatus.step twoDevices) (SaStatus.start () [] true)
    s.isIdle = true ∧ s.inUse = true ∧ s.critical = true := by
  intro s
  have hidle : s.isIdle = true := by decide +kernel
  have hin : s.inUse = true := by decide +kernel
  exact ⟨hidle, hin, critical_while_in_use twoDevices () [] true enabledInTime (by decide +kernel)
    enabledInTime [] (List.append_nil _).symm hidle hin⟩

/-- The delay task fires before the task that enables is executed. -/
def enabledLate : List SmoothStep :=
  cameraAskedFor ++ callGoesOn 5 ++ [.fire, .execute 0 (.smooth false) true]

/-- The driver of a camera is loaded when the call asks for it, so that it does not set the flag,
and is unloaded before the task is executed. -/
def driverUnloaded : List SmoothStep :=
  [.request (.loadDistributedHDF .CAMERA)] ++ callGoesOn 4 ++ cameraAskedFor ++ callGoesOn 3 ++
    [.request (.unLoadDistributedHDF .CAMERA)] ++ callGoesOn 3 ++
    [.fire, .execute 0 (.smooth false) true]

/-- Both leave the source in use without the flag. -/
theorem in_use_not_critical :
    ¬ (enabledLate.foldl (SaStatus.step twoDevices) (SaStatus.start () [] true)).Protected ∧
      ¬ (driverUnloaded.foldl (SaStatus.step twoDevices)
        (SaStatus.start () [] true)).Protected := by
  decide +kernel

end DHFwk
