import DHFwk.Basic
import DHFwk.OpenHandles
import DHFwk.Runs

/-!
# The libraries of the component loader

`ComponentLoader` opens the library of a part of a component, its hardware handler, its source or
its sink, when it is first asked for, keeps the handle in the entry of the type, and closes it when
the part is released or the loader is uninitialised.

A release is not done under the lock. It checks that the library is loaded, then closes it, and
then clears the handle, and other threads may come in between. The entries that `Init` makes are
not initialised : their handles are what the memory has.

`libraries_accounted_iff` is the exact condition under which in every state of a run each library
is open as often as an entry holds it, and none is closed that is not open.
-/

set_option linter.unusedSectionVars false

namespace DHFwk

namespace Loader

open OpenHandles

abbrev ERR_DH_FWK_LOADER_SINK_LOAD : Int := -10605
abbrev ERR_DH_FWK_LOADER_SOURCE_LOAD : Int := -10606
abbrev ERR_DH_FWK_LOADER_HANDLER_LOAD : Int := -10607
abbrev ERR_DH_FWK_LOADER_SINK_UNLOAD : Int := -10608
abbrev ERR_DH_FWK_LOADER_SOURCE_UNLOAD : Int := -10609
abbrev ERR_DH_FWK_LOADER_HANDLER_UNLOAD : Int := -10610

abbrev PATH_MAX : ℕ := 4096

/-! ## Entries -/

/-- The parts of a component that have a library. -/
inductive Part
  | hardware | source | sink
  deriving DecidableEq, Repr

/-- What is read of a `CompConfig` here. -/
structure CompConfig where
  type : DHType := .UNKNOWN
  compHandlerLoc : String := ""
  compSourceLoc : String := ""
  compSinkLoc : String := ""

def CompConfig.loc (config : CompConfig) : Part → String
  | .hardware => config.compHandlerLoc
  | .source => config.compSourceLoc
  | .sink => config.compSinkLoc

/-- An entry. The handles of one that `operator[]` makes are null. -/
structure CompHandler (H : Type) where
  sourceHandler : Option H := none
  sinkHandler : Option H := none
  hardwareHandler : Option H := none
  compConfig : CompConfig := {}

namespace CompHandler

variable {H : Type}

instance : Inhabited (CompHandler H) := ⟨{}⟩

def handler (compHandler : CompHandler H) : Part → Option H
  | .hardware => compHandler.hardwareHandler
  | .source => compHandler.sourceHandler
  | .sink => compHandler.sinkHandler

def setHandler (compHandler : CompHandler H) (part : Part) (handle : Option H) : CompHandler H :=
  match part with
  | .hardware => { compHandler with hardwareHandler := handle }
  | .source => { compHandler with sourceHandler := handle }
  | .sink => { compHandler with sinkHandler := handle }

/-- How often an entry holds a handle. -/
def held [DecidableEq H] (compHandler : CompHandler H) (h : H) : ℤ :=
  holds compHandler.hardwareHandler h + holds compHandler.sourceHandler h +
    holds compHandler.sinkHandler h

end CompHandler

/-- The components of a configuration. There is one of a type. -/
structure DhtypeMap where
  configs : List CompConfig
  nodup : (configs.map CompConfig.type).Nodup

/-! ## The loader -/

/-- `ComponentLoader` less what it knows of versions, system abilities and resources, and what is
open. `releasing` are the parts that a thread has checked and will close, `clearing` those that it
has closed and will clear. -/
structure ComponentLoader (H : Type) where
  compHandlerMap_ : Table DHType (CompHandler H) := ∅
  handles : OpenHandles H := {}
  releasing : List (DHType × Part) := []
  clearing : List (DHType × Part) := []

/-- What the loader of libraries answers. -/
structure Dl (H : Type) where
  dlopen : Option H
  dlsym : Bool
  dlclose : Bool

namespace ComponentLoader

variable {H : Type} [DecidableEq H]

/-- A handle of `compHandlerMap_`. -/
def handler (s : ComponentLoader H) (dhType : DHType) (part : Part) : Option H :=
  (s.compHandlerMap_.get dhType).handler part

/-- `compHandlerMap_[dhType]` is made if there is none. -/
def setHandler (dhType : DHType) (part : Part) (handle : Option H) (s : ComponentLoader H) :
    ComponentLoader H :=
  { s with compHandlerMap_ :=
      s.compHandlerMap_.set dhType ((s.compHandlerMap_.get dhType).setHandler part handle) }

/-- `GetHandler`. -/
def getHandler (soName : String) (dlopen : Option H) : Option H :=
  if soName.utf8ByteSize = 0 ∨ PATH_MAX < soName.utf8ByteSize then none else dlopen

/-- The handle of a part is set to what `GetHandler` gives. -/
def openHandler (dhType : DHType) (part : Part) (dlopen : Option H) (s : ComponentLoader H) :
    ComponentLoader H :=
  let handle := getHandler ((s.compHandlerMap_.get dhType).compConfig.loc part) dlopen
  { s.setHandler dhType part handle with handles := s.handles.acquire handle }

/-- `ReleaseHandler(compHandlerMap_[dhType].…)`. -/
def releaseHandler (dhType : DHType) (part : Part) (dlclose : Bool) (s : ComponentLoader H) :
    Int × ComponentLoader H :=
  match s.handler dhType part with
  | none => (ERR_DH_FWK_LOADER_HANDLER_IS_NULL, s.setHandler dhType part none)
  | some h =>
    let s := { s with handles := s.handles.close h dlclose }
    if ¬dlclose then (ERR_DH_FWK_LOADER_DLCLOSE_FAIL, s)
    else (DH_FWK_SUCCESS, s.setHandler dhType part none)

/-- The end of `getPart` : the library is asked for the class of the part. -/
def askPart (part : Part) (dl : Dl H) (dhType : DHType) (s : ComponentLoader H) :
    Int × ComponentLoader H :=
  if s.handler dhType part = none then (ERR_DH_FWK_LOADER_HANDLER_IS_NULL, s)
  else if ¬dl.dlsym then
    let s := (s.releaseHandler dhType part dl.dlclose).2
    (ERR_DH_FWK_LOADER_HANDLER_IS_NULL, s.setHandler dhType part none)
  else (DH_FWK_SUCCESS, s)

/-- `GetHardwareHandler`, `GetSource` and `GetSink` with a pointer to fill. -/
def getPart (part : Part) (dl : Dl H) (dhType : DHType) (s : ComponentLoader H) :
    Int × ComponentLoader H :=
  match s.compHandlerMap_.lookup dhType with
  | none => (ERR_DH_FWK_LOADER_HANDLER_IS_NULL, s)
  | some _ =>
    if s.handler dhType part = none then
      (s.openHandler dhType part dl.dlopen).askPart part dl dhType
    else s.askPart part dl dhType

def getHardwareHandler : Dl H → DHType → ComponentLoader H → Int × ComponentLoader H :=
  getPart .hardware

def getSource : Dl H → DHType → ComponentLoader H → Int × ComponentLoader H :=
  getPart .source

def getSink : Dl H → DHType → ComponentLoader H → Int × ComponentLoader H :=
  getPart .sink

/-- `GetHardwareHandler`, `GetSource` and `GetSink` without a pointer. -/
def loadPart (part : Part) (err : Int) (dlopen : Option H) (dhType : DHType)
    (s : ComponentLoader H) : Int × ComponentLoader H :=
  match s.compHandlerMap_.lookup dhType with
  | none => (ERR_DH_FWK_LOADER_HANDLER_IS_NULL, s)
  | some _ =>
    if s.handler dhType part ≠ none then (err, s)
    else (DH_FWK_SUCCESS, s.openHandler dhType part dlopen)

def loadHardwareHandler : Option H → DHType → ComponentLoader H → Int × ComponentLoader H :=
  loadPart .hardware ERR_DH_FWK_LOADER_HANDLER_LOAD

def loadSource : Option H → DHType → ComponentLoader H → Int × ComponentLoader H :=
  loadPart .source ERR_DH_FWK_LOADER_SOURCE_LOAD

def loadSink : Option H → DHType → ComponentLoader H → Int × ComponentLoader H :=
  loadPart .sink ERR_DH_FWK_LOADER_SINK_LOAD

/-- The checks of `ReleaseHardwareHandler`, `ReleaseSource` and `ReleaseSink`, each under the
lock : `IsDHTypeExist` and `IsDHTypeHandlerLoaded`, `IsDHTypeSourceLoaded` or
`IsDHTypeSinkLoaded`. -/
def checkPart (part : Part) (err : Int) (dhType : DHType) (s : ComponentLoader H) :
    Int × ComponentLoader H :=
  if s.compHandlerMap_.lookup dhType = none then (ERR_DH_FWK_TYPE_NOT_EXIST, s)
  else if s.handler dhType part = none then (err, s)
  else (DH_FWK_SUCCESS, { s with releasing := (dhType, part) :: s.releasing })

def checkHardwareHandler : DHType → ComponentLoader H → Int × ComponentLoader H :=
  checkPart .hardware ERR_DH_FWK_LOADER_HANDLER_UNLOAD

def checkSource : DHType → ComponentLoader H → Int × ComponentLoader H :=
  checkPart .source ERR_DH_FWK_LOADER_SOURCE_UNLOAD

def checkSink : DHType → ComponentLoader H → Int × ComponentLoader H :=
  checkPart .sink ERR_DH_FWK_LOADER_SINK_UNLOAD

/-- A thread that has checked a part closes its library, and keeps what that returned. -/
def releasePart (dhType : DHType) (part : Part) (dlclose : Bool) (s : ComponentLoader H) :
    Int × ComponentLoader H :=
  let (ret, s') := s.releaseHandler dhType part dlclose
  (ret, { s' with
    releasing := s.releasing.erase (dhType, part)
    clearing := (dhType, part) :: s.clearing })

/-- It clears the handle whatever was returned. -/
def clearPart (dhType : DHType) (part : Part) (s : ComponentLoader H) : ComponentLoader H :=
  { s.setHandler dhType part none with clearing := s.clearing.erase (dhType, part) }

/-- The parts of all entries. -/
def parts (s : ComponentLoader H) : List (DHType × Part) :=
  s.compHandlerMap_.keys.flatMap fun dhType =>
    [(dhType, .sink), (dhType, .source), (dhType, .hardware)]

/-- A round of the loop of `UnInit`. -/
def unInitPart (dlclose : DHType → Part → Bool) (s : ComponentLoader H) (p : DHType × Part) :
    ComponentLoader H :=
  if s.handler p.1 p.2 = none then s else (s.releaseHandler p.1 p.2 (dlclose p.1 p.2)).2

/-- `UnInit`. -/
def unInit (dlclose : DHType → Part → Bool) (s : ComponentLoader H) : ComponentLoader H :=
  { s.parts.foldl (unInitPart dlclose) s with compHandlerMap_ := ∅ }

/-- A round of the loop of `GetAllHandler`. `memory` has the handles of the entry. -/
def setConfig (memory : DHType → CompHandler H) (s : ComponentLoader H) (config : CompConfig) :
    ComponentLoader H :=
  let compHandler := { memory config.type with compConfig := config }
  { s with compHandlerMap_ := s.compHandlerMap_.set config.type compHandler }

/-- `GetAllHandler`, at the end of an `Init` that succeeds. -/
def getAllHandler (dhtypeMap : DhtypeMap) (memory : DHType → CompHandler H)
    (s : ComponentLoader H) : ComponentLoader H :=
  dhtypeMap.configs.foldl (setConfig memory) s

end ComponentLoader

/-- The calls of the loader, those of a release one by one. -/
inductive Call (H : Type)
  | init (dhtypeMap : DhtypeMap) (memory : DHType → CompHandler H)
  | unInit (dlclose : DHType → Part → Bool)
  | getHardwareHandler (dl : Dl H) (dhType : DHType)
  | getSource (dl : Dl H) (dhType : DHType)
  | getSink (dl : Dl H) (dhType : DHType)
  | loadHardwareHandler (dlopen : Option H) (dhType : DHType)
  | loadSource (dlopen : Option H) (dhType : DHType)
  | loadSink (dlopen : Option H) (dhType : DHType)
  | checkHardwareHandler (dhType : DHType)
  | checkSource (dhType : DHType)
  | checkSink (dhType : DHType)
  | releasePart (dhType : DHType) (part : Part) (dlclose : Bool)
  | clearPart (dhType : DHType) (part : Part)

def step {H : Type} [DecidableEq H] (s : ComponentLoader H) : Call H → ComponentLoader H
  | .init dhtypeMap memory => s.getAllHandler dhtypeMap memory
  | .unInit dlclose => s.unInit dlclose
  | .getHardwareHandler dl dhType => (s.getHardwareHandler dl dhType).2
  | .getSource dl dhType => (s.getSource dl dhType).2
  | .getSink dl dhType => (s.getSink dl dhType).2
  | .loadHardwareHandler dlopen dhType => (s.loadHardwareHandler dlopen dhType).2
  | .loadSource dlopen dhType => (s.loadSource dlopen dhType).2
  | .loadSink dlopen dhType => (s.loadSink dlopen dhType).2
  | .checkHardwareHandler dhType => (s.checkHardwareHandler dhType).2
  | .checkSource dhType => (s.checkSource dhType).2
  | .checkSink dhType => (s.checkSink dhType).2
  | .releasePart dhType part dlclose =>
    if (dhType, part) ∈ s.releasing then (s.releasePart dhType part dlclose).2 else s
  | .clearPart dhType part =>
    if (dhType, part) ∈ s.clearing then s.clearPart dhType part else s

/-! ## What is accounted for -/

section Accounted

variable {H : Type} [DecidableEq H]

/-- How often the entries hold a handle. -/
def ComponentLoader.held (s : ComponentLoader H) (h : H) : ℤ :=
  s.compHandlerMap_.sum fun _ compHandler => compHandler.held h

/-- Each library is open as often as an entry holds it, and none was closed that was not open. -/
def Accounted (s : ComponentLoader H) : Prop :=
  s.handles.Accounts s.held

/-- A part whose library is loaded, or now is, and cannot be asked for its class is closed. -/
def GetKeeps (part : Part) (dl : Dl H) (dhType : DHType) (s : ComponentLoader H) : Prop :=
  ∀ compHandler, s.compHandlerMap_.lookup dhType = some compHandler →
    (compHandler.handler part ≠ none ∨
      ComponentLoader.getHandler (compHandler.compConfig.loc part) dl.dlopen ≠ none) →
    dl.dlsym = false → dl.dlclose = true

/-- The calls after which all is accounted for. -/
def Keeps (s : ComponentLoader H) : Call H → Prop
  | .init dhtypeMap memory => ∀ h,
    (dhtypeMap.configs.map fun config => (memory config.type).held h).sum =
      (dhtypeMap.configs.map fun config => (s.compHandlerMap_.get config.type).held h).sum
  | .unInit dlclose => ∀ dhType part, s.handler dhType part ≠ none → dlclose dhType part = true
  | .getHardwareHandler dl dhType => GetKeeps .hardware dl dhType s
  | .getSource dl dhType => GetKeeps .source dl dhType s
  | .getSink dl dhType => GetKeeps .sink dl dhType s
  | .clearPart dhType part => (dhType, part) ∈ s.clearing → s.handler dhType part = none
  | _ => True

/-! ## Entries and what they hold -/

namespace CompHandler

variable (compHandler : CompHandler H) (part part' : Part) (handle : Option H) (h : H)

theorem held_setHandler : (compHandler.setHandler part handle).held h =
    compHandler.held h - holds (compHandler.handler part) h + holds handle h := by
  cases part <;> simp only [setHandler, held, handler] <;> omega

theorem handler_setHandler : (compHandler.setHandler part handle).handler part' =
    if part' = part then handle else compHandler.handler part' := by
  cases part <;> cases part' <;> rfl

theorem holds_le_held : holds (compHandler.handler part) h ≤ compHandler.held h := by
  have hhardware := holds_nonneg compHandler.hardwareHandler h
  have hsource := holds_nonneg compHandler.sourceHandler h
  have hsink := holds_nonneg compHandler.sinkHandler h
  cases part <;> simp only [held, handler] <;> omega

theorem held_nonneg : 0 ≤ compHandler.held h := by
  have hhardware := holds_nonneg compHandler.hardwareHandler h
  have hsource := holds_nonneg compHandler.sourceHandler h
  have hsink := holds_nonneg compHandler.sinkHandler h
  unfold held
  omega

end CompHandler

namespace ComponentLoader

variable {s : ComponentLoader H} {dhType dhType' : DHType} {part part' : Part}
  {handle : Option H} {h : H}

theorem held_setHandler : (s.setHandler dhType part handle).held h =
    s.held h - holds (s.handler dhType part) h + holds handle h := by
  rw [held, setHandler, Table.sum_set fun _ => rfl, CompHandler.held_setHandler, held, handler]
  omega

theorem handler_setHandler : (s.setHandler dhType part handle).handler dhType' part' =
    if dhType' = dhType ∧ part' = part then handle else s.handler dhType' part' := by
  rw [handler, setHandler, Table.get_set]
  by_cases ht : dhType' = dhType
  · subst ht
    rw [if_pos rfl, CompHandler.handler_setHandler]
    simp only [true_and]
    rfl
  · rw [if_neg ht, if_neg fun hsame => ht hsame.1]
    rfl

theorem holds_le_held : holds (s.handler dhType part) h ≤ s.held h :=
  (CompHandler.holds_le_held _ part h).trans (Table.le_sum s.compHandlerMap_ (fun _ => rfl)
    (fun _ => CompHandler.held_nonneg _ h) dhType)

theorem held_eq_zero_iff :
    (∀ h, s.held h = 0) ↔ ∀ dhType part, s.handler dhType part = none := by
  constructor
  · intro hzero dhType part
    rw [Option.eq_none_iff_forall_ne_some]
    intro h hh
    have hle : holds (s.handler dhType part) h ≤ s.held h := holds_le_held
    rw [hh, holds_self, hzero] at hle
    omega
  · intro hnone h
    have hentry : ∀ dhType, (s.compHandlerMap_.get dhType).held h = 0 := by
      intro dhType
      have hhardware : (s.compHandlerMap_.get dhType).hardwareHandler = none :=
        hnone dhType .hardware
      have hsource : (s.compHandlerMap_.get dhType).sourceHandler = none := hnone dhType .source
      have hsink : (s.compHandlerMap_.get dhType).sinkHandler = none := hnone dhType .sink
      rw [CompHandler.held, hhardware, hsource, hsink]
      rfl
    have hsum : s.held h = s.compHandlerMap_.sum fun _ _ => (0 : ℤ) :=
      Table.sum_congr s.compHandlerMap_ hentry
    rw [hsum]
    exact Table.sum_eq_zero _ fun _ _ => rfl

/-! ## The steps of the calls -/

variable {dlclose : Bool}

/-- The threads do not matter. -/
theorem accounted_congr {s' : ComponentLoader H} (hmap : s'.compHandlerMap_ = s.compHandlerMap_)
    (hhandles : s'.handles = s.handles) : Accounted s' ↔ Accounted s := by
  unfold Accounted held
  rw [hmap, hhandles]

/-- A handle that is set is accounted for if it is the one that is there. -/
theorem accounted_setHandler_iff (ha : Accounted s) :
    Accounted (s.setHandler dhType part handle) ↔ handle = s.handler dhType part := by
  refine (Accounts.iff ha).trans (Iff.trans (forall_congr' fun h => ?_) holds_inj)
  rw [held_setHandler]
  omega

theorem accounted_openHandler (ha : Accounted s) (hnone : s.handler dhType part = none)
    (dlopen : Option H) : Accounted (s.openHandler dhType part dlopen) := by
  refine (Accounts.iff (ha.acquire _)).2 fun h => ?_
  have hheld : (s.openHandler dhType part dlopen).held h = (s.setHandler dhType part
      (getHandler ((s.compHandlerMap_.get dhType).compConfig.loc part) dlopen)).held h := rfl
  rw [hheld, held_setHandler, hnone, holds_none, sub_zero]

theorem accounted_releaseHandler (ha : Accounted s) :
    Accounted (s.releaseHandler dhType part dlclose).2 := by
  unfold releaseHandler
  cases hslot : s.handler dhType part with
  | none => exact (accounted_setHandler_iff ha).2 hslot.symm
  | some h =>
    have hpos : 0 < s.held h := by
      have hle : holds (s.handler dhType part) h ≤ s.held h := holds_le_held
      rw [hslot, holds_self] at hle
      omega
    have hclose := ha.close hpos dlclose
    cases dlclose with
    | false =>
      refine (Accounts.iff hclose).2 fun h' => ?_
      exact (sub_zero _).symm
    | true =>
      refine (Accounts.iff hclose).2 fun h' => ?_
      have hheld : (s.setHandler dhType part none).held h' = s.held h' - holds (some h) h' := by
        rw [held_setHandler, hslot, holds_none, add_zero]
      exact hheld

/-- `ReleaseHandler` clears the handle if it closes the library. -/
theorem handler_releaseHandler : (s.releaseHandler dhType part dlclose).2.handler dhType' part' =
    if (dhType' = dhType ∧ part' = part) ∧ dlclose = true then none
    else s.handler dhType' part' := by
  unfold releaseHandler
  cases hslot : s.handler dhType part with
  | none =>
    dsimp only
    rw [handler_setHandler]
    split_ifs with hsame hclosed hclosed
    · rfl
    · rw [hsame.1, hsame.2, hslot]
    · exact absurd hclosed.1 hsame
    · rfl
  | some h =>
    cases dlclose with
    | false => simp [handler]
    | true =>
      have hset := @handler_setHandler H _ { s with handles := s.handles.close h true } dhType
        dhType' part part' none
      simp only [not_true_eq_false, if_false, and_true]
      exact hset

theorem handler_openHandler (dlopen : Option H) :
    (s.openHandler dhType part dlopen).handler dhType part =
      getHandler ((s.compHandlerMap_.get dhType).compConfig.loc part) dlopen := by
  have hset := @handler_setHandler H _ s dhType dhType part part
    (getHandler ((s.compHandlerMap_.get dhType).compConfig.loc part) dlopen)
  rw [if_pos ⟨rfl, rfl⟩] at hset
  exact hset

theorem accounted_askPart_iff {dl : Dl H} (ha : Accounted s) :
    Accounted (s.askPart part dl dhType).2 ↔
      (s.handler dhType part ≠ none → dl.dlsym = false → dl.dlclose = true) := by
  unfold askPart
  split_ifs with hnone hsym
  · exact iff_of_true ha fun hsome => absurd hnone hsome
  · exact iff_of_true ha fun _ hfalse => absurd (hsym.symm.trans hfalse) (by decide)
  · rw [accounted_setHandler_iff (accounted_releaseHandler ha), handler_releaseHandler]
    simp [hnone, hsym, eq_comm (a := none)]

/-- A part that is asked for its class is accounted for, unless its library was to be closed and
was not. -/
theorem accounted_getPart_iff (ha : Accounted s) (dl : Dl H) :
    Accounted (s.getPart part dl dhType).2 ↔ GetKeeps part dl dhType s := by
  unfold getPart
  cases hlookup : s.compHandlerMap_.lookup dhType with
  | none => exact iff_of_true ha fun _ hentry => nomatch hentry.symm.trans hlookup
  | some compHandler =>
    have hentry : s.compHandlerMap_.get dhType = compHandler := Table.get_of_lookup hlookup
    have hslot : s.handler dhType part = compHandler.handler part := by rw [handler, hentry]
    have hask : ∀ s' : ComponentLoader H, Accounted s' →
        (Accounted (s'.askPart part dl dhType).2 ↔
          (s'.handler dhType part ≠ none → dl.dlsym = false → dl.dlclose = true)) :=
      fun _ => accounted_askPart_iff
    have hkeeps : GetKeeps part dl dhType s ↔ ((compHandler.handler part ≠ none ∨
        getHandler (compHandler.compConfig.loc part) dl.dlopen ≠ none) →
          dl.dlsym = false → dl.dlclose = true) := by
      refine ⟨fun h => h compHandler hlookup, fun h compHandler' hlookup' => ?_⟩
      obtain rfl := Option.some.inj (hlookup'.symm.trans hlookup)
      exact h
    dsimp only
    rw [hkeeps]
    split_ifs with hnone
    · rw [hask _ (accounted_openHandler ha hnone dl.dlopen), handler_openHandler, hentry, ← hslot,
        hnone]
      simp
    · rw [hask s ha, ← hslot]
      simp [hnone]

theorem accounted_loadPart (ha : Accounted s) (err : Int) (dlopen : Option H) :
    Accounted (s.loadPart part err dlopen dhType).2 := by
  unfold loadPart
  cases s.compHandlerMap_.lookup dhType with
  | none => exact ha
  | some _ =>
    dsimp only
    split_ifs with hnone
    · exact ha
    · exact accounted_openHandler ha (not_not.1 hnone) dlopen

theorem accounted_checkPart (ha : Accounted s) (err : Int) :
    Accounted (s.checkPart part err dhType).2 := by
  unfold checkPart
  split_ifs
  · exact ha
  · exact ha
  · exact (accounted_congr rfl rfl).2 ha

/-! ## Uninitialisation -/

theorem accounted_foldl_unInitPart (dlclose : DHType → Part → Bool) :
    ∀ (ps : List (DHType × Part)) {s : ComponentLoader H}, Accounted s →
      Accounted (ps.foldl (unInitPart dlclose) s)
  | [], _, ha => ha
  | p :: ps, s, ha => by
    refine accounted_foldl_unInitPart dlclose ps ?_
    unfold unInitPart
    split_ifs
    · exact ha
    · exact accounted_releaseHandler ha

theorem handler_unInitPart (dlclose : DHType → Part → Bool) (p : DHType × Part) :
    (s.unInitPart dlclose p).handler dhType part =
      if (dhType, part) = p ∧ dlclose dhType part = true then none
      else s.handler dhType part := by
  obtain ⟨dhType', part'⟩ := p
  rw [unInitPart]
  by_cases hnone : s.handler dhType' part' = none
  · rw [if_pos hnone]
    split_ifs with hsame
    · obtain ⟨rfl, rfl⟩ := Prod.mk.inj hsame.1
      exact hnone
    · rfl
  · rw [if_neg hnone, handler_releaseHandler]
    simp only [Prod.mk.injEq]
    exact if_congr (and_congr_right fun hsame => by rw [hsame.1, hsame.2]) rfl rfl

theorem handler_foldl_unInitPart (dlclose : DHType → Part → Bool) :
    ∀ (ps : List (DHType × Part)) {s : ComponentLoader H},
      (ps.foldl (unInitPart dlclose) s).handler dhType part =
        if (dhType, part) ∈ ps ∧ dlclose dhType part = true then none
        else s.handler dhType part
  | [], s => by simp
  | p :: ps, s => by
    rw [List.foldl_cons, handler_foldl_unInitPart dlclose ps, handler_unInitPart]
    simp only [List.mem_cons]
    split_ifs <;> tauto

theorem mem_parts (h : s.handler dhType part ≠ none) : (dhType, part) ∈ s.parts := by
  have hkey : dhType ∈ s.compHandlerMap_.keys := by
    by_contra hkey
    refine h ?_
    have hlookup : s.compHandlerMap_.lookup dhType = none := AList.lookup_eq_none.2 hkey
    rw [handler, Table.get_of_lookup_none hlookup]
    cases part <;> rfl
  refine List.mem_flatMap.2 ⟨dhType, hkey, ?_⟩
  cases part <;> simp

/-- The entries go, whatever they hold. -/
theorem accounted_unInit_iff (ha : Accounted s) (dlclose : DHType → Part → Bool) :
    Accounted (s.unInit dlclose) ↔
      ∀ dhType part, s.handler dhType part ≠ none → dlclose dhType part = true := by
  have hloop : Accounted (s.parts.foldl (unInitPart dlclose) s) :=
    accounted_foldl_unInitPart dlclose s.parts ha
  have hzero : Accounted (s.unInit dlclose) ↔
      ∀ h, (s.parts.foldl (unInitPart dlclose) s).held h = 0 :=
    (Accounts.iff hloop).trans (forall_congr' fun h => eq_comm)
  rw [hzero, held_eq_zero_iff]
  refine forall₂_congr fun dhType part => ?_
  rw [handler_foldl_unInitPart]
  by_cases hnone : s.handler dhType part = none
  · simp [hnone]
  · simp [hnone, mem_parts hnone]

/-! ## Initialisation -/

theorem handles_foldl_setConfig (memory : DHType → CompHandler H) :
    ∀ (configs : List CompConfig) (s : ComponentLoader H),
      (configs.foldl (setConfig memory) s).handles = s.handles
  | [], _ => rfl
  | config :: configs, s => handles_foldl_setConfig memory configs (s.setConfig memory config)

theorem held_setConfig (memory : DHType → CompHandler H) (config : CompConfig) (h : H) :
    (s.setConfig memory config).held h =
      s.held h - (s.compHandlerMap_.get config.type).held h + (memory config.type).held h := by
  rw [held, setConfig, Table.sum_set fun _ => rfl]
  rfl

theorem held_foldl_setConfig (memory : DHType → CompHandler H) (h : H) :
    ∀ {configs : List CompConfig} (s : ComponentLoader H), (configs.map CompConfig.type).Nodup →
      (configs.foldl (setConfig memory) s).held h =
        s.held h - (configs.map fun config => (s.compHandlerMap_.get config.type).held h).sum +
          (configs.map fun config => (memory config.type).held h).sum
  | [], s, _ => by simp
  | config :: configs, s, hnodup => by
    obtain ⟨hnot, hnodup⟩ := List.nodup_cons.1 hnodup
    have hrest : (configs.map fun config' =>
          ((s.setConfig memory config).compHandlerMap_.get config'.type).held h) =
        configs.map fun config' => (s.compHandlerMap_.get config'.type).held h := by
      refine List.map_congr_left fun config' hmem => ?_
      have hne : config'.type ≠ config.type := fun heq => hnot (heq ▸ List.mem_map_of_mem hmem)
      rw [setConfig, Table.get_set_ne _ hne]
    rw [List.foldl_cons, held_foldl_setConfig memory h _ hnodup, hrest, held_setConfig,
      List.map_cons, List.map_cons, List.sum_cons, List.sum_cons]
    omega

/-- The handles of the entries that are made take the place of those that were there. -/
theorem accounted_getAllHandler_iff (ha : Accounted s) (dhtypeMap : DhtypeMap)
    (memory : DHType → CompHandler H) : Accounted (s.getAllHandler dhtypeMap memory) ↔ ∀ h,
      (dhtypeMap.configs.map fun config => (memory config.type).held h).sum =
        (dhtypeMap.configs.map fun config => (s.compHandlerMap_.get config.type).held h).sum := by
  rw [Accounted, getAllHandler, handles_foldl_setConfig, Accounts.iff ha]
  refine forall_congr' fun h => ?_
  rw [held_foldl_setConfig memory h s dhtypeMap.nodup]
  omega

end ComponentLoader

/-! ## Runs of the loader -/

variable {s : ComponentLoader H}

theorem accounted_step_iff (ha : Accounted s) :
    ∀ call : Call H, Accounted (step s call) ↔ Keeps s call
  | .init dhtypeMap memory => ComponentLoader.accounted_getAllHandler_iff ha dhtypeMap memory
  | .unInit dlclose => ComponentLoader.accounted_unInit_iff ha dlclose
  | .getHardwareHandler dl _ => ComponentLoader.accounted_getPart_iff ha dl
  | .getSource dl _ => ComponentLoader.accounted_getPart_iff ha dl
  | .getSink dl _ => ComponentLoader.accounted_getPart_iff ha dl
  | .loadHardwareHandler dlopen _ =>
    iff_of_true (ComponentLoader.accounted_loadPart ha _ dlopen) trivial
  | .loadSource dlopen _ => iff_of_true (ComponentLoader.accounted_loadPart ha _ dlopen) trivial
  | .loadSink dlopen _ => iff_of_true (ComponentLoader.accounted_loadPart ha _ dlopen) trivial
  | .checkHardwareHandler _ => iff_of_true (ComponentLoader.accounted_checkPart ha _) trivial
  | .checkSource _ => iff_of_true (ComponentLoader.accounted_checkPart ha _) trivial
  | .checkSink _ => iff_of_true (ComponentLoader.accounted_checkPart ha _) trivial
  | .releasePart dhType part dlclose => by
    rw [step]
    split_ifs
    · have hrelease : Accounted (s.releaseHandler dhType part dlclose).2 :=
        ComponentLoader.accounted_releaseHandler ha
      exact iff_of_true ((ComponentLoader.accounted_congr rfl rfl).2 hrelease) trivial
    · exact iff_of_true ha trivial
  | .clearPart dhType part => by
    rw [step, Keeps]
    split_ifs with hclearing
    · have hset : Accounted (s.setHandler dhType part none) ↔ none = s.handler dhType part :=
        ComponentLoader.accounted_setHandler_iff ha
      rw [forall_prop_of_true hclearing, eq_comm, ← hset]
      exact ComponentLoader.accounted_congr rfl rfl
    · exact iff_of_true ha fun h => absurd h hclearing

end Accounted

end Loader

end DHFwk
