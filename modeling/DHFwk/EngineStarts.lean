import DHFwk.ControlCenter
import DHFwk.SenderEngine

/-!
# Engines that share a device

An engine that starts asks the control centre for a control channel to its device, over the kit.
In the process of the service the kit calls the centre, and the engine gets what it returns. From
another process a proxy sends the request one way : the centre handles it later
(`handleRequest_recorded`), and the engine reads the code off a reply that stays empty.

The centre has a code of its own for a device that is connected already, and an engine takes each
code but `DH_AVT_SUCCESS` for a failure. So where engines are in the process of the service, one
can start as long as the opened event of their channel was not handled, and none after it
(`start_joins_iff`).
-/

set_option linter.unusedSectionVars false

namespace DHFwk

open Runs

/-- What `Start` of an `AVAudioSenderEngine` works on. -/
structure AVAudioSenderEngine extends SenderBase where
  deriving DecidableEq, Repr

def AVAudioSenderEngine.start {C : Type} (pipelineStart : Bool)
    (createControlChannel : C → Int × C) (center : C) (s : AVAudioSenderEngine) :
    Int × C × AVAudioSenderEngine :=
  let (ret, center, base) := s.toSenderBase.start pipelineStart createControlChannel center
  (ret, center, { s with toSenderBase := base })

/-- The two classes of sender engines. -/
inductive SenderEngine
  | sender (engine : AVSenderEngine)
  | audioSender (engine : AVAudioSenderEngine)
  deriving DecidableEq, Repr

namespace SenderEngine

def base : SenderEngine → SenderBase
  | sender engine => engine.toSenderBase
  | audioSender engine => engine.toSenderBase

def setBase (base : SenderBase) : SenderEngine → SenderEngine
  | sender engine => sender { engine with toSenderBase := base }
  | audioSender engine => audioSender { engine with toSenderBase := base }

def start {C : Type} (pipelineStart : Bool) (createControlChannel : C → Int × C) (center : C) :
    SenderEngine → Int × C × SenderEngine
  | sender engine =>
    let (ret, center, engine) := engine.start pipelineStart createControlChannel center
    (ret, center, sender engine)
  | audioSender engine =>
    let (ret, center, engine) := engine.start pipelineStart createControlChannel center
    (ret, center, audioSender engine)

@[simp] theorem base_setBase (base : SenderBase) (engine : SenderEngine) :
    (engine.setBase base).base = base := by
  cases engine <;> rfl

/-- Both classes start as their base does. -/
theorem start_eq {C : Type} (pipelineStart : Bool) (createControlChannel : C → Int × C) (center : C)
    (engine : SenderEngine) : engine.start pipelineStart createControlChannel center =
      ((engine.base.start pipelineStart createControlChannel center).1,
        (engine.base.start pipelineStart createControlChannel center).2.1,
        engine.setBase (engine.base.start pipelineStart createControlChannel center).2.2) := by
  cases engine <;> rfl

end SenderEngine

/-! ## The kit -/

/-- What `ReadInt32` gives of a reply that is empty. -/
abbrev EMPTY_REPLY : Int := 0

/-- The centre, and the requests for a control channel that were sent to it one way. -/
structure KitCenter where
  center : AVTransControlCenter := {}
  requests : List (Int × String) := []

/-- `CreateControlChannel` of the kit. -/
def KitCenter.createControlChannel (isProxy : Bool) (engineId : Int) (peerDevId : String)
    (openSoftbusChannel : Int) (k : KitCenter) : Int × KitCenter :=
  if isProxy then (EMPTY_REPLY, { k with requests := k.requests ++ [(engineId, peerDevId)] })
  else
    let (ret, center) := k.center.createControlChannel engineId peerDevId openSoftbusChannel
    (ret, { k with center := center })

/-- Engines under their ids, and the centre. -/
structure SharingEngines where
  kit : KitCenter := {}
  engines : Table Int SenderEngine := ∅

/-- What happens next. `initControlCenter` makes an engine of what it will be but for its id,
`setState` is any other call that sets the state of an engine, and with `handleRequest` the
centre comes to the first request. -/
inductive StartStep
  | initControlCenter (engine : SenderEngine) (createChannelServer : Int)
  | setState (engineId : Int) (currentState_ : StateId)
  | start (engineId : Int) (pipelineStart : Bool) (openSoftbusChannel : Int)
  | handleRequest (openSoftbusChannel : Int)
  | handleChannelEvent (type : ChannelEvent) (peerDevId : String)
  deriving DecidableEq, Repr

namespace SharingEngines

variable (isProxy : Int → Bool)

/-- The engine gets its id. -/
def initControlCenter (engine : SenderEngine) (createChannelServer : Int) (s : SharingEngines) :
    SharingEngines :=
  let (ret, engineId, center) := s.kit.center.initializeAVCenter .AV_SENDER createChannelServer
  if ret ≠ DH_AVT_SUCCESS then { s with kit.center := center }
  else
    { kit := { s.kit with center := center }
      engines := s.engines.set engineId
        (engine.setBase { engine.base with engineId_ := engineId }) }

/-- The start of an engine : its return code, and the engines then. `isProxy` tells which engines
are in another process than the service. -/
def start (engine : SenderEngine) (pipelineStart : Bool) (openSoftbusChannel : Int)
    (s : SharingEngines) : Int × SharingEngines :=
  let engineId := engine.base.engineId_
  let (ret, kit, engine) := engine.start pipelineStart
    (KitCenter.createControlChannel (isProxy engineId) engineId engine.base.peerDevId_
      openSoftbusChannel) s.kit
  (ret, { kit := kit, engines := s.engines.set engineId engine })

def handleRequest (openSoftbusChannel : Int) (s : SharingEngines) : SharingEngines :=
  match s.kit.requests with
  | [] => s
  | (engineId, peerDevId) :: requests =>
    { s with
      kit.center :=
        (s.kit.center.createControlChannel engineId peerDevId openSoftbusChannel).2
      kit.requests := requests }

def step (s : SharingEngines) : StartStep → SharingEngines
  | .initControlCenter engine createChannelServer => s.initControlCenter engine createChannelServer
  | .setState engineId currentState_ =>
    match s.engines.lookup engineId with
    | none => s
    | some engine =>
      { s with
        engines := s.engines.set engineId
          (engine.setBase { engine.base with currentState_ := currentState_ }) }
  | .start engineId pipelineStart openSoftbusChannel =>
    match s.engines.lookup engineId with
    | none => s
    | some engine => (s.start isProxy engine pipelineStart openSoftbusChannel).2
  | .handleRequest openSoftbusChannel => s.handleRequest openSoftbusChannel
  | .handleChannelEvent type peerDevId =>
    { s with kit.center := s.kit.center.handleChannelEvent type peerDevId }

/-- The centre has the engine recorded for the device, or will have when it comes to the request
that is under way. -/
def IsRecorded (s : SharingEngines) (engineId : Int) (peerDevId : String) : Prop :=
  s.kit.center.engine2DevIdMap_.lookup engineId = some peerDevId ∨
    (engineId, peerDevId) ∈ s.kit.requests

/-- The control channel to the device is open or can be opened. -/
def CanOpen (s : SharingEngines) (peerDevId : String) (openSoftbusChannel : Int) : Prop :=
  peerDevId ∈ s.kit.center.connectedDevIds_ ∨ openSoftbusChannel = DH_AVT_SUCCESS ∨
    openSoftbusChannel = ERR_DH_AVT_SESSION_HAS_OPENED

/-- The engine that starts with a pipeline that starts is `STARTED`, and recorded. -/
def Joins (s : SharingEngines) (engineId : Int) (engine : SenderEngine)
    (openSoftbusChannel : Int) : Prop :=
  let (ret, s') := s.start isProxy engine true openSoftbusChannel
  ret = DH_AVT_SUCCESS ∧
    (s'.engines.lookup engineId).map (fun engine => engine.base.currentState_) = some .STARTED ∧
    s'.IsRecorded engineId engine.base.peerDevId_

/-- What holds in every state : engines have the ids that the centre gave them, and are recorded
for their devices only. -/
structure Sound (s : SharingEngines) : Prop where
  base : BASE_ENGINE_ID ≤ s.kit.center.rootEngineId_
  ids : ∀ engineId engine, s.engines.lookup engineId = some engine →
    engine.base.engineId_ = engineId ∧ BASE_ENGINE_ID ≤ engineId ∧
      engineId < s.kit.center.rootEngineId_ ∧ s.kit.center.initialized_ = true
  peers : ∀ engineId peerDevId,
    (s.kit.center.engine2DevIdMap_.lookup engineId = some peerDevId ∨
      (engineId, peerDevId) ∈ s.kit.requests) →
    ∃ engine, s.engines.lookup engineId = some engine ∧ engine.base.peerDevId_ = peerDevId

variable {isProxy : Int → Bool} {s : SharingEngines} {engineId openSoftbusChannel : Int}
  {peerDevId : String} {engine : SenderEngine}

theorem Sound.valid (h : s.Sound) (hlookup : s.engines.lookup engineId = some engine) :
    s.kit.center.isInvalidEngineId engineId = false ∧ s.kit.center.initialized_ = true := by
  obtain ⟨-, hbase, hroot, hinit⟩ := h.ids engineId engine hlookup
  refine ⟨?_, hinit⟩
  simp only [AVTransControlCenter.isInvalidEngineId, Bool.or_eq_false_iff,
    decide_eq_false_iff_not]
  omega

/-- Recorded under an id is the device of its engine. -/
theorem Sound.lookup_record (h : s.Sound) (hlookup : s.engines.lookup engineId = some engine) :
    (s.kit.center.record engineId engine.base.peerDevId_).engine2DevIdMap_.lookup engineId =
      some engine.base.peerDevId_ := by
  rw [AVTransControlCenter.lookup_record, if_pos rfl]
  cases hmap : s.kit.center.engine2DevIdMap_.lookup engineId with
  | none => rfl
  | some peerDevId =>
    obtain ⟨engine', hlookup', hpeer⟩ := h.peers engineId peerDevId (.inl hmap)
    obtain rfl := Option.some.inj (hlookup.symm.trans hlookup')
    rw [hpeer]
    rfl

/-- An engine is set to one with its id and its device. -/
theorem Sound.set (h : s.Sound) (hlookup : s.engines.lookup engineId = some engine)
    {engine' : SenderEngine} (hid : engine'.base.engineId_ = engine.base.engineId_)
    (hpeer : engine'.base.peerDevId_ = engine.base.peerDevId_) :
    Sound { s with engines := s.engines.set engineId engine' } where
  base := h.base
  ids := by
    intro e engine'' hmem
    rw [Table.lookup_set] at hmem
    split_ifs at hmem with he
    · obtain rfl := Option.some.inj hmem
      subst he
      rw [hid]
      exact h.ids e engine hlookup
    · exact h.ids e engine'' hmem
  peers := by
    intro e devId hmem
    obtain ⟨engine'', hlookup'', hdev⟩ := h.peers e devId hmem
    rw [Table.lookup_set]
    split_ifs with he
    · subst he
      obtain rfl := Option.some.inj (hlookup.symm.trans hlookup'')
      exact ⟨engine', rfl, hpeer.trans hdev⟩
    · exact ⟨engine'', hlookup'', hdev⟩

/-- The centre records an engine for its device, or requests are left or sent for it. -/
theorem Sound.setKit (h : s.Sound) {kit : KitCenter}
    (hroot : kit.center.rootEngineId_ = s.kit.center.rootEngineId_)
    (hinit : kit.center.initialized_ = s.kit.center.initialized_)
    (hpeers : ∀ e devId, (kit.center.engine2DevIdMap_.lookup e = some devId ∨
        (e, devId) ∈ kit.requests) →
      ∃ engine, s.engines.lookup e = some engine ∧ engine.base.peerDevId_ = devId) :
    Sound { s with kit := kit } where
  base := by
    rw [hroot]
    exact h.base
  ids := by
    intro e engine hlookup
    rw [hroot, hinit]
    exact h.ids e engine hlookup
  peers := hpeers

theorem Sound.createControlChannel (h : s.Sound)
    (hlookup : s.engines.lookup engineId = some engine) (openSoftbusChannel : Int) :
    let c' := (s.kit.center.createControlChannel engineId engine.base.peerDevId_
      openSoftbusChannel).2
    c'.rootEngineId_ = s.kit.center.rootEngineId_ ∧
      c'.initialized_ = s.kit.center.initialized_ ∧
      ∀ e devId, c'.engine2DevIdMap_.lookup e = some devId →
        ∃ engine, s.engines.lookup e = some engine ∧ engine.base.peerDevId_ = devId := by
  obtain ⟨hroot, hmap⟩ := s.kit.center.createControlChannel_map engineId engine.base.peerDevId_
    openSoftbusChannel
  obtain ⟨hinit, -⟩ := s.kit.center.createControlChannel_eq engineId engine.base.peerDevId_
    openSoftbusChannel
  refine ⟨hroot, hinit, fun e devId hrecorded => ?_⟩
  rcases hmap with hmap | hmap
  · rw [hmap] at hrecorded
    exact h.peers e devId (.inl hrecorded)
  · rw [hmap] at hrecorded
    by_cases he : e = engineId
    · subst he
      rw [h.lookup_record hlookup] at hrecorded
      exact ⟨engine, hlookup, Option.some.inj hrecorded⟩
    · rw [AVTransControlCenter.lookup_record, if_neg he] at hrecorded
      exact h.peers e devId (.inl hrecorded)

theorem Sound.initControlCenter (h : s.Sound) (engine : SenderEngine) (createChannelServer : Int) :
    (s.initControlCenter engine createChannelServer).Sound := by
  have hnew : ∀ center : AVTransControlCenter, center.initialized_ = true →
      center.rootEngineId_ = s.kit.center.rootEngineId_ + 1 →
      center.engine2DevIdMap_ = s.kit.center.engine2DevIdMap_ →
      Sound
        { kit := { s.kit with center := center }
          engines := s.engines.set s.kit.center.rootEngineId_
            (engine.setBase { engine.base with
              engineId_ := s.kit.center.rootEngineId_ }) } := by
    intro center hinit hroot hmap
    refine ⟨?_, fun e engine' hlookup => ?_, fun e devId hrecorded => ?_⟩
    · rw [hroot]
      exact h.base.trans (Int.le_add_one le_rfl)
    · rw [Table.lookup_set] at hlookup
      split_ifs at hlookup with he
      · obtain rfl := Option.some.inj hlookup
        rw [SenderEngine.base_setBase, hroot, he]
        exact ⟨rfl, h.base, Int.lt_succ _, hinit⟩
      · obtain ⟨hid, hle, hlt, -⟩ := h.ids e engine' hlookup
        rw [hroot]
        exact ⟨hid, hle, hlt.trans (Int.lt_succ _), hinit⟩
    · rw [hmap] at hrecorded
      obtain ⟨engine', hlookup, hdev⟩ := h.peers e devId hrecorded
      have hne : e ≠ s.kit.center.rootEngineId_ := (h.ids e engine' hlookup).2.2.1.ne
      exact ⟨engine', (Table.lookup_set_ne _ hne _).trans hlookup, hdev⟩
  simp only [SharingEngines.initControlCenter, AVTransControlCenter.initializeAVCenter_of_ne
    (show TransRole.AV_SENDER ≠ .UNKNOWN from nofun)]
  by_cases hinit : s.kit.center.initialized_ = true
  · simp only [if_pos hinit, ne_eq, not_true_eq_false, if_false]
    exact hnew _ hinit rfl rfl
  · by_cases hserver : createChannelServer = DH_AVT_SUCCESS
    · simp only [if_neg hinit, hserver, ne_eq, not_true_eq_false, if_false]
      exact hnew _ rfl rfl rfl
    · simp only [if_neg hinit, ne_eq, hserver, not_false_eq_true, if_true]
      exact h

/-- The base of an engine that starts keeps its id and its device. -/
theorem base_start {C : Type} (pipelineStart : Bool) (createControlChannel : C → Int × C)
    (center : C) (base : SenderBase) :
    (base.start pipelineStart createControlChannel center).2.2.engineId_ = base.engineId_ ∧
      (base.start pipelineStart createControlChannel center).2.2.peerDevId_ = base.peerDevId_ ∧
      ((base.start pipelineStart createControlChannel center).2.1 = center ∨
        (base.start pipelineStart createControlChannel center).2.1 =
          (createControlChannel center).2) := by
  rcases base.start_cases pipelineStart createControlChannel center with
    ⟨-, h⟩ | ⟨-, ⟨-, h⟩ | ⟨-, -, h⟩ | ⟨-, -, h⟩⟩
  · rw [h]
    exact ⟨rfl, rfl, .inl rfl⟩
  · rw [h]
    exact ⟨rfl, rfl, .inl rfl⟩
  · rw [h]
    exact ⟨rfl, rfl, .inr rfl⟩
  · rw [h]
    exact ⟨rfl, rfl, .inr rfl⟩

theorem Sound.start (h : s.Sound) (hlookup : s.engines.lookup engineId = some engine)
    (pipelineStart : Bool) (openSoftbusChannel : Int) :
    (s.start isProxy engine pipelineStart openSoftbusChannel).2.Sound := by
  have hid : engine.base.engineId_ = engineId := (h.ids engineId engine hlookup).1
  simp only [SharingEngines.start, SenderEngine.start_eq, hid]
  obtain ⟨hsameId, hsamePeer, hkit⟩ := base_start pipelineStart
    (KitCenter.createControlChannel (isProxy engineId) engineId engine.base.peerDevId_
      openSoftbusChannel) s.kit engine.base
  generalize engine.base.start pipelineStart (KitCenter.createControlChannel (isProxy engineId)
    engineId engine.base.peerDevId_ openSoftbusChannel) s.kit = result at hsameId hsamePeer hkit ⊢
  have hset : ∀ s' : SharingEngines, s'.Sound → s'.engines = s.engines →
      Sound { s' with engines := s.engines.set engineId (engine.setBase result.2.2) } := by
    intro s' h' hsame
    have hset' : Sound
        { s' with engines := s'.engines.set engineId (engine.setBase result.2.2) } :=
      h'.set (by rw [hsame, hlookup]) (by simpa using hsameId) (by simpa using hsamePeer)
    rwa [hsame] at hset'
  rcases hkit with hkit | hkit
  · rw [hkit]
    exact hset s h rfl
  · rw [hkit]
    refine hset { s with kit := _ } ?_ rfl
    unfold KitCenter.createControlChannel
    cases isProxy engineId with
    | true =>
      refine h.setKit rfl rfl fun e devId hrecorded => ?_
      rcases hrecorded with hmap | hrequest
      · exact h.peers e devId (.inl hmap)
      · rcases List.mem_append.1 hrequest with hrequest | hrequest
        · exact h.peers e devId (.inr hrequest)
        · obtain ⟨rfl, rfl⟩ := Prod.mk.inj (List.mem_singleton.1 hrequest)
          exact ⟨engine, hlookup, rfl⟩
    | false =>
      obtain ⟨hroot, hinit, hpeers⟩ := h.createControlChannel hlookup openSoftbusChannel
      refine h.setKit hroot hinit fun e devId hrecorded => ?_
      rcases hrecorded with hmap | hrequest
      · exact hpeers e devId hmap
      · exact h.peers e devId (.inr hrequest)

theorem Sound.handleRequest (h : s.Sound) (openSoftbusChannel : Int) :
    (s.handleRequest openSoftbusChannel).Sound := by
  unfold SharingEngines.handleRequest
  cases hrequests : s.kit.requests with
  | nil => exact h
  | cons request requests =>
    obtain ⟨engineId, peerDevId⟩ := request
    have hmem : (engineId, peerDevId) ∈ s.kit.requests := by
      rw [hrequests]
      exact List.mem_cons_self
    obtain ⟨engine, hlookup, rfl⟩ := h.peers engineId peerDevId (.inr hmem)
    obtain ⟨hroot, hinit, hpeers⟩ := h.createControlChannel hlookup openSoftbusChannel
    refine h.setKit hroot hinit fun e devId hrecorded => ?_
    rcases hrecorded with hmap | hrequest
    · exact hpeers e devId hmap
    · refine h.peers e devId (.inr ?_)
      rw [hrequests]
      exact List.mem_cons_of_mem _ hrequest

theorem Sound.step (h : s.Sound) (l : StartStep) : (s.step isProxy l).Sound := by
  cases l with
  | initControlCenter engine createChannelServer =>
    exact h.initControlCenter engine createChannelServer
  | setState engineId currentState_ =>
    simp only [SharingEngines.step]
    cases hlookup : s.engines.lookup engineId with
    | none => exact h
    | some engine => exact h.set hlookup (by simp) (by simp)
  | start engineId pipelineStart openSoftbusChannel =>
    simp only [SharingEngines.step]
    cases hlookup : s.engines.lookup engineId with
    | none => exact h
    | some engine => exact h.start hlookup pipelineStart openSoftbusChannel
  | handleRequest openSoftbusChannel => exact h.handleRequest openSoftbusChannel
  | handleChannelEvent type peerDevId =>
    have hsame : (s.kit.center.handleChannelEvent type peerDevId).rootEngineId_ =
          s.kit.center.rootEngineId_ ∧
        (s.kit.center.handleChannelEvent type peerDevId).initialized_ =
          s.kit.center.initialized_ ∧
        (s.kit.center.handleChannelEvent type peerDevId).engine2DevIdMap_ =
          s.kit.center.engine2DevIdMap_ := by
      cases type <;> exact ⟨rfl, rfl, rfl⟩
    refine h.setKit hsame.1 hsame.2.1 fun e devId hrecorded => ?_
    rw [hsame.2.2] at hrecorded
    exact h.peers e devId hrecorded

theorem sound_init : Sound {} where
  base := le_rfl
  ids _ _ hlookup := absurd hlookup (Table.lookup_empty_ne_some _ _)
  peers := by
    rintro e devId (hmap | hrequest)
    · exact absurd hmap (Table.lookup_empty_ne_some _ _)
    · cases hrequest

theorem sound_run (isProxy : Int → Bool) (ls : List StartStep) :
    (ls.foldl (step isProxy) {}).Sound :=
  foldl_invariant (fun _ l h => h.step l) ls sound_init

/-! ## Who can start -/

/-- What the kit returns to an engine of a valid id. -/
theorem createControlChannel_ret (h : s.Sound)
    (hlookup : s.engines.lookup engineId = some engine)
    (hopen : s.CanOpen engine.base.peerDevId_ openSoftbusChannel) :
    (s.kit.createControlChannel (isProxy engineId) engineId engine.base.peerDevId_
        openSoftbusChannel).1 = DH_AVT_SUCCESS ↔
      isProxy engineId = true ∨
        engine.base.peerDevId_ ∉ s.kit.center.connectedDevIds_ := by
  obtain ⟨hid, hinit⟩ := h.valid hlookup
  obtain ⟨hret, -⟩ := AVTransControlCenter.createControlChannel_of_valid hid hinit hopen
  unfold KitCenter.createControlChannel
  cases isProxy engineId with
  | true => exact iff_of_true rfl (.inl rfl)
  | false =>
    simp only [Bool.false_eq_true, if_false, hret, false_or]
    split_ifs with hmem
    · exact iff_of_false (by decide) (not_not.2 hmem)
    · exact iff_of_true rfl hmem

/-- The kit has the engine recorded, or sends a request for it. -/
theorem createControlChannel_recorded (h : s.Sound)
    (hlookup : s.engines.lookup engineId = some engine)
    (hopen : s.CanOpen engine.base.peerDevId_ openSoftbusChannel) (engines : Table Int SenderEngine) :
    IsRecorded
      { kit := (s.kit.createControlChannel (isProxy engineId) engineId engine.base.peerDevId_
          openSoftbusChannel).2
        engines := engines } engineId engine.base.peerDevId_ := by
  obtain ⟨hid, hinit⟩ := h.valid hlookup
  obtain ⟨-, hmap⟩ := AVTransControlCenter.createControlChannel_of_valid hid hinit hopen
  unfold IsRecorded KitCenter.createControlChannel
  cases isProxy engineId with
  | true => exact .inr (List.mem_append_right _ (List.mem_singleton_self _))
  | false => exact .inl ((congrArg (AList.lookup engineId) hmap).trans (h.lookup_record hlookup))

/-- The request of an engine that could not be told of its outcome records it when the centre comes
to it. -/
theorem Sound.handleRequest_recorded (h : s.Sound) {requests : List (Int × String)}
    (hrequests : s.kit.requests = (engineId, peerDevId) :: requests)
    (hopen : s.CanOpen peerDevId openSoftbusChannel) :
    (s.handleRequest openSoftbusChannel).kit.center.engine2DevIdMap_.lookup engineId =
      some peerDevId := by
  have hmem : (engineId, peerDevId) ∈ s.kit.requests := by
    rw [hrequests]
    exact List.mem_cons_self
  obtain ⟨engine, hlookup, rfl⟩ := h.peers engineId peerDevId (.inr hmem)
  obtain ⟨hid, hinit⟩ := h.valid hlookup
  obtain ⟨-, hmap⟩ := AVTransControlCenter.createControlChannel_of_valid hid hinit hopen
  simp only [SharingEngines.handleRequest, hrequests, hmap]
  exact h.lookup_record hlookup

/-- In every state that can be reached, an engine whose pipeline starts and whose channel is open
or can be opened joins, exactly if it is in another process or its device is not connected yet. -/
theorem start_joins_iff (isProxy : Int → Bool) (ls : List StartStep) (engineId : Int)
    (engine : SenderEngine) (openSoftbusChannel : Int)
    (hlookup : (ls.foldl (step isProxy) {}).engines.lookup engineId = some engine)
    (hstate : engine.base.currentState_ = .CH_CREATED) (hpipeline : engine.base.pipeline_ ≠ none)
    (hkit : engine.base.dhFwkKit_ = true)
    (hopen : (ls.foldl (step isProxy) {}).CanOpen engine.base.peerDevId_ openSoftbusChannel) :
    (ls.foldl (step isProxy) {}).Joins isProxy engineId engine openSoftbusChannel ↔
      isProxy engineId = true ∨ engine.base.peerDevId_ ∉
        (ls.foldl (step isProxy) {}).kit.center.connectedDevIds_ := by
  have h := sound_run isProxy ls
  generalize ls.foldl (step isProxy) {} = s at hlookup hopen h ⊢
  have hid : engine.base.engineId_ = engineId := (h.ids engineId engine hlookup).1
  rw [← createControlChannel_ret h hlookup hopen]
  simp only [Joins, SharingEngines.start, SenderEngine.start_eq, hid]
  rcases engine.base.start_cases true (KitCenter.createControlChannel (isProxy engineId) engineId
    engine.base.peerDevId_ openSoftbusChannel) s.kit with
    ⟨hnot, -⟩ | ⟨-, ⟨hnone, -⟩ | ⟨-, hret, heq⟩ | ⟨-, hret, heq⟩⟩
  · exact (hnot ⟨hstate, hpipeline, rfl⟩).elim
  · exact absurd (hkit.symm.trans hnone) (by decide)
  · -- The engine takes the code for a failure.
    rw [heq]
    exact iff_of_false (fun hjoins => nomatch hjoins.1) hret
  · rw [heq]
    refine iff_of_true ⟨rfl, ?_, createControlChannel_recorded h hlookup hopen _⟩ hret
    simp

/-- Two engines of the service with one device : the first has started, and its channel is
open. -/
def firstStarted : List StartStep :=
  [.initControlCenter (.sender ⟨⟨0, "tv", .INITIALIZED, some {}, true⟩, OWNER_NAME_D_SCREEN, some {},
      true, true⟩) 0,
    .initControlCenter (.audioSender ⟨0, "tv", .INITIALIZED, some {}, true⟩) 0,
    .setState 1000 .CH_CREATED, .setState 1001 .CH_CREATED, .start 1000 true 0,
    .handleChannelEvent .EVENT_CHANNEL_OPENED "tv"]

/-- Before it has, it joins. -/
theorem start_joins_first :
    ((firstStarted.take 4).foldl (step fun _ => false) {}).Joins (fun _ => false) 1000
        (.sender ⟨⟨1000, "tv", .CH_CREATED, some {}, true⟩, OWNER_NAME_D_SCREEN, some {}, true,
          true⟩) 0 ↔
      (fun _ : Int => false) 1000 = true ∨ "tv" ∉
        ((firstStarted.take 4).foldl (step fun _ => false) {}).kit.center.connectedDevIds_ :=
  start_joins_iff (fun _ => false) (firstStarted.take 4) 1000 _ 0 (by decide +kernel) rfl nofun rfl
    (.inr (.inl rfl))

/-- The second one does not : its start returns that a channel could not be created. -/
theorem start_not_joins :
    let s := firstStarted.foldl (step fun _ => false) {}
    let engine := SenderEngine.audioSender ⟨1001, "tv", .CH_CREATED, some {}, true⟩
    s.engines.lookup 1001 = some engine ∧
      (s.start (fun _ => false) engine true 0).1 = ERR_DH_AVT_CREATE_CHANNEL_FAILED ∧
      ¬s.Joins (fun _ => false) 1001 engine 0 := by
  refine ⟨by decide +kernel, by decide +kernel, fun hjoins => ?_⟩
  exact absurd hjoins.1 (by decide +kernel)

end SharingEngines

end DHFwk
