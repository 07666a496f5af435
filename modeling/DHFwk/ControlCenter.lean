import DHFwk.Runs
import DHFwk.Table
import DHFwk.AVTypes

/-!
# Control channels of engines

`AVTransControlCenter` gives every engine an id, opens a control channel to the device that an
engine plays with, and keeps the devices that are connected and the device of each engine.
Engines that play with one device share its channel, and `ReleaseAVCenter` of the last one of
them closes it.

A closed channel stays among the connected devices, and one that is opened again comes in a
second time. The release of the last engine of one device takes back the listeners, which are
those for all devices, and `InitializeAVCenter` registers them only once. `booked_iff` : the
books are right all along exactly in runs in which channels are opened that are not open and none
is closed, the last engine of a device is the last one at all, and no engine comes after it
(`Keeps`).
-/

set_option linter.unusedSectionVars false

namespace DHFwk

open Runs

abbrev BASE_ENGINE_ID : Int := 1000
abbrev INVALID_ENGINE_ID : Int := -1

inductive TransRole
  | AV_SENDER
  | AV_RECEIVER
  | UNKNOWN
  deriving DecidableEq, Repr

/-- Of `listenerMap_` of the adapter, the names under which the control centre is registered, all
of them for the special device. Callbacks and time synchronisation are left out, and so are the
channels, which the adapter keeps. -/
structure AVTransControlCenter where
  initialized_ : Bool := false
  transRole_ : TransRole := .UNKNOWN
  rootEngineId_ : Int := BASE_ENGINE_ID
  engine2DevIdMap_ : Table Int String := ∅
  connectedDevIds_ : List String := []
  listenerMap_ : Finset String := ∅

namespace AVTransControlCenter

def isInvalidEngineId (c : AVTransControlCenter) (engineId : Int) : Bool :=
  engineId < BASE_ENGINE_ID || engineId > c.rootEngineId_

/-- The return code, the id of the engine, and the centre. `createChannelServer` is what the call
of that name returns. -/
def initializeAVCenter (transRole : TransRole) (createChannelServer : Int)
    (c : AVTransControlCenter) : Int × Int × AVTransControlCenter :=
  if transRole ≠ .AV_SENDER ∧ transRole ≠ .AV_RECEIVER then
    (ERR_DH_AVT_INVALID_PARAM_VALUE, INVALID_ENGINE_ID, c)
  else if c.initialized_ then
    (DH_AVT_SUCCESS, c.rootEngineId_, { c with rootEngineId_ := c.rootEngineId_ + 1 })
  else if createChannelServer ≠ DH_AVT_SUCCESS then (createChannelServer, INVALID_ENGINE_ID, c)
  else
    (DH_AVT_SUCCESS, c.rootEngineId_,
      { c with
        listenerMap_ := insert AV_SYNC_RECEIVER_CONTROL_SESSION_NAME c.listenerMap_
        initialized_ := true
        transRole_ := transRole
        rootEngineId_ := c.rootEngineId_ + 1 })

/-- `insert` of a map : an entry that is there stays. -/
def record (engineId : Int) (peerDevId : String) (c : AVTransControlCenter) :
    AVTransControlCenter :=
  if (c.engine2DevIdMap_.lookup engineId).isSome then c
  else { c with engine2DevIdMap_ := c.engine2DevIdMap_.set engineId peerDevId }

/-- `openSoftbusChannel` is what the adapter returns. -/
def createControlChannel (engineId : Int) (peerDevId : String) (openSoftbusChannel : Int)
    (c : AVTransControlCenter) : Int × AVTransControlCenter :=
  if c.isInvalidEngineId engineId then (ERR_DH_AVT_INVALID_PARAM_VALUE, c)
  else if ¬c.initialized_ then (ERR_DH_AVT_CREATE_CHANNEL_FAILED, c)
  else if peerDevId ∈ c.connectedDevIds_ then
    (ERR_DH_AVT_CHANNEL_ALREADY_CREATED, c.record engineId peerDevId)
  else
    let c := { c with
      listenerMap_ := insert AV_SYNC_SENDER_CONTROL_SESSION_NAME c.listenerMap_ }
    if openSoftbusChannel ≠ DH_AVT_SUCCESS ∧
        openSoftbusChannel ≠ ERR_DH_AVT_SESSION_HAS_OPENED then
      (openSoftbusChannel, c)
    else (DH_AVT_SUCCESS, c.record engineId peerDevId)

/-- An engine of the map plays with the device. -/
def isDevIdUsed (engine2DevIdMap_ : Table Int String) (peerDevId : String) : Bool :=
  engine2DevIdMap_.entries.any fun e => e.2 = peerDevId

def releaseAVCenter (engineId : Int) (c : AVTransControlCenter) : Int × AVTransControlCenter :=
  if c.isInvalidEngineId engineId then (ERR_DH_AVT_INVALID_PARAM_VALUE, c)
  else
    match c.engine2DevIdMap_.lookup engineId with
    | none => (DH_AVT_SUCCESS, c)
    | some peerDevId =>
      let c := { c with engine2DevIdMap_ := c.engine2DevIdMap_.remove engineId }
      if isDevIdUsed c.engine2DevIdMap_ peerDevId then (DH_AVT_SUCCESS, c)
      else if peerDevId ∉ c.connectedDevIds_ then (DH_AVT_SUCCESS, c)
      else
        (DH_AVT_SUCCESS,
          { c with
            connectedDevIds_ := c.connectedDevIds_.erase peerDevId
            listenerMap_ := (c.listenerMap_.erase AV_SYNC_SENDER_CONTROL_SESSION_NAME).erase
              AV_SYNC_RECEIVER_CONTROL_SESSION_NAME })

def handleChannelEvent (type : ChannelEvent) (peerDevId : String) (c : AVTransControlCenter) :
    AVTransControlCenter :=
  match type with
  | .EVENT_CHANNEL_CLOSED => c
  | .EVENT_CHANNEL_OPEN_FAIL => c
  | .EVENT_CHANNEL_OPENED => { c with connectedDevIds_ := c.connectedDevIds_ ++ [peerDevId] }

/-- The device whose last engine is the one with this id. -/
def lastEngineOf (c : AVTransControlCenter) (engineId : Int) : Option String :=
  if c.isInvalidEngineId engineId then none
  else
    (c.engine2DevIdMap_.lookup engineId).filter fun peerDevId =>
      ¬isDevIdUsed (c.engine2DevIdMap_.remove engineId) peerDevId

variable {c : AVTransControlCenter}

/-! ## What the calls do -/

theorem initializeAVCenter_of_ne {transRole : TransRole} (hrole : transRole ≠ .UNKNOWN)
    (createChannelServer : Int) (c : AVTransControlCenter) :
    c.initializeAVCenter transRole createChannelServer =
      if c.initialized_ then
        (DH_AVT_SUCCESS, c.rootEngineId_, { c with rootEngineId_ := c.rootEngineId_ + 1 })
      else if createChannelServer ≠ DH_AVT_SUCCESS then (createChannelServer, INVALID_ENGINE_ID, c)
      else
        (DH_AVT_SUCCESS, c.rootEngineId_,
          { c with
            listenerMap_ := insert AV_SYNC_RECEIVER_CONTROL_SESSION_NAME c.listenerMap_
            initialized_ := true
            transRole_ := transRole
            rootEngineId_ := c.rootEngineId_ + 1 }) := by
  have hvalid : ¬(transRole ≠ .AV_SENDER ∧ transRole ≠ .AV_RECEIVER) := by
    cases transRole <;> simp at hrole ⊢
  exact if_neg hvalid

theorem record_eq (engineId : Int) (peerDevId : String) (c : AVTransControlCenter) :
    (c.record engineId peerDevId).initialized_ = c.initialized_ ∧
      (c.record engineId peerDevId).connectedDevIds_ = c.connectedDevIds_ ∧
      (c.record engineId peerDevId).listenerMap_ = c.listenerMap_ := by
  unfold record
  split_ifs <;> exact ⟨rfl, rfl, rfl⟩

/-- A control channel is created without a change of the devices, and no listener is taken back;
a centre that is not initialized does nothing. -/
theorem createControlChannel_eq (engineId : Int) (peerDevId : String) (openSoftbusChannel : Int)
    (c : AVTransControlCenter) :
    let c' := (c.createControlChannel engineId peerDevId openSoftbusChannel).2
    c'.initialized_ = c.initialized_ ∧ c'.connectedDevIds_ = c.connectedDevIds_ ∧
      c.listenerMap_ ⊆ c'.listenerMap_ ∧ (c.initialized_ = false → c' = c) := by
  unfold createControlChannel
  dsimp only
  by_cases hid : c.isInvalidEngineId engineId = true
  · rw [if_pos hid]
    exact ⟨rfl, rfl, Finset.Subset.refl _, fun _ => rfl⟩
  rw [if_neg hid]
  by_cases hinit : c.initialized_ = true
  · have hon : ∀ {P : Prop}, c.initialized_ = false → P := fun hoff =>
      absurd (hoff.symm.trans hinit) Bool.false_ne_true
    rw [if_neg (not_not.2 hinit)]
    split_ifs
    · obtain ⟨h₁, h₂, h₃⟩ := record_eq engineId peerDevId c
      exact ⟨h₁, h₂, h₃.symm.subset, hon⟩
    · exact ⟨rfl, rfl, Finset.subset_insert _ _, hon⟩
    · obtain ⟨h₁, h₂, h₃⟩ := record_eq engineId peerDevId { c with
        listenerMap_ := insert AV_SYNC_SENDER_CONTROL_SESSION_NAME c.listenerMap_ }
      refine ⟨h₁, h₂, ?_, hon⟩
      rw [h₃]
      exact Finset.subset_insert _ _
  · rw [if_pos hinit]
    exact ⟨rfl, rfl, Finset.Subset.refl _, fun _ => rfl⟩

/-- The release of the last engine of a device takes out the device, and the listeners if it was
connected. -/
theorem releaseAVCenter_eq (engineId : Int) (c : AVTransControlCenter) :
    let c' := (c.releaseAVCenter engineId).2
    c'.initialized_ = c.initialized_ ∧
      c'.connectedDevIds_ = (match c.lastEngineOf engineId with
        | none => c.connectedDevIds_
        | some peerDevId => c.connectedDevIds_.erase peerDevId) ∧
      c'.listenerMap_ =
        (if ∃ peerDevId ∈ c.connectedDevIds_, c.lastEngineOf engineId = some peerDevId then
          (c.listenerMap_.erase AV_SYNC_SENDER_CONTROL_SESSION_NAME).erase
            AV_SYNC_RECEIVER_CONTROL_SESSION_NAME
        else c.listenerMap_) := by
  dsimp only
  unfold releaseAVCenter lastEngineOf
  by_cases hid : c.isInvalidEngineId engineId = true
  · simp [hid]
  cases hlookup : c.engine2DevIdMap_.lookup engineId with
  | none => simp [hid]
  | some peerDevId =>
    by_cases hused : isDevIdUsed (c.engine2DevIdMap_.remove engineId) peerDevId = true
    · simp [hid, hused, Option.filter]
    · by_cases hmem : peerDevId ∈ c.connectedDevIds_
      · simp [hid, hused, Option.filter, hmem]
      · simp [hid, hused, Option.filter, hmem, List.erase_of_not_mem]

theorem releaseAVCenter_of_empty (h : c.engine2DevIdMap_ = ∅) (engineId : Int) :
    (c.releaseAVCenter engineId).2 = c := by
  have hlookup : c.engine2DevIdMap_.lookup engineId = none := by rw [h, AList.lookup_empty]
  unfold releaseAVCenter
  rw [hlookup]
  split_ifs <;> rfl

theorem lookup_record (engineId : Int) (peerDevId : String) (c : AVTransControlCenter) (e : Int) :
    (c.record engineId peerDevId).engine2DevIdMap_.lookup e =
      if e = engineId then some ((c.engine2DevIdMap_.lookup engineId).getD peerDevId)
      else c.engine2DevIdMap_.lookup e := by
  unfold record
  split_ifs with hsome he he
  · obtain ⟨devId, hlookup⟩ := Option.isSome_iff_exists.1 hsome
    rw [he, hlookup]
    rfl
  · rfl
  · rw [he, Table.lookup_set_self, Option.not_isSome_iff_eq_none.1 hsome]
    rfl
  · exact Table.lookup_set_ne _ he _

/-- A control channel records its engine, or nothing. -/
theorem createControlChannel_map (engineId : Int) (peerDevId : String) (openSoftbusChannel : Int)
    (c : AVTransControlCenter) :
    let c' := (c.createControlChannel engineId peerDevId openSoftbusChannel).2
    c'.rootEngineId_ = c.rootEngineId_ ∧
      (c'.engine2DevIdMap_ = c.engine2DevIdMap_ ∨
        c'.engine2DevIdMap_ = (c.record engineId peerDevId).engine2DevIdMap_) := by
  have hrecord : ∀ listenerMap_,
      ({ c with listenerMap_ := listenerMap_ }.record engineId peerDevId).rootEngineId_ =
          c.rootEngineId_ ∧
        ({ c with listenerMap_ := listenerMap_ }.record engineId peerDevId).engine2DevIdMap_ =
          (c.record engineId peerDevId).engine2DevIdMap_ := by
    intro listenerMap_
    unfold record
    split_ifs <;> exact ⟨rfl, rfl⟩
  unfold createControlChannel
  dsimp only
  split_ifs
  all_goals first
    | exact ⟨rfl, .inl rfl⟩
    | exact ⟨(hrecord c.listenerMap_).1, .inr rfl⟩
    | exact ⟨(hrecord _).1, .inr (hrecord _).2⟩

/-- What a valid call returns, and that it records the engine, if the channel is open or can be
opened. -/
theorem createControlChannel_of_valid {engineId : Int} {peerDevId : String}
    {openSoftbusChannel : Int} (hid : c.isInvalidEngineId engineId = false)
    (hinit : c.initialized_ = true)
    (hopen : peerDevId ∈ c.connectedDevIds_ ∨ openSoftbusChannel = DH_AVT_SUCCESS ∨
      openSoftbusChannel = ERR_DH_AVT_SESSION_HAS_OPENED) :
    (c.createControlChannel engineId peerDevId openSoftbusChannel).1 =
        (if peerDevId ∈ c.connectedDevIds_ then ERR_DH_AVT_CHANNEL_ALREADY_CREATED
        else DH_AVT_SUCCESS) ∧
      (c.createControlChannel engineId peerDevId openSoftbusChannel).2.engine2DevIdMap_ =
        (c.record engineId peerDevId).engine2DevIdMap_ := by
  unfold createControlChannel
  rw [if_neg (by simp [hid]), if_neg (not_not.2 hinit)]
  by_cases hmem : peerDevId ∈ c.connectedDevIds_
  · rw [if_pos hmem, if_pos hmem]
    exact ⟨rfl, rfl⟩
  · have hret : ¬(openSoftbusChannel ≠ DH_AVT_SUCCESS ∧
        openSoftbusChannel ≠ ERR_DH_AVT_SESSION_HAS_OPENED) := by
      rw [not_and_or, not_not, not_not]
      exact hopen.resolve_left hmem
    rw [if_neg hmem, if_neg hmem, if_neg hret]
    refine ⟨rfl, ?_⟩
    unfold record
    dsimp only
    split_ifs <;> rfl

end AVTransControlCenter

/-! ## Runs -/

/-- The centre, the engines that have an id and were not released since, the channels that are
open as their events and the releases have it, and the names that the centre was registered
under. -/
structure CenterHistory where
  center : AVTransControlCenter := {}
  engines : Finset Int := ∅
  openChannels : Finset String := ∅
  registered : Finset String := ∅

/-- One call of the centre, with what the adapter answers. -/
inductive CenterStep
  | initializeAVCenter (transRole : TransRole) (createChannelServer : Int)
  | createControlChannel (engineId : Int) (peerDevId : String) (openSoftbusChannel : Int)
  | releaseAVCenter (engineId : Int)
  | handleChannelEvent (type : ChannelEvent) (peerDevId : String)
  deriving DecidableEq, Repr

namespace CenterHistory

/-- The channels after an event. -/
def channelsAfter (type : ChannelEvent) (peerDevId : String) (openChannels : Finset String) :
    Finset String :=
  match type with
  | .EVENT_CHANNEL_OPENED => insert peerDevId openChannels
  | .EVENT_CHANNEL_CLOSED => openChannels.erase peerDevId
  | .EVENT_CHANNEL_OPEN_FAIL => openChannels

def step (s : CenterHistory) : CenterStep → CenterHistory
  | .initializeAVCenter transRole createChannelServer =>
    let (ret, engineId, center) := s.center.initializeAVCenter transRole createChannelServer
    { s with
      center := center
      engines := if ret = DH_AVT_SUCCESS then insert engineId s.engines else s.engines
      registered := s.registered ∪ center.listenerMap_ }
  | .createControlChannel engineId peerDevId openSoftbusChannel =>
    let center := (s.center.createControlChannel engineId peerDevId openSoftbusChannel).2
    { s with center := center, registered := s.registered ∪ center.listenerMap_ }
  | .releaseAVCenter engineId =>
    { s with
      center := (s.center.releaseAVCenter engineId).2
      engines := s.engines.erase engineId
      openChannels := match s.center.lastEngineOf engineId with
        | none => s.openChannels
        | some peerDevId => s.openChannels.erase peerDevId }
  | .handleChannelEvent type peerDevId =>
    { s with
      center := s.center.handleChannelEvent type peerDevId
      openChannels := channelsAfter type peerDevId s.openChannels }

/-- The centre is registered, under all names that it was registered under. -/
def IsListening (s : CenterHistory) : Prop :=
  AV_SYNC_RECEIVER_CONTROL_SESSION_NAME ∈ s.center.listenerMap_ ∧
    s.registered ⊆ s.center.listenerMap_

instance (s : CenterHistory) : Decidable s.IsListening :=
  inferInstanceAs (Decidable (_ ∧ _))

/-- The books are right. -/
structure Booked (s : CenterHistory) : Prop where
  once : s.center.connectedDevIds_.Nodup
  isOpen : ∀ peerDevId, peerDevId ∈ s.center.connectedDevIds_ ↔ peerDevId ∈ s.openChannels
  listening : s.center.initialized_ = true → s.engines.Nonempty → s.IsListening

/-- An engine comes while the centre is registered; a channel is opened that is not open, and
none is closed; the last engine of a device that is connected is the last one at all. -/
def Keeps (s : CenterHistory) : CenterStep → Prop
  | .initializeAVCenter transRole _ =>
    transRole ≠ .UNKNOWN → s.center.initialized_ = true → s.IsListening
  | .createControlChannel .. => True
  | .releaseAVCenter engineId =>
    ∀ peerDevId ∈ s.center.connectedDevIds_, s.center.lastEngineOf engineId = some peerDevId →
      s.engines.erase engineId = ∅
  | .handleChannelEvent type peerDevId =>
    type ≠ .EVENT_CHANNEL_OPEN_FAIL → peerDevId ∉ s.center.connectedDevIds_

instance Keeps.decidable (s : CenterHistory) : ∀ l, Decidable (s.Keeps l)
  | .initializeAVCenter transRole _ => inferInstanceAs (Decidable
      (transRole ≠ .UNKNOWN → s.center.initialized_ = true → s.IsListening))
  | .createControlChannel .. => isTrue trivial
  | .releaseAVCenter engineId => inferInstanceAs (Decidable
      (∀ peerDevId ∈ s.center.connectedDevIds_, s.center.lastEngineOf engineId = some peerDevId →
        s.engines.erase engineId = ∅))
  | .handleChannelEvent type peerDevId => inferInstanceAs (Decidable
      (type ≠ .EVENT_CHANNEL_OPEN_FAIL → peerDevId ∉ s.center.connectedDevIds_))

/-- Before it is initialized the centre has registered nothing and knows no engine. -/
def Fresh (s : CenterHistory) : Prop :=
  s.center.initialized_ = false → s.registered = ∅ ∧ s.center.listenerMap_ = ∅ ∧
    s.center.engine2DevIdMap_ = ∅

variable {s : CenterHistory}

theorem Fresh.step (h : s.Fresh) (l : CenterStep) : (s.step l).Fresh := by
  intro hinit
  cases l with
  | initializeAVCenter transRole createChannelServer =>
    have hsame : (s.step (.initializeAVCenter transRole createChannelServer)).center = s.center ∨
        (s.step (.initializeAVCenter transRole createChannelServer)).center.initialized_ =
          true := by
      by_cases hrole : transRole = .UNKNOWN
      · exact .inl (by rw [hrole]; rfl)
      · simp only [CenterHistory.step, AVTransControlCenter.initializeAVCenter_of_ne hrole]
        split_ifs with hdone hserver
        · exact .inr hdone
        · exact .inl rfl
        · exact .inr rfl
    rcases hsame with hsame | hon
    · have hreg : (s.step (.initializeAVCenter transRole createChannelServer)).registered =
          s.registered ∪
            (s.step (.initializeAVCenter transRole createChannelServer)).center.listenerMap_ := rfl
      rw [hsame] at hinit hreg ⊢
      obtain ⟨hnone, hlisten, hmap⟩ := h hinit
      exact ⟨by rw [hreg, hnone, hlisten, Finset.union_empty], hlisten, hmap⟩
    · exact absurd (hinit.symm.trans hon) Bool.false_ne_true
  | createControlChannel engineId peerDevId openSoftbusChannel =>
    obtain ⟨hsame, -, -, hkeep⟩ :=
      s.center.createControlChannel_eq engineId peerDevId openSoftbusChannel
    have hbefore : s.center.initialized_ = false := hsame.symm.trans hinit
    obtain ⟨hreg, hlisten, hmap⟩ := h hbefore
    simp only [CenterHistory.step, hkeep hbefore]
    exact ⟨by rw [hreg, hlisten, Finset.union_empty], hlisten, hmap⟩
  | releaseAVCenter engineId =>
    obtain ⟨hsame, -, -⟩ := s.center.releaseAVCenter_eq engineId
    obtain ⟨hreg, hlisten, hmap⟩ := h (hsame.symm.trans hinit)
    simp only [CenterHistory.step, AVTransControlCenter.releaseAVCenter_of_empty hmap]
    exact ⟨hreg, hlisten, hmap⟩
  | handleChannelEvent type peerDevId => cases type <;> exact h hinit

/-- The centre stays registered when a name is added. -/
theorem IsListening.union (h : s.IsListening) {listenerMap_ : Finset String}
    (hsub : s.center.listenerMap_ ⊆ listenerMap_) :
    AV_SYNC_RECEIVER_CONTROL_SESSION_NAME ∈ listenerMap_ ∧
      s.registered ∪ listenerMap_ ⊆ listenerMap_ :=
  ⟨hsub h.1, Finset.union_subset (h.2.trans hsub) (Finset.Subset.refl _)⟩

theorem Booked.initializeAVCenter (h : s.Booked) (hfresh : s.Fresh) (transRole : TransRole)
    (createChannelServer : Int) :
    (s.step (.initializeAVCenter transRole createChannelServer)).Booked ↔
      s.Keeps (.initializeAVCenter transRole createChannelServer) := by
  by_cases hrole : transRole = .UNKNOWN
  · -- The role is turned down.
    subst hrole
    refine iff_of_true ⟨h.once, h.isOpen, fun hinit hengines => ?_⟩ fun hne => (hne rfl).elim
    exact (h.listening hinit hengines).union (Finset.Subset.refl _)
  have heq := AVTransControlCenter.initializeAVCenter_of_ne hrole createChannelServer s.center
  by_cases hinit : s.center.initialized_ = true
  · rw [if_pos hinit] at heq
    simp only [CenterHistory.step, heq, Keeps, if_true]
    constructor
    · intro hnext _ _
      obtain ⟨hreceiver, hsub⟩ := hnext.listening hinit (Finset.insert_nonempty _ _)
      exact ⟨hreceiver, Finset.subset_union_left.trans hsub⟩
    · intro hlistening
      refine ⟨h.once, h.isOpen, fun _ _ => ?_⟩
      exact (hlistening hrole hinit).union (Finset.Subset.refl _)
  · rw [if_neg hinit] at heq
    refine iff_of_true ?_ fun _ hnext => (hinit hnext).elim
    by_cases hserver : createChannelServer = DH_AVT_SUCCESS
    · rw [if_neg (not_not.2 hserver)] at heq
      simp only [CenterHistory.step, heq, if_true]
      refine ⟨h.once, h.isOpen, fun _ _ => ⟨Finset.mem_insert_self _ _, ?_⟩⟩
      obtain ⟨hreg, -⟩ := hfresh (Bool.eq_false_iff.2 hinit)
      simp only [hreg, Finset.empty_union, Finset.Subset.refl]
    · rw [if_pos hserver] at heq
      simp only [CenterHistory.step, heq, if_neg hserver]
      exact ⟨h.once, h.isOpen, fun hnext => (hinit hnext).elim⟩

theorem Booked.createControlChannel (h : s.Booked) (engineId : Int) (peerDevId : String)
    (openSoftbusChannel : Int) :
    (s.step (.createControlChannel engineId peerDevId openSoftbusChannel)).Booked := by
  obtain ⟨hinit, hconnected, hsub, -⟩ :=
    s.center.createControlChannel_eq engineId peerDevId openSoftbusChannel
  refine ⟨?_, ?_, fun hnext hengines => ?_⟩
  · simp only [CenterHistory.step, hconnected]
    exact h.once
  · simp only [CenterHistory.step, hconnected]
    exact h.isOpen
  · exact (h.listening (hinit.symm.trans hnext) hengines).union hsub

theorem Booked.releaseAVCenter (h : s.Booked) (hfresh : s.Fresh) (engineId : Int) :
    (s.step (.releaseAVCenter engineId)).Booked ↔ s.Keeps (.releaseAVCenter engineId) := by
  obtain ⟨hinit, hconnected, hlisten⟩ := s.center.releaseAVCenter_eq engineId
  have hbooks : (s.step (.releaseAVCenter engineId)).center.connectedDevIds_.Nodup ∧
      ∀ peerDevId, peerDevId ∈ (s.step (.releaseAVCenter engineId)).center.connectedDevIds_ ↔
        peerDevId ∈ (s.step (.releaseAVCenter engineId)).openChannels := by
    simp only [CenterHistory.step, hconnected]
    cases s.center.lastEngineOf engineId with
    | none => exact ⟨h.once, h.isOpen⟩
    | some lastDevId =>
      refine ⟨h.once.erase _, fun peerDevId => ?_⟩
      rw [h.once.mem_erase_iff, Finset.mem_erase, h.isOpen]
  simp only [Keeps]
  by_cases hlast : ∃ peerDevId ∈ s.center.connectedDevIds_,
      s.center.lastEngineOf engineId = some peerDevId
  · rw [if_pos hlast] at hlisten
    have hnot : ¬(s.step (.releaseAVCenter engineId)).IsListening := by
      rintro ⟨hreceiver, -⟩
      simp only [CenterHistory.step, hlisten] at hreceiver
      exact Finset.notMem_erase _ _ hreceiver
    have hon : s.center.initialized_ = true := by
      by_contra hoff
      obtain ⟨-, -, hmap⟩ := hfresh (Bool.eq_false_iff.2 hoff)
      obtain ⟨peerDevId, -, hlast⟩ := hlast
      simp [AVTransControlCenter.lastEngineOf, hmap] at hlast
    constructor
    · intro hnext _ _ _
      by_contra hengines
      exact hnot (hnext.listening (hinit.trans hon) (Finset.nonempty_iff_ne_empty.2 hengines))
    · intro hengines
      obtain ⟨peerDevId, hmem, hlast⟩ := hlast
      refine ⟨hbooks.1, hbooks.2, fun _ hne => ?_⟩
      exact (Finset.nonempty_iff_ne_empty.1 hne (hengines peerDevId hmem hlast)).elim
  · rw [if_neg hlast] at hlisten
    refine iff_of_true ⟨hbooks.1, hbooks.2, fun hnext hengines => ?_⟩ fun peerDevId hmem hlast' =>
      (hlast ⟨peerDevId, hmem, hlast'⟩).elim
    have hlistening := h.listening (hinit.symm.trans hnext)
      (hengines.mono (Finset.erase_subset _ _))
    simp only [IsListening, CenterHistory.step, hlisten]
    exact hlistening

theorem Booked.handleChannelEvent (h : s.Booked) (type : ChannelEvent) (peerDevId : String) :
    (s.step (.handleChannelEvent type peerDevId)).Booked ↔
      s.Keeps (.handleChannelEvent type peerDevId) := by
  simp only [Keeps]
  cases type with
  | EVENT_CHANNEL_OPEN_FAIL => exact iff_of_true ⟨h.once, h.isOpen, h.listening⟩ (absurd rfl)
  | EVENT_CHANNEL_OPENED =>
    constructor
    · rintro ⟨honce, -, -⟩ - hmem
      rw [CenterHistory.step, AVTransControlCenter.handleChannelEvent, List.nodup_append] at honce
      exact honce.2.2 _ hmem _ (List.mem_singleton_self _) rfl
    · intro hnew
      refine ⟨?_, fun devId => ?_, h.listening⟩
      · rw [CenterHistory.step, AVTransControlCenter.handleChannelEvent, ← List.concat_eq_append]
        exact h.once.concat (hnew nofun)
      · simp only [CenterHistory.step, AVTransControlCenter.handleChannelEvent, channelsAfter,
          List.mem_append, List.mem_singleton, Finset.mem_insert, h.isOpen]
        exact or_comm
  | EVENT_CHANNEL_CLOSED =>
    constructor
    · rintro ⟨-, hopen, -⟩ - hmem
      exact Finset.notMem_erase _ _ ((hopen peerDevId).1 hmem)
    · intro hnew
      refine ⟨h.once, fun devId => ?_, h.listening⟩
      have hclosed : peerDevId ∉ s.openChannels := (h.isOpen peerDevId).not.1 (hnew nofun)
      simp only [CenterHistory.step, AVTransControlCenter.handleChannelEvent, channelsAfter,
        Finset.erase_eq_of_notMem hclosed]
      exact h.isOpen devId

theorem Booked.step_iff (h : s.Booked) (hfresh : s.Fresh) :
    ∀ l, (s.step l).Booked ↔ s.Keeps l
  | .initializeAVCenter transRole createChannelServer =>
    h.initializeAVCenter hfresh transRole createChannelServer
  | .createControlChannel engineId peerDevId openSoftbusChannel =>
    iff_of_true (h.createControlChannel engineId peerDevId openSoftbusChannel) trivial
  | .releaseAVCenter engineId => h.releaseAVCenter hfresh engineId
  | .handleChannelEvent type peerDevId => h.handleChannelEvent type peerDevId

theorem fresh_init : Fresh {} := fun _ => ⟨rfl, rfl, rfl⟩

theorem booked_init : Booked {} :=
  ⟨List.nodup_nil, fun _ => iff_of_false List.not_mem_nil (Finset.notMem_empty _), nofun⟩

/-- The books are right all along exactly in the runs whose steps keep them right. -/
theorem booked_iff (ls : List CenterStep) :
    Along step Keeps {} ls ↔ ∀ pre post, ls = pre ++ post → (pre.foldl step {}).Booked :=
  along_iff (fun _ l h => h.step l) (fun _ l hfresh h => h.step_iff hfresh l) ls fresh_init
    booked_init

/-- A device is connected twice; it stays connected when the channel is closed; and when the last
engine of one device is released, the one that plays with another is left without a listener. -/
theorem not_booked :
    (¬∀ ls : List CenterStep, (ls.foldl step {}).center.connectedDevIds_.Nodup) ∧
      (¬∀ (ls : List CenterStep) (peerDevId : String),
        peerDevId ∈ (ls.foldl step {}).center.connectedDevIds_ ↔
          peerDevId ∈ (ls.foldl step {}).openChannels) ∧
      ¬∀ ls : List CenterStep, (ls.foldl step {}).center.initialized_ = true →
        (ls.foldl step {}).engines.Nonempty → (ls.foldl step {}).IsListening := by
  refine ⟨fun h => ?_, fun h => ?_, fun h => ?_⟩
  · exact absurd (h [.handleChannelEvent .EVENT_CHANNEL_OPENED "tv",
      .handleChannelEvent .EVENT_CHANNEL_OPENED "tv"]) (by decide +kernel)
  · exact absurd ((h [.handleChannelEvent .EVENT_CHANNEL_OPENED "tv",
      .handleChannelEvent .EVENT_CHANNEL_CLOSED "tv"] "tv").1 (by decide +kernel))
      (by decide +kernel)
  · exact absurd (h [.initializeAVCenter .AV_SENDER 0, .initializeAVCenter .AV_SENDER 0,
      .createControlChannel 1000 "tv" 0, .handleChannelEvent .EVENT_CHANNEL_OPENED "tv",
      .createControlChannel 1001 "phone" 0, .handleChannelEvent .EVENT_CHANNEL_OPENED "phone",
      .releaseAVCenter 1000] (by decide +kernel) ⟨1001, by decide +kernel⟩) (by decide +kernel)

end CenterHistory

end DHFwk
