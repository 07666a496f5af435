import DHFwk.Runs
import Mathlib.Data.Finset.Card
import Mathlib.Data.Finset.Image

/-!
# Streams that are played in step

`AVSyncManager` keeps a list of the streams that senders play. When one is added and the kinds
of the streams in the list allow it (`MergeGroupInfo`), it tells the devices of all of them to
start, and makes a shared memory for their clock. When one is removed and fewer than two are
left, it tells the devices of those to stop, and closes the memory.

So the start asks for the kinds of streams and the stop for their number. `Agrees` is that the
devices and the memory are as the list has it. In a state that agrees, adding a stream keeps
that only where the list does not meet the condition; removing one, only if every device keeps
a stream, and the list has less than two streams left or meets the condition still, or does
not come to meet it (`Follows`). `sync_follows` is that the runs of such steps are exactly
those in which every state agrees.
-/

set_option linter.unusedSectionVars false

namespace DHFwk

open Runs

abbrev AV_SYNC_STREAM_COUNT : ℕ := 2

abbrev SCENE_TYPE_D_MIC : String := "dmic_stream"
abbrev SCENE_TYPE_D_SCREEN : String := "dscreen_stream"
abbrev SCENE_TYPE_D_SPEAKER : String := "dspeaker_stream"
abbrev SCENE_TYPE_D_CAMERA_STR : String := "dcamera_stream"
abbrev SCENE_TYPE_D_CAMERA_PIC : String := "dcamera_picture"

structure AVStreamInfo where
  sceneType : String
  peerDevId : String
  deriving DecidableEq, Repr

inductive AvSyncFlag
  | MASTER
  | SLAVE
  deriving DecidableEq, Repr

/-- What the group info tells of a stream. -/
structure GroupInfo where
  sceneType : String
  peerDevId : String
  startFrameNum : ℕ
  avSyncFlag : AvSyncFlag
  deriving DecidableEq, Repr

inductive AVTransTag
  | START_AV_SYNC
  | STOP_AV_SYNC
  deriving DecidableEq, Repr

/-- A message to `dstDevId_`; of a stop the content is empty. -/
structure AVTransMessage where
  type_ : AVTransTag
  content_ : List GroupInfo
  dstDevId_ : String
  deriving DecidableEq, Repr

/-- The manager, the messages that it has sent, the last one first, and the shared memories
that are open. `sourceMemory_` is the one that it holds, and `nextFd` the one it gets next. -/
structure AVSyncManager where
  streamInfoList_ : List AVStreamInfo := []
  sourceMemory_ : Option ℕ := none
  sent : List AVTransMessage := []
  openMemories : List ℕ := []
  nextFd : ℕ := 1
  deriving DecidableEq, Repr

/-- One call of the manager. -/
inductive StreamStep
  | addStreamInfo (stream : AVStreamInfo)
  | removeStreamInfo (stream : AVStreamInfo)
  deriving DecidableEq, Repr

/-! ## The calls -/

/-- `MergeGroupInfoInner`, of one stream. -/
def AVStreamInfo.groupInfo (item : AVStreamInfo) : Option GroupInfo :=
  if item.sceneType = SCENE_TYPE_D_MIC ∨ item.sceneType = SCENE_TYPE_D_SPEAKER then
    some ⟨item.sceneType, item.peerDevId, 0, .MASTER⟩
  else if item.sceneType = SCENE_TYPE_D_SCREEN ∨ item.sceneType = SCENE_TYPE_D_CAMERA_STR then
    some ⟨item.sceneType, item.peerDevId, 0, .SLAVE⟩
  else none

def sceneTypeSet (streamInfoList_ : List AVStreamInfo) : Finset String :=
  (streamInfoList_.map AVStreamInfo.sceneType).toFinset

/-- `MergeGroupInfo`. The group info is a set of records; their text is left out. -/
def mergeGroupInfo (streamInfoList_ : List AVStreamInfo) : Option (List GroupInfo) :=
  let sceneTypeSet := sceneTypeSet streamInfoList_
  if sceneTypeSet.card < AV_SYNC_STREAM_COUNT then none
  else if SCENE_TYPE_D_MIC ∈ sceneTypeSet ∧ SCENE_TYPE_D_SPEAKER ∈ sceneTypeSet then none
  else
    let source2Sink := SCENE_TYPE_D_SCREEN ∈ sceneTypeSet ∧ SCENE_TYPE_D_SPEAKER ∈ sceneTypeSet
    let sink2Source := SCENE_TYPE_D_CAMERA_STR ∈ sceneTypeSet ∧ SCENE_TYPE_D_MIC ∈ sceneTypeSet
    if ¬source2Sink ∧ ¬sink2Source then none
    else some (streamInfoList_.filterMap AVStreamInfo.groupInfo).dedup

/-- A message to the device of each of the streams. -/
def sendAll (type_ : AVTransTag) (content_ : List GroupInfo) (streamInfoList_ : List AVStreamInfo) :
    List AVTransMessage :=
  (streamInfoList_.map fun item => ⟨type_, content_, item.peerDevId⟩).reverse

namespace AVSyncManager

def closeAVTransSharedMemory (s : AVSyncManager) : AVSyncManager :=
  match s.sourceMemory_ with
  | none => s
  | some fd => { s with sourceMemory_ := none, openMemories := s.openMemories.erase fd }

def enableSenderAVSync (s : AVSyncManager) : AVSyncManager :=
  match mergeGroupInfo s.streamInfoList_ with
  | none => s
  | some syncGroupInfo =>
    { s with
      sent := sendAll .START_AV_SYNC syncGroupInfo s.streamInfoList_ ++ s.sent
      sourceMemory_ := some s.nextFd
      openMemories := s.nextFd :: s.openMemories
      nextFd := s.nextFd + 1 }

def disableSenderAVSync (s : AVSyncManager) : AVSyncManager :=
  if s.streamInfoList_.length ≥ AV_SYNC_STREAM_COUNT then s
  else
    { s with sent := sendAll .STOP_AV_SYNC [] s.streamInfoList_ ++ s.sent }.closeAVTransSharedMemory

def addStreamInfo (stream : AVStreamInfo) (s : AVSyncManager) : AVSyncManager :=
  let s := { s with streamInfoList_ := s.streamInfoList_ ++ [stream] }
  if s.streamInfoList_.length < AV_SYNC_STREAM_COUNT then s else s.enableSenderAVSync

/-- Every entry for the stream is erased. -/
def without (stream : AVStreamInfo) (streamInfoList_ : List AVStreamInfo) : List AVStreamInfo :=
  streamInfoList_.filter (· ≠ stream)

def removeStreamInfo (stream : AVStreamInfo) (s : AVSyncManager) : AVSyncManager :=
  { s with streamInfoList_ := without stream s.streamInfoList_ }.disableSenderAVSync

def step (s : AVSyncManager) : StreamStep → AVSyncManager
  | .addStreamInfo stream => s.addStreamInfo stream
  | .removeStreamInfo stream => s.removeStreamInfo stream

/-! ## What the list asks for -/

/-- The streams are such that they are played in step. -/
def Meets (streamInfoList_ : List AVStreamInfo) : Prop :=
  (mergeGroupInfo streamInfoList_).isSome = true

instance (streamInfoList_ : List AVStreamInfo) : Decidable (Meets streamInfoList_) :=
  inferInstanceAs (Decidable (_ = true))

/-- A start was sent and no stop since. -/
def IsOn (s : AVSyncManager) : Prop :=
  s.sent.head?.map AVTransMessage.type_ = some .START_AV_SYNC

/-- The device was sent a start and no stop since. -/
def Started (s : AVSyncManager) (devId : String) : Prop :=
  (s.sent.find? (·.dstDevId_ = devId)).map AVTransMessage.type_ = some .START_AV_SYNC

/-- A device that was started and not stopped is one of a group that is played in step. -/
def StoppedOthers (s : AVSyncManager) : Prop :=
  ∀ devId, s.Started devId →
    Meets s.streamInfoList_ ∧ ∃ item ∈ s.streamInfoList_, item.peerDevId = devId

/-- The devices and the memory are as the list has it. -/
structure Agrees (s : AVSyncManager) : Prop where
  on : s.IsOn ↔ Meets s.streamInfoList_
  stopped : s.StoppedOthers
  memory : s.openMemories.length ≤ 1 ∧ (s.openMemories ≠ [] ↔ s.IsOn)

/-- A stream is added where none are played in step. One is removed such that those who are
played in step lose no device, and end or go on as their number and their kinds have it; where
none are, such that they do not come to meet the condition. -/
def Follows (s : AVSyncManager) : StreamStep → Prop
  | .addStreamInfo _ => ¬Meets s.streamInfoList_
  | .removeStreamInfo stream =>
    let rest := without stream s.streamInfoList_
    if Meets s.streamInfoList_ then
      (∀ item ∈ s.streamInfoList_, ∃ other ∈ rest, other.peerDevId = item.peerDevId) ∧
        (AV_SYNC_STREAM_COUNT ≤ rest.length → Meets rest)
    else ¬Meets rest

instance Follows.decidable (s : AVSyncManager) : ∀ l, Decidable (s.Follows l)
  | .addStreamInfo _ => inferInstanceAs (Decidable (¬Meets s.streamInfoList_))
  | .removeStreamInfo stream => inferInstanceAs (Decidable (if Meets s.streamInfoList_ then
      (∀ item ∈ s.streamInfoList_, ∃ other ∈ without stream s.streamInfoList_,
        other.peerDevId = item.peerDevId) ∧
        (AV_SYNC_STREAM_COUNT ≤ (without stream s.streamInfoList_).length →
          Meets (without stream s.streamInfoList_))
    else ¬Meets (without stream s.streamInfoList_)))

variable {s : AVSyncManager} {stream : AVStreamInfo} {streamInfoList_ : List AVStreamInfo}

/-- The condition asks for two kinds of streams. -/
theorem Meets.kinds (h : Meets streamInfoList_) :
    ∃ item ∈ streamInfoList_, ∃ other ∈ streamInfoList_, item.sceneType ≠ other.sceneType := by
  have hmem : ∀ {sceneType}, sceneType ∈ sceneTypeSet streamInfoList_ →
      ∃ item ∈ streamInfoList_, item.sceneType = sceneType := fun hin => by
    simpa [sceneTypeSet] using hin
  by_cases hkinds : (SCENE_TYPE_D_SCREEN ∈ sceneTypeSet streamInfoList_ ∧
        SCENE_TYPE_D_SPEAKER ∈ sceneTypeSet streamInfoList_) ∨
      (SCENE_TYPE_D_CAMERA_STR ∈ sceneTypeSet streamInfoList_ ∧
        SCENE_TYPE_D_MIC ∈ sceneTypeSet streamInfoList_)
  · rcases hkinds with ⟨h₁, h₂⟩ | ⟨h₁, h₂⟩
    all_goals
      obtain ⟨item, hitem, hscene⟩ := hmem h₁
      obtain ⟨other, hother, hscene'⟩ := hmem h₂
      refine ⟨item, hitem, other, hother, ?_⟩
      rw [hscene, hscene']
      decide
  · rw [not_or] at hkinds
    simp only [Meets, mergeGroupInfo, hkinds.1, hkinds.2, not_false_eq_true, and_self, if_true] at h
    split_ifs at h <;> simp at h

theorem Meets.ne_nil (h : Meets streamInfoList_) : streamInfoList_ ≠ [] := by
  rintro rfl
  obtain ⟨item, hitem, -⟩ := h.kinds
  exact List.not_mem_nil hitem

theorem Meets.two_le (h : Meets streamInfoList_) :
    AV_SYNC_STREAM_COUNT ≤ streamInfoList_.length := by
  obtain ⟨item, hitem, other, hother, hne⟩ := h.kinds
  match streamInfoList_, hitem, hother with
  | [_], hitem, hother =>
    rw [List.mem_singleton] at hitem hother
    exact (hne (by rw [hitem, hother])).elim
  | _ :: _ :: _, _, _ => exact Nat.le_add_left 2 _

/-- Of the two kinds one is left. -/
theorem Meets.without_ne_nil (h : Meets streamInfoList_) : without stream streamInfoList_ ≠ [] := by
  obtain ⟨item, hitem, other, hother, hne⟩ := h.kinds
  intro hnil
  rw [without, List.filter_eq_nil_iff] at hnil
  have h₁ : item = stream := by simpa using hnil item hitem
  have h₂ : other = stream := by simpa using hnil other hother
  exact hne (by rw [h₁, h₂])

/-! ## What the calls leave -/

theorem head?_sendAll (type_ : AVTransTag) (content_ : List GroupInfo) (sent : List AVTransMessage)
    (hne : streamInfoList_ ≠ []) :
    (sendAll type_ content_ streamInfoList_ ++ sent).head?.map AVTransMessage.type_ =
      some type_ := by
  rcases List.eq_nil_or_concat streamInfoList_ with rfl | ⟨items, item, rfl⟩
  · exact (hne rfl).elim
  · simp [sendAll]

/-- A device among those that are told has the message as its last one. -/
theorem find?_sendAll (type_ : AVTransTag) (content_ : List GroupInfo) (sent : List AVTransMessage)
    (devId : String) :
    ((sendAll type_ content_ streamInfoList_ ++ sent).find? (·.dstDevId_ = devId)).map
        AVTransMessage.type_ =
      if ∃ item ∈ streamInfoList_, item.peerDevId = devId then some type_
      else (sent.find? (·.dstDevId_ = devId)).map AVTransMessage.type_ := by
  have hmem : ∀ m, m ∈ sendAll type_ content_ streamInfoList_ ↔
      ∃ item ∈ streamInfoList_, ⟨type_, content_, item.peerDevId⟩ = m := fun m => by
    simp [sendAll]
  rw [List.find?_append]
  cases hfind : (sendAll type_ content_ streamInfoList_).find? (·.dstDevId_ = devId) with
  | none =>
    rw [List.find?_eq_none] at hfind
    rw [if_neg, Option.none_or]
    rintro ⟨item, hitem, hdev⟩
    exact hfind _ ((hmem _).2 ⟨item, hitem, rfl⟩) (by simpa using hdev)
  | some m =>
    obtain ⟨item, hitem, rfl⟩ := (hmem m).1 (List.mem_of_find?_eq_some hfind)
    have hdev := List.find?_some hfind
    rw [if_pos ⟨item, hitem, by simpa using hdev⟩]
    rfl

theorem addStreamInfo_of_not_meets (h : ¬Meets (s.streamInfoList_ ++ [stream])) :
    s.addStreamInfo stream = { s with streamInfoList_ := s.streamInfoList_ ++ [stream] } := by
  have hnone : mergeGroupInfo (s.streamInfoList_ ++ [stream]) = none := by
    simpa [Meets] using h
  simp only [addStreamInfo, enableSenderAVSync, hnone, ite_self]

theorem addStreamInfo_of_meets (h : Meets (s.streamInfoList_ ++ [stream])) :
    ∃ syncGroupInfo, s.addStreamInfo stream =
      { streamInfoList_ := s.streamInfoList_ ++ [stream]
        sourceMemory_ := some s.nextFd
        sent := sendAll .START_AV_SYNC syncGroupInfo (s.streamInfoList_ ++ [stream]) ++ s.sent
        openMemories := s.nextFd :: s.openMemories
        nextFd := s.nextFd + 1 } := by
  obtain ⟨syncGroupInfo, hsome⟩ := Option.isSome_iff_exists.1 h
  refine ⟨syncGroupInfo, ?_⟩
  simp only [addStreamInfo, enableSenderAVSync, hsome, if_neg (Nat.not_lt.2 h.two_le)]

theorem removeStreamInfo_of_le
    (h : AV_SYNC_STREAM_COUNT ≤ (without stream s.streamInfoList_).length) :
    s.removeStreamInfo stream =
      { s with streamInfoList_ := without stream s.streamInfoList_ } :=
  if_pos h

/-- The memory that the manager holds is closed. -/
theorem removeStreamInfo_of_lt
    (h : (without stream s.streamInfoList_).length < AV_SYNC_STREAM_COUNT) :
    s.removeStreamInfo stream =
      { streamInfoList_ := without stream s.streamInfoList_
        sourceMemory_ := none
        sent := sendAll .STOP_AV_SYNC [] (without stream s.streamInfoList_) ++ s.sent
        openMemories := s.openMemories.diff s.sourceMemory_.toList
        nextFd := s.nextFd } := by
  rw [removeStreamInfo, disableSenderAVSync, if_neg (Nat.not_le.2 h), closeAVTransSharedMemory]
  cases hmemory : s.sourceMemory_ with
  | none => simp
  | some fd => simp

theorem addStreamInfo_streamInfoList (stream : AVStreamInfo) (s : AVSyncManager) :
    (s.addStreamInfo stream).streamInfoList_ = s.streamInfoList_ ++ [stream] := by
  by_cases hmeets : Meets (s.streamInfoList_ ++ [stream])
  · obtain ⟨syncGroupInfo, heq⟩ := addStreamInfo_of_meets hmeets
    rw [heq]
  · rw [addStreamInfo_of_not_meets hmeets]

theorem removeStreamInfo_streamInfoList (stream : AVStreamInfo) (s : AVSyncManager) :
    (s.removeStreamInfo stream).streamInfoList_ = without stream s.streamInfoList_ := by
  rcases Nat.lt_or_ge (without stream s.streamInfoList_).length AV_SYNC_STREAM_COUNT with hlt | hle
  · rw [removeStreamInfo_of_lt hlt]
  · rw [removeStreamInfo_of_le hle]

/-! ## States that agree -/

/-- Beside `Agrees`, the memory that is open is the one that the manager holds, and all devices
that are played in step were started. -/
structure Held (s : AVSyncManager) : Prop extends Agrees s where
  held : s.openMemories = s.sourceMemory_.toList
  started : Meets s.streamInfoList_ → ∀ item ∈ s.streamInfoList_, s.Started item.peerDevId

theorem Held.off (h : s.Held) (hmeets : ¬Meets s.streamInfoList_) :
    ¬s.IsOn ∧ s.openMemories = [] ∧ ∀ devId, ¬s.Started devId := by
  have hon : ¬s.IsOn := mt h.on.1 hmeets
  refine ⟨hon, ?_, fun devId hstarted => hmeets (h.stopped devId hstarted).1⟩
  by_contra hopen
  exact hon (h.memory.2.1 hopen)

theorem Held.addStreamInfo (h : s.Held) (hmeets : ¬Meets s.streamInfoList_) :
    (s.addStreamInfo stream).Held := by
  obtain ⟨hon, hopen, hstarted⟩ := h.off hmeets
  by_cases hnew : Meets (s.streamInfoList_ ++ [stream])
  · obtain ⟨syncGroupInfo, heq⟩ := addStreamInfo_of_meets hnew
    have hall : ∀ devId, (s.addStreamInfo stream).Started devId ↔
        ∃ item ∈ s.streamInfoList_ ++ [stream], item.peerDevId = devId := by
      intro devId
      rw [heq, Started, find?_sendAll]
      split_ifs with hdev
      · exact iff_of_true rfl hdev
      · exact iff_of_false (hstarted devId) hdev
    have hison : (s.addStreamInfo stream).IsOn := by
      rw [heq]
      exact head?_sendAll _ _ _ hnew.ne_nil
    have hlist : (s.addStreamInfo stream).streamInfoList_ = s.streamInfoList_ ++ [stream] := by
      rw [heq]
    have hmemory : (s.addStreamInfo stream).openMemories = [s.nextFd] := by
      rw [heq]
      exact congrArg _ hopen
    refine ⟨⟨?_, fun devId hdev => ?_, ?_, ?_⟩, ?_, fun _ item hitem => ?_⟩
    · rw [hlist]
      exact iff_of_true hison hnew
    · rw [hlist]
      exact ⟨hnew, (hall devId).1 hdev⟩
    · rw [hmemory]
      exact le_rfl
    · rw [hmemory]
      exact iff_of_true (List.cons_ne_nil _ _) hison
    · rw [hmemory, heq]
      rfl
    · rw [hlist] at hitem
      exact (hall _).2 ⟨item, hitem, rfl⟩
  · rw [addStreamInfo_of_not_meets hnew]
    exact ⟨⟨iff_of_false hon hnew, fun devId hdev => (hstarted devId hdev).elim, h.memory⟩, h.held,
      fun hmeets => (hnew hmeets).elim⟩

/-- Two or more streams are left. -/
theorem Held.removeStreamInfo_of_le (h : s.Held)
    (hle : AV_SYNC_STREAM_COUNT ≤ (without stream s.streamInfoList_).length)
    (hmeets : Meets (without stream s.streamInfoList_) ↔ Meets s.streamInfoList_)
    (hdevs : Meets s.streamInfoList_ → ∀ item ∈ s.streamInfoList_,
      ∃ other ∈ without stream s.streamInfoList_, other.peerDevId = item.peerDevId) :
    (s.removeStreamInfo stream).Held := by
  rw [AVSyncManager.removeStreamInfo_of_le hle]
  refine ⟨⟨h.on.trans hmeets.symm, fun devId hdev => ?_, h.memory⟩, h.held,
    fun hrest item hitem => ?_⟩
  · obtain ⟨hlist, item, hitem, rfl⟩ := h.stopped devId hdev
    exact ⟨hmeets.2 hlist, hdevs hlist item hitem⟩
  · exact h.started (hmeets.1 hrest) item (List.mem_of_mem_filter hitem)

/-- Less than two are left. -/
theorem Held.removeStreamInfo_of_lt (h : s.Held)
    (hlt : (without stream s.streamInfoList_).length < AV_SYNC_STREAM_COUNT)
    (hdevs : Meets s.streamInfoList_ → ∀ item ∈ s.streamInfoList_,
      ∃ other ∈ without stream s.streamInfoList_, other.peerDevId = item.peerDevId) :
    (s.removeStreamInfo stream).Held := by
  have hnot : ¬Meets (without stream s.streamInfoList_) := fun hmeets =>
    Nat.not_le.2 hlt hmeets.two_le
  have hoff : ¬(s.removeStreamInfo stream).IsOn := by
    rw [AVSyncManager.removeStreamInfo_of_lt hlt, IsOn]
    by_cases hnil : without stream s.streamInfoList_ = []
    · rw [hnil]
      exact mt h.on.1 fun hmeets => hmeets.without_ne_nil hnil
    · rw [head?_sendAll _ _ _ hnil]
      decide
  have hstopped : ∀ devId, ¬(s.removeStreamInfo stream).Started devId := by
    intro devId
    rw [AVSyncManager.removeStreamInfo_of_lt hlt, Started, find?_sendAll]
    split_ifs with hdev
    · decide
    · intro hstarted
      obtain ⟨hlist, item, hitem, rfl⟩ := h.stopped devId hstarted
      exact hdev (hdevs hlist item hitem)
  have hlist : (s.removeStreamInfo stream).streamInfoList_ = without stream s.streamInfoList_ := by
    rw [AVSyncManager.removeStreamInfo_of_lt hlt]
  have hmemory : (s.removeStreamInfo stream).openMemories = [] := by
    rw [AVSyncManager.removeStreamInfo_of_lt hlt, h.held]
    cases s.sourceMemory_ <;> simp
  refine ⟨⟨?_, fun devId hdev => (hstopped devId hdev).elim, ?_, ?_⟩, ?_, ?_⟩
  · rw [hlist]
    exact iff_of_false hoff hnot
  · rw [hmemory]
    exact Nat.zero_le 1
  · rw [hmemory]
    exact iff_of_false (fun hne => hne rfl) hoff
  · rw [hmemory, AVSyncManager.removeStreamInfo_of_lt hlt]
    rfl
  · rw [hlist]
    exact fun hmeets => (hnot hmeets).elim

theorem Held.step (h : s.Held) : ∀ l, s.Follows l → (s.step l).Held
  | .addStreamInfo _, hmeets => h.addStreamInfo hmeets
  | .removeStreamInfo stream, hok => by
    have hdevs : Meets s.streamInfoList_ → ∀ item ∈ s.streamInfoList_,
        ∃ other ∈ without stream s.streamInfoList_, other.peerDevId = item.peerDevId := by
      intro hmeets
      simp only [Follows, if_pos hmeets] at hok
      exact hok.1
    rcases Nat.lt_or_ge (without stream s.streamInfoList_).length AV_SYNC_STREAM_COUNT with
      hlt | hle
    · exact h.removeStreamInfo_of_lt hlt hdevs
    · refine h.removeStreamInfo_of_le hle ?_ hdevs
      by_cases hmeets : Meets s.streamInfoList_
      · simp only [Follows, if_pos hmeets] at hok
        exact iff_of_true (hok.2 hle) hmeets
      · simp only [Follows, if_neg hmeets] at hok
        exact iff_of_false hok hmeets

/-- A state that agrees comes from one that agrees by a step that follows. -/
theorem Held.follows (h : s.Held) : ∀ l, (s.step l).Agrees → s.Follows l
  | .addStreamInfo stream, hnext => by
    rw [AVSyncManager.step] at hnext
    intro hmeets
    have hon : s.IsOn := h.on.2 hmeets
    by_cases hnew : Meets (s.streamInfoList_ ++ [stream])
    · -- The memory that the manager holds is not closed before it makes another.
      obtain ⟨syncGroupInfo, heq⟩ := addStreamInfo_of_meets hnew
      have hlen := hnext.memory.1
      rw [heq] at hlen
      have hopen := List.length_pos_of_ne_nil (h.memory.2.2 hon)
      simp only [List.length_cons] at hlen
      omega
    · -- The devices are not told to stop.
      rw [addStreamInfo_of_not_meets hnew] at hnext
      exact hnew (hnext.on.1 hon)
  | .removeStreamInfo stream, hnext => by
    rw [AVSyncManager.step] at hnext
    unfold Follows
    rcases Nat.lt_or_ge (without stream s.streamInfoList_).length AV_SYNC_STREAM_COUNT with
      hlt | hle
    · have hnot : ¬Meets (without stream s.streamInfoList_) := fun hmeets =>
        Nat.not_le.2 hlt hmeets.two_le
      split_ifs with hmeets
      · refine ⟨fun item hitem => ?_, fun hle => (Nat.not_le.2 hlt hle).elim⟩
        by_contra hdev
        have hstarted : (s.removeStreamInfo stream).Started item.peerDevId := by
          rw [AVSyncManager.removeStreamInfo_of_lt hlt, Started, find?_sendAll, if_neg hdev]
          exact h.started hmeets item hitem
        have hlist := (hnext.stopped _ hstarted).1
        rw [AVSyncManager.removeStreamInfo_of_lt hlt] at hlist
        exact hnot hlist
      · exact hnot
    · rw [AVSyncManager.removeStreamInfo_of_le hle] at hnext
      split_ifs with hmeets
      · refine ⟨fun item hitem => ?_, fun _ => hnext.on.1 (h.on.2 hmeets)⟩
        exact (hnext.stopped _ (h.started hmeets item hitem)).2
      · exact fun hrest => hmeets (h.on.1 (hnext.on.2 hrest))

theorem held_init : Held {} where
  on := iff_of_false nofun (by decide)
  stopped := fun _ hstarted => by cases hstarted
  memory := ⟨Nat.zero_le 1, iff_of_false (fun hne => hne rfl) nofun⟩
  held := rfl
  started := fun hmeets => absurd hmeets (by decide)

/-- The runs whose steps follow the list are those in which devices and memory agree with it all
along. -/
theorem sync_follows (ls : List StreamStep) :
    Along step Follows {} ls ↔ ∀ pre post, ls = pre ++ post → (pre.foldl step {}).Agrees :=
  along_iff_of_kept (fun _ l h hok => h.step l hok)
    (fun _ l h _ => ⟨h.follows l, fun hok => (h.step l hok).toAgrees⟩) ls held_init
    held_init.toAgrees

/-- A camera comes to a screen and its speaker : a second memory is made, the first one is not
closed. -/
theorem sync_not_follows : ¬∀ ls : List StreamStep, (ls.foldl step {}).Agrees := by
  intro h
  have hagrees := h [.addStreamInfo ⟨SCENE_TYPE_D_SCREEN, "tv"⟩,
    .addStreamInfo ⟨SCENE_TYPE_D_SPEAKER, "tv"⟩, .addStreamInfo ⟨SCENE_TYPE_D_CAMERA_STR, "phone"⟩]
  exact absurd hagrees.memory.1 (by decide +kernel)

end AVSyncManager

end DHFwk
