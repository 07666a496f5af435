import DHFwk.DeviceLife
import DHFwk.Runs
import DHFwk.Table
import Mathlib.Data.Prod.Lex
import Mathlib.Data.String.Basic

/-!
# Low latency of a microphone and a camera

`ComponentManager` is told the business state of hardware. When a microphone or a camera runs,
the first hardware of the other kind is its partner ; if that runs too, memory is shared between the
two, and both handlers are told to work in sync. When one of them is idle, the partner is
told to stop.

The first partner need not be the one that is in sync, an idle one of others ends the sync, the
one that is idle is not told, and a failure leaves the flag or a handler behind. `sync_mode_iff` :
the mode follows the business states exactly in runs in which, as long as it is on, no microphone or
camera is idle and nothing fails, and, while it is off, nothing fails once the memory is mapped.
-/

set_option linter.unusedSectionVars false

namespace DHFwk

open Runs

inductive BusinessState
  | UNKNOWN
  | IDLE
  | RUNNING
  | PAUSING
  deriving DecidableEq, Repr

/-- The networkId and the id of a piece of hardware, in the order of `std::pair`. -/
abbrev DevInfo : Type := String ×ₗ String

namespace AVSyncMode

abbrev MIC : String := "mic"
abbrev SPEAKER : String := "speaker"
abbrev CAMERA : String := "camera"

/-- One `UpdateBusinessState`. `stale` is what `dhSubtype` holds before it is set ; the others are
how the memory is created, mapped and written, and what the two handlers answer. -/
structure Update where
  networkId : String
  dhId : String
  state : BusinessState
  stale : DHSubtype := .UNKNOWN
  created : Bool := true
  mapped : Bool := true
  written : Bool := true
  target : Bool := true
  source : Bool := true
  deriving DecidableEq, Repr

def Update.key (u : Update) : DevInfo := toLex (u.networkId, u.dhId)

/-- The end of `GetDHSubtypeByDHId`. Without a text the subtype is left as it is. -/
def getDHSubtype (dhSubtypeStr : String) (dhSubtype : DHSubtype) : DHSubtype :=
  if dhSubtypeStr = "" then dhSubtype
  else if dhSubtypeStr = MIC then .AUDIO_MIC
  else if dhSubtypeStr = SPEAKER then .AUDIO_SPEAKER
  else if dhSubtypeStr = CAMERA then .CAMERA
  else .UNKNOWN

end AVSyncMode

open AVSyncMode

/-- What `ComponentManager` has of the mode. `synced` is the hardware whose handler was put into
sync, and `refused` that whose handler was told to but failed, where it was not told to stop
since. -/
structure AVSyncMode where
  dhBizStates_ : Table DevInfo BusinessState := ∅
  syncSharedMem_ : Bool := false
  isAVsync : Bool := false
  synced : Finset DevInfo := ∅
  refused : Finset DevInfo := ∅

namespace AVSyncMode

-- `dhSubtypeStr` is the subtype that the caches have for hardware, and `compSource` the types
-- that there is a handler for.
variable (dhSubtypeStr : DevInfo → String) (compSource : DHType → Bool)

/-- The subtype of hardware. -/
def subtype (k : DevInfo) : DHSubtype :=
  getDHSubtype (dhSubtypeStr k) .UNKNOWN

/-- `GetDHIdByDHSubtype`. -/
def getDHIdByDHSubtype (dhSubtype : DHSubtype) (s : AVSyncMode) : Option DevInfo :=
  s.dhBizStates_.sortedKeys.find? fun k => subtype dhSubtypeStr k = dhSubtype

/-- `QueryBusinessState`. -/
def queryBusinessState (k : DevInfo) (s : AVSyncMode) : BusinessState :=
  (s.dhBizStates_.lookup k).getD .UNKNOWN

/-- `InitAVSyncSharedMemory`. -/
def initAVSyncSharedMemory (u : Update) (s : AVSyncMode) : Bool × AVSyncMode :=
  if ¬u.created then (false, { s with syncSharedMem_ := false })
  else if ¬u.mapped then (false, { s with syncSharedMem_ := true })
  else (u.written, { s with syncSharedMem_ := true, isAVsync := true })

def deinitAVSyncSharedMemory (s : AVSyncMode) : AVSyncMode := { s with syncSharedMem_ := false }

/-- `HandleIdleStateChange`. What the handler answers is not looked at. -/
def handleIdleStateChange (target : Option DevInfo) (dhType : DHType) (s : AVSyncMode) :
    AVSyncMode :=
  match target with
  | none => s.deinitAVSyncSharedMemory
  | some k =>
    if ¬compSource dhType then s.deinitAVSyncSharedMemory
    else
      { s with
        isAVsync := false
        synced := s.synced.erase k
        refused := s.refused.erase k }.deinitAVSyncSharedMemory

/-- A handler is told `isAVsync = true`, and answers `ret`. -/
def tell (k : DevInfo) (ret : Bool) (s : AVSyncMode) : AVSyncMode :=
  if ret then { s with synced := insert k s.synced } else { s with refused := insert k s.refused }

/-- `HandleBusinessStateChange`. -/
def handleBusinessStateChange (u : Update) (dhSubType : DHSubtype) (s : AVSyncMode) :
    AVSyncMode :=
  let sourceType : DHType := if dhSubType = .AUDIO_MIC then DHType.AUDIO else .CAMERA
  let targetType : DHType := if dhSubType = .AUDIO_MIC then .CAMERA else DHType.AUDIO
  let targetSubType : DHSubtype := if dhSubType = .AUDIO_MIC then .CAMERA else .AUDIO_MIC
  let target := s.getDHIdByDHSubtype dhSubtypeStr targetSubType
  match u.state with
  | .IDLE => s.handleIdleStateChange compSource target targetType
  | .RUNNING =>
    match target with
    | none => s
    | some k =>
      if s.queryBusinessState k ≠ .RUNNING then s
      else if ¬compSource targetType ∨ ¬compSource sourceType then s
      else
        let (ret, s) := s.initAVSyncSharedMemory u
        if ¬ret then s.deinitAVSyncSharedMemory
        else
          let s := s.tell k u.target
          if ¬u.target then s.deinitAVSyncSharedMemory
          else
            let s := s.tell u.key u.source
            if ¬u.source then s.handleIdleStateChange compSource (some k) targetType
            else s
  | _ => s

/-- `UpdateBusinessState`. -/
def updateBusinessState (s : AVSyncMode) (u : Update) : AVSyncMode :=
  if ¬isIdLengthValid u.networkId ∨ ¬isIdLengthValid u.dhId then s
  else
    let s := { s with dhBizStates_ := s.dhBizStates_.set u.key u.state }
    let dhSubtype := getDHSubtype (dhSubtypeStr u.key) u.stale
    if dhSubtype = .CAMERA ∨ dhSubtype = .AUDIO_MIC then
      s.handleBusinessStateChange dhSubtypeStr compSource u dhSubtype
    else s

/-! ## The mode and the business states -/

/-- A microphone and a camera that run, both in sync. -/
structure Pair (s : AVSyncMode) (m c : DevInfo) : Prop where
  mic : subtype dhSubtypeStr m = .AUDIO_MIC
  camera : subtype dhSubtypeStr c = .CAMERA
  micRuns : s.dhBizStates_.lookup m = some .RUNNING
  cameraRuns : s.dhBizStates_.lookup c = some .RUNNING
  micSynced : m ∈ s.synced
  cameraSynced : c ∈ s.synced

def Paired (s : AVSyncMode) : Prop := ∃ m c, Pair dhSubtypeStr s m c

/-- The memory is there and the flag is set exactly if a pair is in sync ; otherwise no handler
that was told to work in sync is left so. -/
structure InSync (s : AVSyncMode) : Prop where
  mapped : s.syncSharedMem_ = true ↔ Paired dhSubtypeStr s
  flag : s.isAVsync = true ↔ Paired dhSubtypeStr s
  told : ¬Paired dhSubtypeStr s → s.synced = ∅ ∧ s.refused = ∅

/-- The mode is right after a call, and an idle one that is not of a pair does not end it. -/
structure Follows (s : AVSyncMode) (u : Update) : Prop where
  inSync : InSync dhSubtypeStr (s.updateBusinessState dhSubtypeStr compSource u)
  others : u.state = .IDLE → ∀ m c, Pair dhSubtypeStr s m c → u.key ≠ m → u.key ≠ c →
    Paired dhSubtypeStr (s.updateBusinessState dhSubtypeStr compSource u)

/-! ## Where the mode is right -/

/-- The state is entered. -/
def reported (s : AVSyncMode) (u : Update) : AVSyncMode :=
  { s with dhBizStates_ := s.dhBizStates_.set u.key u.state }

/-- The update is about a microphone or a camera. -/
def handled (u : Update) : Bool :=
  getDHSubtype (dhSubtypeStr u.key) u.stale = .CAMERA ∨
    getDHSubtype (dhSubtypeStr u.key) u.stale = .AUDIO_MIC

/-- The partner, if it runs and both handlers are there. -/
def partner (s : AVSyncMode) (u : Update) : Option DevInfo :=
  ((s.reported u).getDHIdByDHSubtype dhSubtypeStr
      (if getDHSubtype (dhSubtypeStr u.key) u.stale = .AUDIO_MIC then .CAMERA
        else .AUDIO_MIC)).filter fun k =>
    (s.reported u).queryBusinessState k = .RUNNING ∧ compSource DHType.AUDIO ∧ compSource .CAMERA

/-- While the mode is on no microphone or camera is idle, an update with a partner succeeds, and a
pair is left if hardware is neither idle nor runs. While it is off, an update with a partner
succeeds once the memory is mapped, and is not about hardware without a subtype. -/
def Proper (s : AVSyncMode) (u : Update) : Prop :=
  isIdLengthValid u.networkId = true → isIdLengthValid u.dhId = true →
    match u.state with
    | .IDLE => handled dhSubtypeStr u = true → s.isAVsync = false
    | .RUNNING =>
      handled dhSubtypeStr u = true → ∀ k, s.partner dhSubtypeStr compSource u = some k →
        if s.isAVsync then u.created ∧ u.mapped ∧ u.written ∧ u.target ∧ u.source
        else
          u.created → u.mapped →
            u.written ∧ u.target ∧ u.source ∧ dhSubtypeStr u.key ≠ ""
    | _ => s.isAVsync = true → ∃ m c, Pair dhSubtypeStr s m c ∧ m ≠ u.key ∧ c ≠ u.key

section Proofs

variable {dhSubtypeStr : DevInfo → String} {compSource : DHType → Bool} {s s' : AVSyncMode}
  {u : Update} {m c k : DevInfo}

theorem Pair.ne (h : Pair dhSubtypeStr s m c) : m ≠ c := by
  rintro rfl
  have hsame := h.mic.symm.trans h.camera
  cases hsame

/-- A pair that an update leaves alone. -/
theorem pair_reported_iff (hm : m ≠ u.key) (hc : c ≠ u.key) :
    Pair dhSubtypeStr (s.reported u) m c ↔ Pair dhSubtypeStr s m c := by
  have hlookup : ∀ {k}, k ≠ u.key →
      (s.reported u).dhBizStates_.lookup k = s.dhBizStates_.lookup k :=
    fun hk => Table.lookup_set_ne _ hk _
  constructor
  · rintro ⟨h1, h2, h3, h4, h5, h6⟩
    exact ⟨h1, h2, hlookup hm ▸ h3, hlookup hc ▸ h4, h5, h6⟩
  · rintro ⟨h1, h2, h3, h4, h5, h6⟩
    exact ⟨h1, h2, (hlookup hm).trans h3, (hlookup hc).trans h4, h5, h6⟩

/-- Hardware that runs does not part a pair. -/
theorem Pair.reported (h : Pair dhSubtypeStr s m c) (hstate : u.state = .RUNNING) :
    Pair dhSubtypeStr (s.reported u) m c := by
  have hlookup : ∀ {k}, s.dhBizStates_.lookup k = some .RUNNING →
      (s.reported u).dhBizStates_.lookup k = some .RUNNING := by
    intro k hk
    rw [AVSyncMode.reported, Table.lookup_set, hstate]
    split_ifs
    · rfl
    · exact hk
  exact ⟨h.mic, h.camera, hlookup h.micRuns, hlookup h.cameraRuns, h.micSynced, h.cameraSynced⟩

/-- Hardware that does not run is of no pair. -/
theorem ne_of_pair_reported (h : Pair dhSubtypeStr (s.reported u) m c)
    (hstate : u.state ≠ .RUNNING) : m ≠ u.key ∧ c ≠ u.key := by
  have hkey : (s.reported u).dhBizStates_.lookup u.key = some u.state := Table.lookup_set_self _ _ _
  constructor
  · rintro rfl
    exact hstate (Option.some.inj (hkey.symm.trans h.micRuns))
  · rintro rfl
    exact hstate (Option.some.inj (hkey.symm.trans h.cameraRuns))

/-- Hardware that is handled with its own subtype, or has none. -/
theorem ne_of_not_handled (hh : handled dhSubtypeStr u = false) (h : Pair dhSubtypeStr s m c) :
    m ≠ u.key ∧ c ≠ u.key := by
  have hsub : ∀ {t}, subtype dhSubtypeStr u.key = t → t = .CAMERA ∨ t = .AUDIO_MIC → False := by
    rintro t ht hor
    simp only [handled, decide_eq_false_iff_not] at hh
    refine hh ?_
    unfold subtype getDHSubtype at ht
    unfold getDHSubtype
    by_cases hempty : dhSubtypeStr u.key = ""
    · rw [if_pos hempty] at ht
      subst ht
      rcases hor with hor | hor <;> cases hor
    · rw [if_neg hempty] at ht ⊢
      rwa [ht]
  constructor
  · rintro rfl
    exact hsub h.mic (.inr rfl)
  · rintro rfl
    exact hsub h.camera (.inl rfl)

/-- Without a pair the memory is not there, the flag not set and no handler left in sync. -/
theorem inSync_iff_of_not_paired (h : ¬Paired dhSubtypeStr s) :
    InSync dhSubtypeStr s ↔
      s.syncSharedMem_ = false ∧ s.isAVsync = false ∧ s.synced = ∅ ∧ s.refused = ∅ := by
  constructor
  · intro hs
    exact ⟨Bool.eq_false_iff.2 fun hmem => h (hs.mapped.1 hmem),
      Bool.eq_false_iff.2 fun hflag => h (hs.flag.1 hflag), hs.told h⟩
  · rintro ⟨hmem, hflag, htold⟩
    exact ⟨by simp [hmem, h], by simp [hflag, h], fun _ => htold⟩

/-- With a pair the memory is there and the flag set. -/
theorem inSync_iff_of_paired (h : Paired dhSubtypeStr s) :
    InSync dhSubtypeStr s ↔ s.syncSharedMem_ = true ∧ s.isAVsync = true := by
  constructor
  · intro hs
    exact ⟨hs.mapped.2 h, hs.flag.2 h⟩
  · rintro ⟨hmem, hflag⟩
    exact ⟨iff_of_true hmem h, iff_of_true hflag h, fun hn => absurd h hn⟩

theorem not_paired_of_empty (h : s.synced = ∅) : ¬Paired dhSubtypeStr s := by
  rintro ⟨m, c, hp⟩
  have hm := hp.micSynced
  rw [h] at hm
  exact Finset.notMem_empty m hm

/-- Where the memory is gone and a handler is left in sync, the mode is not right. -/
theorem not_inSync_of_unmapped (hmem : s.syncSharedMem_ = false) (h : s.synced.Nonempty) :
    ¬InSync dhSubtypeStr s := by
  intro hs
  have hnone : ¬Paired dhSubtypeStr s := fun hp => by
    rw [hs.mapped.2 hp] at hmem
    cases hmem
  exact h.ne_empty (hs.told hnone).1

/-- The flag without a handler in sync. -/
theorem not_inSync_of_flag (hflag : s.isAVsync = true) (h : s.synced = ∅) :
    ¬InSync dhSubtypeStr s :=
  fun hs => not_paired_of_empty h (hs.flag.1 hflag)

/-- A handler of the pair is left when one is told to stop. -/
theorem Pair.erase_nonempty (h : Pair dhSubtypeStr s m c) (k : DevInfo) :
    (s.synced.erase k).Nonempty := by
  by_cases hm : m = k
  · exact ⟨c, Finset.mem_erase.2 ⟨fun hc => h.ne (hm.trans hc.symm), h.cameraSynced⟩⟩
  · exact ⟨m, Finset.mem_erase.2 ⟨hm, h.micSynced⟩⟩

/-! ## What an update does -/

/-- An update of ids that are valid. -/
theorem update_of_valid (hn : isIdLengthValid u.networkId = true)
    (hd : isIdLengthValid u.dhId = true) :
    s.updateBusinessState dhSubtypeStr compSource u =
      if handled dhSubtypeStr u = true then
        (s.reported u).handleBusinessStateChange dhSubtypeStr compSource u
          (getDHSubtype (dhSubtypeStr u.key) u.stale)
      else s.reported u := by
  simp only [updateBusinessState, hn, hd, not_true_eq_false, or_self, if_false, handled,
    decide_eq_true_iff]
  rfl

theorem update_idle (hn : isIdLengthValid u.networkId = true)
    (hd : isIdLengthValid u.dhId = true) (hh : handled dhSubtypeStr u = true)
    (hstate : u.state = .IDLE) :
    (s.updateBusinessState dhSubtypeStr compSource u).syncSharedMem_ = false ∧
      ((s.updateBusinessState dhSubtypeStr compSource u).isAVsync = s.isAVsync ∧
          (s.updateBusinessState dhSubtypeStr compSource u).synced = s.synced ∧
          (s.updateBusinessState dhSubtypeStr compSource u).refused = s.refused ∨
        (s.updateBusinessState dhSubtypeStr compSource u).isAVsync = false ∧
          ∃ k, (s.updateBusinessState dhSubtypeStr compSource u).synced = s.synced.erase k ∧
            (s.updateBusinessState dhSubtypeStr compSource u).refused = s.refused.erase k) := by
  rw [update_of_valid hn hd, if_pos hh]
  simp only [handleBusinessStateChange, hstate, handleIdleStateChange]
  split
  · exact ⟨rfl, .inl ⟨rfl, rfl, rfl⟩⟩
  · split_ifs
    all_goals first
      | exact ⟨rfl, .inr ⟨rfl, _, rfl, rfl⟩⟩
      | exact ⟨rfl, .inl ⟨rfl, rfl, rfl⟩⟩

theorem update_running (hn : isIdLengthValid u.networkId = true)
    (hd : isIdLengthValid u.dhId = true) (hh : handled dhSubtypeStr u = true)
    (hstate : u.state = .RUNNING) :
    s.updateBusinessState dhSubtypeStr compSource u =
      match s.partner dhSubtypeStr compSource u with
      | none => s.reported u
      | some k =>
        if ¬u.created ∨ ¬u.mapped then { s.reported u with syncSharedMem_ := false }
        else if ¬u.written then { s.reported u with syncSharedMem_ := false, isAVsync := true }
        else if ¬u.target then
          { s.reported u with
            syncSharedMem_ := false
            isAVsync := true
            refused := insert k s.refused }
        else if ¬u.source then
          { s.reported u with
            syncSharedMem_ := false
            isAVsync := false
            synced := (insert k s.synced).erase k
            refused := (insert u.key s.refused).erase k }
        else
          { s.reported u with
            syncSharedMem_ := true
            isAVsync := true
            synced := insert u.key (insert k s.synced) } := by
  rw [update_of_valid hn hd, if_pos hh]
  unfold partner handleBusinessStateChange
  rw [hstate]
  dsimp only
  cases htarget : (s.reported u).getDHIdByDHSubtype dhSubtypeStr
      (if getDHSubtype (dhSubtypeStr u.key) u.stale = .AUDIO_MIC then .CAMERA
        else .AUDIO_MIC) with
  | none => rfl
  | some k =>
    -- Both handlers are asked for, in one order or the other.
    have hhandlers : (¬compSource (if getDHSubtype (dhSubtypeStr u.key) u.stale = .AUDIO_MIC then
          .CAMERA else DHType.AUDIO) ∨
        ¬compSource (if getDHSubtype (dhSubtypeStr u.key) u.stale = .AUDIO_MIC then
          DHType.AUDIO else .CAMERA)) ↔ ¬(compSource DHType.AUDIO ∧ compSource .CAMERA) := by
      split_ifs <;> grind
    dsimp only
    by_cases hready : (s.reported u).queryBusinessState k = .RUNNING ∧ compSource DHType.AUDIO ∧
        compSource .CAMERA
    · have htargetHandler : compSource (if getDHSubtype (dhSubtypeStr u.key) u.stale = .AUDIO_MIC
          then .CAMERA else DHType.AUDIO) = true := by
        split_ifs
        · exact hready.2.2
        · exact hready.2.1
      rw [Option.filter_some_pos (by simpa using hready), if_neg (not_not.2 hready.1),
        if_neg (fun h => hhandlers.1 h hready.2)]
      simp only [initAVSyncSharedMemory, deinitAVSyncSharedMemory, handleIdleStateChange,
        htargetHandler, tell]
      -- What the memory and the two handlers answer.
      cases u.created with
      | false => rfl
      | true =>
        cases u.mapped with
        | false => rfl
        | true =>
          cases u.written with
          | false => rfl
          | true => cases u.target <;> cases u.source <;> rfl
    · rw [Option.filter_some_neg (by simpa using hready)]
      dsimp only
      by_cases hquery : (s.reported u).queryBusinessState k = .RUNNING
      · rw [if_neg (not_not.2 hquery), if_pos (hhandlers.2 fun h => hready ⟨hquery, h⟩)]
      · rw [if_pos hquery]

/-- The partner runs, and is hardware of the other kind. -/
theorem partner_spec (h : s.partner dhSubtypeStr compSource u = some k) :
    (s.reported u).dhBizStates_.lookup k = some .RUNNING ∧
      subtype dhSubtypeStr k =
        (if getDHSubtype (dhSubtypeStr u.key) u.stale = .AUDIO_MIC then .CAMERA
          else .AUDIO_MIC) := by
  unfold partner at h
  rw [Option.filter_eq_some_iff] at h
  obtain ⟨hfound, hready⟩ := h
  simp only [decide_eq_true_iff] at hready
  refine ⟨?_, by simpa using List.find?_some hfound⟩
  have hquery := hready.1
  unfold queryBusinessState at hquery
  cases hlookup : (s.reported u).dhBizStates_.lookup k with
  | none => simp [hlookup] at hquery
  | some state => simpa [hlookup] using hquery

/-- An update that only enters the state. -/
theorem update_other (hn : isIdLengthValid u.networkId = true)
    (hd : isIdLengthValid u.dhId = true)
    (hstate : handled dhSubtypeStr u = false ∨ u.state ≠ .IDLE ∧ u.state ≠ .RUNNING) :
    s.updateBusinessState dhSubtypeStr compSource u = s.reported u := by
  rw [update_of_valid hn hd]
  rcases hstate with hh | ⟨hidle, hrunning⟩
  · rw [hh]
    rfl
  · split_ifs
    · unfold handleBusinessStateChange
      cases hu : u.state with
      | IDLE => exact absurd hu hidle
      | RUNNING => exact absurd hu hrunning
      | _ => rfl
    · rfl

/-! ## What it does to the mode -/

theorem off_of_not_isAVsync (hs : InSync dhSubtypeStr s) (h : s.isAVsync = false) :
    ¬Paired dhSubtypeStr s ∧ s.syncSharedMem_ = false ∧ s.synced = ∅ ∧ s.refused = ∅ := by
  have hnone : ¬Paired dhSubtypeStr s := fun hp => by
    rw [hs.flag.2 hp] at h
    cases h
  exact ⟨hnone, ((inSync_iff_of_not_paired hnone).1 hs).1, hs.told hnone⟩

/-- Entering the state of hardware keeps the mode right as long as it keeps a pair. -/
theorem inSync_reported_iff (hs : InSync dhSubtypeStr s) :
    InSync dhSubtypeStr (s.reported u) ↔
      (s.isAVsync = true → Paired dhSubtypeStr (s.reported u)) := by
  constructor
  · intro hr hon
    exact hr.flag.1 hon
  · intro h
    by_cases hon : s.isAVsync = true
    · exact (inSync_iff_of_paired (h hon)).2 ⟨hs.mapped.2 (hs.flag.1 hon), hon⟩
    · obtain ⟨-, hmem, hsynced, hrefused⟩ := off_of_not_isAVsync hs (Bool.eq_false_iff.2 hon)
      have hnone : ¬Paired dhSubtypeStr (s.reported u) := not_paired_of_empty hsynced
      exact (inSync_iff_of_not_paired hnone).2
        ⟨hmem, Bool.eq_false_iff.2 hon, hsynced, hrefused⟩

/-- Hardware that does not run leaves a pair exactly if there is one without it. -/
theorem paired_reported_iff (hstate : u.state ≠ .RUNNING) :
    Paired dhSubtypeStr (s.reported u) ↔
      ∃ m c, Pair dhSubtypeStr s m c ∧ m ≠ u.key ∧ c ≠ u.key := by
  constructor
  · rintro ⟨m, c, hp⟩
    obtain ⟨hm, hc⟩ := ne_of_pair_reported hp hstate
    exact ⟨m, c, (pair_reported_iff hm hc).1 hp, hm, hc⟩
  · rintro ⟨m, c, hp, hm, hc⟩
    exact ⟨m, c, (pair_reported_iff hm hc).2 hp⟩

/-- An idle microphone or camera ends the mode, and leaves a handler in sync. -/
theorem inSync_idle_iff (hs : InSync dhSubtypeStr s) (hn : isIdLengthValid u.networkId = true)
    (hd : isIdLengthValid u.dhId = true) (hh : handled dhSubtypeStr u = true)
    (hstate : u.state = .IDLE) :
    InSync dhSubtypeStr (s.updateBusinessState dhSubtypeStr compSource u) ↔
      s.isAVsync = false := by
  obtain ⟨hmem, hrest⟩ := @update_idle dhSubtypeStr compSource s u hn hd hh hstate
  constructor
  · intro hs'
    by_contra hon
    obtain ⟨m, c, hp⟩ := hs.flag.1 (Bool.not_eq_false _ ▸ hon)
    refine not_inSync_of_unmapped hmem ?_ hs'
    rcases hrest with ⟨-, hsynced, -⟩ | ⟨-, k, hsynced, -⟩
    · rw [hsynced]
      exact ⟨m, hp.micSynced⟩
    · rw [hsynced]
      exact hp.erase_nonempty k
  · intro hoff
    obtain ⟨-, -, hsynced, hrefused⟩ := off_of_not_isAVsync hs hoff
    have hempty : (s.updateBusinessState dhSubtypeStr compSource u).isAVsync = false ∧
        (s.updateBusinessState dhSubtypeStr compSource u).synced = ∅ ∧
        (s.updateBusinessState dhSubtypeStr compSource u).refused = ∅ := by
      rcases hrest with ⟨h1, h2, h3⟩ | ⟨h1, k, h2, h3⟩
      · exact ⟨h1.trans hoff, h2.trans hsynced, h3.trans hrefused⟩
      · exact ⟨h1, by rw [h2, hsynced, Finset.erase_empty],
          by rw [h3, hrefused, Finset.erase_empty]⟩
    exact (inSync_iff_of_not_paired (not_paired_of_empty hempty.2.1)).2 ⟨hmem, hempty⟩

/-- Two handlers just put into sync are a pair exactly if the caches have a subtype for the
hardware that began to run. -/
theorem paired_synced_iff (hk : s.partner dhSubtypeStr compSource u = some k)
    (hh : handled dhSubtypeStr u = true) (hstate : u.state = .RUNNING)
    (hlookup : s'.dhBizStates_ = (s.reported u).dhBizStates_) (hsynced : s'.synced = {u.key, k}) :
    Paired dhSubtypeStr s' ↔ dhSubtypeStr u.key ≠ "" := by
  obtain ⟨hkRuns, hkType⟩ := partner_spec hk
  constructor
  · rintro ⟨m, c, hp⟩ hempty
    have hnone : subtype dhSubtypeStr u.key = .UNKNOWN := if_pos hempty
    have hne : m ≠ u.key ∧ c ≠ u.key := by
      constructor
      · rintro rfl
        cases hnone.symm.trans hp.mic
      · rintro rfl
        cases hnone.symm.trans hp.camera
    have hm := hp.micSynced
    have hc := hp.cameraSynced
    rw [hsynced, Finset.mem_insert, Finset.mem_singleton] at hm hc
    exact hp.ne ((hm.resolve_left hne.1).trans (hc.resolve_left hne.2).symm)
  · intro hsome
    have htype : getDHSubtype (dhSubtypeStr u.key) u.stale = subtype dhSubtypeStr u.key := by
      unfold subtype getDHSubtype
      rw [if_neg hsome, if_neg hsome]
    have hself : s'.dhBizStates_.lookup u.key = some .RUNNING := by
      rw [hlookup, ← hstate]
      exact Table.lookup_set_self _ _ _
    rw [← hlookup] at hkRuns
    have hmem : u.key ∈ s'.synced ∧ k ∈ s'.synced := by simp [hsynced]
    simp only [handled, decide_eq_true_iff, htype] at hh
    rw [htype] at hkType
    rcases hh with hcamera | hmic
    · rw [hcamera, if_neg (by decide)] at hkType
      exact ⟨k, u.key, hkType, hcamera, hkRuns, hself, hmem.2, hmem.1⟩
    · rw [hmic, if_pos rfl] at hkType
      exact ⟨u.key, k, hmic, hkType, hself, hkRuns, hmem.1, hmem.2⟩

/-- Hardware is not its own partner. -/
theorem partner_ne (hk : s.partner dhSubtypeStr compSource u = some k)
    (hh : handled dhSubtypeStr u = true) : u.key ≠ k := by
  rintro rfl
  have hkType := (partner_spec hk).2
  by_cases hempty : dhSubtypeStr u.key = ""
  · have hnone : subtype dhSubtypeStr u.key = .UNKNOWN := if_pos hempty
    rw [hnone] at hkType
    split_ifs at hkType
  · have htype : getDHSubtype (dhSubtypeStr u.key) u.stale = subtype dhSubtypeStr u.key := by
      unfold subtype getDHSubtype
      rw [if_neg hempty, if_neg hempty]
    simp only [handled, decide_eq_true_iff, htype] at hh
    rw [htype] at hkType
    rcases hh with hh | hh <;> rw [hh] at hkType <;> cases hkType

/-- While the mode is on, it stays right exactly if all that a partner needs succeeds. -/
theorem inSync_partner_on (hs : InSync dhSubtypeStr s) (hon : s.isAVsync = true)
    (hn : isIdLengthValid u.networkId = true) (hd : isIdLengthValid u.dhId = true)
    (hh : handled dhSubtypeStr u = true) (hstate : u.state = .RUNNING)
    (hk : s.partner dhSubtypeStr compSource u = some k) :
    InSync dhSubtypeStr (s.updateBusinessState dhSubtypeStr compSource u) ↔
      u.created ∧ u.mapped ∧ u.written ∧ u.target ∧ u.source := by
  obtain ⟨m, c, hp⟩ := hs.flag.1 hon
  have hleft : s.synced.Nonempty := ⟨m, hp.micSynced⟩
  rw [update_running hn hd hh hstate, hk]
  dsimp only
  by_cases hmade : ¬u.created ∨ ¬u.mapped
  · rw [if_pos hmade]
    exact iff_of_false (not_inSync_of_unmapped rfl hleft)
      fun h => hmade.elim (· h.1) (· h.2.1)
  rw [if_neg hmade]
  by_cases hwritten : ¬u.written
  · rw [if_pos hwritten]
    exact iff_of_false (not_inSync_of_unmapped rfl hleft) fun h => hwritten h.2.2.1
  rw [if_neg hwritten]
  by_cases htarget : ¬u.target
  · rw [if_pos htarget]
    exact iff_of_false (not_inSync_of_unmapped rfl hleft) fun h => htarget h.2.2.2.1
  rw [if_neg htarget]
  by_cases hsource : ¬u.source
  · rw [if_pos hsource]
    refine iff_of_false (not_inSync_of_unmapped rfl ?_) fun h => hsource h.2.2.2.2
    exact (hp.erase_nonempty k).mono (Finset.erase_subset_erase k (Finset.subset_insert k _))
  rw [if_neg hsource]
  refine iff_of_true ((inSync_iff_of_paired ?_).2 ⟨rfl, rfl⟩) (by grind)
  have hr := hp.reported hstate
  exact ⟨m, c, hr.mic, hr.camera, hr.micRuns, hr.cameraRuns,
    Finset.mem_insert_of_mem (Finset.mem_insert_of_mem hp.micSynced),
    Finset.mem_insert_of_mem (Finset.mem_insert_of_mem hp.cameraSynced)⟩

/-- While the mode is off, it stays right exactly if the memory is not mapped, or the rest that a
partner needs succeeds. -/
theorem inSync_partner_off (hs : InSync dhSubtypeStr s) (hoff : s.isAVsync = false)
    (hn : isIdLengthValid u.networkId = true) (hd : isIdLengthValid u.dhId = true)
    (hh : handled dhSubtypeStr u = true) (hstate : u.state = .RUNNING)
    (hk : s.partner dhSubtypeStr compSource u = some k) :
    InSync dhSubtypeStr (s.updateBusinessState dhSubtypeStr compSource u) ↔
      (u.created → u.mapped →
        u.written ∧ u.target ∧ u.source ∧ dhSubtypeStr u.key ≠ "") := by
  obtain ⟨-, -, hsynced, hrefused⟩ := off_of_not_isAVsync hs hoff
  rw [update_running hn hd hh hstate, hk]
  dsimp only
  by_cases hmade : ¬u.created ∨ ¬u.mapped
  · rw [if_pos hmade]
    refine iff_of_true ?_ fun hc hm => (hmade.elim (· hc) (· hm)).elim
    exact (inSync_iff_of_not_paired (s := { s.reported u with syncSharedMem_ := false })
      (not_paired_of_empty hsynced)).2 ⟨rfl, hoff, hsynced, hrefused⟩
  rw [if_neg hmade]
  push Not at hmade
  simp only [hmade.1, hmade.2, forall_const]
  by_cases hwritten : ¬u.written
  · rw [if_pos hwritten]
    exact iff_of_false (not_inSync_of_flag rfl hsynced) fun h => hwritten h.1
  rw [if_neg hwritten]
  by_cases htarget : ¬u.target
  · rw [if_pos htarget]
    exact iff_of_false (not_inSync_of_flag rfl hsynced) fun h => htarget h.2.1
  rw [if_neg htarget]
  by_cases hsource : ¬u.source
  · -- The handler that failed is not told to stop.
    have hempty : (insert k s.synced).erase k = ∅ := by
      rw [hsynced]
      exact Finset.erase_insert (Finset.notMem_empty k)
    have hmem : u.key ∈ (insert u.key s.refused).erase k :=
      Finset.mem_erase.2 ⟨partner_ne hk hh, Finset.mem_insert_self u.key s.refused⟩
    rw [if_pos hsource]
    refine iff_of_false (fun hsync => ?_) fun h => hsource h.2.2.1
    have hleft : (insert u.key s.refused).erase k = ∅ :=
      (hsync.told (not_paired_of_empty hempty)).2
    rw [hleft] at hmem
    exact Finset.notMem_empty u.key hmem
  rw [if_neg hsource]
  have hboth : insert u.key (insert k s.synced) = {u.key, k} := by
    rw [hsynced]
    rfl
  have hpaired := @paired_synced_iff dhSubtypeStr compSource s
    { s.reported u with
      syncSharedMem_ := true
      isAVsync := true
      synced := insert u.key (insert k s.synced) } u k hk hh hstate rfl hboth
  push Not at hwritten htarget hsource
  simp only [hwritten, htarget, hsource, true_and]
  rw [← hpaired]
  constructor
  · intro hsync
    exact hsync.mapped.1 rfl
  · intro hp
    exact (inSync_iff_of_paired hp).2 ⟨rfl, rfl⟩

/-- Hardware that runs keeps the mode right exactly if what its partner needs succeeds. -/
theorem inSync_running_iff (hs : InSync dhSubtypeStr s)
    (hn : isIdLengthValid u.networkId = true) (hd : isIdLengthValid u.dhId = true)
    (hh : handled dhSubtypeStr u = true) (hstate : u.state = .RUNNING) :
    InSync dhSubtypeStr (s.updateBusinessState dhSubtypeStr compSource u) ↔
      ∀ k, s.partner dhSubtypeStr compSource u = some k →
        if s.isAVsync then u.created ∧ u.mapped ∧ u.written ∧ u.target ∧ u.source
        else
          u.created → u.mapped →
            u.written ∧ u.target ∧ u.source ∧ dhSubtypeStr u.key ≠ "" := by
  cases hk : s.partner dhSubtypeStr compSource u with
  | none =>
    rw [update_running hn hd hh hstate, hk]
    refine iff_of_true ((inSync_reported_iff hs).2 fun hon => ?_) (by simp)
    obtain ⟨m, c, hp⟩ := hs.flag.1 hon
    exact ⟨m, c, hp.reported hstate⟩
  | some k =>
    simp only [Option.some.injEq, forall_eq']
    split_ifs with hon
    · exact inSync_partner_on hs hon hn hd hh hstate hk
    · exact inSync_partner_off hs (Bool.eq_false_iff.2 hon) hn hd hh hstate hk

/-- Hardware that neither is idle nor runs, and any that is not handled. -/
theorem inSync_other_iff (hs : InSync dhSubtypeStr s) (hn : isIdLengthValid u.networkId = true)
    (hd : isIdLengthValid u.dhId = true) (hstate : u.state ≠ .RUNNING)
    (hother : handled dhSubtypeStr u = false ∨ u.state ≠ .IDLE ∧ u.state ≠ .RUNNING) :
    InSync dhSubtypeStr (s.updateBusinessState dhSubtypeStr compSource u) ↔
      (s.isAVsync = true → ∃ m c, Pair dhSubtypeStr s m c ∧ m ≠ u.key ∧ c ≠ u.key) := by
  rw [update_other hn hd hother, inSync_reported_iff hs, paired_reported_iff hstate]

/-- Ids of the wrong length change nothing, and the mode stays as it is. -/
theorem follows_of_invalid (hs : InSync dhSubtypeStr s)
    (h : ¬isIdLengthValid u.networkId = true ∨ ¬isIdLengthValid u.dhId = true) :
    Follows dhSubtypeStr compSource s u := by
  have hsame : s.updateBusinessState dhSubtypeStr compSource u = s := if_pos h
  refine ⟨?_, fun _ m c hp _ _ => ?_⟩
  · rw [hsame]
    exact hs
  · rw [hsame]
    exact ⟨m, c, hp⟩

/-- An update that is not handled keeps the pairs. -/
theorem follows_of_not_handled (hs : InSync dhSubtypeStr s)
    (hn : isIdLengthValid u.networkId = true) (hd : isIdLengthValid u.dhId = true)
    (hh : handled dhSubtypeStr u = false) : Follows dhSubtypeStr compSource s u := by
  have hkeep : Paired dhSubtypeStr s → Paired dhSubtypeStr (s.reported u) := by
    rintro ⟨m, c, hp⟩
    obtain ⟨hm, hc⟩ := ne_of_not_handled hh hp
    exact ⟨m, c, (pair_reported_iff hm hc).2 hp⟩
  refine ⟨?_, fun _ m c hp _ _ => ?_⟩
  · rw [update_other hn hd (.inl hh), inSync_reported_iff hs]
    exact fun hon => hkeep (hs.flag.1 hon)
  · rw [update_other hn hd (.inl hh)]
    exact hkeep ⟨m, c, hp⟩

/-- **What an update does to the mode.** -/
theorem follows_iff (hs : InSync dhSubtypeStr s) (u : Update) :
    Follows dhSubtypeStr compSource s u ↔ Proper dhSubtypeStr compSource s u := by
  unfold Proper
  by_cases hn : isIdLengthValid u.networkId = true
  swap
  · exact iff_of_true (follows_of_invalid hs (.inl hn)) fun h => absurd h hn
  by_cases hd : isIdLengthValid u.dhId = true
  swap
  · exact iff_of_true (follows_of_invalid hs (.inr hd)) fun _ h => absurd h hd
  simp only [hn, hd, forall_const]
  by_cases hh : handled dhSubtypeStr u = true
  · -- Only an idle one has something to say on the pairs it is not of.
    have hsync : u.state ≠ .IDLE → (Follows dhSubtypeStr compSource s u ↔
        InSync dhSubtypeStr (s.updateBusinessState dhSubtypeStr compSource u)) :=
      fun hidle => ⟨fun h => h.inSync, fun h => ⟨h, fun hi => absurd hi hidle⟩⟩
    cases hstate : u.state with
    | IDLE =>
      simp only [hh, forall_const]
      rw [← @inSync_idle_iff dhSubtypeStr compSource s u hs hn hd hh hstate]
      refine ⟨fun h => h.inSync, fun h => ⟨h, fun _ m c hp _ _ => ?_⟩⟩
      have hoff := (inSync_idle_iff hs hn hd hh hstate).1 h
      exact absurd ⟨m, c, hp⟩ (off_of_not_isAVsync hs hoff).1
    | RUNNING =>
      simp only [hh, forall_const]
      rw [hsync (by simp [hstate]), inSync_running_iff hs hn hd hh hstate]
    | UNKNOWN =>
      rw [hsync (by simp [hstate]),
        inSync_other_iff hs hn hd (by simp [hstate]) (.inr (by simp [hstate]))]
    | PAUSING =>
      rw [hsync (by simp [hstate]),
        inSync_other_iff hs hn hd (by simp [hstate]) (.inr (by simp [hstate]))]
  · have hh : handled dhSubtypeStr u = false := Bool.eq_false_iff.2 hh
    refine iff_of_true (follows_of_not_handled hs hn hd hh) ?_
    have hpair : s.isAVsync = true → ∃ m c, Pair dhSubtypeStr s m c ∧ m ≠ u.key ∧ c ≠ u.key := by
      intro hon
      obtain ⟨m, c, hp⟩ := hs.flag.1 hon
      exact ⟨m, c, hp, ne_of_not_handled hh hp⟩
    cases u.state with
    | IDLE => simp [hh]
    | RUNNING => simp [hh]
    | UNKNOWN => exact hpair
    | PAUSING => exact hpair

/-- The mode is off at first. -/
theorem inSync_empty : InSync dhSubtypeStr {} :=
  (inSync_iff_of_not_paired (not_paired_of_empty rfl)).2 ⟨rfl, rfl, rfl, rfl⟩

end Proofs

/-- **The mode and the business states.** -/
theorem sync_mode_iff (us : List Update) :
    Along (updateBusinessState dhSubtypeStr compSource) (Follows dhSubtypeStr compSource) {} us ↔
      Along (updateBusinessState dhSubtypeStr compSource) (Proper dhSubtypeStr compSource) {} us :=
  along_congr (J := InSync dhSubtypeStr) (fun _ _ _ h => h.inSync) (fun _ u hs => follows_iff hs u)
    us inSync_empty

/-- The microphone of one device and the cameras of two. -/
def someSubtype (k : DevInfo) : String :=
  if k = toLex ("A", "mic") then MIC
  else if k = toLex ("A", "camera") ∨ k = toLex ("B", "camera") then CAMERA
  else ""

/-- The microphone and the camera of `A` run, and the camera of `B` is idle. -/
def someUpdates : List Update :=
  [{ networkId := "A", dhId := "mic", state := .RUNNING },
    { networkId := "A", dhId := "camera", state := .RUNNING },
    { networkId := "B", dhId := "camera", state := .IDLE }]

/-- The camera of `B` ends what the other two are in, and the camera of `A` is not told. -/
theorem sync_mode_ended :
    ¬Along (updateBusinessState someSubtype fun _ => true) (Follows someSubtype fun _ => true) {}
      someUpdates := by
  rintro ⟨-, -, hidle, -⟩
  have hflag : (someUpdates.foldl (updateBusinessState someSubtype fun _ => true) {}).isAVsync =
      false := by
    decide +kernel
  have hsynced : (someUpdates.foldl (updateBusinessState someSubtype fun _ => true) {}).synced ≠
      ∅ := by
    decide +kernel
  exact hsynced (off_of_not_isAVsync hidle.inSync hflag).2.2.1

end AVSyncMode

end DHFwk
