import DHFwk.Runs
import DHFwk.Table

/-!
# Access of audio codecs

When a channel to a device is opened and an access listener is configured, the listener is
asked whether the device may have access; the answer, or a timer, decides. A codec starts if
there is a decision for the device of the channel that was opened last, and it grants access.

A decision is not taken back when the device is asked for again, an old request decides as well
as the latest one, what was granted without a listener stays when one is set, and the device of
the last channel need not be the one that the codec serves; before any channel there is none,
and nothing is asked. `codec_granted` : in runs in which none of this happens (`InTurn`), a codec
that starts while a listener is configured serves a device whose latest request was granted.
-/

set_option linter.unusedSectionVars false

namespace DHFwk

open Runs

/-- `DAudioAccessConfigManager`. A listener is there or not. -/
structure DAudioAccessConfigManager where
  listener_ : Bool := false
  timeOut_ : Int := 0
  pkgName_ : String := ""
  currentNetworkId_ : String := ""
  authorizationResults_ : Table String Bool := ∅

namespace DAudioAccessConfigManager

def setAccessConfig (listener : Bool) (timeOut : Int) (pkgName : String)
    (m : DAudioAccessConfigManager) : DAudioAccessConfigManager :=
  if ¬listener ∨ pkgName = "" then m
  else { m with listener_ := listener, timeOut_ := timeOut, pkgName_ := pkgName }

def clearAccessConfig (m : DAudioAccessConfigManager) : DAudioAccessConfigManager :=
  { m with listener_ := false, timeOut_ := 0, pkgName_ := "", authorizationResults_ := ∅ }

def clearAccessConfigByPkgName (pkgName : String) (m : DAudioAccessConfigManager) :
    DAudioAccessConfigManager :=
  if pkgName = "" then m
  else
    let m := if m.pkgName_ = pkgName then
        { m with listener_ := false, timeOut_ := 0, pkgName_ := "", currentNetworkId_ := "" }
      else m
    { m with authorizationResults_ := ∅ }

def setAuthorizationGranted (networkId : String) (granted : Bool) (m : DAudioAccessConfigManager) :
    DAudioAccessConfigManager :=
  { m with authorizationResults_ := m.authorizationResults_.set networkId granted }

def hasAuthorizationDecision (networkId : String) (m : DAudioAccessConfigManager) : Bool :=
  (m.authorizationResults_.lookup networkId).isSome

def isAuthorizationGranted (networkId : String) (m : DAudioAccessConfigManager) : Bool :=
  (m.authorizationResults_.lookup networkId).getD false

/-- An access listener with a package is configured. -/
def isConfigured (m : DAudioAccessConfigManager) : Bool :=
  m.listener_ && m.pkgName_ ≠ ""

end DAudioAccessConfigManager

inductive CodecStatus
  | OK
  | ERROR_NULL_POINTER
  | ERROR_INVALID_OPERATION
  deriving DecidableEq, Repr

/-- A `StartAudioCodec` that has read the current networkId, of a filter that serves a device. -/
structure CodecStart where
  peerDevId : String
  networkId : String
  deriving DecidableEq, Repr

/-- The requests of the adapter, under numbers, as no two have the same id. A timer that is not
cancelled has `false` in `authTimerCancelFlags_`. `latest` has the latest request of each
device, and `answers` what became of a request : granted, or denied or timed out. -/
structure AudioAccess where
  manager : DAudioAccessConfigManager := {}
  pendingAuthRequests_ : Table ℕ String := ∅
  authTimerCancelFlags_ : Table ℕ Bool := ∅
  nextRequestId : ℕ := 0
  starts : Table ℕ CodecStart := ∅
  latest : Table String ℕ := ∅
  answers : Table ℕ Bool := ∅

/-- What happens next. `startAudioCodec` reads the current networkId, and `codecStarted` is the
rest of the call, after it has waited or not : `audioCodec` tells whether there is a codec,
`res` whether it starts. -/
inductive AccessStep
  | onSoftbusChannelOpened (mySessionName peerDevId : String)
  | processAuthorizationResult (requestId : ℕ) (granted : Bool)
  | timerExpires (requestId : ℕ)
  | setAccessConfig (listener : Bool) (timeOut : Int) (pkgName : String)
  | clearAccessConfig
  | clearAccessConfigByPkgName (pkgName : String)
  | startAudioCodec (call : ℕ) (peerDevId : String)
  | codecStarted (call : ℕ) (audioCodec res : Bool)
  deriving DecidableEq, Repr

namespace AudioAccess

/-- `RequestAndWaitForAuthorization`. -/
def requestAndWaitForAuthorization (peerNetworkId : String) (s : AudioAccess) : AudioAccess :=
  if s.manager.listener_ = false then
    { s with manager := s.manager.setAuthorizationGranted peerNetworkId true }
  else if s.manager.pkgName_ = "" then
    { s with manager := s.manager.setAuthorizationGranted peerNetworkId true }
  else
    { s with
      pendingAuthRequests_ := s.pendingAuthRequests_.set s.nextRequestId peerNetworkId
      authTimerCancelFlags_ := s.authTimerCancelFlags_.set s.nextRequestId false
      nextRequestId := s.nextRequestId + 1
      latest := s.latest.set peerNetworkId s.nextRequestId }

/-- What `OnSoftbusChannelOpened` does about access. -/
def onSoftbusChannelOpened (mySessionName peerDevId : String) (s : AudioAccess) : AudioAccess :=
  if peerDevId = "" ∨ mySessionName = "" then s
  else
    { s with manager.currentNetworkId_ := peerDevId }.requestAndWaitForAuthorization peerDevId

def cancelAuthorizationTimer (requestId : ℕ) (s : AudioAccess) : AudioAccess :=
  if (s.authTimerCancelFlags_.lookup requestId).isSome then
    { s with authTimerCancelFlags_ := s.authTimerCancelFlags_.set requestId true }
  else s

/-- A pending request is answered. -/
def answer (requestId : ℕ) (granted : Bool) (s : AudioAccess) : AudioAccess :=
  match s.pendingAuthRequests_.lookup requestId with
  | none => s
  | some networkId =>
    { s with
      pendingAuthRequests_ := s.pendingAuthRequests_.remove requestId
      manager := s.manager.setAuthorizationGranted networkId granted
      answers := s.answers.set requestId granted }

def processAuthorizationResult (requestId : ℕ) (granted : Bool) (s : AudioAccess) : AudioAccess :=
  (s.cancelAuthorizationTimer requestId).answer requestId granted

def handleAuthorizationTimeout (requestId : ℕ) (s : AudioAccess) : AudioAccess :=
  s.answer requestId false

/-- The thread of a timer, after it has slept. -/
def timerExpires (requestId : ℕ) (s : AudioAccess) : AudioAccess :=
  let s' := { s with authTimerCancelFlags_ := s.authTimerCancelFlags_.remove requestId }
  if s.authTimerCancelFlags_.lookup requestId = some false then
    s'.handleAuthorizationTimeout requestId
  else s'

/-- `StartAudioCodec` of a decoder or an encoder, with the networkId that it has read. Without a
decision it has waited in vain. -/
def startAudioCodec (networkId : String) (audioCodec res : Bool) (s : AudioAccess) :
    CodecStatus :=
  if ¬audioCodec then .ERROR_NULL_POINTER
  else if networkId ≠ "" ∧ ¬s.manager.hasAuthorizationDecision networkId then
    .ERROR_INVALID_OPERATION
  else if networkId ≠ "" ∧ ¬s.manager.isAuthorizationGranted networkId then
    .ERROR_INVALID_OPERATION
  else if ¬res then .ERROR_INVALID_OPERATION
  else .OK

def step (s : AudioAccess) : AccessStep → AudioAccess
  | .onSoftbusChannelOpened mySessionName peerDevId =>
    s.onSoftbusChannelOpened mySessionName peerDevId
  | .processAuthorizationResult requestId granted =>
    s.processAuthorizationResult requestId granted
  | .timerExpires requestId => s.timerExpires requestId
  | .setAccessConfig listener timeOut pkgName =>
    { s with manager := s.manager.setAccessConfig listener timeOut pkgName }
  | .clearAccessConfig => { s with manager := s.manager.clearAccessConfig }
  | .clearAccessConfigByPkgName pkgName =>
    { s with manager := s.manager.clearAccessConfigByPkgName pkgName }
  | .startAudioCodec call peerDevId =>
    { s with starts := s.starts.set call ⟨peerDevId, s.manager.currentNetworkId_⟩ }
  | .codecStarted call _ _ => { s with starts := s.starts.remove call }

/-- The latest request of the device was answered with granted. -/
def latestGranted (s : AudioAccess) (networkId : String) : Bool :=
  ((s.latest.lookup networkId).bind s.answers.lookup).getD false

/-- The call returns `OK` only for a device whose latest request was granted. -/
def StartsGranted (s : AudioAccess) (call : ℕ) (audioCodec res : Bool) : Prop :=
  ∀ c, s.starts.lookup call = some c → s.manager.isConfigured = true →
    s.startAudioCodec c.networkId audioCodec res = .OK → s.latestGranted c.peerDevId = true

/-- A device is asked for while it is not granted, or while nobody is asked; of the requests of a
device only the latest one is granted; a listener is set while nothing is granted for another
reason; and a codec starts without a networkId, or with one that is granted, while its own device
is granted too. -/
def InTurn (s : AudioAccess) : AccessStep → Prop
  | .onSoftbusChannelOpened mySessionName peerDevId =>
    mySessionName ≠ "" → s.manager.isConfigured = true →
      s.manager.isAuthorizationGranted peerDevId = false
  | .processAuthorizationResult requestId granted =>
    s.manager.isConfigured = true → granted = true →
      ∀ networkId ∈ s.pendingAuthRequests_.lookup requestId,
        s.latest.lookup networkId = some requestId ∨ s.latestGranted networkId = true
  | .timerExpires _ => True
  | .setAccessConfig listener _ pkgName =>
    listener = true → pkgName ≠ "" → ∀ networkId ∈ s.manager.authorizationResults_.keys,
      s.manager.isAuthorizationGranted networkId = true → s.latestGranted networkId = true
  | .clearAccessConfig => True
  | .clearAccessConfigByPkgName _ => True
  | .startAudioCodec .. => True
  | .codecStarted call audioCodec res =>
    audioCodec = true → res = true → ∀ c ∈ s.starts.lookup call, s.manager.isConfigured = true →
      c.networkId = "" ∨ s.manager.isAuthorizationGranted c.networkId = true →
        s.manager.isAuthorizationGranted c.peerDevId = true

instance InTurn.decidable (s : AudioAccess) : ∀ l, Decidable (s.InTurn l)
  | .onSoftbusChannelOpened mySessionName peerDevId => inferInstanceAs (Decidable
      (mySessionName ≠ "" → s.manager.isConfigured = true →
        s.manager.isAuthorizationGranted peerDevId = false))
  | .processAuthorizationResult requestId granted => inferInstanceAs (Decidable
      (s.manager.isConfigured = true → granted = true →
        ∀ networkId ∈ s.pendingAuthRequests_.lookup requestId,
          s.latest.lookup networkId = some requestId ∨ s.latestGranted networkId = true))
  | .timerExpires _ => isTrue trivial
  | .setAccessConfig listener _ pkgName => inferInstanceAs (Decidable
      (listener = true → pkgName ≠ "" → ∀ networkId ∈ s.manager.authorizationResults_.keys,
        s.manager.isAuthorizationGranted networkId = true → s.latestGranted networkId = true))
  | .clearAccessConfig => isTrue trivial
  | .clearAccessConfigByPkgName _ => isTrue trivial
  | .startAudioCodec .. => isTrue trivial
  | .codecStarted call audioCodec res => inferInstanceAs (Decidable
      (audioCodec = true → res = true → ∀ c ∈ s.starts.lookup call,
        s.manager.isConfigured = true →
          c.networkId = "" ∨ s.manager.isAuthorizationGranted c.networkId = true →
            s.manager.isAuthorizationGranted c.peerDevId = true))

/-- While a listener is configured, a device is granted access by its latest request. Requests
that are pending have no answer. -/
structure Current (s : AudioAccess) : Prop where
  pending : ∀ requestId networkId, s.pendingAuthRequests_.lookup requestId = some networkId →
    requestId < s.nextRequestId ∧ s.answers.lookup requestId = none
  answered : ∀ requestId granted, s.answers.lookup requestId = some granted →
    requestId < s.nextRequestId
  granted : s.manager.isConfigured = true → ∀ networkId,
    s.manager.isAuthorizationGranted networkId = true → s.latestGranted networkId = true

variable {s : AudioAccess}

/-! ## Decisions and answers -/

theorem isAuthorizationGranted_set (m : DAudioAccessConfigManager) (networkId : String)
    (granted : Bool) (devId : String) :
    (m.setAuthorizationGranted networkId granted).isAuthorizationGranted devId =
      if devId = networkId then granted else m.isAuthorizationGranted devId := by
  simp only [DAudioAccessConfigManager.isAuthorizationGranted,
    DAudioAccessConfigManager.setAuthorizationGranted, Table.lookup_set]
  split_ifs <;> rfl

theorem latestGranted_iff (networkId : String) :
    s.latestGranted networkId = true ↔ ∃ requestId,
      s.latest.lookup networkId = some requestId ∧ s.answers.lookup requestId = some true := by
  rw [latestGranted]
  cases hlatest : s.latest.lookup networkId with
  | none => simp
  | some requestId => cases h : s.answers.lookup requestId <;> simp [h]

/-- Nothing is granted that was cleared. -/
theorem Current.clear (h : s.Current) {manager : DAudioAccessConfigManager}
    (hclear : manager.authorizationResults_ = ∅) : Current { s with manager := manager } where
  pending := h.pending
  answered := h.answered
  granted := by
    intro _ networkId hgranted
    rw [DAudioAccessConfigManager.isAuthorizationGranted, hclear, AList.lookup_empty] at hgranted
    cases hgranted

theorem Current.onSoftbusChannelOpened (h : s.Current) {mySessionName peerDevId : String}
    (hok : s.InTurn (.onSoftbusChannelOpened mySessionName peerDevId)) :
    (s.onSoftbusChannelOpened mySessionName peerDevId).Current := by
  unfold AudioAccess.onSoftbusChannelOpened requestAndWaitForAuthorization
  by_cases hname : peerDevId = "" ∨ mySessionName = ""
  · rw [if_pos hname]
    exact h
  rw [if_neg hname]
  dsimp only
  split_ifs with hlistener hpkg
  · -- Without a listener access is granted, and no listener is configured.
    refine ⟨h.pending, h.answered, fun hconfigured => ?_⟩
    exact absurd hconfigured (by simp [DAudioAccessConfigManager.isConfigured,
      DAudioAccessConfigManager.setAuthorizationGranted, hlistener])
  · refine ⟨h.pending, h.answered, fun hconfigured => ?_⟩
    exact absurd hconfigured (by simp [DAudioAccessConfigManager.isConfigured,
      DAudioAccessConfigManager.setAuthorizationGranted, hpkg])
  · have hconfigured : s.manager.isConfigured = true := by
      simp [DAudioAccessConfigManager.isConfigured, hlistener, hpkg]
    have hnot := hok (fun hempty => hname (.inr hempty)) hconfigured
    refine ⟨fun requestId networkId hlookup => ?_, fun requestId granted hlookup => ?_,
      fun _ networkId hgranted => ?_⟩
    · rw [Table.lookup_set] at hlookup
      split_ifs at hlookup with hnew
      · subst hnew
        refine ⟨Nat.lt_succ_self _, ?_⟩
        cases hanswer : s.answers.lookup s.nextRequestId with
        | none => rfl
        | some granted => exact absurd (h.answered _ granted hanswer) (lt_irrefl _)
      · obtain ⟨hlt, hnone⟩ := h.pending requestId networkId hlookup
        exact ⟨hlt.trans (Nat.lt_succ_self _), hnone⟩
    · exact (h.answered requestId granted hlookup).trans (Nat.lt_succ_self _)
    · have hne : networkId ≠ peerDevId := by
        rintro rfl
        exact Bool.false_ne_true (hnot.symm.trans hgranted)
      obtain ⟨requestId, hlatest, hanswer⟩ :=
        (latestGranted_iff networkId).1 (h.granted hconfigured networkId hgranted)
      exact (latestGranted_iff networkId).2
        ⟨requestId, (Table.lookup_set_ne _ hne _).trans hlatest, hanswer⟩

/-- An answer is current if it denies, or is that to the latest request. -/
theorem Current.answer (h : s.Current) {requestId : ℕ} {granted : Bool}
    (hok : s.manager.isConfigured = true → granted = true →
      ∀ networkId ∈ s.pendingAuthRequests_.lookup requestId,
        s.latest.lookup networkId = some requestId ∨ s.latestGranted networkId = true) :
    (s.answer requestId granted).Current := by
  unfold AudioAccess.answer
  cases hlookup : s.pendingAuthRequests_.lookup requestId with
  | none => exact h
  | some networkId =>
    obtain ⟨hlt, hnone⟩ := h.pending requestId networkId hlookup
    have hold : ∀ devId, s.latestGranted devId = true → ∃ id, s.latest.lookup devId = some id ∧
        (s.answers.set requestId granted).lookup id = some true := by
      intro devId hgranted
      obtain ⟨id, hlatest, hanswer⟩ := (latestGranted_iff devId).1 hgranted
      have hne : id ≠ requestId := by
        rintro rfl
        rw [hnone] at hanswer
        cases hanswer
      exact ⟨id, hlatest, (Table.lookup_set_ne _ hne _).trans hanswer⟩
    refine ⟨fun id devId hpending => ?_, fun id b hanswer => ?_,
      fun hconfigured devId hgranted => (latestGranted_iff devId).2 ?_⟩
    · rw [Table.lookup_remove] at hpending
      split_ifs at hpending with hid
      obtain ⟨hlt', hnone'⟩ := h.pending id devId hpending
      exact ⟨hlt', (Table.lookup_set_ne _ hid _).trans hnone'⟩
    · rw [Table.lookup_set] at hanswer
      split_ifs at hanswer with hid
      · rw [hid]
        exact hlt
      · exact h.answered id b hanswer
    · rw [isAuthorizationGranted_set] at hgranted
      split_ifs at hgranted with hdev
      · subst hdev
        rcases hok hconfigured hgranted devId hlookup with hlatest | hlatest
        · exact ⟨requestId, hlatest, by rw [Table.lookup_set_self, hgranted]⟩
        · exact hold devId hlatest
      · exact hold devId (h.granted hconfigured devId hgranted)

theorem Current.timers (h : s.Current) (authTimerCancelFlags_ : Table ℕ Bool) :
    Current { s with authTimerCancelFlags_ := authTimerCancelFlags_ } :=
  ⟨h.pending, h.answered, h.granted⟩

theorem Current.setAccessConfig (h : s.Current) {listener : Bool} {timeOut : Int}
    {pkgName : String} (hok : s.InTurn (.setAccessConfig listener timeOut pkgName)) :
    Current { s with manager := s.manager.setAccessConfig listener timeOut pkgName } := by
  unfold DAudioAccessConfigManager.setAccessConfig
  split_ifs with hset
  · exact h
  · rw [not_or, not_not] at hset
    refine ⟨h.pending, h.answered, fun _ networkId hgranted =>
      hok hset.1 hset.2 networkId ?_ hgranted⟩
    rw [DAudioAccessConfigManager.isAuthorizationGranted] at hgranted
    cases hlookup : s.manager.authorizationResults_.lookup networkId with
    | none =>
      rw [hlookup] at hgranted
      cases hgranted
    | some granted => exact AList.mem_keys.1 (AList.lookup_isSome.1 (by rw [hlookup]; rfl))

theorem Current.step (h : s.Current) : ∀ l, s.InTurn l → (s.step l).Current
  | .onSoftbusChannelOpened .., hok => h.onSoftbusChannelOpened hok
  | .processAuthorizationResult requestId granted, hok => by
    rw [AudioAccess.step, processAuthorizationResult, cancelAuthorizationTimer]
    split_ifs
    · exact (h.timers _).answer hok
    · exact h.answer hok
  | .timerExpires requestId, _ => by
    rw [AudioAccess.step, AudioAccess.timerExpires]
    split_ifs
    · exact (h.timers _).answer fun _ hdenied => (Bool.false_ne_true hdenied).elim
    · exact h.timers _
  | .setAccessConfig .., hok => h.setAccessConfig hok
  | .clearAccessConfig, _ => h.clear rfl
  | .clearAccessConfigByPkgName pkgName, _ => by
    rw [AudioAccess.step, DAudioAccessConfigManager.clearAccessConfigByPkgName]
    by_cases hempty : pkgName = ""
    · rw [if_pos hempty]
      exact h
    · rw [if_neg hempty]
      exact h.clear rfl
  | .startAudioCodec .., _ => ⟨h.pending, h.answered, h.granted⟩
  | .codecStarted .., _ => ⟨h.pending, h.answered, h.granted⟩

theorem current_init : Current {} where
  pending _ _ h := absurd h (Table.lookup_empty_ne_some _ _)
  answered _ _ h := absurd h (Table.lookup_empty_ne_some _ _)
  granted := nofun

/-! ## Which codecs start -/

/-- What a codec that starts has found. -/
theorem of_startAudioCodec {networkId : String} {audioCodec res : Bool}
    (h : s.startAudioCodec networkId audioCodec res = .OK) : audioCodec = true ∧ res = true ∧
      (networkId = "" ∨ s.manager.isAuthorizationGranted networkId = true) := by
  unfold AudioAccess.startAudioCodec at h
  split_ifs at h with hcodec _ hgranted hres
  refine ⟨hcodec, hres, or_iff_not_imp_left.2 fun hne => ?_⟩
  by_contra hnot
  exact hgranted ⟨hne, hnot⟩

/-- In a run in which requests, answers and starts take turns, a codec that starts while a
listener is configured serves a device whose latest request was granted. -/
theorem codec_granted (ls : List AccessStep) (h : Along step InTurn {} ls)
    (pre post : List AccessStep) (call : ℕ) (audioCodec res : Bool)
    (hls : ls = pre ++ .codecStarted call audioCodec res :: post) :
    (pre.foldl step {}).StartsGranted call audioCodec res := by
  subst hls
  obtain ⟨hpre, hok, -⟩ := h.of_append
  have hcurrent : (pre.foldl step {}).Current :=
    hpre.invariant (fun s l h hok => h.step l hok) current_init
  intro c hlookup hconfigured hstarts
  obtain ⟨hcodec, hres, hgranted⟩ := of_startAudioCodec hstarts
  exact hcurrent.granted hconfigured c.peerDevId
    (hok hcodec hres c hlookup hconfigured hgranted)

/-- A device is asked for and granted, and the codec that serves it starts. -/
theorem codec_granted_phone :
    (List.foldl step {} [.setAccessConfig true 20 "com.cast",
        .onSoftbusChannelOpened "mic" "phone", .processAuthorizationResult 0 true,
        .startAudioCodec 0 "phone"]).startAudioCodec "phone" true true = .OK ∧
      (List.foldl step {} [.setAccessConfig true 20 "com.cast",
        .onSoftbusChannelOpened "mic" "phone", .processAuthorizationResult 0 true,
        .startAudioCodec 0 "phone"]).StartsGranted 0 true true :=
  ⟨by decide +kernel,
    codec_granted [.setAccessConfig true 20 "com.cast", .onSoftbusChannelOpened "mic" "phone",
      .processAuthorizationResult 0 true, .startAudioCodec 0 "phone", .codecStarted 0 true true]
      (by decide +kernel)
      [.setAccessConfig true 20 "com.cast", .onSoftbusChannelOpened "mic" "phone",
        .processAuthorizationResult 0 true, .startAudioCodec 0 "phone"] [] 0 true true rfl⟩

/-- The codec of a phone that was never answered for starts under the grant of a tablet, under
its own grant of an earlier request, without any networkId, under the answer to a request before
the one that was denied, and under what was granted before the listener was there. -/
theorem codec_not_granted :
    ¬(List.foldl step {} [.setAccessConfig true 20 "com.cast",
        .onSoftbusChannelOpened "mic" "phone", .onSoftbusChannelOpened "mic" "tablet",
        .processAuthorizationResult 1 true, .startAudioCodec 0 "phone"]).StartsGranted
        0 true true ∧
      ¬(List.foldl step {} [.setAccessConfig true 20 "com.cast",
        .onSoftbusChannelOpened "mic" "phone", .processAuthorizationResult 0 true,
        .onSoftbusChannelOpened "mic" "phone", .startAudioCodec 0 "phone"]).StartsGranted
        0 true true ∧
      ¬(List.foldl step {} [.setAccessConfig true 20 "com.cast",
        .startAudioCodec 0 "phone"]).StartsGranted 0 true true ∧
      ¬(List.foldl step {} [.setAccessConfig true 20 "com.cast",
        .onSoftbusChannelOpened "mic" "phone", .onSoftbusChannelOpened "mic" "phone",
        .processAuthorizationResult 1 false, .processAuthorizationResult 0 true,
        .startAudioCodec 0 "phone"]).StartsGranted 0 true true ∧
      ¬(List.foldl step {} [.onSoftbusChannelOpened "mic" "phone",
        .setAccessConfig true 20 "com.cast", .startAudioCodec 0 "phone"]).StartsGranted
        0 true true := by
  have hphone : ∀ s : AudioAccess, ∀ networkId, s.starts.lookup 0 = some ⟨"phone", networkId⟩ ∧
      s.manager.isConfigured = true ∧ s.startAudioCodec networkId true true = .OK ∧
      s.latestGranted "phone" = false → ¬s.StartsGranted 0 true true := by
    rintro s networkId ⟨hlookup, hconfigured, hstarts, hnot⟩ h
    exact Bool.false_ne_true (hnot.symm.trans (h _ hlookup hconfigured hstarts))
  exact ⟨hphone _ "tablet" (by decide +kernel), hphone _ "phone" (by decide +kernel),
    hphone _ "" (by decide +kernel), hphone _ "phone" (by decide +kernel),
    hphone _ "phone" (by decide +kernel)⟩

end AudioAccess

end DHFwk
