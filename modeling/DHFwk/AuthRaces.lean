import DHFwk.CodecAccess
import DHFwk.Runs
import DHFwk.TimedRequest

/-!
# One decision for each audio authorization request

`RequestAndWaitForAuthorization` puts a request in `pendingAuthRequests_` and starts a thread that
sleeps, reads and erases the request's flag in `authTimerCancelFlags_` and, if it is not cancelled,
takes the request and denies it. `ProcessAuthorizationResult` sets the flag and takes the request
after that, under another lock. Here every section between a lock and its release is a step of its
own, for any number of requests and results.

To each request the adapter is a `TimedRequest` (`race_step`), so it is decided once at most, by
whoever takes it first. When its timer has ended it has been decided, unless a result is still
between its sections : the timer that finds itself cancelled leaves the request to the result
(`decided_once`).
-/

set_option linter.unusedSectionVars false

namespace DHFwk

open Runs

/-- A `ProcessAuthorizationResult` that has cancelled the timer. `networkId` is what it has taken
out of `pendingAuthRequests_`. -/
structure AuthResult where
  requestId : String
  granted : Bool
  networkId : Option String := none
  deriving DecidableEq

/-- The authorization requests of the adapter, with the threads that are at them. `asked` is the
device of each request made, `reached` logs who has looked for a pending request after it was made
(a result with its value, or the timer), and `decisions` the calls of `SetAuthorizationGranted` on
behalf of requests. -/
structure AuthRequests where
  manager : DAudioAccessConfigManager := {}
  pendingAuthRequests_ : Table String String := ∅
  authTimerCancelFlags_ : Table String Bool := ∅
  timers : Table String (RequestTimer String) := ∅
  results : Table ℕ AuthResult := ∅
  asked : Table String String := ∅
  reached : List (String × Option Bool) := []
  decisions : List (String × String × Bool) := []

namespace AuthRequests

/-! ## The sections -/

variable (s : AuthRequests)

def putRequest (requestId peerNetworkId : String) : AuthRequests :=
  { s with
    pendingAuthRequests_ := s.pendingAuthRequests_.set requestId peerNetworkId
    asked := s.asked.set requestId peerNetworkId }

def setTimer (requestId : String) (timer : RequestTimer String) : AuthRequests :=
  { s with timers := s.timers.set requestId timer }

def setFlag (requestId : String) (flag : Option Bool) : AuthRequests :=
  match flag with
  | none => { s with authTimerCancelFlags_ := s.authTimerCancelFlags_.remove requestId }
  | some b => { s with authTimerCancelFlags_ := s.authTimerCancelFlags_.set requestId b }

def setResult (call : ℕ) (result : AuthResult) : AuthRequests :=
  { s with results := s.results.set call result }

def removeResult (call : ℕ) : AuthRequests :=
  { s with results := s.results.remove call }

/-- `RequestAndWaitForAuthorization` until it has put the request in `pendingAuthRequests_`. Its
only caller, `OnSoftbusChannelOpened`, refuses an empty device, and no two requests have the same
id. -/
def requestAndWaitForAuthorization (requestId peerNetworkId : String) : AuthRequests :=
  if peerNetworkId = "" then s
  else if s.manager.listener_ = false then
    { s with manager := s.manager.setAuthorizationGranted peerNetworkId true }
  else if s.manager.pkgName_ = "" then
    { s with manager := s.manager.setAuthorizationGranted peerNetworkId true }
  else if s.timers.get requestId ≠ .idle then s
  else
    (s.putRequest requestId peerNetworkId).setTimer requestId .asked

/-- `CancelAuthorizationTimer`. -/
def cancelAuthorizationTimer (requestId : String) : AuthRequests :=
  if (s.authTimerCancelFlags_.lookup requestId).isSome then s.setFlag requestId (some true) else s

/-- The section in which a result or a timeout takes the request, with the networkId that it has
found, if any. -/
def takeRequest (requestId : String) (who : Option Bool) : String × AuthRequests :=
  ((s.pendingAuthRequests_.lookup requestId).getD "",
    { s with
      pendingAuthRequests_ := s.pendingAuthRequests_.remove requestId
      reached := if (s.asked.lookup requestId).isSome then s.reached ++ [(requestId, who)]
        else s.reached })

/-- `SetAuthorizationGranted`, on behalf of a request. -/
def setAuthorizationGranted (requestId networkId : String) (granted : Bool) : AuthRequests :=
  { s with
    manager := s.manager.setAuthorizationGranted networkId granted
    decisions := s.decisions ++ [(requestId, networkId, granted)] }

/-- The rest of a `ProcessAuthorizationResult` that has cancelled the timer, one section. -/
def resultGoesOn (call : ℕ) : AuthRequests :=
  match s.results.lookup call with
  | none => s
  | some ⟨requestId, granted, none⟩ =>
    let taken := s.takeRequest requestId (some granted)
    if taken.1 = "" then taken.2.removeResult call
    else taken.2.setResult call ⟨requestId, granted, some taken.1⟩
  | some ⟨requestId, granted, some networkId⟩ =>
    (s.setAuthorizationGranted requestId networkId granted).removeResult call

/-- The next section of `StartAuthorizationTimer`, of the thread that it starts, or of
`HandleAuthorizationTimeout`. -/
def timerGoesOn (requestId : String) : AuthRequests :=
  match s.timers.get requestId with
  | .idle => s
  | .asked => (s.cancelAuthorizationTimer requestId).setTimer requestId .prepared
  | .prepared => (s.setFlag requestId (some false)).setTimer requestId .sleeping
  | .sleeping =>
    let shouldTimeout := s.authTimerCancelFlags_.lookup requestId = some false
    (s.setFlag requestId none).setTimer requestId (if shouldTimeout then .expired else .ended)
  | .expired =>
    let taken := s.takeRequest requestId none
    taken.2.setTimer requestId (if taken.1 = "" then .ended else .taken taken.1)
  | .taken networkId =>
    (s.setAuthorizationGranted requestId networkId false).setTimer requestId .ended
  | .ended => s

/-! ## Runs -/

/-- What happens next. `others` is anything else that changes the access manager. -/
inductive Step
  | requestAndWaitForAuthorization (requestId peerNetworkId : String)
  | timerGoesOn (requestId : String)
  | processAuthorizationResult (call : ℕ) (requestId : String) (granted : Bool)
  | resultGoesOn (call : ℕ)
  | others (manager : DAudioAccessConfigManager)

/-- One step. -/
def step : Step → AuthRequests
  | .requestAndWaitForAuthorization requestId peerNetworkId =>
    s.requestAndWaitForAuthorization requestId peerNetworkId
  | .timerGoesOn requestId => s.timerGoesOn requestId
  | .processAuthorizationResult call requestId granted =>
    if s.results.lookup call = none then
      (s.cancelAuthorizationTimer requestId).setResult call ⟨requestId, granted, none⟩
    else s
  | .resultGoesOn call => s.resultGoesOn call
  | .others manager => { s with manager := manager }

/-- Who has looked for the request first. -/
def firstReached (requestId : String) : Option (Option Bool) :=
  (s.reached.find? fun e => e.1 = requestId).map Prod.snd

/-- A `ProcessAuthorizationResult` for the request has begun and not returned. -/
def UnderWay (requestId : String) : Prop :=
  ∃ call result, s.results.lookup call = some result ∧ result.requestId = requestId

/-- A request is decided once at most, with the value of the first result that took it or false if
the timeout did, and it has been decided and is in neither map once its timer has ended and no
result for it is under way. -/
structure DecidedOnce (requestId : String) : Prop where
  once : (s.decisions.filter fun e => e.1 = requestId).length ≤ 1
  first : ∀ networkId granted, (requestId, networkId, granted) ∈ s.decisions →
    s.asked.lookup requestId = some networkId ∧
      ∃ who, s.firstReached requestId = some who ∧ granted = who.getD false
  ended : s.timers.get requestId = .ended → ¬s.UnderWay requestId →
    (∃ networkId granted, (requestId, networkId, granted) ∈ s.decisions) ∧
      s.pendingAuthRequests_.lookup requestId = none ∧
      s.authTimerCancelFlags_.lookup requestId = none

/-- The steps with each `ProcessAuthorizationResult` from its beginning to its end. -/
def inOnePiece : Step → List Step
  | .processAuthorizationResult call requestId granted =>
    [.processAuthorizationResult call requestId granted, .resultGoesOn call, .resultGoesOn call]
  | .resultGoesOn _ => []
  | l => [l]

/-! ## One request -/

/-- The calls for one request. -/
def callsOf (results : Table ℕ AuthResult) (requestId : String) (call : ℕ) :
    Option (AnswerCall String Bool) :=
  (results.lookup call).bind fun result =>
    if result.requestId = requestId then some ⟨result.granted, result.networkId⟩ else none

/-- What there is of one request. -/
def race (requestId : String) : TimedRequest ℕ String Bool where
  entry := s.pendingAuthRequests_.lookup requestId
  flag := s.authTimerCancelFlags_.lookup requestId
  timer := s.timers.get requestId
  calls := callsOf s.results requestId
  asked := s.asked.lookup requestId
  first := s.firstReached requestId
  decisions := (s.decisions.filter fun e => e.1 = requestId).map Prod.snd

section

variable {s} {requestId r : String}

theorem callsOf_set (results : Table ℕ AuthResult) (call : ℕ) (result : AuthResult) :
    callsOf (results.set call result) r = Function.update (callsOf results r) call
      (if result.requestId = r then some ⟨result.granted, result.networkId⟩ else none) := by
  ext1 c
  rw [callsOf, Table.lookup_set, Function.update_apply]
  by_cases hc : c = call
  · rw [if_pos hc, if_pos hc, Option.bind_some]
  · rw [if_neg hc, if_neg hc, callsOf]

theorem callsOf_remove (results : Table ℕ AuthResult) (call : ℕ) :
    callsOf (results.remove call) r = Function.update (callsOf results r) call none := by
  ext1 c
  rw [callsOf, Table.lookup_remove, Function.update_apply]
  by_cases hc : c = call
  · rw [if_pos hc, if_pos hc, Option.bind_none]
  · rw [if_neg hc, if_neg hc, callsOf]

theorem callsOf_of_lookup {results : Table ℕ AuthResult} {call : ℕ} {result : AuthResult}
    (h : results.lookup call = some result) : callsOf results r call =
      if result.requestId = r then some ⟨result.granted, result.networkId⟩ else none := by
  rw [callsOf, h, Option.bind_some]

/-! ### What a section does to it -/

theorem race_putRequest_self (peerNetworkId : String) :
    (s.putRequest r peerNetworkId).race r =
      { s.race r with entry := some peerNetworkId, asked := some peerNetworkId } := by
  simp [race, putRequest, firstReached]

theorem race_putRequest_ne (h : r ≠ requestId) (peerNetworkId : String) :
    (s.putRequest requestId peerNetworkId).race r = s.race r := by
  simp [race, putRequest, firstReached, Table.lookup_set_ne _ h]

theorem race_setTimer_self (timer : RequestTimer String) :
    (s.setTimer r timer).race r = { s.race r with timer := timer } := by
  simp [race, setTimer, firstReached]

theorem race_setTimer_ne (h : r ≠ requestId) (timer : RequestTimer String) :
    (s.setTimer requestId timer).race r = s.race r := by
  simp [race, setTimer, firstReached, Table.get_set_ne _ h]

theorem race_setFlag_self (flag : Option Bool) :
    (s.setFlag r flag).race r = { s.race r with flag := flag } := by
  cases flag <;> simp [race, setFlag, firstReached]

theorem race_setFlag_ne (h : r ≠ requestId) (flag : Option Bool) :
    (s.setFlag requestId flag).race r = s.race r := by
  cases flag <;>
    simp [race, setFlag, firstReached, Table.lookup_set_ne _ h, Table.lookup_remove_ne _ h]

theorem race_setResult (call : ℕ) (result : AuthResult) :
    (s.setResult call result).race r = { s.race r with
      calls := Function.update (s.race r).calls call
        (if result.requestId = r then some ⟨result.granted, result.networkId⟩ else none) } := by
  rw [race, setResult, callsOf_set]
  rfl

theorem race_removeResult (call : ℕ) :
    (s.removeResult call).race r =
      { s.race r with calls := Function.update (s.race r).calls call none } := by
  rw [race, removeResult, callsOf_remove]
  rfl

theorem race_cancelAuthorizationTimer_self :
    (s.cancelAuthorizationTimer r).race r =
      { s.race r with flag := (s.race r).flag.map fun _ => true } := by
  unfold cancelAuthorizationTimer
  split_ifs with h
  · obtain ⟨b, hb⟩ := Option.isSome_iff_exists.1 h
    rw [race_setFlag_self]
    simp [race, hb]
  · simp [race, Option.not_isSome_iff_eq_none.1 h]

theorem race_cancelAuthorizationTimer_ne (h : r ≠ requestId) :
    (s.cancelAuthorizationTimer requestId).race r = s.race r := by
  unfold cancelAuthorizationTimer
  split_ifs
  · exact race_setFlag_ne h _
  · rfl

theorem firstReached_takeRequest_self (who : Option Bool) :
    (s.takeRequest r who).2.firstReached r = (s.race r).reach who := by
  have hconcat : ((s.reached ++ [(r, who)]).find? fun e => e.1 = r).map Prod.snd =
      (s.firstReached r).or (some who) := by
    rw [firstReached, List.find?_append]
    cases s.reached.find? fun e => e.1 = r <;> simp
  unfold TimedRequest.reach
  by_cases h : (s.asked.lookup r).isSome
  · rw [if_pos (show (s.race r).asked.isSome from h)]
    simp only [firstReached, takeRequest, if_pos h]
    exact hconcat
  · rw [if_neg (show ¬(s.race r).asked.isSome from h)]
    simp only [firstReached, takeRequest, if_neg h]
    rfl

theorem race_takeRequest_self (who : Option Bool) :
    (s.takeRequest r who).2.race r =
      { s.race r with entry := none, first := (s.race r).reach who } := by
  rw [race, firstReached_takeRequest_self]
  simp only [takeRequest, Table.lookup_remove_self]
  rfl

theorem race_takeRequest_ne (h : r ≠ requestId) (who : Option Bool) :
    (s.takeRequest requestId who).2.race r = s.race r := by
  simp only [race, takeRequest, firstReached, Table.lookup_remove_ne _ h]
  split_ifs <;> simp [List.find?_append, h.symm]

theorem race_setAuthorizationGranted_self (networkId : String) (granted : Bool) :
    (s.setAuthorizationGranted r networkId granted).race r =
      { s.race r with decisions := (s.race r).decisions ++ [(networkId, granted)] } := by
  simp [race, setAuthorizationGranted, firstReached]

theorem race_setAuthorizationGranted_ne (h : r ≠ requestId) (networkId : String) (granted : Bool) :
    (s.setAuthorizationGranted requestId networkId granted).race r = s.race r := by
  simp [race, setAuthorizationGranted, firstReached, h.symm]

/-- No device of a pending request is empty. -/
def Named (s : AuthRequests) : Prop := ∀ r, s.pendingAuthRequests_.lookup r ≠ some ""

theorem race_setResult_ne {call : ℕ} {result : AuthResult} (h : result.requestId ≠ r)
    (hcall : (s.race r).calls call = none) : (s.setResult call result).race r = s.race r := by
  rw [race_setResult, if_neg h, ← hcall, Function.update_eq_self]

theorem race_removeResult_ne {call : ℕ} (hcall : (s.race r).calls call = none) :
    (s.removeResult call).race r = s.race r := by
  rw [race_removeResult, ← hcall, Function.update_eq_self]

/-! ### The steps -/

/-- The networkId that is taken is empty only if there is none. -/
theorem Named.takeRequest_fst_eq_iff (h : s.Named) (who : Option Bool) :
    (s.takeRequest requestId who).1 = "" ↔ (s.race requestId).entry = none := by
  have hname := h requestId
  simp only [takeRequest, race]
  cases hentry : s.pendingAuthRequests_.lookup requestId with
  | none => simp
  | some networkId => simpa [hentry] using hname

theorem takeRequest_fst_of_entry {networkId : String} (who : Option Bool)
    (h : (s.race requestId).entry = some networkId) :
    (s.takeRequest requestId who).1 = networkId := by
  have hlookup : s.pendingAuthRequests_.lookup requestId = some networkId := h
  rw [takeRequest, hlookup, Option.getD_some]

theorem race_requestAndWaitForAuthorization (requestId peerNetworkId : String) :
    (s.requestAndWaitForAuthorization requestId peerNetworkId).race r = s.race r ∨
      TimedRequest.Step false (s.race r)
        ((s.requestAndWaitForAuthorization requestId peerNetworkId).race r) := by
  unfold requestAndWaitForAuthorization
  split_ifs with hpeer hlistener hpkg htimer
  · exact Or.inl rfl
  · exact Or.inl rfl
  · exact Or.inl rfl
  · exact Or.inl rfl
  · by_cases hr : r = requestId
    · subst hr
      rw [race_setTimer_self, race_putRequest_self]
      exact Or.inr (.ask peerNetworkId (not_not.1 htimer))
    · rw [race_setTimer_ne hr, race_putRequest_ne hr]
      exact Or.inl rfl

/-- The timer of one request leaves the others alone. -/
theorem race_timerGoesOn_ne (hr : r ≠ requestId) : (s.timerGoesOn requestId).race r = s.race r := by
  unfold timerGoesOn
  split
  next => rfl
  next => rw [race_setTimer_ne hr, race_cancelAuthorizationTimer_ne hr]
  next => rw [race_setTimer_ne hr, race_setFlag_ne hr]
  next => rw [race_setTimer_ne hr, race_setFlag_ne hr]
  next => rw [race_setTimer_ne hr, race_takeRequest_ne hr]
  next => rw [race_setTimer_ne hr, race_setAuthorizationGranted_ne hr]
  next => rfl

theorem Named.race_timerGoesOn (h : s.Named) (requestId : String) :
    (s.timerGoesOn requestId).race r = s.race r ∨
      TimedRequest.Step false (s.race r) ((s.timerGoesOn requestId).race r) := by
  by_cases hr : r = requestId
  · subst hr
    unfold timerGoesOn
    split
    next => exact Or.inl rfl
    next ht =>
      rw [race_setTimer_self, race_cancelAuthorizationTimer_self]
      exact Or.inr (.prepare ht)
    next ht =>
      rw [race_setTimer_self, race_setFlag_self]
      exact Or.inr (.start ht)
    next ht =>
      rw [race_setTimer_self, race_setFlag_self]
      exact Or.inr (.fire ht)
    next ht =>
      have hstep : TimedRequest.Step false (s.race r) _ := .expire ht
      have htimer : (if (s.takeRequest r none).1 = "" then RequestTimer.ended
          else .taken (s.takeRequest r none).1) = ((s.race r).entry.map .taken).getD .ended := by
        cases hentry : (s.race r).entry with
        | none =>
          rw [if_pos ((h.takeRequest_fst_eq_iff none).2 hentry)]
          rfl
        | some networkId =>
          rw [if_neg fun he => by simpa [hentry] using (h.takeRequest_fst_eq_iff none).1 he,
            takeRequest_fst_of_entry none hentry]
          rfl
      rw [race_setTimer_self, race_takeRequest_self, htimer]
      exact Or.inr hstep
    next networkId ht =>
      rw [race_setTimer_self, race_setAuthorizationGranted_self]
      exact Or.inr (.decideLate networkId ht)
    next => exact Or.inl rfl
  · exact Or.inl (race_timerGoesOn_ne hr)

theorem race_processAuthorizationResult {call : ℕ} (h : s.results.lookup call = none)
    (requestId : String) (granted : Bool) :
    ((s.cancelAuthorizationTimer requestId).setResult call ⟨requestId, granted, none⟩).race r =
        s.race r ∨
      TimedRequest.Step false (s.race r)
        (((s.cancelAuthorizationTimer requestId).setResult call
          ⟨requestId, granted, none⟩).race r) := by
  have hcall : (s.race r).calls call = none := by
    simp only [race, callsOf, h, Option.bind_none]
  by_cases hr : r = requestId
  · subst hr
    rw [race_setResult, race_cancelAuthorizationTimer_self, if_pos rfl]
    exact Or.inr (.cancel call granted hcall)
  · have hcancel := race_cancelAuthorizationTimer_ne (s := s) hr
    rw [race_setResult_ne (Ne.symm hr) (by rw [hcancel, hcall]), hcancel]
    exact Or.inl rfl

theorem Named.race_resultGoesOn (h : s.Named) (call : ℕ) :
    (s.resultGoesOn call).race r = s.race r ∨
      TimedRequest.Step false (s.race r) ((s.resultGoesOn call).race r) := by
  unfold resultGoesOn
  split
  next => exact Or.inl rfl
  next requestId granted hlookup =>
    have hcall : (s.race r).calls call = if requestId = r then some ⟨granted, none⟩ else none :=
      callsOf_of_lookup hlookup
    by_cases hr : r = requestId
    · subst hr
      have hstep : TimedRequest.Step false (s.race r) _ :=
        .take call granted (by rw [hcall, if_pos rfl])
      refine Or.inr ?_
      cases hentry : (s.race r).entry with
      | none =>
        rw [if_pos ((h.takeRequest_fst_eq_iff _).2 hentry), race_removeResult,
          race_takeRequest_self]
        rw [hentry] at hstep
        exact hstep
      | some networkId =>
        have hne : ¬(s.takeRequest r (some granted)).1 = "" := fun he => by
          simpa [hentry] using (h.takeRequest_fst_eq_iff _).1 he
        rw [if_neg hne, race_setResult, race_takeRequest_self, if_pos rfl,
          takeRequest_fst_of_entry _ hentry]
        rw [hentry] at hstep
        exact hstep
    · have htake := race_takeRequest_ne (s := s) hr (some granted)
      have hnone : ((s.takeRequest requestId (some granted)).2.race r).calls call = none := by
        rw [htake, hcall, if_neg (Ne.symm hr)]
      refine Or.inl ?_
      dsimp only
      split_ifs
      · rw [race_removeResult_ne hnone, htake]
      · rw [race_setResult_ne (Ne.symm hr) hnone, htake]
  next requestId granted networkId hlookup =>
    have hcall : (s.race r).calls call =
        if requestId = r then some ⟨granted, some networkId⟩ else none := callsOf_of_lookup hlookup
    by_cases hr : r = requestId
    · subst hr
      rw [race_removeResult, race_setAuthorizationGranted_self]
      exact Or.inr (.decide call granted networkId (by rw [hcall, if_pos rfl]))
    · have hset := race_setAuthorizationGranted_ne (s := s) hr networkId granted
      rw [race_removeResult_ne (by rw [hset, hcall, if_neg (Ne.symm hr)]), hset]
      exact Or.inl rfl

/-- To a request the adapter is a timed request, which a step of the adapter is a step of or leaves
as it is. -/
theorem Named.race_step (h : s.Named) (l : Step) (r : String) :
    (s.step l).race r = s.race r ∨ TimedRequest.Step false (s.race r) ((s.step l).race r) := by
  cases l with
  | requestAndWaitForAuthorization requestId peerNetworkId =>
    exact race_requestAndWaitForAuthorization requestId peerNetworkId
  | timerGoesOn requestId => exact h.race_timerGoesOn requestId
  | processAuthorizationResult call requestId granted =>
    simp only [step]
    split_ifs with hcall
    · exact race_processAuthorizationResult hcall requestId granted
    · exact Or.inl rfl
  | resultGoesOn call => exact h.race_resultGoesOn call
  | others manager => exact Or.inl rfl

/-! ## All requests -/

@[simp] theorem pending_setTimer (timer : RequestTimer String) :
    (s.setTimer requestId timer).pendingAuthRequests_ = s.pendingAuthRequests_ := rfl

@[simp] theorem pending_setFlag (flag : Option Bool) :
    (s.setFlag requestId flag).pendingAuthRequests_ = s.pendingAuthRequests_ := by
  cases flag <;> rfl

@[simp] theorem pending_setResult (call : ℕ) (result : AuthResult) :
    (s.setResult call result).pendingAuthRequests_ = s.pendingAuthRequests_ := rfl

@[simp] theorem pending_removeResult (call : ℕ) :
    (s.removeResult call).pendingAuthRequests_ = s.pendingAuthRequests_ := rfl

@[simp] theorem pending_cancelAuthorizationTimer :
    (s.cancelAuthorizationTimer requestId).pendingAuthRequests_ = s.pendingAuthRequests_ := by
  unfold cancelAuthorizationTimer
  split_ifs <;> simp

@[simp] theorem pending_setAuthorizationGranted (networkId : String) (granted : Bool) :
    (s.setAuthorizationGranted requestId networkId granted).pendingAuthRequests_ =
      s.pendingAuthRequests_ := rfl

theorem Named.of_eq (h : s.Named) {s' : AuthRequests}
    (heq : s'.pendingAuthRequests_ = s.pendingAuthRequests_) : s'.Named := fun r => heq ▸ h r

theorem Named.takeRequest (h : s.Named) (who : Option Bool) :
    (s.takeRequest requestId who).2.Named := by
  intro r
  simp only [AuthRequests.takeRequest, Table.lookup_remove]
  split_ifs
  · simp
  · exact h r

theorem Named.step (h : s.Named) (l : Step) : (s.step l).Named := by
  cases l with
  | requestAndWaitForAuthorization requestId peerNetworkId =>
    simp only [AuthRequests.step, requestAndWaitForAuthorization]
    split_ifs with hpeer
    · exact h
    · exact h
    · exact h
    · exact h
    · intro r
      simp only [pending_setTimer, putRequest, Table.lookup_set]
      split_ifs
      · exact fun he => hpeer (Option.some.inj he)
      · exact h r
  | timerGoesOn requestId =>
    simp only [AuthRequests.step, timerGoesOn]
    split
    next => exact h
    next => exact h.of_eq (by simp)
    next => exact h.of_eq (by simp)
    next => exact h.of_eq (by simp)
    next => exact (h.takeRequest none).of_eq (pending_setTimer _)
    next => exact h.of_eq (by simp)
    next => exact h
  | processAuthorizationResult call requestId granted =>
    simp only [AuthRequests.step]
    split_ifs
    · exact h.of_eq (by simp)
    · exact h
  | resultGoesOn call =>
    simp only [AuthRequests.step, resultGoesOn]
    split
    next => exact h
    next granted _ =>
      split_ifs
      · exact (h.takeRequest (some granted)).of_eq (pending_removeResult call)
      · exact (h.takeRequest (some granted)).of_eq (pending_setResult call _)
    next => exact h.of_eq (by simp)
  | others manager => exact h

/-- To each request the adapter has come the way of a timed request. -/
structure Raced (s : AuthRequests) : Prop where
  named : s.Named
  owned : ∀ r, ∃ owner, TimedRequest.Owned false (s.race r) owner

theorem raced_init : Raced {} where
  named := fun r => Table.lookup_empty_ne_some r ""
  owned := fun _ => ⟨.nobody, TimedRequest.owned_init⟩

theorem Raced.step (h : s.Raced) (l : Step) : (s.step l).Raced where
  named := h.named.step l
  owned := fun r => by
    obtain ⟨owner, howned⟩ := h.owned r
    rcases h.named.race_step l r with heq | hstep
    · exact ⟨owner, heq ▸ howned⟩
    · exact howned.step hstep

theorem mem_decisions_iff (networkId : String) (granted : Bool) :
    (requestId, networkId, granted) ∈ s.decisions ↔
      (networkId, granted) ∈ (s.race requestId).decisions := by
  simp [race]

theorem Raced.decidedOnce (h : s.Raced) (requestId : String) : s.DecidedOnce requestId := by
  obtain ⟨owner, howned⟩ := h.owned requestId
  have hlength : (s.race requestId).decisions.length =
      (s.decisions.filter fun e => e.1 = requestId).length := List.length_map _
  refine ⟨?_, fun networkId granted hmem => ?_, fun hended hway => ?_⟩
  · rw [← hlength]
    rcases howned.decisions_eq with hnone | ⟨e, who, -, -, hone⟩
    · simp [hnone]
    · simp [hone]
  · rw [mem_decisions_iff] at hmem
    rcases howned.decisions_eq with hnone | ⟨e, who, hasked, hfirst, hone⟩
    · simp [hnone] at hmem
    · rw [hone, List.mem_singleton] at hmem
      obtain ⟨rfl, rfl⟩ := Prod.mk.inj hmem
      exact ⟨hasked, who, hfirst, rfl⟩
  · have hcalls : ∀ call, (s.race requestId).calls call = none := fun call => by
      cases hlookup : s.results.lookup call with
      | none => simp [race, callsOf, hlookup]
      | some result =>
        have hne : result.requestId ≠ requestId := fun he => hway ⟨call, result, hlookup, he⟩
        exact (callsOf_of_lookup hlookup).trans (if_neg hne)
    obtain ⟨hdecisions, hentry, hflag⟩ := howned.decided_of_ended hended hcalls
    obtain ⟨⟨networkId, granted⟩, hmem⟩ := List.exists_mem_of_ne_nil _ hdecisions
    exact ⟨⟨networkId, granted, (mem_decisions_iff networkId granted).2 hmem⟩, hentry, hflag⟩

/-! ## Results in one piece -/

@[simp] theorem results_cancelAuthorizationTimer :
    (s.cancelAuthorizationTimer requestId).results = s.results := by
  unfold cancelAuthorizationTimer setFlag
  split_ifs <;> rfl

theorem results_requestAndWaitForAuthorization (peerNetworkId : String) :
    (s.requestAndWaitForAuthorization requestId peerNetworkId).results = s.results := by
  unfold requestAndWaitForAuthorization
  split_ifs <;> rfl

theorem results_timerGoesOn : (s.timerGoesOn requestId).results = s.results := by
  unfold timerGoesOn
  split
  next => rfl
  next => exact results_cancelAuthorizationTimer
  all_goals rfl

theorem resultGoesOn_of_none {call : ℕ} (h : s.results.lookup call = none) :
    s.resultGoesOn call = s := by
  unfold resultGoesOn
  rw [h]

/-- A result that goes on leaves the others alone, and has ended once it had taken the request. -/
theorem lookup_resultGoesOn_ne {call c : ℕ} (h : c ≠ call) :
    (s.resultGoesOn call).results.lookup c = s.results.lookup c := by
  unfold resultGoesOn
  split
  next => rfl
  next =>
    dsimp only
    split_ifs
    · exact Table.lookup_remove_ne _ h
    · exact Table.lookup_set_ne _ h _
  next => exact Table.lookup_remove_ne _ h

theorem lookup_resultGoesOn_self {call : ℕ} {result : AuthResult}
    (h : s.results.lookup call = some result) :
    (s.resultGoesOn call).results.lookup call = none ∨
      ∃ networkId, result.networkId = none ∧
        (s.resultGoesOn call).results.lookup call =
          some { result with networkId := some networkId } := by
  obtain ⟨requestId, granted, networkId⟩ := result
  unfold resultGoesOn
  rw [h]
  cases networkId with
  | none =>
    dsimp only
    split_ifs
    · exact Or.inl (Table.lookup_remove_self _ _)
    · exact Or.inr ⟨_, rfl, Table.lookup_set_self _ _ _⟩
  | some networkId => exact Or.inl (Table.lookup_remove_self _ _)

theorem lookup_resultGoesOn_twice (s : AuthRequests) (call : ℕ) :
    ((s.resultGoesOn call).resultGoesOn call).results.lookup call = none := by
  cases h : s.results.lookup call with
  | none => rw [resultGoesOn_of_none h, resultGoesOn_of_none h, h]
  | some result =>
    rcases lookup_resultGoesOn_self h with hnone | ⟨networkId, -, hsome⟩
    · rw [resultGoesOn_of_none hnone, hnone]
    · rcases lookup_resultGoesOn_self hsome with hnone | ⟨_, habsurd, -⟩
      · exact hnone
      · exact absurd habsurd (by simp)

theorem lookup_inOnePiece (h : ∀ call, s.results.lookup call = none) (l : Step) (call : ℕ) :
    ((inOnePiece l).foldl step s).results.lookup call = none := by
  cases l with
  | requestAndWaitForAuthorization requestId peerNetworkId =>
    exact (congrArg (AList.lookup call)
      (results_requestAndWaitForAuthorization peerNetworkId)).trans (h call)
  | timerGoesOn requestId => exact (congrArg (AList.lookup call) results_timerGoesOn).trans (h call)
  | processAuthorizationResult call' requestId granted =>
    simp only [inOnePiece, List.foldl_cons, List.foldl_nil, step, if_pos (h call')]
    by_cases hc : call = call'
    · rw [hc]
      exact lookup_resultGoesOn_twice _ call'
    · rw [lookup_resultGoesOn_ne hc, lookup_resultGoesOn_ne hc]
      rw [setResult, Table.lookup_set_ne _ hc, results_cancelAuthorizationTimer]
      exact h call
  | resultGoesOn call' => exact h call
  | others manager => exact h call

/-! ## The decision -/

end

/-- The timer ends after a result has cancelled it and before that has taken the request. -/
def cancelledInTime : List Step :=
  [.others { listener_ := true, pkgName_ := "daudio" },
    .requestAndWaitForAuthorization "req" "phone", .timerGoesOn "req", .timerGoesOn "req",
    .processAuthorizationResult 0 "req" true, .timerGoesOn "req"]

end AuthRequests

end DHFwk
