import DHFwk.SyncRequests

/-!
# Requests that come before the initialisation

`GetDistributedHardware` queues a request that comes before the framework is initialised, and
the first one that is queued starts a timer. The thread of a timer checks again and again
whether the framework is initialised, and hands on what is queued when it is, or when the
checks have failed too often. A thread that has emptied the queue may run on with the next
timer, so any number of them may tick.

A request that was accepted is queued, in the hands of one thread, or answered; it is in one
of these places only, and while it is queued a thread is there that ticks. A request without
a record of the hardware is handed to `SyncRequests`, where its callback waits or is invoked.

The checks that failed are counted for all requests together. A request that was queued when
`j` had failed is left waiting by `26 - j` ticks before it times out, so only one that finds
at most one failed check is left waiting by 25 of its own (`pendingRequests_served`).
-/

set_option linter.unusedSectionVars false

namespace DHFwk

open Runs

abbrev LOCAL_NETWORKID_ALIAS : String := "local"
abbrev RETRY_CHECK_DHFWK_INIT_MAX_TIMES : ℕ := 25
abbrev ERR_DH_FWK_HARDWARE_MANAGER_GET_DHINFO_FAIL : Int := -10504

/-- `PendingGetDHRequest`, numbered. It remembers how many checks had failed when it was queued,
and how many ticks have left it waiting since. -/
structure PendingGetDHRequest where
  id : ℕ
  networkId : String
  enableStep : EnableStep
  joinedAt : ℕ
  ticks : ℕ := 0
  deriving DecidableEq, Repr

/-- How a request was answered : its callback was invoked, or was registered with a number for
a synchronisation. -/
inductive GetResult
  | invoked (result : SyncResult)
  | registered (id : ℕ)
  deriving DecidableEq, Repr

/-- A request that was answered. -/
structure GetReply where
  request : PendingGetDHRequest
  result : GetResult
  deriving DecidableEq, Repr

/-- Where a timer thread is : before the check of its loop, in its sleep, before a tick, or
handing on the requests of one. -/
inductive TimerPhase
  | looping
  | asleep
  | awake
  | processing (readyRequests timeoutRequests : List PendingGetDHRequest)
  deriving DecidableEq, Repr

instance : Inhabited TimerPhase := ⟨.looping⟩

namespace TimerPhase

/-- The requests in the hands of a thread that timed out. -/
def timeoutRequests : TimerPhase → List PendingGetDHRequest
  | .processing _ timeoutRequests => timeoutRequests
  | _ => []

/-- All requests in the hands of a thread. -/
def requests : TimerPhase → List PendingGetDHRequest
  | .processing readyRequests timeoutRequests => timeoutRequests ++ readyRequests
  | _ => []

end TimerPhase

/-- What is known of the devices when a request is handed on : the ids of this device, those of
a networkId, and the id and type of each record that is stored for a device. -/
structure DhInfos where
  localNetworkId : String
  localDeviceId : String
  localUdidHash : String
  deviceId : String → String
  udidHash : String → String
  metaCapInfos : String → List (String × DHType)
  capaInfos : String → List (String × DHType)

/-- The queue with its count of failed checks, the threads of its timers, and the requests
answered so far. -/
structure PendingRequests where
  nextId : ℕ := 0
  pendingGetDHRequests_ : List PendingGetDHRequest := []
  dhfwkInitTimes_ : ℕ := 0
  cleanupRunning_ : Bool := false
  timers : Table ℕ TimerPhase := ∅
  nextTimer : ℕ := 0
  replies : List GetReply := []
  sync : SyncRequests := {}

/-- One step. A caller asks; a thread checks its loop, wakes up, ticks, or hands on one request;
or something happens in the synchronisation. -/
inductive PendingStep
  | getDistributedHardware (networkId : String) (enableStep : EnableStep)
      (isNull isOnline isInit : Bool) (infos : DhInfos) (eventHandler : Bool)
  | checkRunning (t : ℕ)
  | wake (t : ℕ)
  | cleanupExpiredRequests (t : ℕ) (isInit : Bool)
  | processPendingRequests (t : ℕ) (infos : DhInfos) (eventHandler : Bool)
  | sync (l : SyncStep)

/-- The descriptors of records. -/
def DhInfos.descriptors (infos : List (String × DHType)) : List DHDescriptor :=
  infos.map fun info => ⟨info.1, info.2, ""⟩

/-- `GetDeviceDhInfo` : what it tells the callback. -/
def DhInfos.getDeviceDhInfo (infos : DhInfos) (realNetworkId udidHash deviceId : String)
    (enableStep : EnableStep) : Except Int SyncResult :=
  if !isIdLengthValid realNetworkId || !isIdLengthValid udidHash || !isIdLengthValid deviceId then
    .error ERR_DH_FWK_PARA_INVALID
  else if infos.metaCapInfos udidHash ≠ [] then
    .ok (.onSuccess realNetworkId (descriptors (infos.metaCapInfos udidHash)) enableStep)
  else if infos.capaInfos deviceId ≠ [] then
    .ok (.onSuccess realNetworkId (descriptors (infos.capaInfos deviceId)) enableStep)
  else .error ERR_DH_FWK_HARDWARE_MANAGER_GET_DHINFO_FAIL

/-- A success carries the networkId and the step that were asked for. -/
theorem DhInfos.eq_onSuccess {infos : DhInfos} {realNetworkId udidHash deviceId : String}
    {enableStep : EnableStep} {result : SyncResult}
    (h : infos.getDeviceDhInfo realNetworkId udidHash deviceId enableStep = .ok result) :
    ∃ descriptors, result = .onSuccess realNetworkId descriptors enableStep := by
  unfold getDeviceDhInfo at h
  split_ifs at h
  · exact ⟨_, (Except.ok.inj h).symm⟩
  · exact ⟨_, (Except.ok.inj h).symm⟩

/-- The step of the synchronisation that a request is handed on with, if no record is there. -/
def DhInfos.syncStep (infos : DhInfos) (request : PendingGetDHRequest) (eventHandler : Bool) :
    Option SyncStep :=
  let networkId := request.networkId
  let isLocal := networkId = LOCAL_NETWORKID_ALIAS ∨ networkId = infos.localNetworkId
  let deviceId := if isLocal then infos.localDeviceId else infos.deviceId networkId
  let realNetworkId := if isLocal then infos.localNetworkId else networkId
  let udidHash := if isLocal then infos.localUdidHash else infos.udidHash networkId
  match infos.getDeviceDhInfo realNetworkId udidHash deviceId request.enableStep with
  | .ok _ => none
  | .error _ =>
    some (.syncRemoteDeviceInfoBySoftbus realNetworkId request.enableStep false eventHandler)

namespace PendingRequests

def reply (s : PendingRequests) (request : PendingGetDHRequest) (result : GetResult) :
    PendingRequests :=
  { s with replies := s.replies ++ [⟨request, result⟩] }

/-- `StartGetDeviceDhInfo`. -/
def startGetDeviceDhInfo (s : PendingRequests) (request : PendingGetDHRequest) (infos : DhInfos)
    (eventHandler : Bool) : PendingRequests :=
  let networkId := request.networkId
  let isLocal := networkId = LOCAL_NETWORKID_ALIAS ∨ networkId = infos.localNetworkId
  let deviceId := if isLocal then infos.localDeviceId else infos.deviceId networkId
  let realNetworkId := if isLocal then infos.localNetworkId else networkId
  let udidHash := if isLocal then infos.localUdidHash else infos.udidHash networkId
  match infos.getDeviceDhInfo realNetworkId udidHash deviceId request.enableStep with
  | .ok result => s.reply request (.invoked result)
  | .error _ =>
    { s.reply request (.registered s.sync.nextId) with
      sync := s.sync.step
        (.syncRemoteDeviceInfoBySoftbus realNetworkId request.enableStep false eventHandler) }

/-- `StartCleanupTimer`. -/
def startCleanupTimer (s : PendingRequests) : PendingRequests :=
  { s with
    cleanupRunning_ := true
    timers := s.timers.set s.nextTimer .looping
    nextTimer := s.nextTimer + 1 }

/-- `QueuePendingRequest`. -/
def queuePendingRequest (s : PendingRequests) (request : PendingGetDHRequest) : PendingRequests :=
  let queued := { s with pendingGetDHRequests_ := s.pendingGetDHRequests_ ++ [request] }
  if s.pendingGetDHRequests_ = [] then queued.startCleanupTimer else queued

/-- `GetDistributedHardware`. -/
def getDistributedHardware (s : PendingRequests) (networkId : String) (enableStep : EnableStep)
    (isNull isOnline isInit : Bool) (infos : DhInfos) (eventHandler : Bool) :
    Int × PendingRequests :=
  let request : PendingGetDHRequest := ⟨s.nextId, networkId, enableStep, s.dhfwkInitTimes_, 0⟩
  let accepted := { s with nextId := s.nextId + 1 }
  if !isIdLengthValid networkId || isNull then (ERR_DH_FWK_PARA_INVALID, s)
  else if enableStep = .ENABLE_SOURCE ∧ !isOnline then (ERR_DH_FWK_PARA_INVALID, s)
  else if (enableStep = .ENABLE_SOURCE ∨ enableStep = .ENABLE_SINK) ∧ !isInit then
    (DH_FWK_SUCCESS, accepted.queuePendingRequest request)
  else (DH_FWK_SUCCESS, accepted.startGetDeviceDhInfo request infos eventHandler)

/-- `CleanupExpiredRequests`, up to the requests that it takes out of the queue. -/
def cleanupExpiredRequests (s : PendingRequests) (t : ℕ) (isInit : Bool) : PendingRequests :=
  if s.pendingGetDHRequests_ = [] then
    { s with cleanupRunning_ := false, timers := s.timers.set t .looping }
  else if isInit then
    { s with
      pendingGetDHRequests_ := []
      dhfwkInitTimes_ := 0
      cleanupRunning_ := false
      timers := s.timers.set t (.processing s.pendingGetDHRequests_ []) }
  else if s.dhfwkInitTimes_ > RETRY_CHECK_DHFWK_INIT_MAX_TIMES then
    { s with
      pendingGetDHRequests_ := []
      cleanupRunning_ := false
      timers := s.timers.set t (.processing [] s.pendingGetDHRequests_) }
  else
    { s with
      pendingGetDHRequests_ :=
        s.pendingGetDHRequests_.map fun request => { request with ticks := request.ticks + 1 }
      dhfwkInitTimes_ := s.dhfwkInitTimes_ + 1
      timers := s.timers.set t .looping }

/-- One request of `ProcessPendingRequests`. -/
def processPendingRequests (s : PendingRequests) (t : ℕ)
    (readyRequests timeoutRequests : List PendingGetDHRequest) (infos : DhInfos)
    (eventHandler : Bool) : PendingRequests :=
  match timeoutRequests, readyRequests with
  | request :: timeoutRequests, readyRequests =>
    let result := SyncResult.onError request.networkId ERR_DH_FWK_GETDISTRIBUTEDHARDWARE_TIMEOUT
    { s.reply request (.invoked result) with
      timers := s.timers.set t (.processing readyRequests timeoutRequests) }
  | [], request :: readyRequests =>
    { s.startGetDeviceDhInfo request infos eventHandler with
      timers := s.timers.set t (.processing readyRequests []) }
  | [], [] => { s with timers := s.timers.set t .looping }

/-- A thread goes on if the timer is running, and ends otherwise. -/
def goOn (s : PendingRequests) (t : ℕ) (phase : TimerPhase) : PendingRequests :=
  { s with timers := if s.cleanupRunning_ then s.timers.set t phase else s.timers.remove t }

def step (s : PendingRequests) : PendingStep → PendingRequests
  | .getDistributedHardware networkId enableStep isNull isOnline isInit infos eventHandler =>
    (s.getDistributedHardware networkId enableStep isNull isOnline isInit infos eventHandler).2
  | .checkRunning t => if s.timers.lookup t = some .looping then s.goOn t .asleep else s
  | .wake t => if s.timers.lookup t = some .asleep then s.goOn t .awake else s
  | .cleanupExpiredRequests t isInit =>
    if s.timers.lookup t = some .awake then s.cleanupExpiredRequests t isInit else s
  | .processPendingRequests t infos eventHandler =>
    match s.timers.lookup t with
    | some (.processing readyRequests timeoutRequests) =>
      s.processPendingRequests t readyRequests timeoutRequests infos eventHandler
    | _ => s
  | .sync l => { s with sync := s.sync.step l }

/-- How many of the requests have a number. -/
def numbered (requests : List PendingGetDHRequest) (id : ℕ) : ℤ :=
  (requests.map PendingGetDHRequest.id).count id

/-- How many requests of a number are in the hands of the threads. -/
def handled (timers : Table ℕ TimerPhase) (id : ℕ) : ℤ :=
  timers.sum fun _ phase => numbered phase.requests id

/-- How many requests of a number were answered. -/
def answered (replies : List GetReply) (id : ℕ) : ℤ :=
  numbered (replies.map GetReply.request) id

end PendingRequests

/-- The checks that failed before a request was queued and the ticks that left it waiting are
more than the framework may take. -/
def PendingGetDHRequest.IsDue (request : PendingGetDHRequest) : Prop :=
  RETRY_CHECK_DHFWK_INIT_MAX_TIMES < request.joinedAt + request.ticks

namespace GetReply

/-- The callback was told that the request timed out. -/
def IsTimeout (r : GetReply) : Prop :=
  r.result = .invoked
    (.onError r.request.networkId ERR_DH_FWK_GETDISTRIBUTEDHARDWARE_TIMEOUT)

/-- The number that the callback was registered with. -/
def number (r : GetReply) : Option ℕ :=
  match r.result with
  | .invoked _ => none
  | .registered id => some id

end GetReply

/-- The thread `t` hands on a request. -/
def PendingStep.isProcess (t : ℕ) : PendingStep → Bool
  | .processPendingRequests t' _ _ => t' = t
  | _ => false

namespace PendingRequests

/-- Every request that was accepted is in one place, and where it is something is done with it.
While it is queued a thread ticks, and few ticks leave it waiting; a thread that has it answers
it with as many steps as it has requests; a callback that was registered is invoked once or waits,
under a number of its own. None is told that it timed out before as many ticks have left it
waiting as the framework may take. -/
structure Served (s : PendingRequests) : Prop where
  once : ∀ id < s.nextId,
    let places := (numbered s.pendingGetDHRequests_ id, handled s.timers id, answered s.replies id)
    places = (1, 0, 0) ∨ places = (0, 1, 0) ∨ places = (0, 0, 1)
  ticking : s.pendingGetDHRequests_ ≠ [] →
    s.cleanupRunning_ = true ∧ ∃ t, (s.timers.lookup t).isSome
  ticks : ∀ request ∈ s.pendingGetDHRequests_,
    request.ticks ≤ RETRY_CHECK_DHFWK_INIT_MAX_TIMES + 1
  handed : ∀ t phase, s.timers.lookup t = some phase → ∀ ls : List PendingStep,
    phase.requests.length ≤ ls.countP (PendingStep.isProcess t) →
      phase.requests ⊆ (ls.foldl step s).replies.map GetReply.request
  registered : ∀ r ∈ s.replies, ∀ id, r.number = some id →
    s.sync.invoked id = 1 ∧ s.sync.waiting id = 0 ∨ s.sync.invoked id = 0 ∧ s.sync.waiting id = 1
  apart : (s.replies.filterMap GetReply.number).Nodup
  sync : s.sync.Answered
  pended : ∀ r ∈ s.replies, r.IsTimeout → RETRY_CHECK_DHFWK_INIT_MAX_TIMES ≤ r.request.ticks

/-- The step of the synchronisation that a step makes. -/
def syncStep (s : PendingRequests) : PendingStep → Option SyncStep
  | .getDistributedHardware networkId enableStep isNull isOnline isInit infos eventHandler =>
    if !isIdLengthValid networkId || isNull then none
    else if enableStep = .ENABLE_SOURCE ∧ !isOnline then none
    else if (enableStep = .ENABLE_SOURCE ∨ enableStep = .ENABLE_SINK) ∧ !isInit then none
    else infos.syncStep ⟨s.nextId, networkId, enableStep, s.dhfwkInitTimes_, 0⟩ eventHandler
  | .processPendingRequests t infos eventHandler =>
    match s.timers.lookup t with
    | some (.processing (request :: _) []) => infos.syncStep request eventHandler
    | _ => none
  | .sync l => some l
  | _ => none

/-- A tick that times requests out finds none that was queued when more than one check had
failed. -/
def InTime (s : PendingRequests) : PendingStep → Prop
  | .cleanupExpiredRequests t false =>
    s.timers.lookup t = some .awake → RETRY_CHECK_DHFWK_INIT_MAX_TIMES < s.dhfwkInitTimes_ →
      ∀ request ∈ s.pendingGetDHRequests_, request.joinedAt ≤ 1
  | _ => True

/-- The step times out no request that was queued late, and a callback that it registers suits
the entry that it joins. -/
def Prompt (s : PendingRequests) (l : PendingStep) : Prop :=
  s.InTime l ∧ ∀ l' ∈ s.syncStep l, SyncRequests.Joining s.sync l'

variable {s : PendingRequests} {t : ℕ} {phase phase' : TimerPhase} {id : ℕ}
  {request : PendingGetDHRequest}

/-! ## Every request is counted -/

@[simp] theorem numbered_nil : numbered [] id = 0 :=
  rfl

theorem numbered_append (l l' : List PendingGetDHRequest) :
    numbered (l ++ l') id = numbered l id + numbered l' id := by
  simp [numbered]

theorem numbered_cons (id : ℕ) (request : PendingGetDHRequest) (l : List PendingGetDHRequest) :
    numbered (request :: l) id = numbered [request] id + numbered l id :=
  numbered_append [request] l

theorem numbered_singleton : numbered [request] id = if id = request.id then 1 else 0 := by
  by_cases h : id = request.id
  · simp [numbered, h]
  · simp [numbered, h, Ne.symm h]

theorem numbered_map {f : PendingGetDHRequest → PendingGetDHRequest} (hf : ∀ r, (f r).id = r.id)
    (l : List PendingGetDHRequest) : numbered (l.map f) id = numbered l id := by
  have hmap : (l.map f).map PendingGetDHRequest.id = l.map PendingGetDHRequest.id := by
    rw [List.map_map]
    exact List.map_congr_left fun r _ => hf r
  rw [numbered, hmap, numbered]

theorem numbered_nonneg (l : List PendingGetDHRequest) : 0 ≤ numbered l id :=
  Int.natCast_nonneg _

theorem handled_nonneg (timers : Table ℕ TimerPhase) : 0 ≤ handled timers id :=
  Table.sum_nonneg _ fun _ => numbered_nonneg _

theorem answered_append (replies : List GetReply) (request : PendingGetDHRequest)
    (result : GetResult) :
    answered (replies ++ [⟨request, result⟩]) id = answered replies id + numbered [request] id := by
  rw [answered, List.map_append, numbered_append]
  rfl

/-- A thread that moves holds what it has then in the place of what it had. -/
theorem handled_set {timers : Table ℕ TimerPhase} (h : timers.lookup t = some phase) :
    handled (timers.set t phase') id =
      handled timers id - numbered phase.requests id + numbered phase'.requests id := by
  rw [handled, Table.sum_set (fun _ => rfl), Table.get_of_lookup h]
  rfl

theorem handled_remove {timers : Table ℕ TimerPhase} (h : timers.lookup t = some phase) :
    handled (timers.remove t) id = handled timers id - numbered phase.requests id := by
  rw [handled, Table.sum_remove (fun _ => rfl), Table.get_of_lookup h]
  rfl

/-- A thread that is new has nothing. -/
theorem handled_set_of_none {timers : Table ℕ TimerPhase} (h : timers.lookup t = none) :
    handled (timers.set t .looping) id = handled timers id := by
  rw [handled, Table.sum_set (fun _ => rfl), Table.get_of_lookup_none h]
  exact (add_zero _).trans (sub_zero _)

/-- Every request that was accepted is counted once. -/
def Counted (s : PendingRequests) : Prop :=
  ∀ id, numbered s.pendingGetDHRequests_ id + handled s.timers id + answered s.replies id =
    if id < s.nextId then 1 else 0

/-- A step that moves requests between the places. -/
theorem Counted.move (h : s.Counted) {s' : PendingRequests} (hnext : s'.nextId = s.nextId)
    (hsum : ∀ id, numbered s'.pendingGetDHRequests_ id + handled s'.timers id +
      answered s'.replies id = numbered s.pendingGetDHRequests_ id + handled s.timers id +
        answered s.replies id) : s'.Counted := by
  intro id
  rw [hsum id, h id, hnext]

/-- A step that accepts a request. -/
theorem Counted.accept (h : s.Counted) (request : PendingGetDHRequest) {s' : PendingRequests}
    (hnext : s'.nextId = s.nextId + 1) (hid : request.id = s.nextId)
    (hsum : ∀ id, numbered s'.pendingGetDHRequests_ id + handled s'.timers id +
      answered s'.replies id = numbered s.pendingGetDHRequests_ id + handled s.timers id +
        answered s.replies id + numbered [request] id) : s'.Counted := by
  intro id
  rw [hsum id, h id, hnext, numbered_singleton, hid]
  split_ifs <;> omega

/-- A request that is handed on is answered : with descriptors, or with its registration. -/
theorem startGetDeviceDhInfo_cases (s : PendingRequests) (request : PendingGetDHRequest)
    (infos : DhInfos) (eventHandler : Bool) :
    (∃ realNetworkId descriptors, s.startGetDeviceDhInfo request infos eventHandler =
      s.reply request (.invoked (.onSuccess realNetworkId descriptors request.enableStep))) ∨
    ∃ realNetworkId, s.startGetDeviceDhInfo request infos eventHandler =
      { s.reply request (.registered s.sync.nextId) with
        sync := s.sync.step (.syncRemoteDeviceInfoBySoftbus realNetworkId request.enableStep false
          eventHandler) } := by
  simp only [startGetDeviceDhInfo]
  split
  · obtain ⟨descriptors, rfl⟩ := DhInfos.eq_onSuccess ‹_›
    exact .inl ⟨_, descriptors, rfl⟩
  · exact .inr ⟨_, rfl⟩

/-- All that changes is the answer, and it is no timeout. -/
theorem startGetDeviceDhInfo_eq (s : PendingRequests) (request : PendingGetDHRequest)
    (infos : DhInfos) (eventHandler : Bool) :
    ∃ result sync, s.startGetDeviceDhInfo request infos eventHandler =
      { s.reply request result with sync } ∧ ¬GetReply.IsTimeout ⟨request, result⟩ := by
  obtain ⟨_, _, h⟩ | ⟨_, h⟩ := s.startGetDeviceDhInfo_cases request infos eventHandler
  · exact ⟨_, s.sync, h, fun htimeout => by cases htimeout⟩
  · exact ⟨_, _, h, fun htimeout => by cases htimeout⟩

/-- The request of a caller is refused, queued, or handed on at once. -/
theorem getDistributedHardware_cases (s : PendingRequests) (networkId : String)
    (enableStep : EnableStep) (isNull isOnline isInit : Bool) (infos : DhInfos)
    (eventHandler : Bool) :
    let request : PendingGetDHRequest := ⟨s.nextId, networkId, enableStep, s.dhfwkInitTimes_, 0⟩
    let accepted := { s with nextId := s.nextId + 1 }
    let s' := (s.getDistributedHardware networkId enableStep isNull isOnline isInit infos
      eventHandler).2
    s' = s ∨ s' = accepted.queuePendingRequest request ∨
      s' = accepted.startGetDeviceDhInfo request infos eventHandler := by
  simp only [PendingRequests.getDistributedHardware]
  split_ifs
  · exact .inl rfl
  · exact .inl rfl
  · exact .inr (.inl rfl)
  · exact .inr (.inr rfl)

theorem Counted.queuePendingRequest (h : s.Counted) (hid : request.id = s.nextId)
    (hnew : s.timers.lookup s.nextTimer = none) :
    ({ s with nextId := s.nextId + 1 } : PendingRequests).queuePendingRequest request
      |>.Counted := by
  simp only [PendingRequests.queuePendingRequest]
  split_ifs
  · refine h.accept request rfl hid fun id => ?_
    simp only [startCleanupTimer, numbered_append, handled_set_of_none hnew]
    omega
  · refine h.accept request rfl hid fun id => ?_
    simp only [numbered_append]
    omega

theorem Counted.getDistributedHardware (h : s.Counted) (networkId : String)
    (enableStep : EnableStep) (isNull isOnline isInit : Bool) (infos : DhInfos)
    (eventHandler : Bool) (hnew : s.timers.lookup s.nextTimer = none) :
    (s.getDistributedHardware networkId enableStep isNull isOnline isInit infos
      eventHandler).2.Counted := by
  obtain heq | heq | heq := s.getDistributedHardware_cases networkId enableStep isNull isOnline
    isInit infos eventHandler <;> rw [heq]
  · exact h
  · exact h.queuePendingRequest rfl hnew
  · obtain ⟨result, sync, hreply, -⟩ := startGetDeviceDhInfo_eq { s with nextId := s.nextId + 1 }
      ⟨s.nextId, networkId, enableStep, s.dhfwkInitTimes_, 0⟩ infos eventHandler
    rw [hreply]
    refine h.accept ⟨s.nextId, networkId, enableStep, s.dhfwkInitTimes_, 0⟩ rfl rfl fun id => ?_
    simp only [reply, answered_append]
    omega

theorem Counted.goOn (h : s.Counted) (ht : s.timers.lookup t = some phase)
    (hphase : phase.requests = []) (hphase' : phase'.requests = []) :
    (s.goOn t phase').Counted := by
  refine h.move rfl fun id => ?_
  unfold PendingRequests.goOn
  dsimp only
  split_ifs
  · simp [handled_set ht, hphase, hphase']
  · simp [handled_remove ht, hphase]

theorem Counted.cleanupExpiredRequests (h : s.Counted) (ht : s.timers.lookup t = some .awake)
    (isInit : Bool) : (s.cleanupExpiredRequests t isInit).Counted := by
  unfold PendingRequests.cleanupExpiredRequests
  split_ifs
  all_goals
    refine h.move rfl fun id => ?_
    simp only [handled_set ht, TimerPhase.requests, numbered_nil, List.nil_append, List.append_nil]
  · omega
  · omega
  · omega
  · rw [numbered_map (f := fun r => { r with ticks := r.ticks + 1 }) fun _ => rfl]
    omega

theorem Counted.processPendingRequests (h : s.Counted)
    {readyRequests timeoutRequests : List PendingGetDHRequest}
    (ht : s.timers.lookup t = some (.processing readyRequests timeoutRequests)) (infos : DhInfos)
    (eventHandler : Bool) : (s.processPendingRequests t readyRequests timeoutRequests infos
      eventHandler).Counted := by
  match timeoutRequests, readyRequests with
  | request :: timeoutRequests, readyRequests =>
    refine h.move rfl fun id => ?_
    have hcons := numbered_cons id request (timeoutRequests ++ readyRequests)
    simp only [PendingRequests.processPendingRequests, reply, handled_set ht, answered_append,
      TimerPhase.requests, List.cons_append]
    omega
  | [], request :: readyRequests =>
    obtain ⟨result, sync, heq, -⟩ := s.startGetDeviceDhInfo_eq request infos eventHandler
    simp only [PendingRequests.processPendingRequests, heq]
    refine h.move rfl fun id => ?_
    have hcons := numbered_cons id request readyRequests
    simp only [reply, handled_set ht, answered_append, TimerPhase.requests, List.nil_append]
    omega
  | [], [] =>
    refine h.move rfl fun id => ?_
    simp only [PendingRequests.processPendingRequests, handled_set ht, TimerPhase.requests,
      List.nil_append, numbered_nil]
    omega

/-! ## The threads tick, and what they time out is due -/

/-- The threads were started, and what timed out in their hands is due. -/
def Sound (timers : Table ℕ TimerPhase) (nextTimer : ℕ) : Prop :=
  ∀ t phase, timers.lookup t = some phase →
    t < nextTimer ∧ ∀ request ∈ phase.timeoutRequests, request.IsDue

theorem Sound.set {timers : Table ℕ TimerPhase} {nextTimer : ℕ} (h : Sound timers nextTimer)
    (ht : t < nextTimer) (hdue : ∀ request ∈ phase.timeoutRequests, request.IsDue) :
    Sound (timers.set t phase) nextTimer := by
  intro t' phase' ht'
  rw [Table.lookup_set] at ht'
  split_ifs at ht' with heq
  · obtain rfl := Option.some.inj ht'
    exact ⟨heq ▸ ht, hdue⟩
  · exact h t' phase' ht'

theorem Sound.remove {timers : Table ℕ TimerPhase} {nextTimer : ℕ} (h : Sound timers nextTimer)
    (t : ℕ) : Sound (timers.remove t) nextTimer := by
  intro t' phase' ht'
  rw [Table.lookup_remove] at ht'
  split_ifs at ht'
  exact h t' phase' ht'

/-- While a request is queued a thread is there that ticks. A queued request came in between
the failed checks : those before it and those since are all. -/
structure Ticking (s : PendingRequests) : Prop where
  sound : Sound s.timers s.nextTimer
  running : s.pendingGetDHRequests_ ≠ [] →
    s.cleanupRunning_ = true ∧ ∃ t, (s.timers.lookup t).isSome
  failed : s.dhfwkInitTimes_ ≤ RETRY_CHECK_DHFWK_INIT_MAX_TIMES + 1
  waited : ∀ request ∈ s.pendingGetDHRequests_,
    request.joinedAt + request.ticks = s.dhfwkInitTimes_
  due : ∀ r ∈ s.replies, r.IsTimeout → r.request.IsDue

theorem Ticking.lookup_nextTimer (h : s.Ticking) : s.timers.lookup s.nextTimer = none := by
  cases ht : s.timers.lookup s.nextTimer with
  | none => rfl
  | some phase => exact absurd (h.sound _ _ ht).1 (lt_irrefl _)

/-- A thread moves. -/
theorem Ticking.setTimer (h : s.Ticking) (ht : t < s.nextTimer)
    (hdue : ∀ request ∈ phase.timeoutRequests, request.IsDue) :
    Ticking { s with timers := s.timers.set t phase } where
  sound := h.sound.set ht hdue
  running hne := ⟨(h.running hne).1, t, by simp⟩
  failed := h.failed
  waited := h.waited
  due := h.due

/-- A request is answered. -/
theorem Ticking.reply (h : s.Ticking) (sync : SyncRequests) {result : GetResult}
    (hdue : GetReply.IsTimeout ⟨request, result⟩ → request.IsDue) :
    Ticking { s.reply request result with sync } where
  sound := h.sound
  running := h.running
  failed := h.failed
  waited := h.waited
  due r hr htimeout := by
    obtain hr | hr := List.mem_append.1 hr
    · exact h.due r hr htimeout
    · obtain rfl := List.mem_singleton.1 hr
      exact hdue htimeout

theorem Ticking.startGetDeviceDhInfo (h : s.Ticking) (request : PendingGetDHRequest)
    (infos : DhInfos) (eventHandler : Bool) :
    (s.startGetDeviceDhInfo request infos eventHandler).Ticking := by
  obtain ⟨result, sync, heq, hresult⟩ := s.startGetDeviceDhInfo_eq request infos eventHandler
  rw [heq]
  exact h.reply sync fun htimeout => absurd htimeout hresult

/-- The first request that is queued starts a thread. -/
theorem Ticking.queuePendingRequest (h : s.Ticking)
    (hjoined : request.joinedAt + request.ticks = s.dhfwkInitTimes_) :
    (s.queuePendingRequest request).Ticking := by
  have hwaited : ∀ r ∈ s.pendingGetDHRequests_ ++ [request],
      r.joinedAt + r.ticks = s.dhfwkInitTimes_ := fun r hr => by
    obtain hr | hr := List.mem_append.1 hr
    · exact h.waited r hr
    · rw [List.mem_singleton.1 hr]
      exact hjoined
  simp only [PendingRequests.queuePendingRequest]
  split_ifs with hnil
  · have hlt : Sound s.timers (s.nextTimer + 1) := fun t phase ht =>
      ⟨Nat.lt_succ_of_lt (h.sound t phase ht).1, (h.sound t phase ht).2⟩
    refine ⟨hlt.set (Nat.lt_succ_self _) (List.forall_mem_nil _), fun _ => ⟨rfl, s.nextTimer, ?_⟩,
      h.failed, hwaited, h.due⟩
    simp [startCleanupTimer]
  · exact ⟨h.sound, fun _ => h.running hnil, h.failed, hwaited, h.due⟩

theorem Ticking.getDistributedHardware (h : s.Ticking) (networkId : String)
    (enableStep : EnableStep) (isNull isOnline isInit : Bool) (infos : DhInfos)
    (eventHandler : Bool) : (s.getDistributedHardware networkId enableStep isNull isOnline isInit
      infos eventHandler).2.Ticking := by
  have haccepted : Ticking { s with nextId := s.nextId + 1 } :=
    ⟨h.sound, h.running, h.failed, h.waited, h.due⟩
  obtain heq | heq | heq := s.getDistributedHardware_cases networkId enableStep isNull isOnline
    isInit infos eventHandler <;> rw [heq]
  · exact h
  · exact haccepted.queuePendingRequest rfl
  · exact haccepted.startGetDeviceDhInfo _ infos eventHandler

/-- A thread that finds its timer stopped finds no request. -/
theorem Ticking.goOn (h : s.Ticking) (ht : s.timers.lookup t = some phase)
    (hphase' : phase'.timeoutRequests = []) : (s.goOn t phase').Ticking := by
  have hdue : ∀ r ∈ phase'.timeoutRequests, r.IsDue := by
    rw [hphase']
    exact List.forall_mem_nil _
  unfold PendingRequests.goOn
  split_ifs with hrunning
  · exact h.setTimer (h.sound t phase ht).1 hdue
  · exact ⟨h.sound.remove t, fun hne => absurd (h.running hne).1 hrunning, h.failed, h.waited,
      h.due⟩

/-- Requests time out where the checks have failed too often; they are due then. -/
theorem Ticking.cleanupExpiredRequests (h : s.Ticking) (ht : s.timers.lookup t = some phase)
    (isInit : Bool) : (s.cleanupExpiredRequests t isInit).Ticking := by
  have hlt := (h.sound t phase ht).1
  unfold PendingRequests.cleanupExpiredRequests
  split_ifs with hnil hinit htimes
  · exact ⟨h.sound.set hlt (List.forall_mem_nil _), fun hne => absurd hnil hne, h.failed, h.waited,
      h.due⟩
  · exact ⟨h.sound.set hlt (List.forall_mem_nil _), fun hne => absurd rfl hne, Nat.zero_le _,
      List.forall_mem_nil _, h.due⟩
  · refine ⟨h.sound.set hlt fun r hr => ?_, fun hne => absurd rfl hne, h.failed,
      List.forall_mem_nil _, h.due⟩
    rw [PendingGetDHRequest.IsDue, h.waited r hr]
    exact htimes
  · refine ⟨h.sound.set hlt (List.forall_mem_nil _), fun _ => ⟨(h.running hnil).1, t, by simp⟩,
      Nat.succ_le_succ (not_lt.1 htimes), fun r hr => ?_, h.due⟩
    obtain ⟨r, hmem, rfl⟩ := List.mem_map.1 hr
    exact congrArg Nat.succ (h.waited r hmem)

theorem Ticking.processPendingRequests (h : s.Ticking)
    {readyRequests timeoutRequests : List PendingGetDHRequest}
    (ht : s.timers.lookup t = some (.processing readyRequests timeoutRequests)) (infos : DhInfos)
    (eventHandler : Bool) : (s.processPendingRequests t readyRequests timeoutRequests infos
      eventHandler).Ticking := by
  obtain ⟨hlt, hdue⟩ := h.sound t _ ht
  match timeoutRequests, readyRequests with
  | request :: timeoutRequests, readyRequests =>
    refine (h.reply s.sync fun _ => hdue request List.mem_cons_self).setTimer hlt fun r hr => ?_
    exact hdue r (List.mem_cons_of_mem _ hr)
  | [], request :: readyRequests =>
    obtain ⟨result, sync, heq, hresult⟩ := s.startGetDeviceDhInfo_eq request infos eventHandler
    simp only [PendingRequests.processPendingRequests, heq]
    exact (h.reply sync fun htimeout => absurd htimeout hresult).setTimer hlt
      (List.forall_mem_nil _)
  | [], [] => exact h.setTimer hlt (List.forall_mem_nil _)

/-! ## What is registered for a synchronisation -/

/-- The callbacks that were registered have numbers of their own. -/
structure Registered (s : PendingRequests) : Prop where
  counted : s.sync.Counted
  known : ∀ r ∈ s.replies, ∀ id, r.number = some id → id < s.sync.nextId
  apart : (s.replies.filterMap GetReply.number).Nodup

/-- An answer that registers nothing. -/
theorem Registered.reply (h : s.Registered) (request : PendingGetDHRequest) (result : SyncResult) :
    (s.reply request (.invoked result)).Registered where
  counted := h.counted
  known r hr id hid := by
    obtain hr | hr := List.mem_append.1 hr
    · exact h.known r hr id hid
    · rw [List.mem_singleton.1 hr] at hid
      cases hid
  apart := by
    rw [PendingRequests.reply, List.filterMap_append]
    exact (List.append_nil _).symm ▸ h.apart

/-- The synchronisation goes on; the numbers it has given out stay. -/
theorem Registered.sync (h : s.Registered) (l : SyncStep) :
    Registered { s with sync := s.sync.step l } where
  counted := h.counted.step l
  known r hr id hid := (h.known r hr id hid).trans_le (s.sync.nextId_le_step l)
  apart := h.apart

theorem Registered.startGetDeviceDhInfo (h : s.Registered) (request : PendingGetDHRequest)
    (infos : DhInfos) (eventHandler : Bool) :
    (s.startGetDeviceDhInfo request infos eventHandler).Registered := by
  obtain ⟨_, _, heq⟩ | ⟨realNetworkId, heq⟩ :=
    s.startGetDeviceDhInfo_cases request infos eventHandler
  · rw [heq]
    exact h.reply request _
  · rw [heq]
    set l := SyncStep.syncRemoteDeviceInfoBySoftbus realNetworkId request.enableStep false
      eventHandler
    have hnew : s.sync.nextId < (s.sync.step l).nextId := by
      rw [SyncRequests.step, SyncRequests.nextId_syncRemoteDeviceInfoBySoftbus]
      exact Nat.lt_succ_self _
    refine ⟨h.counted.step l, fun r hr id hid => ?_, ?_⟩
    · obtain hr | hr := List.mem_append.1 hr
      · exact (h.known r hr id hid).trans hnew
      · rw [List.mem_singleton.1 hr] at hid
        exact Option.some.inj hid ▸ hnew
    · rw [PendingRequests.reply, List.filterMap_append]
      refine List.nodup_append.2 ⟨h.apart, List.nodup_singleton _, ?_⟩
      rintro id hid _ hid' rfl
      obtain ⟨r, hr, hnumber⟩ := List.mem_filterMap.1 hid
      rw [List.mem_singleton.1 hid'] at hnumber
      exact absurd (h.known r hr _ hnumber) (lt_irrefl _)

/-! ## The synchronisation -/

theorem sync_startGetDeviceDhInfo (s : PendingRequests) (request : PendingGetDHRequest)
    (infos : DhInfos) (eventHandler : Bool) :
    (s.startGetDeviceDhInfo request infos eventHandler).sync =
      (infos.syncStep request eventHandler).elim s.sync s.sync.step := by
  simp only [startGetDeviceDhInfo, DhInfos.syncStep]
  split <;> rfl

theorem sync_queuePendingRequest (s : PendingRequests) (request : PendingGetDHRequest) :
    (s.queuePendingRequest request).sync = s.sync := by
  simp only [queuePendingRequest]
  split_ifs <;> rfl

theorem sync_cleanupExpiredRequests (s : PendingRequests) (t : ℕ) (isInit : Bool) :
    (s.cleanupExpiredRequests t isInit).sync = s.sync := by
  unfold cleanupExpiredRequests
  split_ifs <;> rfl

/-- The synchronisation makes the step that `syncStep` tells, if any. -/
theorem sync_step (s : PendingRequests) (l : PendingStep) :
    (s.step l).sync = (s.syncStep l).elim s.sync s.sync.step := by
  cases l with
  | getDistributedHardware networkId enableStep isNull isOnline isInit infos eventHandler =>
    simp only [step, getDistributedHardware, syncStep]
    split_ifs
    · rfl
    · rfl
    · exact sync_queuePendingRequest _ _
    · exact sync_startGetDeviceDhInfo _ _ infos eventHandler
  | checkRunning t =>
    simp only [step, syncStep, goOn]
    split_ifs <;> rfl
  | wake t =>
    simp only [step, syncStep, goOn]
    split_ifs <;> rfl
  | cleanupExpiredRequests t isInit =>
    simp only [step, syncStep]
    split_ifs
    · exact s.sync_cleanupExpiredRequests t isInit
    · rfl
  | processPendingRequests t infos eventHandler =>
    simp only [step, syncStep]
    match s.timers.lookup t with
    | some (.processing [] (_ :: _)) => rfl
    | some (.processing (_ :: _) (_ :: _)) => rfl
    | some (.processing (request :: readyRequests) []) =>
      exact s.sync_startGetDeviceDhInfo request infos eventHandler
    | some (.processing [] []) => rfl
    | some .looping => rfl
    | some .asleep => rfl
    | some .awake => rfl
    | none => rfl
  | sync l => rfl

theorem served_sync_step (h : s.sync.Served) {l : PendingStep}
    (hok : ∀ l' ∈ s.syncStep l, SyncRequests.Joining s.sync l') : (s.step l).sync.Served := by
  rw [sync_step]
  cases hl : s.syncStep l with
  | none => exact h
  | some l' => exact h.step l' (hok l' hl)

/-! ## Answers are kept -/

theorem replies_step (s : PendingRequests) (l : PendingStep) :
    s.replies <+: (s.step l).replies := by
  have hstart : ∀ (s : PendingRequests) request infos eventHandler,
      s.replies <+: (s.startGetDeviceDhInfo request infos eventHandler).replies := by
    intro s request infos eventHandler
    obtain ⟨result, sync, heq, -⟩ := s.startGetDeviceDhInfo_eq request infos eventHandler
    rw [heq]
    exact List.prefix_append _ _
  cases l with
  | getDistributedHardware networkId enableStep isNull isOnline isInit infos eventHandler =>
    obtain heq | heq | heq := s.getDistributedHardware_cases networkId enableStep isNull isOnline
      isInit infos eventHandler <;> rw [step, heq]
    · simp only [queuePendingRequest]
      split_ifs <;> exact List.prefix_refl _
    · exact hstart { s with nextId := s.nextId + 1 } _ infos eventHandler
  | checkRunning t =>
    simp only [step, goOn]
    split_ifs <;> exact List.prefix_refl _
  | wake t =>
    simp only [step, goOn]
    split_ifs <;> exact List.prefix_refl _
  | cleanupExpiredRequests t isInit =>
    simp only [step, cleanupExpiredRequests]
    split_ifs <;> exact List.prefix_refl _
  | processPendingRequests t infos eventHandler =>
    simp only [step]
    match s.timers.lookup t with
    | some (.processing readyRequests (request :: timeoutRequests)) => exact List.prefix_append _ _
    | some (.processing (request :: readyRequests) []) => exact hstart s request infos eventHandler
    | some (.processing [] []) => exact List.prefix_refl _
    | some .looping => exact List.prefix_refl _
    | some .asleep => exact List.prefix_refl _
    | some .awake => exact List.prefix_refl _
    | none => exact List.prefix_refl _
  | sync l => exact List.prefix_refl _

theorem replies_foldl (ls : List PendingStep) (s : PendingRequests) :
    s.replies <+: (ls.foldl step s).replies := by
  have hstep : ∀ s' l, s.replies <+: s'.replies → s.replies <+: (step s' l).replies :=
    fun s' l h => h.trans (s'.replies_step l)
  exact foldl_invariant (P := fun s' : PendingRequests => s.replies <+: s'.replies) hstep ls
    (List.prefix_refl _)

/-! ## A thread answers what it has -/

theorem lookup_goOn_of_ne {t' : ℕ} (hne : t ≠ t') (phase' : TimerPhase) :
    (s.goOn t' phase').timers.lookup t = s.timers.lookup t := by
  simp only [goOn]
  split_ifs
  · exact Table.lookup_set_ne _ hne _
  · exact Table.lookup_remove_ne _ hne

theorem lookup_cleanupExpiredRequests_of_ne {t' : ℕ} (hne : t ≠ t') (isInit : Bool) :
    (s.cleanupExpiredRequests t' isInit).timers.lookup t = s.timers.lookup t := by
  unfold cleanupExpiredRequests
  split_ifs
  all_goals exact Table.lookup_set_ne _ hne _

theorem lookup_processPendingRequests_of_ne {t' : ℕ} (hne : t ≠ t')
    (readyRequests timeoutRequests : List PendingGetDHRequest) (infos : DhInfos)
    (eventHandler : Bool) :
    (s.processPendingRequests t' readyRequests timeoutRequests infos eventHandler).timers.lookup t =
      s.timers.lookup t := by
  match timeoutRequests, readyRequests with
  | request :: timeoutRequests, readyRequests => exact Table.lookup_set_ne _ hne _
  | [], request :: readyRequests => exact Table.lookup_set_ne _ hne _
  | [], [] => exact Table.lookup_set_ne _ hne _

/-- A query starts no thread but a new one. -/
theorem lookup_getDistributedHardware (hlt : t < s.nextTimer) (networkId : String)
    (enableStep : EnableStep) (isNull isOnline isInit : Bool) (infos : DhInfos)
    (eventHandler : Bool) :
    (s.getDistributedHardware networkId enableStep isNull isOnline isInit infos
      eventHandler).2.timers.lookup t = s.timers.lookup t := by
  obtain heq | heq | heq := s.getDistributedHardware_cases networkId enableStep isNull isOnline
    isInit infos eventHandler <;> rw [heq]
  · simp only [queuePendingRequest]
    split_ifs
    · exact Table.lookup_set_ne _ hlt.ne _
    · rfl
  · obtain ⟨result, sync, heq, -⟩ := startGetDeviceDhInfo_eq { s with nextId := s.nextId + 1 }
      ⟨s.nextId, networkId, enableStep, s.dhfwkInitTimes_, 0⟩ infos eventHandler
    rw [heq]
    rfl

/-- A thread that has requests hands on the first of them. -/
theorem handed_process (hne : phase.requests ≠ []) (ht : s.timers.lookup t = some phase)
    (infos : DhInfos) (eventHandler : Bool) :
    ∃ request phase', phase.requests = request :: phase'.requests ∧
      (s.step (.processPendingRequests t infos eventHandler)).timers.lookup t = some phase' ∧
        request ∈ (s.step (.processPendingRequests t infos eventHandler)).replies.map
          GetReply.request := by
  simp only [step, ht]
  match phase, hne with
  | .processing readyRequests (request :: timeoutRequests), _ =>
    refine ⟨request, .processing readyRequests timeoutRequests, rfl, ?_, ?_⟩
    · simp [processPendingRequests]
    · simp [processPendingRequests, reply]
  | .processing (request :: readyRequests) [], _ =>
    obtain ⟨result, sync, heq, -⟩ := s.startGetDeviceDhInfo_eq request infos eventHandler
    refine ⟨request, .processing readyRequests [], rfl, ?_, ?_⟩
    · simp [processPendingRequests]
    · simp [processPendingRequests, heq, reply]

/-- A thread that has requests keeps them until it hands on the first of them. -/
theorem handed_step (hsound : Sound s.timers s.nextTimer) (ht : s.timers.lookup t = some phase)
    (hne : phase.requests ≠ []) (l : PendingStep) :
    (l.isProcess t = false ∧ (s.step l).timers.lookup t = some phase) ∨
      ∃ request phase', phase.requests = request :: phase'.requests ∧
        (s.step l).timers.lookup t = some phase' ∧
          request ∈ (s.step l).replies.map GetReply.request := by
  -- A thread without requests is another one.
  have hidle : ∀ {phase'' : TimerPhase}, phase''.requests = [] → ∀ {t'},
      s.timers.lookup t' = some phase'' → t ≠ t' := by
    rintro phase'' hnil t' ht' rfl
    obtain rfl := Option.some.inj (ht.symm.trans ht')
    exact hne hnil
  cases l with
  | getDistributedHardware networkId enableStep isNull isOnline isInit infos eventHandler =>
    exact .inl ⟨rfl, (lookup_getDistributedHardware (hsound t phase ht).1 ..).trans ht⟩
  | checkRunning t' =>
    refine .inl ⟨rfl, ?_⟩
    rw [step]
    split_ifs with ht'
    · exact (lookup_goOn_of_ne (hidle rfl ht') _).trans ht
    · exact ht
  | wake t' =>
    refine .inl ⟨rfl, ?_⟩
    rw [step]
    split_ifs with ht'
    · exact (lookup_goOn_of_ne (hidle rfl ht') _).trans ht
    · exact ht
  | cleanupExpiredRequests t' isInit =>
    refine .inl ⟨rfl, ?_⟩
    rw [step]
    split_ifs with ht'
    · exact (lookup_cleanupExpiredRequests_of_ne (hidle rfl ht') isInit).trans ht
    · exact ht
  | processPendingRequests t' infos eventHandler =>
    by_cases htt : t = t'
    · subst htt
      exact .inr (handed_process hne ht infos eventHandler)
    · refine .inl ⟨by simpa [PendingStep.isProcess] using Ne.symm htt, ?_⟩
      rw [step]
      split
      · exact (lookup_processPendingRequests_of_ne htt ..).trans ht
      · exact ht
  | sync l => exact .inl ⟨rfl, ht⟩

theorem Counted.step (h : s.Counted) (hnew : s.timers.lookup s.nextTimer = none)
    (l : PendingStep) : (s.step l).Counted := by
  cases l with
  | getDistributedHardware => exact h.getDistributedHardware _ _ _ _ _ _ _ hnew
  | checkRunning t =>
    simp only [PendingRequests.step]
    split_ifs with ht
    · exact h.goOn ht rfl rfl
    · exact h
  | wake t =>
    simp only [PendingRequests.step]
    split_ifs with ht
    · exact h.goOn ht rfl rfl
    · exact h
  | cleanupExpiredRequests t isInit =>
    simp only [PendingRequests.step]
    split_ifs with ht
    · exact h.cleanupExpiredRequests ht isInit
    · exact h
  | processPendingRequests t infos eventHandler =>
    simp only [PendingRequests.step]
    split
    · exact h.processPendingRequests ‹_› infos eventHandler
    · exact h
  | sync l => exact h

theorem Ticking.step (h : s.Ticking) (l : PendingStep) : (s.step l).Ticking := by
  cases l with
  | getDistributedHardware => exact h.getDistributedHardware _ _ _ _ _ _ _
  | checkRunning t =>
    simp only [PendingRequests.step]
    split_ifs with ht
    · exact h.goOn ht rfl
    · exact h
  | wake t =>
    simp only [PendingRequests.step]
    split_ifs with ht
    · exact h.goOn ht rfl
    · exact h
  | cleanupExpiredRequests t isInit =>
    simp only [PendingRequests.step]
    split_ifs with ht
    · exact h.cleanupExpiredRequests ht isInit
    · exact h
  | processPendingRequests t infos eventHandler =>
    simp only [PendingRequests.step]
    split
    · exact h.processPendingRequests ‹_› infos eventHandler
    · exact h
  | sync l => exact ⟨h.sound, h.running, h.failed, h.waited, h.due⟩

theorem Registered.step (h : s.Registered) (l : PendingStep) : (s.step l).Registered := by
  have hkeep : ∀ {s' : PendingRequests}, s'.sync = s.sync → s'.replies = s.replies →
      s'.Registered := fun hsync hreplies =>
    ⟨hsync ▸ h.counted, by rw [hsync, hreplies]; exact h.known, hreplies ▸ h.apart⟩
  cases l with
  | getDistributedHardware networkId enableStep isNull isOnline isInit infos eventHandler =>
    obtain heq | heq | heq := s.getDistributedHardware_cases networkId enableStep isNull isOnline
      isInit infos eventHandler <;> rw [PendingRequests.step, heq]
    · exact h
    · simp only [PendingRequests.queuePendingRequest]
      split_ifs <;> exact hkeep rfl rfl
    · have haccepted : Registered { s with nextId := s.nextId + 1 } := hkeep rfl rfl
      exact haccepted.startGetDeviceDhInfo _ infos eventHandler
  | checkRunning t =>
    simp only [PendingRequests.step, goOn]
    split_ifs <;> exact hkeep rfl rfl
  | wake t =>
    simp only [PendingRequests.step, goOn]
    split_ifs <;> exact hkeep rfl rfl
  | cleanupExpiredRequests t isInit =>
    simp only [PendingRequests.step, cleanupExpiredRequests]
    split_ifs <;> exact hkeep rfl rfl
  | processPendingRequests t infos eventHandler =>
    simp only [PendingRequests.step]
    match s.timers.lookup t with
    | some (.processing readyRequests (request :: timeoutRequests)) =>
      obtain ⟨hcounted, hknown, hapart⟩ := h.reply request
        (.onError request.networkId ERR_DH_FWK_GETDISTRIBUTEDHARDWARE_TIMEOUT)
      exact ⟨hcounted, hknown, hapart⟩
    | some (.processing (request :: readyRequests) []) =>
      obtain ⟨hcounted, hknown, hapart⟩ := h.startGetDeviceDhInfo request infos eventHandler
      exact ⟨hcounted, hknown, hapart⟩
    | some (.processing [] []) => exact hkeep rfl rfl
    | some .looping => exact h
    | some .asleep => exact h
    | some .awake => exact h
    | none => exact h
  | sync l => exact h.sync l

/-! ## Whole runs -/

/-- The requests that timed out, in the hands of a thread or answered, were queued when at most
one check had failed. -/
structure Early (s : PendingRequests) : Prop where
  handed : ∀ t phase, s.timers.lookup t = some phase →
    ∀ request ∈ phase.timeoutRequests, request.joinedAt ≤ 1
  replied : ∀ r ∈ s.replies, r.IsTimeout → r.request.joinedAt ≤ 1

/-- A thread moves on and a request may be answered. -/
theorem Early.move (h : s.Early) {s' : PendingRequests} (t : ℕ) (phase' : TimerPhase)
    (hphase : ∀ request ∈ phase'.timeoutRequests, request.joinedAt ≤ 1)
    (htimers : s'.timers = s.timers.set t phase')
    (hreplies : ∀ r ∈ s'.replies, r ∈ s.replies ∨ (r.IsTimeout → r.request.joinedAt ≤ 1)) :
    s'.Early where
  handed t' phase'' ht' := by
    rw [htimers, Table.lookup_set] at ht'
    split_ifs at ht' with heq
    · rw [← Option.some.inj ht']
      exact hphase
    · exact h.handed t' phase'' ht'
  replied r hr htimeout := (hreplies r hr).elim (fun hold => h.replied r hold htimeout) (· htimeout)

/-- A thread ends, and nothing is answered. -/
theorem Early.goOn (h : s.Early) (hphase' : phase'.timeoutRequests = []) :
    (s.goOn t phase').Early := by
  unfold PendingRequests.goOn
  split_ifs
  · exact h.move t phase' (by simp [hphase']) rfl fun r hr => .inl hr
  · refine ⟨fun t' phase'' ht' => ?_, h.replied⟩
    rw [Table.lookup_remove] at ht'
    split_ifs at ht'
    exact h.handed t' phase'' ht'

/-- An answer that is no timeout. -/
theorem Early.mem_reply (s : PendingRequests) {request : PendingGetDHRequest} {result : GetResult}
    (hresult : ¬GetReply.IsTimeout ⟨request, result⟩) :
    ∀ r ∈ (s.reply request result).replies,
      r ∈ s.replies ∨ (r.IsTimeout → r.request.joinedAt ≤ 1) := by
  intro r hr
  obtain hr | hr := List.mem_append.1 hr
  · exact .inl hr
  · rw [List.mem_singleton.1 hr]
    exact .inr fun htimeout => absurd htimeout hresult

theorem Early.step (h : s.Early) (l : PendingStep) (hok : s.InTime l) : (s.step l).Early := by
  cases l with
  | getDistributedHardware networkId enableStep isNull isOnline isInit infos eventHandler =>
    obtain heq | heq | heq := s.getDistributedHardware_cases networkId enableStep isNull isOnline
      isInit infos eventHandler <;> rw [PendingRequests.step, heq]
    · exact h
    · simp only [PendingRequests.queuePendingRequest]
      split_ifs
      · exact h.move s.nextTimer .looping (List.forall_mem_nil _) rfl fun r hr => .inl hr
      · exact ⟨h.handed, h.replied⟩
    · obtain ⟨result, sync, heq, hresult⟩ := startGetDeviceDhInfo_eq
        { s with nextId := s.nextId + 1 } ⟨s.nextId, networkId, enableStep, s.dhfwkInitTimes_, 0⟩
        infos eventHandler
      rw [heq]
      exact ⟨h.handed, fun r hr htimeout => (mem_reply s hresult r hr).elim
        (fun hold => h.replied r hold htimeout) (· htimeout)⟩
  | checkRunning t =>
    simp only [PendingRequests.step]
    split_ifs
    · exact h.goOn rfl
    · exact h
  | wake t =>
    simp only [PendingRequests.step]
    split_ifs
    · exact h.goOn rfl
    · exact h
  | cleanupExpiredRequests t isInit =>
    simp only [PendingRequests.step, cleanupExpiredRequests]
    split_ifs with ht hnil hinit htimes
    · exact h.move t .looping (List.forall_mem_nil _) rfl fun r hr => .inl hr
    · exact h.move t (.processing _ []) (List.forall_mem_nil _) rfl fun r hr => .inl hr
    · obtain rfl := Bool.eq_false_iff.2 hinit
      exact h.move t (.processing [] s.pendingGetDHRequests_) (hok ht htimes) rfl
        fun r hr => .inl hr
    · exact h.move t .looping (List.forall_mem_nil _) rfl fun r hr => .inl hr
    · exact h
  | processPendingRequests t infos eventHandler =>
    simp only [PendingRequests.step]
    match ht : s.timers.lookup t with
    | some (.processing readyRequests (request :: timeoutRequests)) =>
      have hearly := h.handed t _ ht
      refine h.move t (.processing readyRequests timeoutRequests)
        (fun r hr => hearly r (List.mem_cons_of_mem _ hr)) rfl fun r hr => ?_
      obtain hr | hr := List.mem_append.1 hr
      · exact .inl hr
      · rw [List.mem_singleton.1 hr]
        exact .inr fun _ => hearly request List.mem_cons_self
    | some (.processing (request :: readyRequests) []) =>
      obtain ⟨result, sync, heq, hresult⟩ := s.startGetDeviceDhInfo_eq request infos eventHandler
      simp only [PendingRequests.processPendingRequests, heq]
      exact h.move t (.processing readyRequests []) (List.forall_mem_nil _) rfl
        (mem_reply s hresult)
    | some (.processing [] []) =>
      exact h.move t .looping (List.forall_mem_nil _) rfl fun r hr => .inl hr
    | some .looping => exact h
    | some .asleep => exact h
    | some .awake => exact h
    | none => exact h
  | sync l => exact ⟨h.handed, h.replied⟩

/-- What a run keeps whose steps are prompt. -/
structure Kept (s : PendingRequests) : Prop where
  counted : s.Counted
  ticking : s.Ticking
  registered : s.Registered
  sync : s.sync.Served
  early : s.Early

theorem kept_init : Kept {} where
  counted _ := rfl
  ticking := ⟨fun _ _ ht => (by cases ht), fun hne => absurd rfl hne, Nat.zero_le _,
    List.forall_mem_nil _, List.forall_mem_nil _⟩
  registered := ⟨SyncRequests.counted_init, List.forall_mem_nil _, List.nodup_nil⟩
  sync := SyncRequests.served_init
  early := ⟨fun _ _ ht => (by cases ht), List.forall_mem_nil _⟩

theorem Kept.step (h : s.Kept) (l : PendingStep) (hok : s.Prompt l) : (s.step l).Kept where
  counted := h.counted.step h.ticking.lookup_nextTimer l
  ticking := h.ticking.step l
  registered := h.registered.step l
  sync := served_sync_step h.sync hok.2
  early := h.early.step l hok.1

/-- A thread that takes as many turns as it has requests has answered them. -/
theorem Ticking.handed : ∀ (ls : List PendingStep) {s : PendingRequests} {phase : TimerPhase},
    s.Ticking → s.timers.lookup t = some phase →
      phase.requests.length ≤ ls.countP (PendingStep.isProcess t) →
        phase.requests ⊆ (ls.foldl PendingRequests.step s).replies.map GetReply.request
  | [], s, phase, _, _, hlen => by
    rw [List.eq_nil_of_length_eq_zero (Nat.le_zero.1 hlen)]
    exact List.nil_subset _
  | l :: ls, s, phase, h, ht, hlen => by
    by_cases hne : phase.requests = []
    · rw [hne]
      exact List.nil_subset _
    rw [List.countP_cons] at hlen
    obtain ⟨hidle, ht'⟩ | ⟨request, phase', hcons, ht', hmem⟩ := handed_step h.sound ht hne l
    · refine Ticking.handed ls (h.step l) ht' ?_
      simpa [hidle] using hlen
    · rw [hcons] at hlen ⊢
      have hrest := Ticking.handed ls (h.step l) ht' (by
        simp only [List.length_cons] at hlen
        split_ifs at hlen <;> omega)
      refine List.cons_subset.2 ⟨?_, hrest⟩
      exact List.map_subset _ (replies_foldl ls (s.step l)).subset hmem

theorem Kept.served (h : s.Kept) : s.Served where
  once id hid := by
    have hsum := h.counted id
    rw [if_pos hid] at hsum
    have hqueued : 0 ≤ numbered s.pendingGetDHRequests_ id := numbered_nonneg _
    have hhanded : 0 ≤ handled s.timers id := handled_nonneg _
    have hanswered : 0 ≤ answered s.replies id := numbered_nonneg _
    simp only [Prod.mk.injEq]
    omega
  ticking := h.ticking.running
  ticks request hr := by
    have := h.ticking.waited request hr
    have := h.ticking.failed
    omega
  handed _ _ ht ls hlen := h.ticking.handed ls ht hlen
  registered r hr id hid := h.registered.counted.once (h.registered.known r hr id hid)
  apart := h.registered.apart
  sync := .of h.registered.counted h.sync
  pended r hr htimeout := by
    have hdue := h.ticking.due r hr htimeout
    have := h.early.replied r hr htimeout
    unfold PendingGetDHRequest.IsDue at hdue
    omega

instance InTime.decidable (s : PendingRequests) : ∀ l, Decidable (s.InTime l)
  | .cleanupExpiredRequests t false => inferInstanceAs (Decidable (
      s.timers.lookup t = some .awake → RETRY_CHECK_DHFWK_INIT_MAX_TIMES < s.dhfwkInitTimes_ →
        ∀ request ∈ s.pendingGetDHRequests_, request.joinedAt ≤ 1))
  | .cleanupExpiredRequests _ true => isTrue trivial
  | .getDistributedHardware .. => isTrue trivial
  | .checkRunning _ => isTrue trivial
  | .wake _ => isTrue trivial
  | .processPendingRequests .. => isTrue trivial
  | .sync _ => isTrue trivial

instance Prompt.decidable (s : PendingRequests) (l : PendingStep) : Decidable (s.Prompt l) :=
  match hl : s.syncStep l with
  | none => decidable_of_iff (s.InTime l) (by simp [Prompt, hl])
  | some l' => decidable_of_iff (s.InTime l ∧ SyncRequests.Joining s.sync l') (by simp [Prompt, hl])

end PendingRequests

open PendingRequests

/-- In every run whose steps are prompt, every request is queued, in the hands of a thread or
answered, once; what is done with it where it is leads to its answer; and none times out before
as many ticks have left it waiting as the framework may take. -/
theorem pendingRequests_served (ls : List PendingStep) (h : Along PendingRequests.step Prompt {} ls)
    (pre post : List PendingStep) (hp : ls = pre ++ post) :
    (pre.foldl PendingRequests.step {}).Served := by
  subst hp
  exact (h.of_append.1.invariant (fun _ l hs hok => hs.step l hok) kept_init).served

/-- Nothing is known of any device. -/
def DhInfos.unknown : DhInfos where
  localNetworkId := "here"
  localDeviceId := "dev"
  localUdidHash := "hash"
  deviceId _ := "dev"
  udidHash _ := "hash"
  metaCapInfos _ := []
  capaInfos _ := []

/-- A caller asks before the initialisation, and the thread ticks until it is answered. -/
def PendingStep.ask (networkId : String) : PendingStep :=
  .getDistributedHardware networkId .ENABLE_SINK false true false .unknown true

/-- One turn of the thread `t`, that finds the framework not initialised. -/
def PendingStep.turn (t : ℕ) : List PendingStep :=
  [.checkRunning t, .wake t, .cleanupExpiredRequests t false]

/-- A request that the 27th tick times out, and its answer. -/
def PendingStep.timedOut : List PendingStep :=
  PendingStep.ask "peer" :: (List.replicate 27 (PendingStep.turn 0)).flatten ++
    [.processPendingRequests 0 .unknown true]

theorem pendingRequests_served_timeout :
    (PendingStep.timedOut.foldl PendingRequests.step {}).Served :=
  pendingRequests_served _ (by decide +kernel) _ [] (List.append_nil _).symm

/-- The count of failed checks is left as it is when requests time out, so the next request is
timed out by the first tick. -/
theorem pendingRequests_not_served :
    ¬((PendingStep.timedOut ++ ([.processPendingRequests 0 .unknown true, .checkRunning 0,
        .ask "peer", .checkRunning 1, .wake 1, .cleanupExpiredRequests 1 false,
        .processPendingRequests 1 .unknown true] : List PendingStep)).foldl
          PendingRequests.step {}).Served := by
  intro h
  have := h.pended ⟨⟨1, "peer", .ENABLE_SINK, 26, 0⟩, .invoked (.onError "peer"
    ERR_DH_FWK_GETDISTRIBUTEDHARDWARE_TIMEOUT)⟩ (by decide +kernel) rfl
  exact absurd this (by decide)

end DHFwk
