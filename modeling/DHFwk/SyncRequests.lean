import DHFwk.DeviceLife
import DHFwk.Runs

/-!
# Requests for the descriptors of a device

A caller that wants the hardware of a remote device and finds no record of it waits in
`syncDeviceInfoMap_`. The first caller for a networkId sends a request and posts a timeout;
the ones after it join its entry; the answer or the timeout tells all of them and takes the
entry out. A device that asks to be synchronised has an entry too, which nobody waits in at
first and no timeout is posted for.

Every callback is invoked at most once, and none is forgotten without being invoked or
waiting. `Answered` says further that it is invoked with the step it was registered with, and
that a request or a timeout is outstanding for it while it waits. A caller that joins an entry
takes over its step and its timeout : runs in which these suit it (`Joining`) are answered
(`syncRequests_answered`).
-/

set_option linter.unusedSectionVars false

namespace DHFwk

open Runs

abbrev ERR_DH_FWK_GETDISTRIBUTEDHARDWARE_TIMEOUT : Int := -10811

/-- `EnableStep`. -/
inductive EnableStep
  | ENABLE_SOURCE | DISABLE_SOURCE | ENABLE_SINK | DISABLE_SINK
  deriving DecidableEq, Repr

/-- A callback, numbered, with what it was registered for. -/
structure SyncCallback where
  id : ℕ
  networkId : String
  enableStep : EnableStep
  deriving DecidableEq, Repr

/-- `IGetDhDescriptorsCallback` : what a callback is told. -/
inductive SyncResult
  | onSuccess (networkId : String) (descriptors : List DHDescriptor) (enableStep : EnableStep)
  | onError (networkId : String) (error : Int)
  deriving DecidableEq, Repr

/-- A callback that was invoked. -/
structure SyncReply where
  callback : SyncCallback
  result : SyncResult
  deriving DecidableEq, Repr

/-- An entry of `syncDeviceInfoMap_`. -/
structure SyncEntry where
  enableStep : EnableStep
  callbacks : List SyncCallback
  deriving DecidableEq, Repr

instance : Inhabited SyncEntry := ⟨⟨.ENABLE_SOURCE, []⟩⟩

/-- The entries, the callbacks invoked so far, and what is outstanding : the requests that are
not answered yet, and the timeouts posted for a networkId. -/
structure SyncRequests where
  nextId : ℕ := 0
  syncDeviceInfoMap_ : Table String SyncEntry := ∅
  replies : List SyncReply := []
  requests : List String := []
  timeouts : List String := []

/-- One step. A caller registers; a device asks to be synchronised and the event for it is
sent; an answer arrives; a request is lost; a timeout runs, which `RemoveTask` may have come
too late for. -/
inductive SyncStep
  | syncRemoteDeviceInfoBySoftbus (realNetworkId : String) (enableStep : EnableStep)
      (isNull eventHandler : Bool)
  | registerSyncDataRequest (networkId : String)
  | sendEvent (networkId : String)
  | onGetDescriptors (realNetworkId : String) (descriptors : List DHDescriptor)
      (eventHandler : Bool)
  | loseRequest (networkId : String)
  | handleSyncDataTimeout (realNetworkId : String) (isLate : Bool)
  deriving DecidableEq, Repr

namespace SyncRequests

/-- `SyncRemoteDeviceInfoBySoftbus`. -/
def syncRemoteDeviceInfoBySoftbus (s : SyncRequests) (realNetworkId : String)
    (enableStep : EnableStep) (isNull eventHandler : Bool) : SyncRequests :=
  if isNull then s
  else
    let callback : SyncCallback := ⟨s.nextId, realNetworkId, enableStep⟩
    match s.syncDeviceInfoMap_.lookup realNetworkId with
    | some e =>
      let e' : SyncEntry := { e with callbacks := e.callbacks ++ [callback] }
      { s with
        nextId := s.nextId + 1
        syncDeviceInfoMap_ := s.syncDeviceInfoMap_.set realNetworkId e' }
    | none =>
      let map := s.syncDeviceInfoMap_.set realNetworkId ⟨enableStep, [callback]⟩
      if ¬eventHandler then
        let reply : SyncReply := ⟨callback, .onError realNetworkId ERR_DH_FWK_POINTER_IS_NULL⟩
        { s with
          nextId := s.nextId + 1
          syncDeviceInfoMap_ := map.remove realNetworkId
          replies := s.replies ++ [reply] }
      else
        { s with
          nextId := s.nextId + 1
          syncDeviceInfoMap_ := map
          requests := realNetworkId :: s.requests
          timeouts := realNetworkId :: s.timeouts }

/-- `RegisterSyncDataRequest`. -/
def registerSyncDataRequest (s : SyncRequests) (networkId : String) : SyncRequests :=
  if ¬isIdLengthValid networkId then s
  else if (s.syncDeviceInfoMap_.lookup networkId).isSome then s
  else { s with syncDeviceInfoMap_ := s.syncDeviceInfoMap_.set networkId ⟨.ENABLE_SOURCE, []⟩ }

/-- Invoke every callback of an entry and erase it. -/
def reply (s : SyncRequests) (networkId : String) (e : SyncEntry) (result : SyncResult) :
    SyncRequests :=
  { s with
    syncDeviceInfoMap_ := s.syncDeviceInfoMap_.remove networkId
    replies := s.replies ++ e.callbacks.map fun callback => ⟨callback, result⟩ }

/-- `OnGetDescriptors`. -/
def onGetDescriptors (s : SyncRequests) (realNetworkId : String)
    (descriptors : List DHDescriptor) (eventHandler : Bool) : SyncRequests :=
  let s := { s with requests := s.requests.erase realNetworkId }
  if descriptors = [] then s
  else
    match s.syncDeviceInfoMap_.lookup realNetworkId with
    | none => s
    | some e =>
      let s := s.reply realNetworkId e (.onSuccess realNetworkId descriptors e.enableStep)
      if eventHandler then { s with timeouts := s.timeouts.filter (· ≠ realNetworkId) } else s

/-- `HandleSyncDataTimeout`. -/
def handleSyncDataTimeout (s : SyncRequests) (realNetworkId : String) : SyncRequests :=
  match s.syncDeviceInfoMap_.lookup realNetworkId with
  | none => s
  | some e =>
    s.reply realNetworkId e (.onError realNetworkId ERR_DH_FWK_GETDISTRIBUTEDHARDWARE_TIMEOUT)

def step (s : SyncRequests) : SyncStep → SyncRequests
  | .syncRemoteDeviceInfoBySoftbus realNetworkId enableStep isNull eventHandler =>
    s.syncRemoteDeviceInfoBySoftbus realNetworkId enableStep isNull eventHandler
  | .registerSyncDataRequest networkId => s.registerSyncDataRequest networkId
  | .sendEvent networkId => { s with requests := networkId :: s.requests }
  | .onGetDescriptors realNetworkId descriptors eventHandler =>
    s.onGetDescriptors realNetworkId descriptors eventHandler
  | .loseRequest networkId => { s with requests := s.requests.erase networkId }
  | .handleSyncDataTimeout realNetworkId isLate =>
    if isLate then s.handleSyncDataTimeout realNetworkId
    else if realNetworkId ∈ s.timeouts then
      ({ s with timeouts := s.timeouts.erase realNetworkId } :
        SyncRequests).handleSyncDataTimeout realNetworkId
    else s

/-- How many times a callback waits in the map. -/
def waiting (s : SyncRequests) (id : ℕ) : ℤ :=
  s.syncDeviceInfoMap_.sum fun _ e => ((e.callbacks.map SyncCallback.id).count id : ℤ)

/-- How many times a callback was invoked. -/
def invoked (s : SyncRequests) (id : ℕ) : ℕ :=
  (s.replies.map fun r => r.callback.id).count id

/-- Every callback is invoked at most once and waits as long as it is not. It is invoked with
the step it was registered with. A request or a timeout is outstanding while one waits. -/
structure Answered (s : SyncRequests) : Prop where
  once : ∀ id < s.nextId, s.invoked id = 1 ∧ s.waiting id = 0 ∨ s.invoked id = 0 ∧ s.waiting id = 1
  enableStep : ∀ r ∈ s.replies, ∀ networkId descriptors enableStep,
    r.result = .onSuccess networkId descriptors enableStep →
      networkId = r.callback.networkId ∧ enableStep = r.callback.enableStep
  covered : ∀ networkId e, s.syncDeviceInfoMap_.lookup networkId = some e → e.callbacks ≠ [] →
    networkId ∈ s.requests ∨ networkId ∈ s.timeouts

/-- A caller that joins an entry asks for the step of the entry and finds a timeout posted for
it. -/
def Joining (s : SyncRequests) : SyncStep → Prop
  | .syncRemoteDeviceInfoBySoftbus realNetworkId enableStep false _ =>
    match s.syncDeviceInfoMap_.lookup realNetworkId with
    | some e => e.enableStep = enableStep ∧ realNetworkId ∈ s.timeouts
    | none => True
  | _ => True

variable {s : SyncRequests} {networkId : String} {e : SyncEntry} {id : ℕ}

/-! ## Every callback is counted -/

/-- Every callback waits or was invoked, once in all. -/
def Counted (s : SyncRequests) : Prop :=
  ∀ id, s.waiting id + (s.invoked id : ℤ) = if id < s.nextId then 1 else 0

theorem waiting_nonneg (s : SyncRequests) (id : ℕ) : 0 ≤ s.waiting id :=
  Table.sum_nonneg _ fun _ => Int.natCast_nonneg _

/-- An entry that is written counts in the place of the old one. -/
theorem waiting_set (map : Table String SyncEntry) (networkId : String) (e : SyncEntry) (id : ℕ) :
    ((map.set networkId e).sum fun _ e => ((e.callbacks.map SyncCallback.id).count id : ℤ)) =
      (map.sum fun _ e => ((e.callbacks.map SyncCallback.id).count id : ℤ)) -
        (((map.get networkId).callbacks.map SyncCallback.id).count id : ℤ) +
        ((e.callbacks.map SyncCallback.id).count id : ℤ) :=
  Table.sum_set (fun _ => rfl) ..

/-- The callbacks of an entry that is erased wait no more. -/
theorem waiting_remove (map : Table String SyncEntry) (networkId : String) (id : ℕ) :
    ((map.remove networkId).sum fun _ e => ((e.callbacks.map SyncCallback.id).count id : ℤ)) =
      (map.sum fun _ e => ((e.callbacks.map SyncCallback.id).count id : ℤ)) -
        (((map.get networkId).callbacks.map SyncCallback.id).count id : ℤ) :=
  Table.sum_remove (fun _ => rfl) ..

theorem Counted.once (h : s.Counted) (hid : id < s.nextId) :
    s.invoked id = 1 ∧ s.waiting id = 0 ∨ s.invoked id = 0 ∧ s.waiting id = 1 := by
  have hsum := h id
  rw [if_pos hid] at hsum
  have := s.waiting_nonneg id
  omega

/-- A new callback that starts to wait, or is invoked at once. -/
theorem Counted.register (h : s.Counted) {t : SyncRequests} (hnext : t.nextId = s.nextId + 1)
    (ht : ∀ id, t.waiting id + (t.invoked id : ℤ) =
      s.waiting id + s.invoked id + if id = s.nextId then 1 else 0) : t.Counted := by
  intro id
  rw [ht id, h id, hnext]
  split_ifs <;> omega

theorem Counted.syncRemoteDeviceInfoBySoftbus (h : s.Counted) (enableStep : EnableStep)
    (isNull eventHandler : Bool) : (s.syncRemoteDeviceInfoBySoftbus networkId enableStep isNull
      eventHandler).Counted := by
  have hnew : ∀ id, ((([⟨s.nextId, networkId, enableStep⟩] : List SyncCallback).map
      SyncCallback.id).count id : ℤ) = if id = s.nextId then 1 else 0 := fun id => by
    by_cases hid : id = s.nextId
    · simp [hid]
    · simp [hid, Ne.symm hid]
  unfold SyncRequests.syncRemoteDeviceInfoBySoftbus
  cases isNull with
  | true => exact h
  | false =>
    cases he : s.syncDeviceInfoMap_.lookup networkId with
    | some e =>
      refine h.register rfl fun id => ?_
      have := hnew id
      simp only [Bool.false_eq_true, if_false, waiting, invoked, waiting_set,
        Table.get_of_lookup he, List.map_append, List.count_append, Nat.cast_add]
      omega
    | none =>
      have hnone : ∀ id, ((((s.syncDeviceInfoMap_.get networkId).callbacks).map
          SyncCallback.id).count id : ℤ) = 0 := fun id => by
        rw [Table.get_of_lookup_none he]
        rfl
      cases eventHandler with
      | false =>
        refine h.register rfl fun id => ?_
        have := hnew id
        have := hnone id
        simp only [Bool.false_eq_true, not_false_eq_true, if_true, if_false, waiting, invoked,
          waiting_set, waiting_remove, Table.get_set_self, List.map_append, List.count_append,
          Nat.cast_add]
        simp only [List.map_cons, List.map_nil] at *
        omega
      | true =>
        refine h.register rfl fun id => ?_
        have := hnew id
        have := hnone id
        simp only [Bool.false_eq_true, not_true_eq_false, if_false, waiting, invoked, waiting_set]
        omega

/-- An entry without callbacks is counted as nothing. -/
theorem Counted.registerSyncDataRequest (h : s.Counted) :
    (s.registerSyncDataRequest networkId).Counted := by
  unfold SyncRequests.registerSyncDataRequest
  split_ifs with hv hs
  · exact h
  · intro id
    have hnone : s.syncDeviceInfoMap_.lookup networkId = none := by simpa using hs
    have hwaiting : SyncRequests.waiting { s with
        syncDeviceInfoMap_ := s.syncDeviceInfoMap_.set networkId ⟨.ENABLE_SOURCE, []⟩ } id =
          s.waiting id := by
      rw [waiting, waiting_set, Table.get_of_lookup_none hnone]
      exact (add_zero _).trans (sub_zero _)
    rw [hwaiting]
    exact h id
  · exact h

/-- The callbacks of an entry are invoked when it is erased. -/
theorem Counted.reply (h : s.Counted) (he : s.syncDeviceInfoMap_.lookup networkId = some e)
    (result : SyncResult) : (s.reply networkId e result).Counted := by
  intro id
  have hsum := h id
  have hmap : (e.callbacks.map fun callback => (⟨callback, result⟩ : SyncReply)).map
      (fun r => r.callback.id) = e.callbacks.map SyncCallback.id := by
    rw [List.map_map]
    rfl
  simp only [SyncRequests.reply, waiting, invoked, waiting_remove, Table.get_of_lookup he,
    List.map_append, List.count_append, hmap, Nat.cast_add] at hsum ⊢
  omega

theorem Counted.handleSyncDataTimeout (h : s.Counted) :
    (s.handleSyncDataTimeout networkId).Counted := by
  unfold SyncRequests.handleSyncDataTimeout
  cases he : s.syncDeviceInfoMap_.lookup networkId with
  | none => exact h
  | some e => exact h.reply he _

theorem Counted.onGetDescriptors (h : s.Counted) (descriptors : List DHDescriptor)
    (eventHandler : Bool) : (s.onGetDescriptors networkId descriptors eventHandler).Counted := by
  have hs : Counted { s with requests := s.requests.erase networkId } := h
  by_cases hd : descriptors = []
  · simp only [SyncRequests.onGetDescriptors, if_pos hd]
    exact hs
  · cases he : s.syncDeviceInfoMap_.lookup networkId with
    | none =>
      simp only [SyncRequests.onGetDescriptors, if_neg hd, he]
      exact hs
    | some e =>
      have hreply := hs.reply he (.onSuccess networkId descriptors e.enableStep)
      simp only [SyncRequests.onGetDescriptors, if_neg hd, he]
      cases eventHandler <;> exact hreply

theorem Counted.step (h : s.Counted) (l : SyncStep) : (s.step l).Counted := by
  cases l with
  | syncRemoteDeviceInfoBySoftbus => exact h.syncRemoteDeviceInfoBySoftbus _ _ _
  | registerSyncDataRequest => exact h.registerSyncDataRequest
  | sendEvent => exact h
  | onGetDescriptors => exact h.onGetDescriptors _ _
  | loseRequest => exact h
  | handleSyncDataTimeout networkId isLate =>
    simp only [SyncRequests.step]
    split_ifs
    · exact h.handleSyncDataTimeout
    · have hs : Counted { s with timeouts := s.timeouts.erase networkId } := h
      exact hs.handleSyncDataTimeout
    · exact h

/-- A callback that is not null gets the next number. -/
theorem nextId_syncRemoteDeviceInfoBySoftbus (s : SyncRequests) (networkId : String)
    (enableStep : EnableStep) (eventHandler : Bool) :
    (s.syncRemoteDeviceInfoBySoftbus networkId enableStep false eventHandler).nextId =
      s.nextId + 1 := by
  simp only [syncRemoteDeviceInfoBySoftbus, Bool.false_eq_true, if_false]
  split
  · rfl
  · split_ifs <;> rfl

theorem nextId_le_step (s : SyncRequests) (l : SyncStep) : s.nextId ≤ (s.step l).nextId := by
  cases l with
  | syncRemoteDeviceInfoBySoftbus networkId enableStep isNull eventHandler =>
    cases isNull with
    | true => exact le_rfl
    | false =>
      exact (Nat.le_succ _).trans_eq
        (s.nextId_syncRemoteDeviceInfoBySoftbus networkId enableStep eventHandler).symm
  | registerSyncDataRequest networkId =>
    simp only [step, registerSyncDataRequest]
    split_ifs <;> exact le_rfl
  | sendEvent => exact le_rfl
  | onGetDescriptors networkId descriptors eventHandler =>
    simp only [step, onGetDescriptors]
    split_ifs
    · exact le_rfl
    · split <;> exact le_rfl
    · split <;> exact le_rfl
  | loseRequest => exact le_rfl
  | handleSyncDataTimeout networkId isLate =>
    have hnext : ∀ s : SyncRequests, (s.handleSyncDataTimeout networkId).nextId = s.nextId := by
      intro s
      unfold handleSyncDataTimeout
      split <;> rfl
    simp only [step]
    split_ifs
    · exact (hnext s).ge
    · exact (hnext { s with timeouts := s.timeouts.erase networkId }).ge
    · exact le_rfl

/-! ## Every callback is told what it asked for -/

/-- The callbacks of an entry asked for its networkId and its step, and a timeout is posted
for them. Those that were told a result were told it for what they asked. -/
structure Served (s : SyncRequests) : Prop where
  asked : ∀ networkId e, s.syncDeviceInfoMap_.lookup networkId = some e →
    ∀ c ∈ e.callbacks, c.networkId = networkId ∧ c.enableStep = e.enableStep
  posted : ∀ networkId e, s.syncDeviceInfoMap_.lookup networkId = some e → e.callbacks ≠ [] →
    networkId ∈ s.timeouts
  told : ∀ r ∈ s.replies, ∀ networkId descriptors enableStep,
    r.result = .onSuccess networkId descriptors enableStep →
      networkId = r.callback.networkId ∧ enableStep = r.callback.enableStep

/-- Writing an entry whose callbacks asked for it, with a timeout posted. -/
theorem Served.write (h : s.Served) (e : SyncEntry) (nextId : ℕ) (requests timeouts : List String)
    (hasked : ∀ c ∈ e.callbacks, c.networkId = networkId ∧ c.enableStep = e.enableStep)
    (hposted : e.callbacks ≠ [] → networkId ∈ timeouts) (hsub : s.timeouts ⊆ timeouts) :
    Served ⟨nextId, s.syncDeviceInfoMap_.set networkId e, s.replies, requests, timeouts⟩ := by
  refine ⟨fun networkId' e' he' => ?_, fun networkId' e' he' hne => ?_, h.told⟩
  · simp only [Table.lookup_set] at he'
    split_ifs at he' with hn
    · obtain rfl := Option.some.inj he'
      rw [hn]
      exact hasked
    · exact h.asked networkId' e' he'
  · simp only [Table.lookup_set] at he'
    split_ifs at he' with hn
    · obtain rfl := Option.some.inj he'
      rw [hn]
      exact hposted hne
    · exact hsub (h.posted networkId' e' he' hne)

/-- Erasing an entry and telling results that were asked for. The timeouts of the other
entries stay. -/
theorem Served.answer (h : s.Served) (replies : List SyncReply) (nextId : ℕ)
    (requests timeouts : List String)
    (htold : ∀ r ∈ replies, ∀ networkId descriptors enableStep,
      r.result = .onSuccess networkId descriptors enableStep →
        networkId = r.callback.networkId ∧ enableStep = r.callback.enableStep)
    (hkeep : ∀ networkId', networkId' ≠ networkId → networkId' ∈ s.timeouts →
      networkId' ∈ timeouts) :
    Served ⟨nextId, s.syncDeviceInfoMap_.remove networkId, s.replies ++ replies, requests,
      timeouts⟩ := by
  refine ⟨fun networkId' e' he' => ?_, fun networkId' e' he' hne => ?_, fun r hr => ?_⟩
  · simp only [Table.lookup_remove] at he'
    split_ifs at he'
    exact h.asked networkId' e' he'
  · simp only [Table.lookup_remove] at he'
    split_ifs at he' with hn
    exact hkeep networkId' hn (h.posted networkId' e' he' hne)
  · obtain hr | hr := List.mem_append.1 hr
    · exact h.told r hr
    · exact htold r hr

theorem Served.syncRemoteDeviceInfoBySoftbus (h : s.Served) (enableStep : EnableStep)
    (isNull eventHandler : Bool) (hok : Joining s (.syncRemoteDeviceInfoBySoftbus networkId
      enableStep isNull eventHandler)) :
    (s.syncRemoteDeviceInfoBySoftbus networkId enableStep isNull eventHandler).Served := by
  unfold SyncRequests.syncRemoteDeviceInfoBySoftbus
  cases isNull with
  | true => exact h
  | false =>
    cases he : s.syncDeviceInfoMap_.lookup networkId with
    | some e =>
      simp only [Joining, he] at hok
      refine h.write _ _ _ _ (fun c hc => ?_) (fun _ => hok.2) fun _ hn => hn
      obtain hc | hc := List.mem_append.1 hc
      · exact h.asked networkId e he c hc
      · obtain rfl := List.mem_singleton.1 hc
        exact ⟨rfl, hok.1.symm⟩
    | none =>
      have hasked : ∀ c ∈ [(⟨s.nextId, networkId, enableStep⟩ : SyncCallback)],
          c.networkId = networkId ∧ c.enableStep = enableStep := by
        intro c hc
        obtain rfl := List.mem_singleton.1 hc
        exact ⟨rfl, rfl⟩
      have hset : Served ⟨s.nextId + 1, s.syncDeviceInfoMap_.set networkId
          ⟨enableStep, [⟨s.nextId, networkId, enableStep⟩]⟩, s.replies, networkId :: s.requests,
          networkId :: s.timeouts⟩ :=
        h.write _ _ _ _ hasked (fun _ => List.mem_cons_self) (List.subset_cons_self _ _)
      cases eventHandler with
      | true => exact hset
      | false =>
        refine hset.answer [⟨_, .onError networkId ERR_DH_FWK_POINTER_IS_NULL⟩] _ _ _ ?_ ?_
        · intro r hr networkId descriptors enableStep hres
          obtain rfl := List.mem_singleton.1 hr
          cases hres
        · intro networkId' hn hmem
          exact (List.mem_cons.1 hmem).resolve_left hn

theorem Served.reply (h : s.Served) (he : s.syncDeviceInfoMap_.lookup networkId = some e)
    (result : SyncResult) (requests timeouts : List String)
    (hresult : ∀ networkId' descriptors enableStep,
      result = .onSuccess networkId' descriptors enableStep →
        networkId' = networkId ∧ enableStep = e.enableStep)
    (hkeep : ∀ networkId', networkId' ≠ networkId → networkId' ∈ s.timeouts →
      networkId' ∈ timeouts) :
    Served { s.reply networkId e result with requests, timeouts } := by
  refine h.answer _ _ _ _ (fun r hr networkId' descriptors enableStep hres => ?_) hkeep
  obtain ⟨c, hc, rfl⟩ := List.mem_map.1 hr
  obtain ⟨rfl, rfl⟩ := hresult networkId' descriptors enableStep hres
  have hasked := h.asked networkId' e he c hc
  exact ⟨hasked.1.symm, hasked.2.symm⟩

/-- A timeout tells no result. -/
theorem Served.handleSyncDataTimeout (h : s.Served) (timeouts : List String)
    (hkeep : ∀ networkId', networkId' ≠ networkId → networkId' ∈ s.timeouts →
      networkId' ∈ timeouts) :
    ({ s with timeouts } : SyncRequests).handleSyncDataTimeout networkId |>.Served := by
  cases he : s.syncDeviceInfoMap_.lookup networkId with
  | none =>
    simp only [SyncRequests.handleSyncDataTimeout, he]
    refine ⟨h.asked, fun networkId' e' he' hne => ?_, h.told⟩
    have hn : networkId' ≠ networkId := by
      rintro rfl
      rw [he] at he'
      cases he'
    exact hkeep networkId' hn (h.posted networkId' e' he' hne)
  | some e =>
    simp only [SyncRequests.handleSyncDataTimeout, he]
    refine h.reply he _ _ timeouts (fun networkId' descriptors enableStep hres => ?_) hkeep
    cases hres

theorem Served.onGetDescriptors (h : s.Served) (descriptors : List DHDescriptor)
    (eventHandler : Bool) : (s.onGetDescriptors networkId descriptors eventHandler).Served := by
  have hs : Served { s with requests := s.requests.erase networkId } :=
    ⟨h.asked, h.posted, h.told⟩
  by_cases hd : descriptors = []
  · simp only [SyncRequests.onGetDescriptors, if_pos hd]
    exact hs
  · cases he : s.syncDeviceInfoMap_.lookup networkId with
    | none =>
      simp only [SyncRequests.onGetDescriptors, if_neg hd, he]
      exact hs
    | some e =>
      have hreply := fun timeouts hkeep => h.reply he (.onSuccess networkId descriptors
        e.enableStep) (s.requests.erase networkId) timeouts (by
          rintro networkId' descriptors' enableStep hres
          obtain ⟨rfl, -, rfl⟩ := SyncResult.onSuccess.inj hres
          exact ⟨rfl, rfl⟩) hkeep
      simp only [SyncRequests.onGetDescriptors, if_neg hd, he]
      cases eventHandler with
      | false => exact hreply s.timeouts fun _ _ hmem => hmem
      | true =>
        refine hreply _ fun networkId' hn hmem => ?_
        exact List.mem_filter.2 ⟨hmem, by simpa using hn⟩

theorem Served.step (h : s.Served) (l : SyncStep) (hok : Joining s l) : (s.step l).Served := by
  cases l with
  | syncRemoteDeviceInfoBySoftbus => exact h.syncRemoteDeviceInfoBySoftbus _ _ _ hok
  | registerSyncDataRequest networkId =>
    simp only [SyncRequests.step, registerSyncDataRequest]
    split_ifs
    · exact h
    · exact h.write ⟨.ENABLE_SOURCE, []⟩ _ _ _ (fun _ hc => by cases hc) (fun hne => absurd rfl hne)
        fun _ hn => hn
    · exact h
  | sendEvent => exact ⟨h.asked, h.posted, h.told⟩
  | onGetDescriptors => exact h.onGetDescriptors _ _
  | loseRequest => exact ⟨h.asked, h.posted, h.told⟩
  | handleSyncDataTimeout networkId isLate =>
    simp only [SyncRequests.step]
    split_ifs
    · exact h.handleSyncDataTimeout s.timeouts fun _ _ hmem => hmem
    · refine h.handleSyncDataTimeout _ fun networkId' hn hmem => ?_
      exact (List.mem_erase_of_ne hn).2 hmem
    · exact h

/-! ## Whole runs -/

theorem counted_init : Counted {} := fun _ => rfl

theorem served_init : Served {} where
  asked _ _ he := by cases he
  posted _ _ he := by cases he
  told _ hr := by cases hr

theorem Answered.of (hc : s.Counted) (hs : s.Served) : s.Answered where
  once _ hid := hc.once hid
  enableStep := hs.told
  covered networkId e he hne := .inr (hs.posted networkId e he hne)

instance Joining.decidable (s : SyncRequests) : ∀ l, Decidable (Joining s l)
  | .syncRemoteDeviceInfoBySoftbus realNetworkId enableStep false _ =>
    match he : s.syncDeviceInfoMap_.lookup realNetworkId with
    | some e =>
      decidable_of_iff (e.enableStep = enableStep ∧ realNetworkId ∈ s.timeouts)
        (by simp only [Joining, he])
    | none => isTrue (by simp only [Joining, he])
  | .syncRemoteDeviceInfoBySoftbus _ _ true _ => inferInstanceAs (Decidable True)
  | .registerSyncDataRequest _ => inferInstanceAs (Decidable True)
  | .sendEvent _ => inferInstanceAs (Decidable True)
  | .onGetDescriptors _ _ _ => inferInstanceAs (Decidable True)
  | .loseRequest _ => inferInstanceAs (Decidable True)
  | .handleSyncDataTimeout _ _ => inferInstanceAs (Decidable True)

end SyncRequests

open SyncRequests

/-- In every run in which a caller that joins an entry suits it, every callback is invoked
once or waits, with the step it was registered with, and something is outstanding for those
that wait. -/
theorem syncRequests_answered (ls : List SyncStep) (h : Along SyncRequests.step Joining {} ls)
    (pre post : List SyncStep) (hp : ls = pre ++ post) :
    (pre.foldl SyncRequests.step {}).Answered := by
  subst hp
  have hstep : ∀ (s : SyncRequests) l, s.Counted ∧ s.Served → Joining s l →
      (s.step l).Counted ∧ (s.step l).Served := fun _ l hs hok => ⟨hs.1.step l, hs.2.step l hok⟩
  obtain ⟨hc, hs⟩ := h.of_append.1.invariant hstep ⟨counted_init, served_init⟩
  exact .of hc hs

/-- Two callers wait for the source of one device and its answer arrives. -/
theorem syncRequests_answered_twice : ((([.syncRemoteDeviceInfoBySoftbus "peer" .ENABLE_SOURCE
      false true, .syncRemoteDeviceInfoBySoftbus "peer" .ENABLE_SOURCE false true,
      .onGetDescriptors "peer" [⟨"1", DHType.CAMERA, ""⟩] true] : List SyncStep)).foldl
        SyncRequests.step {}).Answered :=
  syncRequests_answered _ (by decide) _ [] (List.append_nil _).symm

/-- A caller that wants to disable a source joins the entry of one that enables it and is told
to enable. A caller that joins the entry of a device that asked to be synchronised is left
without a timeout; the answer to that event is empty. -/
theorem syncRequests_unanswered :
    ¬((([.syncRemoteDeviceInfoBySoftbus "peer" .ENABLE_SOURCE false true,
        .syncRemoteDeviceInfoBySoftbus "peer" .DISABLE_SOURCE false true,
        .onGetDescriptors "peer" [⟨"1", DHType.CAMERA, ""⟩] true] : List SyncStep)).foldl
          SyncRequests.step {}).Answered ∧
      ¬((([.registerSyncDataRequest "peer", .sendEvent "peer",
        .syncRemoteDeviceInfoBySoftbus "peer" .ENABLE_SOURCE false true,
        .onGetDescriptors "peer" [] true] : List SyncStep)).foldl
          SyncRequests.step {}).Answered := by
  constructor
  · intro h
    have := h.enableStep ⟨⟨1, "peer", .DISABLE_SOURCE⟩, .onSuccess "peer"
      [⟨"1", DHType.CAMERA, ""⟩] .ENABLE_SOURCE⟩ (by decide) "peer" _ .ENABLE_SOURCE rfl
    exact absurd this.2 (by decide)
  · intro h
    have := h.covered "peer" ⟨.ENABLE_SOURCE, [⟨0, "peer", .ENABLE_SOURCE⟩]⟩ (by decide) (by decide)
    exact absurd this (by decide)

end DHFwk
