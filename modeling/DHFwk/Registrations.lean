import DHFwk.Basic
import DHFwk.Runs
import DHFwk.Table

/-!
# Registrations over a restart of the service

`DHFWKSAManager` keeps what its process has registered with the service, to register it again
when the service has been restarted (`RestoreListener`). The caches and the tables of the service
are written by two calls each, in one order for listeners and in the other for callbacks, and a
removal writes the cache whatever the service answers.

In a run in which no step of the ways in which they come apart happens (`Sound`), the caches are
what was registered with success and not removed since, the service never holds more, and after a
restoration that succeeded it holds exactly that (`restores_registrations`).
-/

set_option linter.unusedSectionVars false

namespace DHFwk

open Runs

abbrev ERR_DH_FWK_SERVICE_IPC_SEND_REQUEST_FAIL : Int := -10801
abbrev ERR_DH_FWK_PUBLISH_LISTENER_OVER_SIZE : Int := -11101

abbrev MAX_TOPIC_SIZE : ℕ := 128
abbrev MAX_LISTENER_SIZE : ℕ := 256

/-- `DHTopic::TOPIC_MIN` and `DHTopic::TOPIC_MAX`. -/
abbrev TOPIC_MIN : UInt32 := 0
abbrev TOPIC_MAX : UInt32 := 13

/-- `IsDHTopicValid`. -/
def isDHTopicValid (topic : UInt32) : Bool :=
  topic > TOPIC_MIN && topic < TOPIC_MAX

/-- The proxy of the service : none, of an instance that has stopped, or of the one that runs. -/
inductive ServiceProxy
  | null | dead | live
  deriving DecidableEq, Repr

/-- `DHFWKSAManager`, and what the service that runs holds. -/
structure SaManager (L C : Type) where
  running : Bool := false
  dhfwkProxy_ : ServiceProxy := .null
  publisherListenersCache_ : Table UInt32 (List L) := ∅
  avTransControlCenterCbCache_ : Table Int C := ∅
  listeners : List (UInt32 × L) := []
  callbacks : Table Int C := ∅

namespace SaManager

variable {L C : Type} [DecidableEq L] (s : SaManager L C)

/-- `GetDHFWKProxy`. `checked` says that `CheckSystemAbility` answers, if the service runs. -/
def getDHFWKProxy (checked : Bool) : SaManager L C :=
  if s.dhfwkProxy_ = .null ∧ s.running ∧ checked then { s with dhfwkProxy_ := .live } else s

/-- The code of a remote call, where the service would answer `answer`. -/
def remote (answer : Int) : Int :=
  if s.dhfwkProxy_ = .live then answer else ERR_DH_FWK_SERVICE_IPC_SEND_REQUEST_FAIL

/-! ## The remote calls -/

def callRegisterPublisherListener (topic : UInt32) (listener : L) (answer : Int) :
    Int × SaManager L C :=
  let ret := s.remote answer
  (ret, if ret = DH_FWK_SUCCESS then { s with listeners := s.listeners.insert (topic, listener) }
    else s)

def callUnregisterPublisherListener (topic : UInt32) (listener : L) (answer : Int) :
    Int × SaManager L C :=
  let ret := s.remote answer
  (ret, if ret = DH_FWK_SUCCESS then
      { s with listeners := s.listeners.filter (· ≠ (topic, listener)) }
    else s)

def callRegisterCtlCenterCallback (engineId : Int) (callback : C) (answer : Int) :
    Int × SaManager L C :=
  let ret := s.remote answer
  (ret, if ret = DH_FWK_SUCCESS then { s with callbacks := s.callbacks.set engineId callback }
    else s)

def callReleaseAVCenter (engineId answer : Int) : Int × SaManager L C :=
  let ret := s.remote answer
  (ret, if ret = DH_FWK_SUCCESS then { s with callbacks := s.callbacks.remove engineId } else s)

/-! ## The caches -/

/-- The sizes that `AddPublisherListenerToCache` looks at leave room. -/
def HasRoom (topic : UInt32) : Prop :=
  s.publisherListenersCache_.keys.length < MAX_TOPIC_SIZE ∧
    (s.publisherListenersCache_.get topic).length < MAX_LISTENER_SIZE

instance (topic : UInt32) : Decidable (s.HasRoom topic) :=
  inferInstanceAs (Decidable (_ ∧ _))

/-- `AddPublisherListenerToCache`. The second size is read through `operator[]`. -/
def addPublisherListenerToCache (topic : UInt32) (listener : L) : Int × SaManager L C :=
  if s.publisherListenersCache_.keys.length ≥ MAX_TOPIC_SIZE then
    (ERR_DH_FWK_PUBLISH_LISTENER_OVER_SIZE, s)
  else
    let set := s.publisherListenersCache_.get topic
    if set.length ≥ MAX_LISTENER_SIZE then
      (ERR_DH_FWK_PUBLISH_LISTENER_OVER_SIZE,
        { s with publisherListenersCache_ := s.publisherListenersCache_.set topic set })
    else
      let set := set.insert listener
      (DH_FWK_SUCCESS,
        { s with publisherListenersCache_ := s.publisherListenersCache_.set topic set })

/-- `RemovePublisherListenerFromCache`. -/
def removePublisherListenerFromCache (topic : UInt32) (listener : L) : SaManager L C :=
  match s.publisherListenersCache_.lookup topic with
  | none => s
  | some set =>
    let set := set.filter (· ≠ listener)
    { s with publisherListenersCache_ := s.publisherListenersCache_.set topic set }

/-- `AddAVTransControlCenterCbToCache`. -/
def addAVTransControlCenterCbToCache (engineId : Int) (callback : C) : SaManager L C :=
  { s with
    avTransControlCenterCbCache_ := s.avTransControlCenterCbCache_.set engineId callback }

/-- `RemoveAVTransControlCenterCbFromCache`. -/
def removeAVTransControlCenterCbFromCache (engineId : Int) : SaManager L C :=
  { s with avTransControlCenterCbCache_ := s.avTransControlCenterCbCache_.remove engineId }

/-- The listeners that `RestoreListener` registers, in its order. -/
def cachedListeners : List (UInt32 × L) :=
  s.publisherListenersCache_.entries.flatMap fun e => e.2.map fun listener => (e.1, listener)

/-! ## The kit -/

variable (checked : Bool) (answer : Int)

/-- `DistributedHardwareFwkKit::RegisterPublisherListener`. -/
def registerPublisherListener (topic : UInt32) (listener : L) : Int × SaManager L C :=
  if ¬isDHTopicValid topic then (ERR_DH_FWK_PARA_INVALID, s)
  else
    let s := s.getDHFWKProxy checked
    if s.dhfwkProxy_ ≠ .null then
      let (ret, s) := s.callRegisterPublisherListener topic listener answer
      if ret = DH_FWK_SUCCESS then s.addPublisherListenerToCache topic listener else (ret, s)
    else s.addPublisherListenerToCache topic listener

/-- `DistributedHardwareFwkKit::UnregisterPublisherListener`. -/
def unregisterPublisherListener (topic : UInt32) (listener : L) : Int × SaManager L C :=
  if ¬isDHTopicValid topic then (ERR_DH_FWK_PARA_INVALID, s)
  else
    let s := s.getDHFWKProxy checked
    let (ret, s) :=
      if s.dhfwkProxy_ ≠ .null then s.callUnregisterPublisherListener topic listener answer
      else (DH_FWK_SUCCESS, s)
    (ret, s.removePublisherListenerFromCache topic listener)

/-- `DistributedHardwareFwkKit::RegisterCtlCenterCallback`. -/
def registerCtlCenterCallback (engineId : Int) (callback : C) : Int × SaManager L C :=
  let s := s.getDHFWKProxy checked
  if s.dhfwkProxy_ = .null then (ERR_DH_FWK_POINTER_IS_NULL, s)
  else
    (s.addAVTransControlCenterCbToCache engineId callback).callRegisterCtlCenterCallback engineId
      callback answer

/-- `DistributedHardwareFwkKit::ReleaseAVCenter`. -/
def releaseAVCenter (engineId : Int) : Int × SaManager L C :=
  let s := s.getDHFWKProxy checked
  if s.dhfwkProxy_ = .null then (ERR_DH_FWK_POINTER_IS_NULL, s)
  else (s.removeAVTransControlCenterCbFromCache engineId).callReleaseAVCenter engineId answer

variable (listenerAnswer : UInt32 → L → Int) (callbackAnswer : Int → C → Int)

/-- A turn of the inner loop over the listeners. -/
def restoreListenerStep (r : Int × SaManager L C) (e : UInt32 × L) : Int × SaManager L C :=
  let (innerRet, s) := r.2.callRegisterPublisherListener e.1 e.2 (listenerAnswer e.1 e.2)
  -- the code of the call is only looked at if an earlier one failed
  (if r.1 ≠ DH_FWK_SUCCESS then innerRet else r.1, s)

/-- A turn of the loop over the callbacks. -/
def restoreCallbackStep (r : Int × SaManager L C) (e : (_ : Int) × C) : Int × SaManager L C :=
  let (innerRet, s) := r.2.callRegisterCtlCenterCallback e.1 e.2 (callbackAnswer e.1 e.2)
  (if innerRet ≠ DH_FWK_SUCCESS then innerRet else r.1, s)

/-- `RestoreListener`. -/
def restoreListener : Int × SaManager L C :=
  let s := s.getDHFWKProxy checked
  if s.dhfwkProxy_ = .null then (ERR_DH_FWK_POINTER_IS_NULL, s)
  else
    let r := s.cachedListeners.foldl (restoreListenerStep listenerAnswer) (DH_FWK_SUCCESS, s)
    s.avTransControlCenterCbCache_.entries.foldl (restoreCallbackStep callbackAnswer) r

/-- The service accepts every registration that is cached. -/
def AllAccepted : Prop :=
  (∀ e ∈ s.cachedListeners,
    (s.getDHFWKProxy checked).remote (listenerAnswer e.1 e.2) = DH_FWK_SUCCESS) ∧
  ∀ e ∈ s.avTransControlCenterCbCache_.entries,
    (s.getDHFWKProxy checked).remote (callbackAnswer e.1 e.2) = DH_FWK_SUCCESS

end SaManager

/-! ## Runs -/

/-- What happens : a call of the kit, another that only asks for the proxy, the service stops, is
reported as removed, starts, or is reported as added. -/
inductive SaStep (L C : Type)
  | registerPublisherListener (topic : UInt32) (listener : L) (checked : Bool) (answer : Int)
  | unregisterPublisherListener (topic : UInt32) (listener : L) (checked : Bool) (answer : Int)
  | registerCtlCenterCallback (engineId : Int) (callback : C) (checked : Bool) (answer : Int)
  | releaseAVCenter (engineId : Int) (checked : Bool) (answer : Int)
  | getDHFWKProxy (checked : Bool)
  | serviceStop
  | onRemoveSystemAbility
  | serviceStart
  | onAddSystemAbility (checked : Bool) (listenerAnswer : UInt32 → L → Int)
    (callbackAnswer : Int → C → Int)

/-- The manager, and what was registered with success and not removed with success since. -/
structure SaRun (L C : Type) where
  manager : SaManager L C := {}
  registered : List (UInt32 × L) := []
  registeredCallbacks : Table Int C := ∅

namespace SaRun

variable {L C : Type} [DecidableEq L]

/-- One step. -/
def step (r : SaRun L C) : SaStep L C → SaRun L C
  | .registerPublisherListener topic listener checked answer =>
    let (ret, s) := r.manager.registerPublisherListener checked answer topic listener
    { r with
      manager := s
      registered :=
        if ret = DH_FWK_SUCCESS then r.registered.insert (topic, listener) else r.registered }
  | .unregisterPublisherListener topic listener checked answer =>
    let (ret, s) := r.manager.unregisterPublisherListener checked answer topic listener
    { r with
      manager := s
      registered :=
        if ret = DH_FWK_SUCCESS then r.registered.filter (· ≠ (topic, listener))
        else r.registered }
  | .registerCtlCenterCallback engineId callback checked answer =>
    let (ret, s) := r.manager.registerCtlCenterCallback checked answer engineId callback
    { r with
      manager := s
      registeredCallbacks :=
        if ret = DH_FWK_SUCCESS then r.registeredCallbacks.set engineId callback
        else r.registeredCallbacks }
  | .releaseAVCenter engineId checked answer =>
    let (ret, s) := r.manager.releaseAVCenter checked answer engineId
    { r with
      manager := s
      registeredCallbacks :=
        if ret = DH_FWK_SUCCESS then r.registeredCallbacks.remove engineId
        else r.registeredCallbacks }
  | .getDHFWKProxy checked => { r with manager := r.manager.getDHFWKProxy checked }
  | .serviceStop =>
    let proxy := if r.manager.dhfwkProxy_ = .live then .dead else r.manager.dhfwkProxy_
    { r with
      manager := { r.manager with
        running := false, dhfwkProxy_ := proxy, listeners := [], callbacks := ∅ } }
  | .onRemoveSystemAbility => { r with manager := { r.manager with dhfwkProxy_ := .null } }
  | .serviceStart => { r with manager := { r.manager with running := true } }
  | .onAddSystemAbility checked listenerAnswer callbackAnswer =>
    { r with manager := (r.manager.restoreListener checked listenerAnswer callbackAnswer).2 }

/-- A step that cannot take the caches and the tables apart. -/
def Sound (r : SaRun L C) : SaStep L C → Prop
  -- a listener that the service takes finds room in the cache, or is there
  | .registerPublisherListener topic listener checked answer =>
    let s := r.manager.getDHFWKProxy checked
    isDHTopicValid topic → s.dhfwkProxy_ ≠ .null → s.remote answer = DH_FWK_SUCCESS →
      s.HasRoom topic ∨ listener ∈ s.publisherListenersCache_.get topic
  -- the service lets go of a listener that is removed, or there is none
  | .unregisterPublisherListener topic listener checked answer =>
    let s := r.manager.getDHFWKProxy checked
    isDHTopicValid topic →
      if s.dhfwkProxy_ = .null then (topic, listener) ∉ s.listeners
      else s.remote answer ≠ DH_FWK_SUCCESS → listener ∉ s.publisherListenersCache_.get topic
  -- the service takes a callback, or the cache has it already
  | .registerCtlCenterCallback engineId callback checked answer =>
    let s := r.manager.getDHFWKProxy checked
    s.dhfwkProxy_ ≠ .null → s.remote answer ≠ DH_FWK_SUCCESS →
      s.avTransControlCenterCbCache_.lookup engineId = some callback
  -- the service lets go of a callback that is removed, or there is none
  | .releaseAVCenter engineId checked answer =>
    let s := r.manager.getDHFWKProxy checked
    s.dhfwkProxy_ ≠ .null → s.remote answer ≠ DH_FWK_SUCCESS →
      s.avTransControlCenterCbCache_.lookup engineId = none
  -- a restoration meets no refusal of a listener only, and has something to do if it has no proxy
  | .onAddSystemAbility checked listenerAnswer callbackAnswer =>
    let s := r.manager.getDHFWKProxy checked
    if s.dhfwkProxy_ = .null then
      s.cachedListeners ≠ [] ∨ s.avTransControlCenterCbCache_.entries ≠ []
    else
      (∀ e ∈ s.avTransControlCenterCbCache_.entries,
        s.remote (callbackAnswer e.1 e.2) = DH_FWK_SUCCESS) →
      ∀ e ∈ s.cachedListeners, s.remote (listenerAnswer e.1 e.2) = DH_FWK_SUCCESS
  | _ => True

instance [DecidableEq C] (r : SaRun L C) : ∀ l, Decidable (r.Sound l)
  | .registerPublisherListener .. => inferInstanceAs (Decidable (_ → _ → _ → _))
  | .unregisterPublisherListener .. => inferInstanceAs (Decidable (_ → ite _ _ _))
  | .registerCtlCenterCallback .. => inferInstanceAs (Decidable (_ → _ → _))
  | .releaseAVCenter .. => inferInstanceAs (Decidable (_ → _ → _))
  | .onAddSystemAbility .. => inferInstanceAs (Decidable (ite _ _ _))
  | .getDHFWKProxy .. | .serviceStop | .onRemoveSystemAbility | .serviceStart =>
    inferInstanceAs (Decidable True)

/-- What is cached is what is registered, and the service holds no more. -/
structure Kept (r : SaRun L C) : Prop where
  cached : ∀ topic listener, listener ∈ r.manager.publisherListenersCache_.get topic ↔
    (topic, listener) ∈ r.registered
  held : ∀ e ∈ r.manager.listeners, e ∈ r.registered
  cachedCallbacks : ∀ engineId, r.manager.avTransControlCenterCbCache_.lookup engineId =
    r.registeredCallbacks.lookup engineId
  heldCallbacks : ∀ engineId callback, r.manager.callbacks.lookup engineId = some callback →
    r.registeredCallbacks.lookup engineId = some callback

/-- The service holds exactly what is registered. -/
structure Restored (r : SaRun L C) : Prop where
  listeners : ∀ e, e ∈ r.manager.listeners ↔ e ∈ r.registered
  callbacks : ∀ engineId, r.manager.callbacks.lookup engineId =
    r.registeredCallbacks.lookup engineId

end SaRun

/-! ## What the calls write -/

namespace SaManager

variable {L C : Type} [DecidableEq L] {s : SaManager L C} {checked : Bool} {answer : Int}

section Proxy

variable (s : SaManager L C) (checked : Bool)

@[simp] theorem getDHFWKProxy_publisherListenersCache_ :
    (s.getDHFWKProxy checked).publisherListenersCache_ = s.publisherListenersCache_ := by
  unfold getDHFWKProxy
  split_ifs <;> rfl

@[simp] theorem getDHFWKProxy_avTransControlCenterCbCache_ :
    (s.getDHFWKProxy checked).avTransControlCenterCbCache_ = s.avTransControlCenterCbCache_ := by
  unfold getDHFWKProxy
  split_ifs <;> rfl

@[simp] theorem getDHFWKProxy_listeners : (s.getDHFWKProxy checked).listeners = s.listeners := by
  unfold getDHFWKProxy
  split_ifs <;> rfl

@[simp] theorem getDHFWKProxy_callbacks : (s.getDHFWKProxy checked).callbacks = s.callbacks := by
  unfold getDHFWKProxy
  split_ifs <;> rfl

@[simp] theorem getDHFWKProxy_cachedListeners :
    (s.getDHFWKProxy checked).cachedListeners = s.cachedListeners := by
  simp [cachedListeners]

end Proxy

/-- What is cached is what the restoration registers. -/
theorem mem_cachedListeners {e : UInt32 × L} :
    e ∈ s.cachedListeners ↔ e.2 ∈ s.publisherListenersCache_.get e.1 := by
  obtain ⟨topic, listener⟩ := e
  have hentries : ∀ set, (⟨topic, set⟩ : (_ : UInt32) × List L) ∈
      s.publisherListenersCache_.entries ↔ s.publisherListenersCache_.lookup topic = some set :=
    fun set => AList.mem_lookup_iff.symm
  simp only [cachedListeners, List.mem_flatMap, List.mem_map, Prod.mk.injEq]
  constructor
  · rintro ⟨⟨topic', set⟩, he, listener', hl, rfl, rfl⟩
    rwa [Table.get_of_lookup ((hentries set).1 he)]
  · intro hl
    cases hlookup : s.publisherListenersCache_.lookup topic with
    | none =>
      rw [Table.get_of_lookup_none hlookup] at hl
      exact absurd hl List.not_mem_nil
    | some set =>
      rw [Table.get_of_lookup hlookup] at hl
      exact ⟨⟨topic, set⟩, (hentries set).2 hlookup, listener, hl, rfl, rfl⟩

/-- A listener is added to the cache, or there is no room and the cache says the same. -/
theorem addPublisherListenerToCache_cases (s : SaManager L C) (topic : UInt32) (listener : L) :
    ∃ cache, (s.addPublisherListenerToCache topic listener).2 =
        { s with publisherListenersCache_ := cache } ∧
      ((s.addPublisherListenerToCache topic listener).1 = DH_FWK_SUCCESS ∧ s.HasRoom topic ∧
          (∀ topic' listener', listener' ∈ cache.get topic' ↔
            listener' ∈ s.publisherListenersCache_.get topic' ∨
              (topic', listener') = (topic, listener)) ∨
        (s.addPublisherListenerToCache topic listener).1 ≠ DH_FWK_SUCCESS ∧ ¬s.HasRoom topic ∧
          ∀ topic', cache.get topic' = s.publisherListenersCache_.get topic') := by
  unfold addPublisherListenerToCache HasRoom
  dsimp only
  split_ifs with htopics hsize
  · exact ⟨_, rfl, .inr ⟨by simp, by omega, fun _ => rfl⟩⟩
  · refine ⟨_, rfl, .inr ⟨by simp, by omega, fun topic' => ?_⟩⟩
    rw [Table.get_set]
    split_ifs with ht
    · rw [ht]
    · rfl
  · refine ⟨_, rfl, .inl ⟨rfl, by omega, fun topic' listener' => ?_⟩⟩
    rw [Table.get_set]
    by_cases ht : topic' = topic
    · subst ht
      simp [or_comm]
    · simp [ht]

theorem removePublisherListenerFromCache_cases (s : SaManager L C) (topic : UInt32)
    (listener : L) :
    ∃ cache, s.removePublisherListenerFromCache topic listener =
        { s with publisherListenersCache_ := cache } ∧
      ∀ topic' listener', listener' ∈ cache.get topic' ↔
        listener' ∈ s.publisherListenersCache_.get topic' ∧
          (topic', listener') ≠ (topic, listener) := by
  unfold removePublisherListenerFromCache
  cases hlookup : s.publisherListenersCache_.lookup topic with
  | none =>
    refine ⟨_, rfl, fun topic' listener' => ⟨fun h => ⟨h, ?_⟩, fun h => h.1⟩⟩
    rintro ⟨⟩
    rw [Table.get_of_lookup_none hlookup] at h
    exact absurd h List.not_mem_nil
  | some set =>
    refine ⟨_, rfl, fun topic' listener' => ?_⟩
    rw [Table.get_set]
    by_cases ht : topic' = topic
    · subst ht
      simp [Table.get_of_lookup hlookup]
    · simp [ht]

/-! ## What a restoration does -/

/-- The loop over the listeners : it always ends with success, and the service then holds those
that it has taken as well. -/
theorem foldl_restoreListenerStep (listenerAnswer : UInt32 → L → Int) :
    ∀ (es : List (UInt32 × L)) (s : SaManager L C), ∃ listeners,
      es.foldl (restoreListenerStep listenerAnswer) (DH_FWK_SUCCESS, s) =
        (DH_FWK_SUCCESS, { s with listeners := listeners }) ∧
      ∀ e, e ∈ listeners ↔
        e ∈ s.listeners ∨ e ∈ es ∧ s.remote (listenerAnswer e.1 e.2) = DH_FWK_SUCCESS
  | [], s => ⟨s.listeners, rfl, by simp⟩
  | x :: es, s => by
    by_cases hx : s.remote (listenerAnswer x.1 x.2) = DH_FWK_SUCCESS
    · obtain ⟨listeners, hfold, hmem⟩ := foldl_restoreListenerStep listenerAnswer es
        { s with listeners := s.listeners.insert x }
      refine ⟨listeners, ?_, fun e => ?_⟩
      · rw [List.foldl_cons, ← hfold]
        simp [restoreListenerStep, callRegisterPublisherListener, hx]
      · rw [hmem, List.mem_insert_iff, List.mem_cons]
        constructor
        · rintro ((rfl | h) | ⟨h, ha⟩)
          · exact .inr ⟨.inl rfl, hx⟩
          · exact .inl h
          · exact .inr ⟨.inr h, ha⟩
        · rintro (h | ⟨rfl | h, ha⟩)
          · exact .inl (.inr h)
          · exact .inl (.inl rfl)
          · exact .inr ⟨h, ha⟩
    · obtain ⟨listeners, hfold, hmem⟩ := foldl_restoreListenerStep listenerAnswer es s
      refine ⟨listeners, ?_, fun e => ?_⟩
      · rw [List.foldl_cons, ← hfold]
        simp [restoreListenerStep, callRegisterPublisherListener, hx]
      · rw [hmem, List.mem_cons]
        refine or_congr_right ⟨fun h => ⟨.inr h.1, h.2⟩, ?_⟩
        rintro ⟨rfl | h, ha⟩
        · exact absurd ha hx
        · exact ⟨h, ha⟩

/-- The loop over the callbacks : it ends with success exactly if it began so and the service took
all of them. -/
theorem foldl_restoreCallbackStep (callbackAnswer : Int → C → Int) :
    ∀ (es : List ((_ : Int) × C)) (r : Int × SaManager L C), ∃ callbacks,
      (es.foldl (restoreCallbackStep callbackAnswer) r).2 = { r.2 with callbacks := callbacks } ∧
      ((es.foldl (restoreCallbackStep callbackAnswer) r).1 = DH_FWK_SUCCESS ↔
        r.1 = DH_FWK_SUCCESS ∧
          ∀ e ∈ es, r.2.remote (callbackAnswer e.1 e.2) = DH_FWK_SUCCESS) ∧
      (∀ k c, callbacks.lookup k = some c → r.2.callbacks.lookup k = some c ∨ ⟨k, c⟩ ∈ es) ∧
      ((∀ e ∈ es, r.2.remote (callbackAnswer e.1 e.2) = DH_FWK_SUCCESS) →
        ∀ k, (∃ c, r.2.callbacks.lookup k = some c ∨ ⟨k, c⟩ ∈ es) → ∃ c, callbacks.lookup k = some c)
  | [], r => ⟨r.2.callbacks, rfl, by simp, by simp, by simp⟩
  | ⟨k, c⟩ :: es, (ret, s) => by
    by_cases hx : s.remote (callbackAnswer k c) = DH_FWK_SUCCESS
    · obtain ⟨callbacks, hstate, hret, hold, hnew⟩ := foldl_restoreCallbackStep callbackAnswer es
        (ret, { s with callbacks := s.callbacks.set k c })
      have hstep : restoreCallbackStep callbackAnswer (ret, s) ⟨k, c⟩ =
          (ret, { s with callbacks := s.callbacks.set k c }) := by
        simp [restoreCallbackStep, callRegisterCtlCenterCallback, hx]
      simp only [List.foldl_cons, hstep]
      refine ⟨callbacks, hstate, ?_, fun k' c' h => ?_, fun hall k' h => ?_⟩
      · rw [hret, List.forall_mem_cons]
        exact and_congr_right fun _ => (and_iff_right hx).symm
      · obtain h | h := hold k' c' h
        · rw [Table.lookup_set] at h
          split_ifs at h with hk
          · cases h
            cases hk
            exact .inr List.mem_cons_self
          · exact .inl h
        · exact .inr (List.mem_cons_of_mem _ h)
      · refine hnew (fun e he => hall e (List.mem_cons_of_mem _ he)) k' ?_
        simp only [Table.lookup_set]
        obtain ⟨c', h | h⟩ := h
        · by_cases hk : k' = k
          · exact ⟨c, .inl (if_pos hk)⟩
          · exact ⟨c', .inl (by rwa [if_neg hk])⟩
        · obtain h | h := List.mem_cons.1 h
          · cases h
            exact ⟨c, .inl (if_pos rfl)⟩
          · exact ⟨c', .inr h⟩
    · obtain ⟨callbacks, hstate, hret, hold, -⟩ := foldl_restoreCallbackStep callbackAnswer es
        (s.remote (callbackAnswer k c), s)
      have hstep : restoreCallbackStep callbackAnswer (ret, s) ⟨k, c⟩ =
          (s.remote (callbackAnswer k c), s) := by
        simp [restoreCallbackStep, callRegisterCtlCenterCallback, hx]
      simp only [List.foldl_cons, hstep]
      refine ⟨callbacks, hstate, ?_, fun k' c' h => ?_, fun hall => ?_⟩
      · rw [hret]
        exact iff_of_false (fun h => hx h.1) fun h => hx (h.2 _ List.mem_cons_self)
      · exact (hold k' c' h).imp id (List.mem_cons_of_mem _)
      · exact absurd (hall _ List.mem_cons_self) hx

end SaManager

namespace SaRun

variable {L C : Type} [DecidableEq L] {r : SaRun L C} {checked : Bool} {answer : Int}

theorem Kept.getDHFWKProxy (h : r.Kept) (checked : Bool) :
    ({ r with manager := r.manager.getDHFWKProxy checked } : SaRun L C).Kept :=
  ⟨by simpa using h.cached, by simpa using h.held, by simpa using h.cachedCallbacks,
    by simpa using h.heldCallbacks⟩

/-- A listener is added to the cache and, if the answer says so, to what is registered. -/
theorem Kept.addPublisherListenerToCache (h : r.Kept) (topic : UInt32) (listener : L) :
    ({ r with
        manager := (r.manager.addPublisherListenerToCache topic listener).2
        registered :=
          if (r.manager.addPublisherListenerToCache topic listener).1 = DH_FWK_SUCCESS then
            r.registered.insert (topic, listener)
          else r.registered } : SaRun L C).Kept := by
  obtain ⟨cache, hstate, ⟨hret, -, hcache⟩ | ⟨hret, -, hcache⟩⟩ :=
    r.manager.addPublisherListenerToCache_cases topic listener
  · rw [hstate, if_pos hret]
    refine ⟨fun topic' listener' => ?_, fun e he => ?_, h.cachedCallbacks, h.heldCallbacks⟩
    · rw [hcache, h.cached, List.mem_insert_iff, or_comm]
    · exact List.mem_insert_of_mem (h.held e he)
  · rw [hstate, if_neg hret]
    exact ⟨fun topic' listener' => by rw [hcache, h.cached], h.held, h.cachedCallbacks,
      h.heldCallbacks⟩

theorem Kept.registerPublisherListener (h : r.Kept) {topic : UInt32} {listener : L}
    (hl : r.Sound (.registerPublisherListener topic listener checked answer)) :
    (r.step (.registerPublisherListener topic listener checked answer)).Kept := by
  have hproxy := h.getDHFWKProxy checked
  simp only [step, SaManager.registerPublisherListener]
  by_cases hvalid : isDHTopicValid topic = true
  swap
  · simpa [hvalid] using h
  have hl := hl hvalid
  generalize r.manager.getDHFWKProxy checked = s at hproxy hl ⊢
  simp only [hvalid, not_true_eq_false, if_false]
  by_cases hnull : s.dhfwkProxy_ = .null
  · simp only [hnull, ne_eq, not_true_eq_false, if_false]
    exact hproxy.addPublisherListenerToCache topic listener
  by_cases hret : s.remote answer = DH_FWK_SUCCESS
  · have hl := hl hnull hret
    simp only [hnull, ne_eq, not_false_eq_true, if_true, SaManager.callRegisterPublisherListener,
      hret]
    -- the service has the listener : the cache must take it, or have it
    obtain ⟨cache, hstate, ⟨hadd, -, hcache⟩ | ⟨hadd, hroom, hcache⟩⟩ :=
      ({ s with listeners := s.listeners.insert (topic, listener) } :
        SaManager L C).addPublisherListenerToCache_cases topic listener
    · rw [hstate, if_pos hadd]
      refine ⟨fun topic' listener' => ?_, fun e he => ?_, hproxy.cachedCallbacks,
        hproxy.heldCallbacks⟩
      · rw [hcache, hproxy.cached, List.mem_insert_iff, or_comm]
      · rw [List.mem_insert_iff] at he ⊢
        exact he.imp id (hproxy.held e)
    · rw [hstate, if_neg hadd]
      have hmem : (topic, listener) ∈ r.registered :=
        (hproxy.cached topic listener).1 (hl.resolve_left hroom)
      refine ⟨fun topic' listener' => ?_, fun e he => ?_, hproxy.cachedCallbacks,
        hproxy.heldCallbacks⟩
      · rw [hcache, hproxy.cached]
      · rw [List.mem_insert_iff] at he
        obtain rfl | he := he
        · exact hmem
        · exact hproxy.held e he
  · simpa [hnull, SaManager.callRegisterPublisherListener, hret] using hproxy

theorem Kept.unregisterPublisherListener (h : r.Kept) {topic : UInt32} {listener : L}
    (hl : r.Sound (.unregisterPublisherListener topic listener checked answer)) :
    (r.step (.unregisterPublisherListener topic listener checked answer)).Kept := by
  have hproxy := h.getDHFWKProxy checked
  simp only [step, SaManager.unregisterPublisherListener]
  by_cases hvalid : isDHTopicValid topic = true
  swap
  · simpa [hvalid] using h
  have hl := hl hvalid
  generalize r.manager.getDHFWKProxy checked = s at hproxy hl ⊢
  simp only [hvalid, not_true_eq_false, if_false]
  by_cases hnull : s.dhfwkProxy_ = .null
  · rw [if_pos hnull] at hl
    simp only [hnull, ne_eq, not_true_eq_false, if_false, if_true]
    obtain ⟨cache, hstate, hcache⟩ := s.removePublisherListenerFromCache_cases topic listener
    rw [hstate]
    refine ⟨fun topic' listener' => ?_, fun e he => ?_, hproxy.cachedCallbacks,
      hproxy.heldCallbacks⟩
    · rw [hcache, hproxy.cached, List.mem_filter, decide_eq_true_iff]
    · rw [List.mem_filter, decide_eq_true_iff]
      exact ⟨hproxy.held e he, fun heq => hl (heq ▸ he)⟩
  rw [if_neg hnull] at hl
  simp only [hnull, ne_eq, not_false_eq_true, if_true]
  by_cases hret : s.remote answer = DH_FWK_SUCCESS
  · simp only [SaManager.callUnregisterPublisherListener, hret, if_true]
    obtain ⟨cache, hstate, hcache⟩ := ({ s with
      listeners := s.listeners.filter (· ≠ (topic, listener)) } :
        SaManager L C).removePublisherListenerFromCache_cases topic listener
    rw [hstate]
    refine ⟨fun topic' listener' => ?_, fun e he => ?_, hproxy.cachedCallbacks,
      hproxy.heldCallbacks⟩
    · rw [hcache, hproxy.cached, List.mem_filter, decide_eq_true_iff]
    · rw [List.mem_filter] at he ⊢
      exact ⟨hproxy.held e he.1, he.2⟩
  · simp only [SaManager.callUnregisterPublisherListener, hret, if_false]
    obtain ⟨cache, hstate, hcache⟩ := s.removePublisherListenerFromCache_cases topic listener
    rw [hstate]
    refine ⟨fun topic' listener' => ?_, hproxy.held, hproxy.cachedCallbacks,
      hproxy.heldCallbacks⟩
    rw [hcache, ← hproxy.cached]
    refine and_iff_left_of_imp fun hmem heq => ?_
    cases heq
    exact hl hret hmem

theorem Kept.registerCtlCenterCallback (h : r.Kept) {engineId : Int} {callback : C}
    (hl : r.Sound (.registerCtlCenterCallback engineId callback checked answer)) :
    (r.step (.registerCtlCenterCallback engineId callback checked answer)).Kept := by
  have hproxy := h.getDHFWKProxy checked
  change _ ≠ _ → _ ≠ _ → _ = _ at hl
  obtain ⟨s, hs⟩ : ∃ s, r.manager.getDHFWKProxy checked = s := ⟨_, rfl⟩
  rw [hs] at hproxy hl
  simp only [step, SaManager.registerCtlCenterCallback, hs]
  by_cases hnull : s.dhfwkProxy_ = .null
  · simpa [hnull] using hproxy
  have hremote : (s.addAVTransControlCenterCbToCache engineId callback).remote answer =
      s.remote answer := rfl
  by_cases hret : s.remote answer = DH_FWK_SUCCESS
  · simp only [hnull, if_false, SaManager.callRegisterCtlCenterCallback, hremote, hret, if_true]
    refine ⟨hproxy.cached, hproxy.held, fun e => ?_, fun e c he => ?_⟩
    · simp only [SaManager.addAVTransControlCenterCbToCache, Table.lookup_set,
        hproxy.cachedCallbacks]
    · simp only [SaManager.addAVTransControlCenterCbToCache, Table.lookup_set] at he ⊢
      split_ifs at he ⊢ with heq
      · exact he
      · exact hproxy.heldCallbacks e c he
  · have hsame := hl hnull hret
    simp only [hnull, if_false, SaManager.callRegisterCtlCenterCallback, hremote, hret]
    refine ⟨hproxy.cached, hproxy.held, fun e => ?_, hproxy.heldCallbacks⟩
    rw [← hproxy.cachedCallbacks e]
    simp only [SaManager.addAVTransControlCenterCbToCache, Table.lookup_set]
    split_ifs with heq
    · rw [heq, hsame]
    · rfl

theorem Kept.releaseAVCenter (h : r.Kept) {engineId : Int}
    (hl : r.Sound (.releaseAVCenter engineId checked answer)) :
    (r.step (.releaseAVCenter engineId checked answer)).Kept := by
  have hproxy := h.getDHFWKProxy checked
  change _ ≠ _ → _ ≠ _ → _ = _ at hl
  obtain ⟨s, hs⟩ : ∃ s, r.manager.getDHFWKProxy checked = s := ⟨_, rfl⟩
  rw [hs] at hproxy hl
  simp only [step, SaManager.releaseAVCenter, hs]
  by_cases hnull : s.dhfwkProxy_ = .null
  · simpa [hnull] using hproxy
  have hremote : (s.removeAVTransControlCenterCbFromCache engineId).remote answer =
      s.remote answer := rfl
  by_cases hret : s.remote answer = DH_FWK_SUCCESS
  · simp only [hnull, if_false, SaManager.callReleaseAVCenter, hremote, hret, if_true]
    refine ⟨hproxy.cached, hproxy.held, fun e => ?_, fun e c he => ?_⟩
    · simp only [SaManager.removeAVTransControlCenterCbFromCache, Table.lookup_remove,
        hproxy.cachedCallbacks]
    · simp only [SaManager.removeAVTransControlCenterCbFromCache, Table.lookup_remove] at he ⊢
      split_ifs at he ⊢ with heq
      exact hproxy.heldCallbacks e c he
  · have hnone := hl hnull hret
    simp only [hnull, if_false, SaManager.callReleaseAVCenter, hremote, hret]
    refine ⟨hproxy.cached, hproxy.held, fun e => ?_, hproxy.heldCallbacks⟩
    rw [← hproxy.cachedCallbacks e]
    simp only [SaManager.removeAVTransControlCenterCbFromCache, Table.lookup_remove]
    split_ifs with heq
    · rw [heq, hnone]
    · rfl

section Restore

variable {listenerAnswer : UInt32 → L → Int} {callbackAnswer : Int → C → Int}

/-- The three answers of a restoration : no proxy, or the ends of the two loops. -/
theorem restoreListener_cases (s : SaManager L C) (checked : Bool)
    (listenerAnswer : UInt32 → L → Int) (callbackAnswer : Int → C → Int) :
    ((s.getDHFWKProxy checked).dhfwkProxy_ = .null ∧
        s.restoreListener checked listenerAnswer callbackAnswer =
          (ERR_DH_FWK_POINTER_IS_NULL, s.getDHFWKProxy checked)) ∨
      ((s.getDHFWKProxy checked).dhfwkProxy_ ≠ .null ∧ ∃ listeners callbacks,
        (s.restoreListener checked listenerAnswer callbackAnswer).2 =
          { s.getDHFWKProxy checked with listeners := listeners, callbacks := callbacks } ∧
        ((s.restoreListener checked listenerAnswer callbackAnswer).1 = DH_FWK_SUCCESS ↔
          ∀ e ∈ s.avTransControlCenterCbCache_.entries,
            (s.getDHFWKProxy checked).remote (callbackAnswer e.1 e.2) = DH_FWK_SUCCESS) ∧
        (∀ e, e ∈ listeners ↔ e ∈ s.listeners ∨ e ∈ s.cachedListeners ∧
          (s.getDHFWKProxy checked).remote (listenerAnswer e.1 e.2) = DH_FWK_SUCCESS) ∧
        (∀ k c, callbacks.lookup k = some c → s.callbacks.lookup k = some c ∨
          s.avTransControlCenterCbCache_.lookup k = some c) ∧
        ((∀ e ∈ s.avTransControlCenterCbCache_.entries,
            (s.getDHFWKProxy checked).remote (callbackAnswer e.1 e.2) = DH_FWK_SUCCESS) →
          ∀ k, (∃ c, s.avTransControlCenterCbCache_.lookup k = some c) →
            ∃ c, callbacks.lookup k = some c)) := by
  by_cases hnull : (s.getDHFWKProxy checked).dhfwkProxy_ = .null
  · exact .inl ⟨hnull, by simp [SaManager.restoreListener, hnull]⟩
  right
  obtain ⟨listeners, hl, hlmem⟩ :=
    SaManager.foldl_restoreListenerStep listenerAnswer s.cachedListeners (s.getDHFWKProxy checked)
  obtain ⟨callbacks, hstate, hret, hold, hnew⟩ :=
    SaManager.foldl_restoreCallbackStep callbackAnswer s.avTransControlCenterCbCache_.entries
      (DH_FWK_SUCCESS, { s.getDHFWKProxy checked with listeners := listeners })
  have hrun : s.restoreListener checked listenerAnswer callbackAnswer =
      s.avTransControlCenterCbCache_.entries.foldl
        (SaManager.restoreCallbackStep callbackAnswer)
        (DH_FWK_SUCCESS, { s.getDHFWKProxy checked with listeners := listeners }) := by
    simp [SaManager.restoreListener, hnull, hl]
  refine ⟨hnull, listeners, callbacks, by rw [hrun, hstate], ?_, ?_, fun k c h => ?_, ?_⟩
  · rw [hrun, hret]
    exact and_iff_right rfl
  · simpa using hlmem
  · refine (hold k c h).imp (fun h => ?_) AList.mem_lookup_iff.2
    simpa using h
  · rintro hall k ⟨c, hc⟩
    exact hnew hall k ⟨c, .inr (AList.mem_lookup_iff.1 hc)⟩

theorem Kept.restoreListener (h : r.Kept) (checked : Bool) (listenerAnswer : UInt32 → L → Int)
    (callbackAnswer : Int → C → Int) :
    (r.step (.onAddSystemAbility checked listenerAnswer callbackAnswer)).Kept := by
  have hproxy := h.getDHFWKProxy checked
  obtain ⟨-, heq⟩ | ⟨-, listeners, callbacks, hstate, -, hl, hc, -⟩ :=
    restoreListener_cases r.manager checked listenerAnswer callbackAnswer
  · simpa [step, heq] using hproxy
  · simp only [step, hstate]
    refine ⟨hproxy.cached, fun e he => ?_, hproxy.cachedCallbacks, fun k c hk => ?_⟩
    · obtain he | ⟨he, -⟩ := (hl e).1 he
      · exact h.held e he
      · exact (h.cached e.1 e.2).1 (SaManager.mem_cachedListeners.1 he)
    · obtain hk | hk := hc k c hk
      · exact h.heldCallbacks k c hk
      · rw [← h.cachedCallbacks k, hk]

/-- A restoration that does not only meet refusals of listeners tells whether all was accepted. -/
theorem restoreListener_iff
    (hl : r.Sound (.onAddSystemAbility checked listenerAnswer callbackAnswer)) :
    (r.manager.restoreListener checked listenerAnswer callbackAnswer).1 = DH_FWK_SUCCESS ↔
      r.manager.AllAccepted checked listenerAnswer callbackAnswer := by
  simp only [Sound, SaManager.getDHFWKProxy_cachedListeners,
    SaManager.getDHFWKProxy_avTransControlCenterCbCache_] at hl
  unfold SaManager.AllAccepted
  obtain ⟨hnull, heq⟩ | ⟨hnull, listeners, callbacks, -, hret, -⟩ :=
    restoreListener_cases r.manager checked listenerAnswer callbackAnswer
  · rw [if_pos hnull] at hl
    have hremote : ∀ answer, (r.manager.getDHFWKProxy checked).remote answer ≠ DH_FWK_SUCCESS := by
      intro answer
      simp [SaManager.remote, hnull]
    refine iff_of_false (by simp [heq]) fun hall => ?_
    obtain hne | hne := hl
    · obtain ⟨e, he⟩ := List.exists_mem_of_ne_nil _ hne
      exact hremote _ (hall.1 e he)
    · obtain ⟨e, he⟩ := List.exists_mem_of_ne_nil _ hne
      exact hremote _ (hall.2 e he)
  · rw [if_neg hnull] at hl
    rw [hret]
    exact ⟨fun h => ⟨hl h, h⟩, fun h => h.2⟩

/-- After a restoration of which all was accepted, the service holds what is registered. -/
theorem Kept.restored (h : r.Kept)
    (hret : (r.manager.restoreListener checked listenerAnswer callbackAnswer).1 = DH_FWK_SUCCESS)
    (hall : r.manager.AllAccepted checked listenerAnswer callbackAnswer) :
    (r.step (.onAddSystemAbility checked listenerAnswer callbackAnswer)).Restored := by
  have hkept := h.restoreListener checked listenerAnswer callbackAnswer
  obtain ⟨-, heq⟩ | ⟨-, listeners, callbacks, hstate, -, hl, -, hc⟩ :=
    restoreListener_cases r.manager checked listenerAnswer callbackAnswer
  · simp [heq] at hret
  refine ⟨fun e => ⟨hkept.held e, fun he => ?_⟩, fun k => ?_⟩
  · have hcached := SaManager.mem_cachedListeners.2 ((h.cached e.1 e.2).2 he)
    simp only [SaRun.step, hstate]
    exact (hl e).2 (.inr ⟨hcached, hall.1 e hcached⟩)
  · cases hk : (r.step (.onAddSystemAbility checked listenerAnswer
      callbackAnswer)).registeredCallbacks.lookup k with
    | none =>
      refine Option.eq_none_iff_forall_ne_some.2 fun c hheld => ?_
      rw [hkept.heldCallbacks k c hheld] at hk
      cases hk
    | some c =>
      obtain ⟨c', hheld⟩ := hc hall.2 k ⟨c, (h.cachedCallbacks k).trans hk⟩
      have hheld : (r.step (.onAddSystemAbility checked listenerAnswer
          callbackAnswer)).manager.callbacks.lookup k = some c' := by
        simpa only [SaRun.step, hstate] using hheld
      rw [hheld, ← hk, ← hkept.heldCallbacks k c' hheld]

end Restore

theorem Kept.step (h : r.Kept) : ∀ {l : SaStep L C}, r.Sound l → (r.step l).Kept
  | .registerPublisherListener .., hl => h.registerPublisherListener hl
  | .unregisterPublisherListener .., hl => h.unregisterPublisherListener hl
  | .registerCtlCenterCallback .., hl => h.registerCtlCenterCallback hl
  | .releaseAVCenter .., hl => h.releaseAVCenter hl
  | .getDHFWKProxy checked, _ => h.getDHFWKProxy checked
  | .serviceStop, _ => ⟨h.cached, by simp [SaRun.step], h.cachedCallbacks, by simp [SaRun.step]⟩
  | .onRemoveSystemAbility, _ => ⟨h.cached, h.held, h.cachedCallbacks, h.heldCallbacks⟩
  | .serviceStart, _ => ⟨h.cached, h.held, h.cachedCallbacks, h.heldCallbacks⟩
  | .onAddSystemAbility .., _ => h.restoreListener _ _ _

/-- In a run of sound steps a restoration succeeds exactly if the service takes all that is cached,
it then holds what was registered with success and not removed since, and nothing else is ever held
or cached. -/
theorem restores_registrations (ls : List (SaStep L C)) (h : Along step Sound {} ls) :
    (∀ pre post checked listenerAnswer callbackAnswer,
      ls = pre ++ .onAddSystemAbility checked listenerAnswer callbackAnswer :: post →
        (((pre.foldl step {}).manager.restoreListener checked listenerAnswer callbackAnswer).1 =
            DH_FWK_SUCCESS ↔
          (pre.foldl step {}).manager.AllAccepted checked listenerAnswer callbackAnswer)) ∧
    (∀ pre post checked listenerAnswer callbackAnswer,
      ls = pre ++ .onAddSystemAbility checked listenerAnswer callbackAnswer :: post →
        ((pre.foldl step {}).manager.restoreListener checked listenerAnswer callbackAnswer).1 =
          DH_FWK_SUCCESS →
        ((pre.foldl step {}).step
          (.onAddSystemAbility checked listenerAnswer callbackAnswer)).Restored) ∧
    ∀ pre post, ls = pre ++ post → (pre.foldl step {}).Kept := by
  have hinit : ({} : SaRun L C).Kept :=
    ⟨fun _ _ => iff_of_false List.not_mem_nil List.not_mem_nil, by simp, fun _ => rfl, by simp⟩
  have hstep : ∀ (r : SaRun L C) (l : SaStep L C), r.Kept → r.Sound l → (r.step l).Kept :=
    fun r l hk hl => hk.step hl
  have hkept : ∀ pre post, ls = pre ++ post → (pre.foldl step {}).Kept := by
    rintro pre post rfl
    exact Along.invariant hstep hinit h.of_append.1
  have hiff : ∀ pre post checked listenerAnswer callbackAnswer,
      ls = pre ++ .onAddSystemAbility checked listenerAnswer callbackAnswer :: post →
        (((pre.foldl step {}).manager.restoreListener checked listenerAnswer callbackAnswer).1 =
            DH_FWK_SUCCESS ↔
          (pre.foldl step {}).manager.AllAccepted checked listenerAnswer callbackAnswer) := by
    rintro pre post checked listenerAnswer callbackAnswer rfl
    exact restoreListener_iff h.of_append.2.1
  refine ⟨hiff, ?_, hkept⟩
  intro pre post checked listenerAnswer callbackAnswer hls hret
  exact (hkept pre _ hls).restored hret ((hiff _ _ _ _ _ hls).1 hret)

/-- A listener and a callback that are registered, lost with the service and restored. -/
def restart : List (SaStep ℕ ℕ) :=
  [.serviceStart, .registerPublisherListener 1 7 true 0, .registerCtlCenterCallback 3 8 true 0,
    .serviceStop, .onRemoveSystemAbility, .serviceStart,
    .onAddSystemAbility true (fun _ _ => 0) (fun _ _ => 0)]

theorem restores_registrations_restart : (restart.foldl step {}).Kept :=
  (restores_registrations restart (by decide +kernel)).2.2 restart [] rfl

/-- The service turns down the listener that is restored, and the restoration succeeds. -/
def lostListener : List (SaStep ℕ ℕ) :=
  [.serviceStart, .registerPublisherListener 1 7 true 0, .serviceStop, .onRemoveSystemAbility,
    .serviceStart]

theorem restores_registrations_lost :
    ((lostListener.foldl step {}).manager.restoreListener true (fun _ _ => -1) (fun _ _ => 0)).1 =
        DH_FWK_SUCCESS ∧
      ¬(lostListener.foldl step {}).manager.AllAccepted true (fun _ _ => -1) (fun _ _ => 0) ∧
      ¬((lostListener.foldl step {}).step
        (.onAddSystemAbility true (fun _ _ => -1) (fun _ _ => 0))).Restored := by
  refine ⟨by decide +kernel, fun h => ?_, fun h => ?_⟩
  · exact absurd (h.1 (1, 7) (by decide +kernel)) (by decide +kernel)
  · exact absurd ((h.listeners (1, 7)).2 (by decide +kernel)) (by decide +kernel)

end SaRun

end DHFwk
