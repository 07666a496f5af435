import DHFwk.Basic

/-!
# Recovery of a store

A `DBAdapter` gets its store from the KV service, with the options of `Init` or of
`InitLocal`, and registers its listeners. When the service dies, `OnRemoteDied` posts a task
that calls `ReInit` until it succeeds, 300 times at most.

`ReInit` refuses to work without a store, and drops the one there is before it asks for a new
one, so an attempt that fails makes all others fail. It gets a local store where the adapter
does not synchronise by itself, and the change listener is then not registered again, although
`Init` does both otherwise. So the adapter is as it was exactly if the first attempt finds the
service up and the store was made by `InitLocal` or by `Init` with automatic synchronisation
(`recovers_iff`).
-/

set_option linter.unusedSectionVars false

namespace DHFwk

abbrev ERR_DH_FWK_RESOURCE_KV_STORAGE_POINTER_NULL : Int := -10401
abbrev ERR_DH_FWK_RESOURCE_KV_STORAGE_OPERATION_FAIL : Int := -10403

abbrev GLOBAL_META_INFO_KEY : String := "global_meta_info"
abbrev GLOBAL_VERSION_INFO_KEY : String := "global_version_info"
abbrev GLOBAL_CAPABILITY_INFO_KEY : String := "global_capability_info"

abbrev EVENT_VERSION_INFO_DB_RECOVER : ℕ := 101
abbrev EVENT_CAPABILITY_INFO_DB_RECOVER : ℕ := 201
abbrev EVENT_META_INFO_DB_RECOVER : ℕ := 401

abbrev MAX_INIT_RETRY_TIMES : ℕ := 20
abbrev DIED_CHECK_MAX_TIMES : ℕ := 300

/-! ## Stores -/

/-- `DistributedKv::Status`, as far as it matters. -/
inductive KvStatus
  | SUCCESS
  | STORE_META_CHANGED
  | SERVER_UNAVAILABLE
  deriving DecidableEq, Repr

/-- `DistributedKv::DataType`. -/
inductive DataType
  | TYPE_STATICS
  | TYPE_DYNAMICAL
  deriving DecidableEq, Repr

/-- `DistributedKv::Options`, less what all stores have in common. -/
structure KvOptions where
  autoSync : Bool
  isPublic : Bool
  dataType : DataType
  enableCloud : Bool
  cloudAutoSync : Bool
  deriving DecidableEq, Repr

/-- A store that the service gave, and what its listener is subscribed to. -/
structure SingleKvStore where
  options : KvOptions
  remote : Bool := false
  cloud : Bool := false
  deriving DecidableEq, Repr

/-- An adapter. Only its store is shared with the service. -/
structure DBAdapter where
  storeId_ : String
  kvStoragePtr_ : Option SingleKvStore := none
  isAutoSync_ : Bool := false
  dataType_ : DataType := .TYPE_DYNAMICAL
  deathListener : Bool := false
  deriving DecidableEq, Repr

namespace DBAdapter

variable (defaults : KvOptions)

/-- `GetSingleKvStore` : there is a store if it is a success. -/
def getSingleKvStore (status : KvStatus) (options : KvOptions) (s : DBAdapter) :
    KvStatus × DBAdapter :=
  (status, if status = .SUCCESS then { s with kvStoragePtr_ := some { options } } else s)

/-- The options of `GetKvStorePtr`. Only what is static goes to the cloud. -/
def kvOptions (isAutoSync : Bool) (dataType : DataType) : KvOptions where
  autoSync := isAutoSync
  isPublic := true
  dataType := dataType
  enableCloud := dataType ≠ .TYPE_DYNAMICAL
  cloudAutoSync := dataType ≠ .TYPE_DYNAMICAL

/-- Those of `GetLocalKvStorePtr`. What it does not set has the default of the service. -/
def localOptions : KvOptions :=
  { defaults with autoSync := false }

/-- `GetKvStorePtr`. -/
def getKvStorePtr (status : KvStatus) (isAutoSync : Bool) (dataType : DataType) (s : DBAdapter) :
    KvStatus × DBAdapter :=
  s.getSingleKvStore status (kvOptions isAutoSync dataType)

/-- `GetLocalKvStorePtr`. -/
def getLocalKvStorePtr (status : KvStatus) (s : DBAdapter) : KvStatus × DBAdapter :=
  s.getSingleKvStore status (localOptions defaults)

/-- `RegisterChangeListener`. A service that gave a store takes a subscription. -/
def registerChangeListener (s : DBAdapter) : DBAdapter :=
  { s with
    kvStoragePtr_ := s.kvStoragePtr_.map fun store => { store with remote := true, cloud := true } }

/-- `RegisterKvStoreDeathListener`. -/
def registerKvStoreDeathListener (s : DBAdapter) : DBAdapter :=
  { s with deathListener := true }

/-- Ask for a store until there is one; `tryTimes` are left. -/
def tryInit (get : KvStatus → DBAdapter → KvStatus × DBAdapter) (register : DBAdapter → DBAdapter)
    (statuses : ℕ → KvStatus) : ℕ → DBAdapter → Int × DBAdapter
  | 0, s =>
    if s.kvStoragePtr_ = none then (ERR_DH_FWK_RESOURCE_KV_STORAGE_POINTER_NULL, s)
    else (DH_FWK_SUCCESS, s)
  | tryTimes + 1, s =>
    let (status, s) := get (statuses tryTimes) s
    if status = .SUCCESS ∧ s.kvStoragePtr_ ≠ none then (DH_FWK_SUCCESS, register s)
    else tryInit get register statuses tryTimes s

/-- `Init`. A store whose meta changed is deleted, and tried again like any other. -/
def init (statuses : ℕ → KvStatus) (isAutoSync : Bool) (dataType : DataType) (s : DBAdapter) :
    Int × DBAdapter :=
  tryInit (fun status s => s.getKvStorePtr status isAutoSync dataType)
    (fun s => s.registerChangeListener.registerKvStoreDeathListener) statuses MAX_INIT_RETRY_TIMES
    { s with isAutoSync_ := isAutoSync, dataType_ := dataType }

/-- `InitLocal`. -/
def initLocal (statuses : ℕ → KvStatus) (s : DBAdapter) : Int × DBAdapter :=
  tryInit (fun status s => s.getLocalKvStorePtr defaults status) registerKvStoreDeathListener
    statuses MAX_INIT_RETRY_TIMES { s with isAutoSync_ := false, dataType_ := .TYPE_STATICS }

/-! ## Recovery -/

/-- `ReInit`. -/
def reInit (status : KvStatus) (isAutoSync : Bool) (s : DBAdapter) : Int × DBAdapter :=
  if s.kvStoragePtr_ = none then (ERR_DH_FWK_RESOURCE_KV_STORAGE_POINTER_NULL, s)
  else
    let s := { s with kvStoragePtr_ := none }
    let (status, s) :=
      if s.isAutoSync_ then s.getKvStorePtr status isAutoSync s.dataType_
      else s.getLocalKvStorePtr defaults status
    if status ≠ .SUCCESS ∨ s.kvStoragePtr_ = none then
      (ERR_DH_FWK_RESOURCE_KV_STORAGE_OPERATION_FAIL, s)
    else (DH_FWK_SUCCESS, s.registerKvStoreDeathListener)

/-- `SyncDBForRecover` : the event that is sent to the manager of the store. -/
def syncDBForRecover (s : DBAdapter) : Option ℕ :=
  if s.storeId_ = GLOBAL_CAPABILITY_INFO_KEY then some EVENT_CAPABILITY_INFO_DB_RECOVER
  else if s.storeId_ = GLOBAL_VERSION_INFO_KEY then some EVENT_VERSION_INFO_DB_RECOVER
  else if s.storeId_ = GLOBAL_META_INFO_KEY then some EVENT_META_INFO_DB_RECOVER
  else none

/-- `DBDiedOpt`, and the event. -/
def dBDiedOpt (status : KvStatus) (s : DBAdapter) : Bool × DBAdapter × Option ℕ :=
  let (ret, s) := s.reInit defaults status s.isAutoSync_
  if ret = DH_FWK_SUCCESS then
    let s := if s.isAutoSync_ then s.registerChangeListener else s
    (true, s, s.syncDBForRecover)
  else (false, s, none)

/-- The loop of `reInitTask`, with `left` attempts to go; `statuses` are what the service
answers at each. -/
def reInitLoop (statuses : ℕ → KvStatus) : ℕ → ℕ → DBAdapter → DBAdapter × Option ℕ
  | 0, _, s => (s, none)
  | left + 1, times, s =>
    match s.dBDiedOpt defaults (statuses times) with
    | (true, s, event) => (s, event)
    | (false, s, _) => reInitLoop statuses left (times + 1) s

/-- `OnRemoteDied` : the task that it posts. -/
def onRemoteDied (statuses : ℕ → KvStatus) (s : DBAdapter) : DBAdapter × Option ℕ :=
  s.reInitLoop defaults statuses DIED_CHECK_MAX_TIMES 0

/-- How an adapter was made. -/
inductive InitCall
  | init (isAutoSync : Bool) (dataType : DataType)
  | initLocal
  deriving DecidableEq, Repr

/-- Make an adapter for a store. -/
def InitCall.run (call : InitCall) (statuses : ℕ → KvStatus) (storeId : String) :
    Int × DBAdapter :=
  match call with
  | .init isAutoSync dataType => DBAdapter.init statuses isAutoSync dataType { storeId_ := storeId }
  | .initLocal => DBAdapter.initLocal defaults statuses { storeId_ := storeId }

/-- The adapter that is made. -/
def InitCall.made (call : InitCall) (storeId : String) : DBAdapter where
  storeId_ := storeId
  kvStoragePtr_ :=
    match call with
    | .init isAutoSync dataType => some ⟨kvOptions isAutoSync dataType, true, true⟩
    | .initLocal => some ⟨localOptions defaults, false, false⟩
  isAutoSync_ :=
    match call with
    | .init isAutoSync _ => isAutoSync
    | .initLocal => false
  dataType_ :=
    match call with
    | .init _ dataType => dataType
    | .initLocal => .TYPE_STATICS
  deathListener := true

/-- `ReInit` asks for a store like this one, and `DBDiedOpt` registers its listeners. -/
def InitCall.IsRestored : InitCall → Prop
  | .init isAutoSync _ => isAutoSync = true
  | .initLocal => True

/-- The adapter can be used, and is as it was. -/
structure Recovered (s s' : DBAdapter) : Prop where
  usable : s'.kvStoragePtr_ ≠ none
  same : s' = s

/-- The service is down for some attempts and up after them. -/
def upAfter (down times : ℕ) : KvStatus :=
  if times < down then .SERVER_UNAVAILABLE else .SUCCESS

/-! ## What is made and what is left -/

variable {defaults} {s : DBAdapter} {statuses : ℕ → KvStatus}

/-- Where a store is got, it is as it was asked for, with what is registered then. -/
theorem tryInit_eq {get : KvStatus → DBAdapter → KvStatus × DBAdapter}
    {register : DBAdapter → DBAdapter} {options : KvOptions}
    (hget : ∀ status s, get status s = getSingleKvStore status options s) :
    ∀ (tryTimes : ℕ) {s s' : DBAdapter}, s.kvStoragePtr_ = none →
      tryInit get register statuses tryTimes s = (DH_FWK_SUCCESS, s') →
      s' = register { s with kvStoragePtr_ := some { options } }
  | 0, s, s', hnone, h => by
    rw [tryInit, if_pos hnone] at h
    exact absurd (Prod.mk.inj h).1 (by decide)
  | tryTimes + 1, s, s', hnone, h => by
    simp only [tryInit, hget, getSingleKvStore] at h
    by_cases hstatus : statuses tryTimes = .SUCCESS
    · rw [if_pos hstatus, if_pos ⟨hstatus, by simp⟩] at h
      exact (Prod.mk.inj h).2.symm
    · rw [if_neg hstatus, if_neg fun hand => hstatus hand.1] at h
      exact tryInit_eq hget tryTimes hnone h

/-- Without a store no attempt succeeds. -/
theorem reInitLoop_of_none (hnone : s.kvStoragePtr_ = none) :
    ∀ left times, s.reInitLoop defaults statuses left times = (s, none)
  | 0, _ => rfl
  | left + 1, times => by
    have hfail : s.dBDiedOpt defaults (statuses times) = (false, s, none) := by
      simp only [dBDiedOpt, reInit, hnone, if_true]
      rfl
    rw [reInitLoop, hfail]
    exact reInitLoop_of_none hnone left (times + 1)

/-- An attempt that finds the service down leaves no store. -/
theorem dBDiedOpt_of_down {status : KvStatus} (hstore : s.kvStoragePtr_ ≠ none)
    (hdown : status ≠ .SUCCESS) :
    s.dBDiedOpt defaults status = (false, { s with kvStoragePtr_ := none }, none) := by
  cases hauto : s.isAutoSync_ with
  | true =>
    simp [dBDiedOpt, reInit, hstore, hauto, hdown, getKvStorePtr, getSingleKvStore,
      ERR_DH_FWK_RESOURCE_KV_STORAGE_OPERATION_FAIL, DH_FWK_SUCCESS]
  | false =>
    simp [dBDiedOpt, reInit, hstore, hauto, hdown, getLocalKvStorePtr, getSingleKvStore,
      ERR_DH_FWK_RESOURCE_KV_STORAGE_OPERATION_FAIL, DH_FWK_SUCCESS]

theorem onRemoteDied_of_down (hdown : statuses 0 ≠ .SUCCESS) :
    (s.onRemoteDied defaults statuses).1.kvStoragePtr_ = none := by
  by_cases hnone : s.kvStoragePtr_ = none
  · rw [onRemoteDied, reInitLoop_of_none hnone]
    exact hnone
  · rw [onRemoteDied, DIED_CHECK_MAX_TIMES, reInitLoop, dBDiedOpt_of_down hnone hdown]
    exact congrArg (fun r => r.1.kvStoragePtr_)
      (reInitLoop_of_none (s := { s with kvStoragePtr_ := none }) rfl 299 1)

/-- What the first attempt makes if the service is up. -/
theorem onRemoteDied_of_up (defaults : KvOptions) (statuses : ℕ → KvStatus)
    (hstore : s.kvStoragePtr_ ≠ none) (hup : statuses 0 = .SUCCESS) :
    (s.onRemoteDied defaults statuses).1 =
      { s with
        kvStoragePtr_ := some
          (if s.isAutoSync_ then ⟨kvOptions s.isAutoSync_ s.dataType_, true, true⟩
          else ⟨localOptions defaults, false, false⟩)
        deathListener := true } := by
  rw [onRemoteDied, DIED_CHECK_MAX_TIMES, reInitLoop, hup]
  cases hauto : s.isAutoSync_ with
  | true =>
    simp [dBDiedOpt, reInit, hstore, hauto, getKvStorePtr, getSingleKvStore,
      registerKvStoreDeathListener, registerChangeListener]
  | false =>
    simp [dBDiedOpt, reInit, hstore, hauto, getLocalKvStorePtr, getSingleKvStore,
      registerKvStoreDeathListener]

theorem InitCall.run_eq {call : InitCall} {storeId : String}
    (h : call.run defaults statuses storeId = (DH_FWK_SUCCESS, s)) :
    s = call.made defaults storeId := by
  cases call with
  | init isAutoSync dataType => exact tryInit_eq (fun _ _ => rfl) _ rfl h
  | initLocal => exact tryInit_eq (fun _ _ => rfl) _ rfl h

end DBAdapter

open DBAdapter

/-- An adapter that was made for a store recovers from the death of the service exactly if the
first attempt finds it up again and `ReInit` restores what was made. -/
theorem recovers_iff (defaults : KvOptions) (call : InitCall) (statuses : ℕ → KvStatus)
    (storeId : String) (s : DBAdapter) (down : ℕ)
    (h : call.run defaults statuses storeId = (DH_FWK_SUCCESS, s)) :
    Recovered s (s.onRemoteDied defaults (upAfter down)).1 ↔ down = 0 ∧ call.IsRestored := by
  obtain rfl := InitCall.run_eq h
  by_cases hdown : down = 0
  · subst hdown
    have hstore : (call.made defaults storeId).kvStoragePtr_ ≠ none := by
      cases call <;> exact Option.some_ne_none _
    rw [onRemoteDied_of_up defaults (upAfter 0) hstore rfl, and_iff_right rfl]
    cases call with
    | init isAutoSync dataType =>
      cases isAutoSync with
      | true => exact iff_of_true ⟨Option.some_ne_none _, rfl⟩ rfl
      | false =>
        refine iff_of_false (fun hr => ?_) Bool.false_ne_true
        have hremote := congrArg (fun s => s.kvStoragePtr_.map SingleKvStore.remote) hr.same
        exact absurd hremote (by simp [InitCall.made])
    | initLocal => exact iff_of_true ⟨Option.some_ne_none _, rfl⟩ trivial
  · refine iff_of_false (fun hr => hr.usable (onRemoteDied_of_down ?_)) fun hand => hdown hand.1
    simp [upAfter, Nat.pos_of_ne_zero hdown]

/-- The defaults of the service. -/
def kvDefaults : KvOptions :=
  ⟨true, false, .TYPE_DYNAMICAL, false, false⟩

/-- A local store comes back if the service is up again at once. -/
theorem recovers_local :
    Recovered (InitCall.initLocal.made kvDefaults "local_capability_info")
      ((InitCall.initLocal.made kvDefaults "local_capability_info").onRemoteDied kvDefaults
        (upAfter 0)).1 :=
  (recovers_iff kvDefaults .initLocal (fun _ => .SUCCESS) "local_capability_info" _ 0 rfl).2
    ⟨rfl, trivial⟩

/-- It does not if the service is down for one attempt, and the store of the capabilities comes
back as a local one without a listener even if it is up at once. -/
theorem recovers_not :
    ((InitCall.initLocal.run kvDefaults (fun _ => .SUCCESS) "local_capability_info").2.onRemoteDied
        kvDefaults (upAfter 1)).1.kvStoragePtr_ = none ∧
      (((InitCall.init false .TYPE_DYNAMICAL).run kvDefaults (fun _ => .SUCCESS)
          GLOBAL_CAPABILITY_INFO_KEY).2.onRemoteDied kvDefaults (upAfter 0)).1.kvStoragePtr_ =
        some ⟨localOptions kvDefaults, false, false⟩ ∧
      ((InitCall.init false .TYPE_DYNAMICAL).run kvDefaults (fun _ => .SUCCESS)
          GLOBAL_CAPABILITY_INFO_KEY).2.kvStoragePtr_ =
        some ⟨kvOptions false .TYPE_DYNAMICAL, true, true⟩ :=
  ⟨onRemoteDied_of_down (by decide), by decide, by decide⟩

end DHFwk
