import DHFwk.DeviceRecords
import DHFwk.EnabledDevices

/-!
# Clearing a peer

`ClearRemoteDeviceMetaInfoData` and `ClearRemoteDeviceLocalInfoData` take the records of a peer
out of the cache and out of the store. The store takes out what begins with the hash of the peer
(`ClearDataByPrefix`), and the meta records also by the device that they came from
(`RemoveDeviceData`); the cache is swept by the first part of the keys.

What `ClearDataByPrefix` answers is not read, and after a `RemoveDeviceData` that fails the cache
is not swept. So the records of the peer leave both places or none exactly under the conditions
that `peer_cleared_iff` names.
-/

namespace DHFwk

/-- What the store answers to the two calls, and the device that each entry came from. -/
structure ClearAnswers where
  openToClear : Bool := true
  getEntries : Bool := true
  deleteBatch : Bool := true
  openToRemove : Bool := true
  removeDeviceData : Bool := true
  origin : String → String := fun _ => ""

/-- `ClearDataByPrefix`. -/
def clearDataByPrefix (sha256 : String → String) (db : ClearAnswers) (pre : String)
    (kvStore : Table String String) : Bool × Table String String :=
  if ¬db.openToClear then (false, kvStore)
  else
    let peerkeys := kvStore.sortedKeys.filter fun key => (sha256 pre).toList <+: key.toList
    if ¬db.getEntries ∨ peerkeys = [] then (false, kvStore)
    else if ¬db.deleteBatch then (false, kvStore)
    else (true, kvStore.removeAll peerkeys)

/-- `RemoveDeviceData`. -/
def removeDeviceData (db : ClearAnswers) (deviceId : String) (kvStore : Table String String) :
    Int × Table String String :=
  if ¬isIdLengthValid deviceId then (ERR_DH_FWK_PARA_INVALID, kvStore)
  else if ¬db.openToRemove then (ERR_DH_FWK_RESOURCE_KV_STORAGE_POINTER_NULL, kvStore)
  else if ¬db.removeDeviceData then (ERR_DH_FWK_RESOURCE_KV_STORAGE_OPERATION_FAIL, kvStore)
  else (DH_FWK_SUCCESS,
    kvStore.removeAll (kvStore.sortedKeys.filter fun key => db.origin key = deviceId))

/-- `ClearRemoteDeviceMetaInfoData`. -/
def MetaInfoManager.clearRemoteDeviceMetaInfoData (sha256 : String → String) (db : ClearAnswers)
    (peerudid peeruuid : String) (s : InfoStore MetaCapabilityInfo) :
    Int × InfoStore MetaCapabilityInfo :=
  if ¬s.dbAdapterPtr_ then (ERR_DH_FWK_RESOURCE_DB_ADAPTER_POINTER_NULL, s)
  else
    let cleared := (clearDataByPrefix sha256 db peerudid s.kvStore).2
    let removed := removeDeviceData db peeruuid cleared
    let s := { s with kvStore := removed.2 }
    if removed.1 ≠ DH_FWK_SUCCESS then (ERR_DH_FWK_RESOURCE_DB_ADAPTER_OPERATION_FAIL, s)
    else (DH_FWK_SUCCESS, (removeMetaInfoInMemByUdid sha256 peerudid s).2)

namespace LocalCapabilityInfoManager

/-- `RemoveLocalInfoInMemByUuid`. -/
def removeLocalInfoInMemByUuid (sha256 : String → String) (peeruuid : String)
    (s : InfoStore CapabilityInfo) : Int × InfoStore CapabilityInfo :=
  (DH_FWK_SUCCESS, { s with globalInfoMap_ := eraseDevice (sha256 peeruuid) s.globalInfoMap_ })

/-- `ClearRemoteDeviceLocalInfoData`. -/
def clearRemoteDeviceLocalInfoData (sha256 : String → String) (db : ClearAnswers)
    (peeruuid : String) (s : InfoStore CapabilityInfo) : Int × InfoStore CapabilityInfo :=
  if ¬s.dbAdapterPtr_ then (ERR_DH_FWK_RESOURCE_DB_ADAPTER_POINTER_NULL, s)
  else
    let s := { s with kvStore := (clearDataByPrefix sha256 db peeruuid s.kvStore).2 }
    (DH_FWK_SUCCESS, (removeLocalInfoInMemByUuid sha256 peeruuid s).2)

end LocalCapabilityInfoManager

/-! ## What is promised, and when it holds -/

section Promise

variable {T : Type} {hash : String} {s : InfoStore T} {r : Int × InfoStore T}

/-- A peer is cleared everywhere or nowhere : a call that succeeds leaves nothing of it and all
of the others, and one that fails takes no record of it out of one place only. -/
structure Cleared (hash : String) (s : InfoStore T) (r : Int × InfoStore T) : Prop where
  gone : r.1 = DH_FWK_SUCCESS → ∀ key, splitString key = hash →
    r.2.globalInfoMap_.lookup key = none ∧ r.2.kvStore.lookup key = none
  others : r.1 = DH_FWK_SUCCESS → ∀ key, splitString key ≠ hash →
    r.2.globalInfoMap_.lookup key = s.globalInfoMap_.lookup key ∧
      r.2.kvStore.lookup key = s.kvStore.lookup key
  stale : r.1 ≠ DH_FWK_SUCCESS → ∀ key, splitString key = hash →
    s.kvStore.lookup key ≠ none → r.2.kvStore.lookup key = none →
      r.2.globalInfoMap_.lookup key = none
  orphan : r.1 ≠ DH_FWK_SUCCESS → ∀ key, splitString key = hash →
    s.globalInfoMap_.lookup key ≠ none → r.2.globalInfoMap_.lookup key = none →
      r.2.kvStore.lookup key = none

/-- `ClearDataByPrefix` gets to its end, if there is an entry. -/
def ClearAnswers.Deletes (db : ClearAnswers) : Prop :=
  db.openToClear = true ∧ db.getEntries = true ∧ db.deleteBatch = true

/-- `RemoveDeviceData` succeeds. -/
def ClearAnswers.Removes (db : ClearAnswers) (deviceId : String) : Prop :=
  isIdLengthValid deviceId = true ∧ db.openToRemove = true ∧ db.removeDeviceData = true

/-- The sweep of the cache finds every record of the peer. -/
def Swept (hash : String) (map : Table String T) : Prop :=
  ∀ key, splitString key = hash → map.lookup key ≠ none → isCapKeyMatchDeviceId key hash = true

/-- `ClearDataByPrefix` takes the entry out. -/
def ClearAnswers.Takes (db : ClearAnswers) (hash key : String) : Prop :=
  db.Deletes ∧ hash.toList <+: key.toList

/-- The meta records of the peer are taken out of both places, or those that both have stay. -/
structure MetaClears (hash peeruuid : String) (db : ClearAnswers) (s : InfoStore T) : Prop where
  swept : db.Removes peeruuid → Swept hash s.globalInfoMap_
  taken : db.Removes peeruuid → ∀ key, s.kvStore.lookup key ≠ none →
    (splitString key = hash ↔ db.Takes hash key ∨ db.origin key = peeruuid)
  kept : ¬db.Removes peeruuid → db.Deletes → ∀ key, splitString key = hash →
    s.kvStore.lookup key ≠ none → s.globalInfoMap_.lookup key = none

/-- The local records of the peer are taken out of both places. -/
structure LocalClears (hash : String) (db : ClearAnswers) (s : InfoStore T) : Prop where
  swept : Swept hash s.globalInfoMap_
  taken : ∀ key, s.kvStore.lookup key ≠ none → (splitString key = hash ↔ db.Takes hash key)

instance (db : ClearAnswers) : Decidable db.Deletes :=
  inferInstanceAs (Decidable (_ ∧ _))

instance (db : ClearAnswers) (deviceId : String) : Decidable (db.Removes deviceId) :=
  inferInstanceAs (Decidable (_ ∧ _))

instance (db : ClearAnswers) (hash key : String) : Decidable (db.Takes hash key) :=
  inferInstanceAs (Decidable (_ ∧ _))

end Promise

/-! ## The calls of the store -/

section Store

variable {sha256 : String → String} {db : ClearAnswers} {kvStore : Table String String}

theorem lookup_clearDataByPrefix (pre key : String) :
    (clearDataByPrefix sha256 db pre kvStore).2.lookup key =
      if db.Takes (sha256 pre) key then none else kvStore.lookup key := by
  have hall := kvStore.lookup_removeAll_filter
    (fun key => decide ((sha256 pre).toList <+: key.toList)) key
  unfold clearDataByPrefix ClearAnswers.Takes ClearAnswers.Deletes
  dsimp only
  by_cases hopen : db.openToClear = true
  swap
  · simp [hopen]
  by_cases hget : db.getEntries = true
  swap
  · simp [hopen, hget]
  by_cases hdelete : db.deleteBatch = true
  swap
  · rw [if_neg (not_not.2 hopen)]
    simp [hdelete]
  by_cases hempty : (kvStore.sortedKeys.filter fun key =>
    decide ((sha256 pre).toList <+: key.toList)) = []
  · -- there is nothing to take out
    rw [hempty] at hall
    simpa [hopen, hget, hdelete, hempty, Table.removeAll] using hall
  · simpa [hopen, hget, hdelete, hempty] using hall

/-- `RemoveDeviceData` succeeds, or leaves the store as it is. -/
theorem removeDeviceData_eq (db : ClearAnswers) (deviceId : String)
    (kvStore : Table String String) :
    db.Removes deviceId ∧ removeDeviceData db deviceId kvStore = (DH_FWK_SUCCESS,
        kvStore.removeAll (kvStore.sortedKeys.filter fun key => db.origin key = deviceId)) ∨
      ¬db.Removes deviceId ∧ (removeDeviceData db deviceId kvStore).1 ≠ DH_FWK_SUCCESS ∧
        (removeDeviceData db deviceId kvStore).2 = kvStore := by
  unfold removeDeviceData ClearAnswers.Removes
  by_cases hid : isIdLengthValid deviceId = true
  swap
  · simp [hid]
  by_cases hopen : db.openToRemove = true
  swap
  · simp [hopen, hid]
  by_cases hremove : db.removeDeviceData = true
  swap
  · simp [hopen, hid, hremove]
  · simp [hopen, hid, hremove]

end Store

section Calls

variable {T : Type} {hash : String} {s : InfoStore T} {r : Int × InfoStore T}

theorem splitString_of_match {key : String} (h : isCapKeyMatchDeviceId key hash = true) :
    splitString key = hash := by
  unfold isCapKeyMatchDeviceId at h
  simp only [Bool.and_eq_true, decide_eq_true_iff] at h
  exact h.2

/-- A call that succeeds clears the peer exactly if the sweep finds its records in the cache, and
what the store takes out is the peer's. -/
theorem cleared_of_success (taken : String → Prop) [DecidablePred taken]
    (hret : r.1 = DH_FWK_SUCCESS)
    (hmap : r.2.globalInfoMap_ = eraseDevice hash s.globalInfoMap_)
    (hstore : ∀ key, r.2.kvStore.lookup key = if taken key then none else s.kvStore.lookup key) :
    Cleared hash s r ↔ Swept hash s.globalInfoMap_ ∧
      ∀ key, s.kvStore.lookup key ≠ none → (splitString key = hash ↔ taken key) := by
  constructor
  · intro h
    refine ⟨fun key hkey hne => ?_, fun key hne => ⟨fun hkey => ?_, fun htaken => ?_⟩⟩
    · have hgone := (h.gone hret key hkey).1
      rw [hmap, Owner.lookup_eraseDevice] at hgone
      by_contra hmatch
      exact hne (by rwa [if_neg hmatch] at hgone)
    · have hgone := (h.gone hret key hkey).2
      rw [hstore] at hgone
      by_contra htaken
      exact hne (by rwa [if_neg htaken] at hgone)
    · by_contra hkey
      have hsame := (h.others hret key hkey).2
      rw [hstore, if_pos htaken] at hsame
      exact hne hsame.symm
  · rintro ⟨hswept, htaken⟩
    refine ⟨fun _ key hkey => ⟨?_, ?_⟩, fun _ key hkey => ⟨?_, ?_⟩, fun h => absurd hret h,
      fun h => absurd hret h⟩
    · rw [hmap, Owner.lookup_eraseDevice]
      split_ifs with hmatch
      · rfl
      · by_contra hne
        exact hmatch (hswept key hkey hne)
    · rw [hstore]
      split_ifs with hgone
      · rfl
      · by_contra hne
        exact hgone ((htaken key hne).1 hkey)
    · rw [hmap, Owner.lookup_eraseDevice, if_neg fun hmatch => hkey (splitString_of_match hmatch)]
    · rw [hstore]
      split_ifs with hgone
      · by_contra hne
        exact hkey ((htaken key (Ne.symm hne)).2 hgone)
      · rfl

/-- A call that fails before the sweep leaves the peer in both places exactly if the store took
out nothing that the cache has too. -/
theorem cleared_of_failure (taken : String → Prop) [DecidablePred taken]
    (hret : r.1 ≠ DH_FWK_SUCCESS) (hmap : r.2.globalInfoMap_ = s.globalInfoMap_)
    (hstore : ∀ key, r.2.kvStore.lookup key = if taken key then none else s.kvStore.lookup key) :
    Cleared hash s r ↔ ∀ key, splitString key = hash → taken key →
      s.kvStore.lookup key ≠ none → s.globalInfoMap_.lookup key = none := by
  constructor
  · intro h key hkey htaken hne
    have hgone : r.2.kvStore.lookup key = none := by
      rw [hstore, if_pos htaken]
    rw [← hmap]
    exact h.stale hret key hkey hne hgone
  · intro h
    refine ⟨fun hsucc => absurd hsucc hret, fun hsucc => absurd hsucc hret,
      fun _ key hkey hne hgone => ?_, fun _ key _ hne hgone => ?_⟩
    · rw [hmap]
      rw [hstore] at hgone
      split_ifs at hgone with htaken
      · exact h key hkey htaken hne
      · exact absurd hgone hne
    · rw [hmap] at hgone
      exact absurd hgone hne

/-- Without an adapter nothing happens. -/
theorem cleared_of_unchanged {ret : Int} (hret : ret ≠ DH_FWK_SUCCESS) :
    Cleared hash s (ret, s) :=
  (cleared_of_failure (s := s) (fun _ => False) hret rfl fun key => by rw [if_neg id]).2
    fun _ _ h => h.elim

theorem prefix_of_splitString {key : String} (h : splitString key = hash) :
    hash.toList <+: key.toList := by
  by_cases hempty : splitString key = ""
  · rw [← h, hempty]
    exact List.nil_prefix
  · obtain ⟨rest, hrest⟩ := splitString_append hempty
    rw [h] at hrest
    rw [hrest, String.toList_append, String.toList_append, List.append_assoc]
    exact List.prefix_append _ _

end Calls

/-- The keys of the store are made of hashes of one length, none of which has a character of the
separator. -/
structure Hashed (sha256 : String → String) (kvStore : Table String String) : Prop where
  length : ∀ id id', (sha256 id).length = (sha256 id').length
  plain : ∀ id, '#' ∉ (sha256 id).toList
  keys : ∀ key, kvStore.lookup key ≠ none → ∃ id dhId, key = getCapabilityKey (sha256 id) dhId

/-- Such a key begins with a hash exactly if that is its first part. -/
theorem Hashed.prefix_iff {sha256 : String → String} {kvStore : Table String String}
    (h : Hashed sha256 kvStore) (peer : String) {key : String} (hkey : kvStore.lookup key ≠ none) :
    (sha256 peer).toList <+: key.toList ↔ splitString key = sha256 peer := by
  refine ⟨fun hpre => ?_, prefix_of_splitString⟩
  obtain ⟨id, dhId, rfl⟩ := h.keys key hkey
  rw [splitString_getCapabilityKey (h.plain id)]
  rw [getCapabilityKey, String.toList_append, String.toList_append, List.append_assoc] at hpre
  have hlength : (sha256 peer).toList.length = (sha256 id).toList.length := h.length peer id
  rw [List.prefix_iff_eq_take, hlength, List.take_left] at hpre
  exact (String.toList_inj.1 hpre).symm

/-- With such keys the local records are cleared exactly if the sweep finds them all, and the store
takes its entries out or has none. -/
theorem localClears_iff {sha256 : String → String} {db : ClearAnswers} {peer : String}
    {s : InfoStore CapabilityInfo} (h : Hashed sha256 s.kvStore) :
    LocalClears (sha256 peer) db s ↔ Swept (sha256 peer) s.globalInfoMap_ ∧
      (db.Deletes ∨ ∀ key, splitString key = sha256 peer → s.kvStore.lookup key = none) := by
  constructor
  · rintro ⟨hswept, htaken⟩
    refine ⟨hswept, or_iff_not_imp_left.2 fun hdeletes key hkey => ?_⟩
    by_contra hne
    exact hdeletes ((htaken key hne).1 hkey).1
  · rintro ⟨hswept, hstore⟩
    refine ⟨hswept, fun key hne => ⟨fun hkey => ?_, fun htakes => ?_⟩⟩
    · exact ⟨hstore.resolve_right fun hnone => hne (hnone key hkey), prefix_of_splitString hkey⟩
    · exact (h.prefix_iff peer hne).1 htakes.2

/-- The records of a peer leave both places or none, and those of the others stay, exactly if
the sweep finds them all, what the store takes out is theirs, and a call that ends before the sweep
has taken nothing out that the cache has too. -/
theorem peer_cleared_iff (sha256 : String → String) (db : ClearAnswers) (peerudid peeruuid : String)
    (metaInfos : InfoStore MetaCapabilityInfo) (capInfos : InfoStore CapabilityInfo) :
    (Cleared (sha256 peerudid) metaInfos
        (MetaInfoManager.clearRemoteDeviceMetaInfoData sha256 db peerudid peeruuid metaInfos) ↔
      (metaInfos.dbAdapterPtr_ = true → MetaClears (sha256 peerudid) peeruuid db metaInfos)) ∧
    (Cleared (sha256 peeruuid) capInfos
        (LocalCapabilityInfoManager.clearRemoteDeviceLocalInfoData sha256 db peeruuid capInfos) ↔
      (capInfos.dbAdapterPtr_ = true → LocalClears (sha256 peeruuid) db capInfos)) := by
  constructor
  · unfold MetaInfoManager.clearRemoteDeviceMetaInfoData
    by_cases hadapter : metaInfos.dbAdapterPtr_ = true
    swap
    · rw [if_pos hadapter]
      exact iff_of_true (cleared_of_unchanged (by decide)) fun h => absurd h hadapter
    rw [if_neg (not_not.2 hadapter)]
    dsimp only
    obtain ⟨hremoves, heq⟩ | ⟨hremoves, hret, hsame⟩ := removeDeviceData_eq db peeruuid
      (clearDataByPrefix sha256 db peerudid metaInfos.kvStore).2
    · rw [heq, if_neg (not_not.2 rfl)]
      rw [cleared_of_success
        (fun key => db.Takes (sha256 peerudid) key ∨ db.origin key = peeruuid) rfl rfl]
      · exact ⟨fun h _ => ⟨fun _ => h.1, fun _ => h.2, fun hno => absurd hremoves hno⟩,
          fun h => ⟨(h hadapter).swept hremoves, (h hadapter).taken hremoves⟩⟩
      · intro key
        simp only [MetaInfoManager.removeMetaInfoInMemByUdid, Table.lookup_removeAll_filter,
          lookup_clearDataByPrefix]
        by_cases horigin : db.origin key = peeruuid
        · simp [horigin]
        · simp [horigin]
    · have hfail : ERR_DH_FWK_RESOURCE_DB_ADAPTER_OPERATION_FAIL ≠ DH_FWK_SUCCESS := by decide
      rw [if_pos hret, hsame]
      rw [cleared_of_failure (s := metaInfos) (db.Takes (sha256 peerudid)) hfail rfl
        fun key => lookup_clearDataByPrefix peerudid key]
      constructor
      · intro h _
        refine ⟨fun hyes => absurd hyes hremoves, fun hyes => absurd hyes hremoves, ?_⟩
        exact fun _ hdeletes key hkey => h key hkey ⟨hdeletes, prefix_of_splitString hkey⟩
      · intro h key hkey htaken
        exact (h hadapter).kept hremoves htaken.1 key hkey
  · unfold LocalCapabilityInfoManager.clearRemoteDeviceLocalInfoData
    by_cases hadapter : capInfos.dbAdapterPtr_ = true
    swap
    · rw [if_pos hadapter]
      exact iff_of_true (cleared_of_unchanged (by decide)) fun h => absurd h hadapter
    rw [if_neg (not_not.2 hadapter)]
    dsimp only
    rw [cleared_of_success (db.Takes (sha256 peeruuid)) rfl rfl
      fun key => lookup_clearDataByPrefix peeruuid key]
    exact ⟨fun h _ => ⟨h.1, h.2⟩, fun h => ⟨(h hadapter).swept, (h hadapter).taken⟩⟩

/-- A record of the device `u1` in the cache and in the store. -/
def peerKey : String :=
  getCapabilityKey (twoDevices.sha256 "u1") "c"

def peerMeta : InfoStore MetaCapabilityInfo where
  globalInfoMap_ := Table.set ∅ peerKey { dhId_ := "c", udidHash_ := twoDevices.sha256 "u1" }
  kvStore := Table.set ∅ peerKey "record"

def peerLocal : InfoStore CapabilityInfo where
  globalInfoMap_ := Table.set ∅ peerKey { dhId_ := "c", deviceId_ := twoDevices.sha256 "u1" }
  kvStore := Table.set ∅ peerKey "record"

/-- A `RemoveDeviceData` that fails leaves the meta record in the cache only, and a `DeleteBatch`
that fails leaves the local one in the store only, with success. -/
theorem peer_not_cleared :
    ¬Cleared (twoDevices.sha256 "u1") peerMeta
        (MetaInfoManager.clearRemoteDeviceMetaInfoData twoDevices.sha256
          { removeDeviceData := false } "u1" "u1" peerMeta) ∧
      ¬Cleared (twoDevices.sha256 "u1") peerLocal
        (LocalCapabilityInfoManager.clearRemoteDeviceLocalInfoData twoDevices.sha256
          { deleteBatch := false } "u1" peerLocal) := by
  have hkey : splitString peerKey = twoDevices.sha256 "u1" := by
    decide +kernel
  constructor
  · intro h
    have hgone := h.stale (by decide +kernel) peerKey hkey (by decide +kernel) (by decide +kernel)
    exact absurd hgone (by decide +kernel)
  · intro h
    exact absurd (h.gone (by decide +kernel) peerKey hkey).2 (by decide +kernel)

end DHFwk
