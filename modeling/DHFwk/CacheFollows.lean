import DHFwk.LocalHardware
import DHFwk.Notices
import DHFwk.PeerClearing

/-!
# Caches that follow their stores

What the two managers do besides following the notifications : they add records, remove them by
their keys or with their device, clear a peer, and read the store again for a device that comes
online or after it was recovered.

A record that is read again is what the store has (`Rereads`). An addition is right if the last
record of a key is what the store then has (`RightlyAdded`), and clearing a peer if the cache is
swept of what the store loses. With this the cache of either manager is right exactly where its
steps follow (`caches_follow_iff`).
-/

set_option linter.unusedSectionVars false

namespace DHFwk

open Json Runs

/-! ## Reading the store again -/

section Sync

variable {T : Type} (kind : RecordKind T) (cJSON : Codec)

/-- The loop over the texts that were found. -/
def saveRecords (isLocal : T → Bool) (dataVector : List String) (map : Table String T) :
    Table String T :=
  dataVector.foldl (fun map data =>
    match kind.getCapabilityByValue cJSON data with
    | none => map
    | some cap => if isLocal cap then map else map.set (kind.getKey cap) cap) map

/-- `SyncDeviceInfoFromDB` and `SyncMetaInfoFromDB`, of an id that is valid. -/
def syncInfoFromDB (db : StoreAnswers) (id : String) (s : InfoStore T) : Int × InfoStore T :=
  if ¬s.dbAdapterPtr_ then (ERR_DH_FWK_RESOURCE_DB_ADAPTER_POINTER_NULL, s)
  else
    match DBAdapter.getDataByKeyPrefix db s.kvStore id with
    | .error _ => (ERR_DH_FWK_RESOURCE_DB_ADAPTER_OPERATION_FAIL, s)
    | .ok dataVector =>
      if dataVector = [] ∨ dataVector.length > MAX_DB_RECORD_SIZE then
        (ERR_DH_FWK_RESOURCE_RES_DB_DATA_INVALID, s)
      else
        (DH_FWK_SUCCESS, { s with
          globalInfoMap_ := saveRecords kind cJSON (fun _ => false) dataVector s.globalInfoMap_ })

/-- A round of the loop over the online devices : what cannot be read is passed over. -/
def syncRemoteDevice (isLocal : T → Bool) (db : String → StoreAnswers) (s : InfoStore T)
    (id : String) : InfoStore T :=
  match DBAdapter.getDataByKeyPrefix (db id) s.kvStore id with
  | .error _ => s
  | .ok dataVector =>
    if dataVector = [] ∨ dataVector.length > MAX_DB_RECORD_SIZE then s
    else { s with
      globalInfoMap_ := saveRecords kind cJSON isLocal dataVector s.globalInfoMap_ }

/-- `SyncRemoteCapabilityInfos` and `SyncRemoteMetaInfos`. -/
def syncRemoteInfos (isLocal : T → Bool) (db : String → StoreAnswers) (ids : List String)
    (s : InfoStore T) : Int × InfoStore T :=
  if ¬s.dbAdapterPtr_ then (ERR_DH_FWK_RESOURCE_DB_ADAPTER_POINTER_NULL, s)
  else (DH_FWK_SUCCESS, ids.foldl (syncRemoteDevice kind cJSON isLocal db) s)

end Sync

namespace CapabilityInfoManager

/-- `SyncDeviceInfoFromDB`. -/
def syncDeviceInfoFromDB (cJSON : Codec) (db : StoreAnswers) (deviceId : String)
    (s : InfoStore CapabilityInfo) : Int × InfoStore CapabilityInfo :=
  if ¬isIdLengthValid deviceId then (ERR_DH_FWK_PARA_INVALID, s)
  else syncInfoFromDB kind cJSON db deviceId s

/-- `SyncRemoteCapabilityInfos`. -/
def syncRemoteCapabilityInfos (cJSON : Codec) (db : String → StoreAnswers)
    (deviceIdVec : List String) (localDeviceId : String) (s : InfoStore CapabilityInfo) :
    Int × InfoStore CapabilityInfo :=
  syncRemoteInfos kind cJSON (fun cap => cap.deviceId_ = localDeviceId) db deviceIdVec s

/-- What the service calls besides the handlers. A record that is added has a text of its own
key. -/
inductive Operation (cJSON : Codec)
  | init | unInit
  | addCapability (db : KvAnswers) (resInfos : List (Option CapabilityInfo))
      (proper : ∀ info, some info ∈ resInfos →
        Proper kind cJSON ⟨info.getKey, info.toJsonString cJSON⟩)
  | removeCapabilityInfoByKey (db : StoreAnswers) (key : String)
  | removeCapabilityInfoInMem (deviceId : String)
  | syncDeviceInfoFromDB (db : StoreAnswers) (deviceId : String)
  | syncRemoteCapabilityInfos (db : String → StoreAnswers) (deviceIdVec : List String)
      (localDeviceId : String)

def perform {cJSON : Codec} (s : InfoStore CapabilityInfo) :
    Operation cJSON → InfoStore CapabilityInfo
  | .init => { s with dbAdapterPtr_ := true }
  | .unInit => { s with dbAdapterPtr_ := false }
  | .addCapability db resInfos _ => (addCapability cJSON db resInfos s).2
  | .removeCapabilityInfoByKey db key => (removeCapabilityInfoByKey db key s).2
  | .removeCapabilityInfoInMem deviceId => (removeCapabilityInfoInMem deviceId s).2
  | .syncDeviceInfoFromDB db deviceId => (syncDeviceInfoFromDB cJSON db deviceId s).2
  | .syncRemoteCapabilityInfos db deviceIdVec localDeviceId =>
    (syncRemoteCapabilityInfos cJSON db deviceIdVec localDeviceId s).2

end CapabilityInfoManager

namespace MetaInfoManager

/-- `SyncMetaInfoFromDB`. -/
def syncMetaInfoFromDB (cJSON : Codec) (db : StoreAnswers) (udidHash : String)
    (s : InfoStore MetaCapabilityInfo) : Int × InfoStore MetaCapabilityInfo :=
  if ¬isHashSizeValid udidHash then (ERR_DH_FWK_PARA_INVALID, s)
  else syncInfoFromDB kind cJSON db udidHash s

/-- `SyncRemoteMetaInfos`. -/
def syncRemoteMetaInfos (cJSON : Codec) (db : String → StoreAnswers) (udidHashVec : List String)
    (localUdidHash : String) (s : InfoStore MetaCapabilityInfo) :
    Int × InfoStore MetaCapabilityInfo :=
  syncRemoteInfos kind cJSON (fun cap => cap.udidHash_ = localUdidHash) db udidHashVec s

/-- What the service calls besides the handlers. -/
inductive Operation (cJSON : Codec)
  | init | unInit
  | addMetaCapInfos (db : KvAnswers) (metaCapInfos : List (Option MetaCapabilityInfo))
      (proper : ∀ info, some info ∈ metaCapInfos →
        Proper kind cJSON ⟨info.getKey, info.toJsonString cJSON⟩)
  | clearRemoteDeviceMetaInfoData (sha256 : String → String) (db : ClearAnswers)
      (peerudid peeruuid : String)
  | syncMetaInfoFromDB (db : StoreAnswers) (udidHash : String)
  | syncRemoteMetaInfos (db : String → StoreAnswers) (udidHashVec : List String)
      (localUdidHash : String)

def perform {cJSON : Codec} (s : InfoStore MetaCapabilityInfo) :
    Operation cJSON → InfoStore MetaCapabilityInfo
  | .init => { s with dbAdapterPtr_ := true }
  | .unInit => { s with dbAdapterPtr_ := false }
  | .addMetaCapInfos db metaCapInfos _ => (addMetaCapInfos cJSON db metaCapInfos s).2
  | .clearRemoteDeviceMetaInfoData sha256 db peerudid peeruuid =>
    (clearRemoteDeviceMetaInfoData sha256 db peerudid peeruuid s).2
  | .syncMetaInfoFromDB db udidHash => (syncMetaInfoFromDB cJSON db udidHash s).2
  | .syncRemoteMetaInfos db udidHashVec localUdidHash =>
    (syncRemoteMetaInfos cJSON db udidHashVec localUdidHash s).2

end MetaInfoManager

/-! ## Additions -/

section Added

variable {T : Type} (getKey toJsonString : T → String) (isStored : T → Bool) (db : KvAnswers)
  (infos : List (Option T)) (s : InfoStore T) (key : String)

/-- A list of a size that is taken, and the adapter is there. -/
def Accepted : Prop :=
  infos ≠ [] ∧ infos.length ≤ MAX_WRITE_DB_DATA_SIZE ∧ s.dbAdapterPtr_ = true

/-- The last record of a key that the store does not have yet. -/
def lastNew : Option T :=
  lastOf getKey (infos.filter fun info => info.any fun r => !isStored r) key

/-- What the store has under a key after an addition that is accepted. -/
def addedText : Option String :=
  if db.kvStoragePtr_ && db.putBatch then
    ((lastNew getKey isStored infos key).map toJsonString).or (s.kvStore.lookup key)
  else s.kvStore.lookup key

/-- The last record of the key is what is then read under it, unless there is more to tell, and
that ends with what is there. -/
def RightlyAdded (read : Option String → Option T) (untold : List (Option String)) : Prop :=
  Accepted infos s → ∀ r, lastOf getKey infos key = some r →
    (untold = [] → read (addedText getKey toJsonString isStored db infos s key) = some r) ∧
      ∀ u ∈ untold.getLast?, u = addedText getKey toJsonString isStored db infos s key

variable {getKey toJsonString isStored db infos s key}

theorem lastOf_eq_some {r : T} (h : lastOf getKey infos key = some r) :
    some r ∈ infos ∧ getKey r = key := by
  have hmem := List.mem_of_find?_eq_some h
  have hkey := List.find?_some (p := fun info : T => decide (getKey info = key)) h
  rw [List.mem_reverse, List.mem_filterMap] at hmem
  obtain ⟨info, hinfo, hid⟩ := hmem
  obtain rfl : info = some r := hid
  exact ⟨hinfo, of_decide_eq_true hkey⟩

theorem lastNew_eq_some {r : T} (h : lastNew getKey isStored infos key = some r) :
    some r ∈ infos ∧ getKey r = key := by
  obtain ⟨hmem, hkey⟩ := lastOf_eq_some h
  exact ⟨List.mem_of_mem_filter hmem, hkey⟩

/-- A key of no record is one of no new record. -/
theorem lastNew_eq_none (h : lastOf getKey infos key = none) :
    lastNew getKey isStored infos key = none := by
  rw [Option.eq_none_iff_forall_ne_some]
  intro r hr
  obtain ⟨hmem, hkey⟩ := lastNew_eq_some hr
  refine absurd (List.find?_eq_none.1 h r ?_) (not_not.2 (decide_eq_true hkey))
  rw [List.mem_reverse, List.mem_filterMap]
  exact ⟨some r, hmem, rfl⟩

theorem lastOf_cons_some (r : T) :
    lastOf getKey (some r :: infos) key =
      (lastOf getKey infos key).or (if getKey r = key then some r else none) := by
  simp only [lastOf, List.filterMap_cons, id_eq, List.reverse_cons, List.find?_append]
  by_cases h : getKey r = key <;> simp [h]

/-- The texts that are noted are those of the new records. -/
theorem lookup_puts : ∀ (infos : List (Option T)) (map : Table String T)
    (kvStore : Table String String),
    ((writeCache getKey toJsonString isStored infos map).2.foldl
      (fun t put => t.set put.1 put.2) kvStore).lookup key =
        ((lastNew getKey isStored infos key).map toJsonString).or (kvStore.lookup key)
  | [], _, _ => rfl
  | none :: infos, map, kvStore => lookup_puts infos map kvStore
  | some r :: infos, map, kvStore => by
    have hputs : (writeCache getKey toJsonString isStored (some r :: infos) map).2 =
        if isStored r then (writeCache getKey toJsonString isStored infos (map.set (getKey r) r)).2
        else (getKey r, toJsonString r) ::
          (writeCache getKey toJsonString isStored infos (map.set (getKey r) r)).2 := by
      rw [writeCache]
      split_ifs <;> rfl
    rw [hputs]
    cases hstored : isStored r with
    | true =>
      have hnew : lastNew getKey isStored (some r :: infos) key =
          lastNew getKey isStored infos key := by
        simp [lastNew, hstored]
      rw [hnew, if_pos rfl]
      exact lookup_puts infos _ kvStore
    | false =>
      have hnew : lastNew getKey isStored (some r :: infos) key =
          (lastNew getKey isStored infos key).or (if getKey r = key then some r else none) := by
        simp only [lastNew, List.filter_cons_of_pos (show (some r).any (fun r => !isStored r) = true
          by simp [hstored]), lastOf_cons_some]
      rw [if_neg Bool.false_ne_true, List.foldl_cons, lookup_puts infos _ _, hnew, Table.lookup_set]
      cases lastNew getKey isStored infos key with
      | some r' => simp
      | none => by_cases hk : getKey r = key <;> simp [hk, eq_comm (a := key)]

/-- What the store has after an addition. -/
theorem lookup_kvStore_addInfos (h : Accepted infos s) :
    (addInfos getKey toJsonString isStored db infos s).2.kvStore.lookup key =
      addedText getKey toJsonString isStored db infos s key := by
  obtain ⟨hne, hlen, hadapter⟩ := h
  let w := writeCache getKey toJsonString isStored infos s.globalInfoMap_
  have hw : addInfos getKey toJsonString isStored db infos s =
      if w.2 = [] then (DH_FWK_SUCCESS, { s with globalInfoMap_ := w.1 })
      else if (putDataBatch db w.2 s.kvStore).1 ≠ DH_FWK_SUCCESS then
        (ERR_DH_FWK_RESOURCE_DB_ADAPTER_OPERATION_FAIL, { s with globalInfoMap_ := w.1 })
      else (DH_FWK_SUCCESS, ⟨w.1, s.dbAdapterPtr_, (putDataBatch db w.2 s.kvStore).2⟩) :=
    (if_neg (not_or.2 ⟨hne, not_lt.2 hlen⟩)).trans (if_neg (by simp [hadapter]))
  have hputs : (w.2.foldl (fun t put => t.set put.1 put.2) s.kvStore).lookup key =
      ((lastNew getKey isStored infos key).map toJsonString).or (s.kvStore.lookup key) :=
    lookup_puts infos _ _
  rw [hw, addedText, ← hputs]
  by_cases hnil : w.2 = []
  · rw [if_pos hnil, hnil, List.foldl_nil, ite_self]
  have hput := putDataBatch_eq db hnil
    ((length_writeCache getKey toJsonString isStored infos _).trans hlen) s.kvStore
  rw [if_neg hnil, hput]
  cases db.kvStoragePtr_ <;> cases db.putBatch <;> simp

/-- An addition that is not accepted does nothing. -/
theorem addInfos_of_not_accepted (h : ¬Accepted infos s) :
    (addInfos getKey toJsonString isStored db infos s).2 = s := by
  unfold addInfos
  split_ifs with hsize hadapter
  · rfl
  · rw [not_or, not_lt] at hsize
    exact absurd ⟨hsize.1, hsize.2, hadapter⟩ h
  · rfl

/-- The cache stays right under a key exactly if the records of the key are rightly added. -/
theorem sound_addInfos_iff {read : Option String → Option T} {untold : List (Option String)}
    (h : Follower.Sound read ⟨s.kvStore.lookup key, untold, s.globalInfoMap_.lookup key⟩) :
    Follower.Sound read
        ⟨(addInfos getKey toJsonString isStored db infos s).2.kvStore.lookup key, untold,
          (addInfos getKey toJsonString isStored db infos s).2.globalInfoMap_.lookup key⟩ ↔
      RightlyAdded getKey toJsonString isStored db infos s key read untold := by
  by_cases haccepted : Accepted infos s
  swap
  · rw [addInfos_of_not_accepted haccepted]
    exact iff_of_true h fun hacc => absurd hacc haccepted
  rw [lookup_kvStore_addInfos haccepted, RightlyAdded, imp_iff_right haccepted,
    (written_addInfos getKey toJsonString isStored db infos s).cached haccepted.1 haccepted.2.1
      haccepted.2.2]
  cases hlast : lastOf getKey infos key with
  | none =>
    have htext : addedText getKey toJsonString isStored db infos s key = s.kvStore.lookup key := by
      rw [addedText, lastNew_eq_none hlast]
      exact ite_self _
    rw [htext]
    exact iff_of_true h fun r hr => nomatch hr
  | some r =>
    rw [Option.some_or]
    constructor
    · rintro ⟨hfresh, hcurrent⟩ r' hr'
      obtain rfl := Option.some.inj hr'
      exact ⟨fun hnil => Follower.reads_some_iff.1 (hfresh hnil), hcurrent⟩
    · intro hgood
      obtain ⟨hfresh, hcurrent⟩ := hgood r rfl
      exact ⟨fun hnil => Follower.reads_some_iff.2 (hfresh hnil), hcurrent⟩

/-- What is added under its key leaves the texts under their keys. -/
theorem storeProper_addInfos {kind : RecordKind T} {cJSON : Codec}
    (hproper : ∀ info, some info ∈ infos → Proper kind cJSON ⟨getKey info, toJsonString info⟩)
    (h : StoreProper kind cJSON s.kvStore) :
    StoreProper kind cJSON (addInfos getKey toJsonString isStored db infos s).2.kvStore := by
  by_cases haccepted : Accepted infos s
  swap
  · rw [addInfos_of_not_accepted haccepted]
    exact h
  intro key text htext
  rw [lookup_kvStore_addInfos haccepted, addedText] at htext
  split_ifs at htext
  · obtain hnew | ⟨-, hold⟩ := Option.or_eq_some_iff.1 htext
    · obtain ⟨r, hr, rfl⟩ := Option.map_eq_some_iff.1 hnew
      obtain ⟨hmem, rfl⟩ := lastNew_eq_some hr
      exact hproper r hmem
    · exact h key text hold
  · exact h key text htext

end Added

/-! ## Removals and syncs -/

section Own

variable {T : Type} {kind : RecordKind T} {cJSON : Codec} {key : String}
  {s s' : InfoStore T} {untold : List (Option String)}

/-- The store is as it was, and the cache has under the key what it had, what the store has, or
nothing. -/
structure Rereads (kind : RecordKind T) (cJSON : Codec) (key : String) (s s' : InfoStore T) :
    Prop where
  kvStore : s'.kvStore = s.kvStore
  copy : s'.globalInfoMap_.lookup key = s.globalInfoMap_.lookup key ∨
    Follower.Reads (readText kind cJSON) (s.kvStore.lookup key) (s'.globalInfoMap_.lookup key)

theorem Rereads.refl (s : InfoStore T) : Rereads kind cJSON key s s :=
  ⟨rfl, .inl rfl⟩

theorem Rereads.trans {s'' : InfoStore T} (h : Rereads kind cJSON key s s')
    (h' : Rereads kind cJSON key s' s'') : Rereads kind cJSON key s s'' where
  kvStore := h'.kvStore.trans h.kvStore
  copy := by
    obtain heq | hreads := h'.copy
    · rw [heq]
      exact h.copy
    · rw [h.kvStore] at hreads
      exact .inr hreads

/-- Then the cache stays right. -/
theorem Rereads.sound (hr : Rereads kind cJSON key s s')
    (h : Follower.Sound (readText kind cJSON)
      ⟨s.kvStore.lookup key, untold, s.globalInfoMap_.lookup key⟩) :
    Follower.Sound (readText kind cJSON)
      ⟨s'.kvStore.lookup key, untold, s'.globalInfoMap_.lookup key⟩ := by
  rw [hr.kvStore]
  exact h.copied hr.copy

theorem Rereads.proper (hr : ∀ key, Rereads kind cJSON key s s')
    (h : StoreProper kind cJSON s.kvStore) : StoreProper kind cJSON s'.kvStore :=
  (hr "").kvStore ▸ h

theorem mem_getDataByKeyPrefix {db : StoreAnswers} {kvStore : Table String String} {pre : String}
    {dataVector : List String} (h : DBAdapter.getDataByKeyPrefix db kvStore pre = .ok dataVector)
    {data : String} (hdata : data ∈ dataVector) : ∃ key, kvStore.lookup key = some data := by
  unfold DBAdapter.getDataByKeyPrefix at h
  dsimp only at h
  split_ifs at h
  obtain rfl := Except.ok.inj h
  obtain ⟨key, -, hkey⟩ := List.mem_filterMap.1 hdata
  exact ⟨key, hkey⟩

/-- Texts of the store are cached under their own keys. -/
theorem lookup_saveRecords {kvStore : Table String String} (hstore : StoreProper kind cJSON kvStore)
    (isLocal : T → Bool) : ∀ (dataVector : List String) (map : Table String T),
    (∀ data ∈ dataVector, ∃ key, kvStore.lookup key = some data) →
      (saveRecords kind cJSON isLocal dataVector map).lookup key = map.lookup key ∨
        Follower.Reads (readText kind cJSON) (kvStore.lookup key)
          ((saveRecords kind cJSON isLocal dataVector map).lookup key)
  | [], _, _ => .inl rfl
  | data :: dataVector, map, hdata => by
    obtain ⟨⟨key', hkey'⟩, hrest⟩ := List.forall_mem_cons.1 hdata
    rw [saveRecords, List.foldl_cons, ← saveRecords]
    cases hparse : kind.getCapabilityByValue cJSON data with
    | none => exact lookup_saveRecords hstore isLocal dataVector map hrest
    | some cap =>
      dsimp only
      split_ifs
      · exact lookup_saveRecords hstore isLocal dataVector map hrest
      · obtain heq | hreads := lookup_saveRecords hstore isLocal dataVector
          (map.set (kind.getKey cap) cap) hrest
        swap
        · exact .inr hreads
        rw [heq, Table.lookup_set]
        split_ifs with hk
        · have hproper : kind.getKey cap = key' := hstore key' data hkey' cap hparse
          rw [hk, hproper, hkey']
          exact .inr (.inr hparse.symm)
        · exact .inl rfl

theorem rereads_syncInfoFromDB (hstore : StoreProper kind cJSON s.kvStore) (db : StoreAnswers)
    (id : String) : Rereads kind cJSON key s (syncInfoFromDB kind cJSON db id s).2 := by
  unfold syncInfoFromDB
  split_ifs
  · cases hdata : DBAdapter.getDataByKeyPrefix db s.kvStore id with
    | error _ => exact .refl s
    | ok dataVector =>
      dsimp only
      split_ifs
      · exact .refl s
      · exact ⟨rfl, lookup_saveRecords hstore _ _ _ fun _ => mem_getDataByKeyPrefix hdata⟩
  · exact .refl s

theorem rereads_syncRemoteDevice (hstore : StoreProper kind cJSON s.kvStore) (isLocal : T → Bool)
    (db : String → StoreAnswers) (id : String) :
    Rereads kind cJSON key s (syncRemoteDevice kind cJSON isLocal db s id) := by
  unfold syncRemoteDevice
  cases hdata : DBAdapter.getDataByKeyPrefix (db id) s.kvStore id with
  | error _ => exact .refl s
  | ok dataVector =>
    dsimp only
    split_ifs
    · exact .refl s
    · exact ⟨rfl, lookup_saveRecords hstore _ _ _ fun _ => mem_getDataByKeyPrefix hdata⟩

theorem rereads_syncRemoteInfos (hstore : StoreProper kind cJSON s.kvStore) (isLocal : T → Bool)
    (db : String → StoreAnswers) (ids : List String) :
    Rereads kind cJSON key s (syncRemoteInfos kind cJSON isLocal db ids s).2 := by
  have hloop : ∀ (ids : List String) {t : InfoStore T}, Rereads kind cJSON key s t →
      Rereads kind cJSON key s (ids.foldl (syncRemoteDevice kind cJSON isLocal db) t) := by
    intro ids
    induction ids with
    | nil => exact fun h => h
    | cons id ids ih =>
      intro t h
      exact ih (h.trans (rereads_syncRemoteDevice (h.kvStore ▸ hstore) isLocal db id))
  unfold syncRemoteInfos
  split_ifs
  · exact hloop ids (.refl s)
  · exact .refl s

/-- What is taken out of the store leaves the other texts under their keys. -/
theorem StoreProper.of_subset {kvStore kvStore' : Table String String}
    (h : StoreProper kind cJSON kvStore)
    (hsub : ∀ key text, kvStore'.lookup key = some text → kvStore.lookup key = some text) :
    StoreProper kind cJSON kvStore' :=
  fun key text htext => h key text (hsub key text htext)

end Own

/-! ## The two managers -/

namespace CapabilityInfoManager

variable {cJSON : Codec} {key : String} {s : InfoStore CapabilityInfo}
  {untold : List (Option String)}

/-- Records are rightly added. A removal that gets into the store has nothing to come after it that
writes the key. -/
def Good (key : String) (untold : List (Option String)) (s : InfoStore CapabilityInfo) :
    Operation cJSON → Prop
  | .addCapability db resInfos _ =>
    RightlyAdded CapabilityInfo.getKey (CapabilityInfo.toJsonString cJSON)
      (fun resInfo => (getDataByKey db s.kvStore resInfo.getKey).any fun data =>
        isCapInfoJsonEqual cJSON data (resInfo.toJsonString cJSON))
      db resInfos s key (readText kind cJSON) untold
  | .removeCapabilityInfoByKey db key' =>
    key' = key → isIdLengthValid key = true → s.dbAdapterPtr_ = true → db.kvStoragePtr_ = true →
      db.delete = true → ∀ u ∈ untold.getLast?, u = none
  | _ => True

theorem removeCapabilityInfoByKey_lookup (db : StoreAnswers) (key' : String) :
    (removeCapabilityInfoByKey db key' s).2.kvStore.lookup key =
        (if key' = key ∧ isIdLengthValid key = true ∧ s.dbAdapterPtr_ = true ∧
          db.kvStoragePtr_ = true ∧ db.delete = true then none else s.kvStore.lookup key) ∧
      (removeCapabilityInfoByKey db key' s).2.globalInfoMap_.lookup key =
        (if key' = key ∧ isIdLengthValid key = true ∧ s.dbAdapterPtr_ = true then none
        else s.globalInfoMap_.lookup key) := by
  unfold removeCapabilityInfoByKey DBAdapter.removeDataByKey
  by_cases hk : key' = key
  · subst hk
    cases isIdLengthValid key' <;> cases s.dbAdapterPtr_ <;> cases db.kvStoragePtr_ <;>
      cases db.delete <;> simp
  · cases isIdLengthValid key' <;> cases s.dbAdapterPtr_ <;> cases db.kvStoragePtr_ <;>
      cases db.delete <;> simp [hk, Table.lookup_remove_ne _ (Ne.symm hk)]

theorem sound_removeCapabilityInfoByKey_iff (db : StoreAnswers) (key' : String)
    (h : Follower.Sound (readText kind cJSON)
      ⟨s.kvStore.lookup key, untold, s.globalInfoMap_.lookup key⟩) :
    Follower.Sound (readText kind cJSON)
        ⟨(removeCapabilityInfoByKey db key' s).2.kvStore.lookup key, untold,
          (removeCapabilityInfoByKey db key' s).2.globalInfoMap_.lookup key⟩ ↔
      Good key untold s (.removeCapabilityInfoByKey db key' : Operation cJSON) := by
  obtain ⟨hstore, hcache⟩ : _ ∧ _ := removeCapabilityInfoByKey_lookup db key'
  by_cases hgone : key' = key ∧ isIdLengthValid key = true ∧ s.dbAdapterPtr_ = true
  swap
  · -- The call does not get to the key.
    rw [hstore, hcache, if_neg hgone, if_neg fun hall => hgone ⟨hall.1, hall.2.1, hall.2.2.1⟩]
    exact iff_of_true h fun hk hid hadapter => absurd ⟨hk, hid, hadapter⟩ hgone
  obtain ⟨hk, hid, hadapter⟩ := hgone
  rw [hcache, if_pos ⟨hk, hid, hadapter⟩]
  by_cases hdone : db.kvStoragePtr_ = true ∧ db.delete = true
  · rw [hstore, if_pos ⟨hk, hid, hadapter, hdone⟩]
    exact ⟨fun hsound _ _ _ _ _ => hsound.current,
      fun hgood => ⟨fun _ => Follower.reads_none _, hgood hk hid hadapter hdone.1 hdone.2⟩⟩
  · rw [hstore, if_neg fun hall => hdone hall.2.2.2]
    exact iff_of_true (h.copied (.inr (Follower.reads_none _)))
      fun _ _ _ hopen hdelete => absurd ⟨hopen, hdelete⟩ hdone

theorem rereads_removeCapabilityInfoInMem (deviceId : String) :
    Rereads kind cJSON key s (removeCapabilityInfoInMem deviceId s).2 := by
  unfold removeCapabilityInfoInMem
  split_ifs
  · refine ⟨rfl, ?_⟩
    dsimp only
    rw [Owner.lookup_eraseDevice]
    split_ifs
    · exact .inr (Follower.reads_none _)
    · exact .inl rfl
  · exact .refl s

theorem rereads_syncDeviceInfoFromDB (hstore : StoreProper kind cJSON s.kvStore)
    (db : StoreAnswers) (deviceId : String) :
    Rereads kind cJSON key s (syncDeviceInfoFromDB cJSON db deviceId s).2 := by
  unfold syncDeviceInfoFromDB
  split_ifs
  · exact rereads_syncInfoFromDB hstore db deviceId
  · exact .refl s

/-- The manager of the capabilities. -/
def manager (cJSON : Codec) : CacheManager CapabilityInfo cJSON where
  kind := kind
  handlers := handlers
  handled := handledEntries
  Operation := Operation cJSON
  perform := perform
  Good := Good
  perform_proper s o h := by
    cases o with
    | init | unInit => exact h
    | addCapability db resInfos proper => exact storeProper_addInfos proper h
    | removeCapabilityInfoByKey db key' =>
      refine h.of_subset fun key text htext => ?_
      rw [perform, (removeCapabilityInfoByKey_lookup db key').1] at htext
      split_ifs at htext
      exact htext
    | removeCapabilityInfoInMem deviceId =>
      exact Rereads.proper (fun _ => rereads_removeCapabilityInfoInMem deviceId) h
    | syncDeviceInfoFromDB db deviceId =>
      exact Rereads.proper (fun _ => rereads_syncDeviceInfoFromDB h db deviceId) h
    | syncRemoteCapabilityInfos db deviceIdVec localDeviceId =>
      exact Rereads.proper (fun _ => rereads_syncRemoteInfos h _ db deviceIdVec) h
  perform_iff key untold s o hstore h := by
    cases o with
    | init | unInit => exact iff_of_true h trivial
    | addCapability db resInfos proper => exact sound_addInfos_iff h
    | removeCapabilityInfoByKey db key' => exact sound_removeCapabilityInfoByKey_iff db key' h
    | removeCapabilityInfoInMem deviceId =>
      exact iff_of_true ((rereads_removeCapabilityInfoInMem deviceId).sound h) trivial
    | syncDeviceInfoFromDB db deviceId =>
      exact iff_of_true ((rereads_syncDeviceInfoFromDB hstore db deviceId).sound h) trivial
    | syncRemoteCapabilityInfos db deviceIdVec localDeviceId =>
      exact iff_of_true ((rereads_syncRemoteInfos hstore _ db deviceIdVec).sound h) trivial

end CapabilityInfoManager

namespace MetaInfoManager

variable {cJSON : Codec} {key : String} {s : InfoStore MetaCapabilityInfo}
  {untold : List (Option String)}

/-- The store takes the entry of the key out when the peer is cleared. -/
def TakenOut (hash peeruuid : String) (db : ClearAnswers) (key : String) : Prop :=
  db.Takes hash key ∨ db.Removes peeruuid ∧ db.origin key = peeruuid

/-- Records are rightly added. What is taken out of the store with a peer is swept from the cache,
or is not in it, unless there is more to tell, and that ends with nothing under the key. -/
def Good (key : String) (untold : List (Option String)) (s : InfoStore MetaCapabilityInfo) :
    Operation cJSON → Prop
  | .addMetaCapInfos db metaCapInfos _ =>
    RightlyAdded MetaCapabilityInfo.getKey (MetaCapabilityInfo.toJsonString cJSON)
      (fun metaCapInfo => getDataByKey db s.kvStore metaCapInfo.getKey =
        some (metaCapInfo.toJsonString cJSON))
      db metaCapInfos s key (readText kind cJSON) untold
  | .clearRemoteDeviceMetaInfoData sha256 db peerudid peeruuid =>
    s.dbAdapterPtr_ = true → s.kvStore.lookup key ≠ none →
      TakenOut (sha256 peerudid) peeruuid db key →
        (untold = [] → s.globalInfoMap_.lookup key = none ∨
          db.Removes peeruuid ∧ isCapKeyMatchDeviceId key (sha256 peerudid) = true) ∧
        ∀ u ∈ untold.getLast?, u = none
  | _ => True

theorem clearRemoteDeviceMetaInfoData_lookup (sha256 : String → String) (db : ClearAnswers)
    (peerudid peeruuid key : String) (hadapter : s.dbAdapterPtr_ = true) :
    let r := clearRemoteDeviceMetaInfoData sha256 db peerudid peeruuid s
    (TakenOut (sha256 peerudid) peeruuid db key → r.2.kvStore.lookup key = none) ∧
      (¬TakenOut (sha256 peerudid) peeruuid db key →
        r.2.kvStore.lookup key = s.kvStore.lookup key) ∧
      (db.Removes peeruuid ∧ isCapKeyMatchDeviceId key (sha256 peerudid) = true →
        r.2.globalInfoMap_.lookup key = none) ∧
      (¬(db.Removes peeruuid ∧ isCapKeyMatchDeviceId key (sha256 peerudid) = true) →
        r.2.globalInfoMap_.lookup key = s.globalInfoMap_.lookup key) := by
  intro r
  have hcleared : (clearDataByPrefix sha256 db peerudid s.kvStore).2.lookup key =
      if db.Takes (sha256 peerudid) key then none else s.kvStore.lookup key :=
    lookup_clearDataByPrefix peerudid key
  have hr : r = clearRemoteDeviceMetaInfoData sha256 db peerudid peeruuid s := rfl
  rw [clearRemoteDeviceMetaInfoData, if_neg (not_not.2 hadapter)] at hr
  dsimp only at hr
  obtain ⟨hremoves, heq⟩ | ⟨hremoves, hret, hsame⟩ :=
    removeDeviceData_eq db peeruuid (clearDataByPrefix sha256 db peerudid s.kvStore).2
  · rw [heq, if_neg (not_not.2 rfl)] at hr
    have hstore : r.2.kvStore.lookup key =
        if db.origin key = peeruuid then none
        else if db.Takes (sha256 peerudid) key then none else s.kvStore.lookup key := by
      rw [hr, ← hcleared]
      simpa [removeMetaInfoInMemByUdid] using Table.lookup_removeAll_filter _
        (fun key => decide (db.origin key = peeruuid)) key
    have hcache : r.2.globalInfoMap_.lookup key =
        if isCapKeyMatchDeviceId key (sha256 peerudid) = true then none
        else s.globalInfoMap_.lookup key := by
      rw [hr]
      exact Owner.lookup_eraseDevice key
    rw [hstore, hcache]
    refine ⟨fun htaken => ?_, fun htaken => ?_, fun hswept => if_pos hswept.2,
      fun hswept => if_neg fun hmatch => hswept ⟨hremoves, hmatch⟩⟩
    · obtain htakes | ⟨-, horigin⟩ := htaken
      · rw [if_pos htakes, ite_self]
      · exact if_pos horigin
    · rw [if_neg fun horigin => htaken (.inr ⟨hremoves, horigin⟩),
        if_neg fun htakes => htaken (.inl htakes)]
  · rw [if_pos hret, hsame] at hr
    have hstore : r.2.kvStore.lookup key =
        if db.Takes (sha256 peerudid) key then none else s.kvStore.lookup key := by
      rw [hr, ← hcleared]
    have hcache : r.2.globalInfoMap_.lookup key = s.globalInfoMap_.lookup key := by
      rw [hr]
    rw [hstore, hcache]
    refine ⟨fun htaken => ?_, fun htaken => if_neg fun htakes => htaken (.inl htakes),
      fun hswept => absurd hswept.1 hremoves, fun _ => rfl⟩
    exact htaken.elim (fun htakes => if_pos htakes) fun h => absurd h.1 hremoves

theorem sound_clearRemoteDeviceMetaInfoData_iff (sha256 : String → String) (db : ClearAnswers)
    (peerudid peeruuid : String) (h : Follower.Sound (readText kind cJSON)
      ⟨s.kvStore.lookup key, untold, s.globalInfoMap_.lookup key⟩) :
    let r := clearRemoteDeviceMetaInfoData sha256 db peerudid peeruuid s
    Follower.Sound (readText kind cJSON)
        ⟨r.2.kvStore.lookup key, untold, r.2.globalInfoMap_.lookup key⟩ ↔
      Good key untold s
        (.clearRemoteDeviceMetaInfoData sha256 db peerudid peeruuid : Operation cJSON) := by
  intro r
  by_cases hadapter : s.dbAdapterPtr_ = true
  swap
  · have hr : r.2 = s := by
      simp only [r]
      rw [clearRemoteDeviceMetaInfoData, if_pos hadapter]
    rw [hr]
    exact iff_of_true h fun hyes => absurd hyes hadapter
  obtain ⟨htakenOut, hstays, hswept, hkept⟩ := clearRemoteDeviceMetaInfoData_lookup sha256 db
    peerudid peeruuid key hadapter
  have hcache : r.2.globalInfoMap_.lookup key = s.globalInfoMap_.lookup key ∨
      r.2.globalInfoMap_.lookup key = none :=
    (em (db.Removes peeruuid ∧ isCapKeyMatchDeviceId key (sha256 peerudid) = true)).elim
      (fun hyes => .inr (hswept hyes)) fun hno => .inl (hkept hno)
  -- Where the store keeps what it has, the cache keeps its record or loses it.
  by_cases hgone : s.kvStore.lookup key ≠ none ∧ TakenOut (sha256 peerudid) peeruuid db key
  swap
  · have hsame : r.2.kvStore.lookup key = s.kvStore.lookup key := by
      by_cases htaken : TakenOut (sha256 peerudid) peeruuid db key
      · exact (htakenOut htaken).trans (not_not.1 fun hne => hgone ⟨Ne.symm hne, htaken⟩)
      · exact hstays htaken
    rw [hsame]
    refine iff_of_true (h.copied ?_) fun _ hne htaken => absurd ⟨hne, htaken⟩ hgone
    exact hcache.imp_right .inl
  obtain ⟨hne, htaken⟩ := hgone
  rw [Good, imp_iff_right hadapter, imp_iff_right hne, imp_iff_right htaken, htakenOut htaken]
  have hnone : Follower.Reads (readText kind cJSON) none (r.2.globalInfoMap_.lookup key) ↔
      s.globalInfoMap_.lookup key = none ∨
        db.Removes peeruuid ∧ isCapKeyMatchDeviceId key (sha256 peerudid) = true := by
    have hreads : Follower.Reads (readText kind cJSON) none (r.2.globalInfoMap_.lookup key) ↔
        r.2.globalInfoMap_.lookup key = none := or_self_iff
    rw [hreads]
    by_cases hyes : db.Removes peeruuid ∧ isCapKeyMatchDeviceId key (sha256 peerudid) = true
    · exact iff_of_true (hswept hyes) (.inr hyes)
    · rw [hkept hyes]
      exact (or_iff_left hyes).symm
  rw [← hnone]
  exact ⟨fun hsound => ⟨hsound.fresh, hsound.current⟩, fun hgood => ⟨hgood.1, hgood.2⟩⟩

theorem rereads_syncMetaInfoFromDB (hstore : StoreProper kind cJSON s.kvStore)
    (db : StoreAnswers) (udidHash : String) :
    Rereads kind cJSON key s (syncMetaInfoFromDB cJSON db udidHash s).2 := by
  unfold syncMetaInfoFromDB
  split_ifs
  · exact rereads_syncInfoFromDB hstore db udidHash
  · exact .refl s

/-- The manager of the meta records. -/
def manager (cJSON : Codec) : CacheManager MetaCapabilityInfo cJSON where
  kind := kind
  handlers := handlers
  handled := handledEntries
  Operation := Operation cJSON
  perform := perform
  Good := Good
  perform_proper s o h := by
    cases o with
    | init | unInit => exact h
    | addMetaCapInfos db metaCapInfos proper => exact storeProper_addInfos proper h
    | clearRemoteDeviceMetaInfoData sha256 db peerudid peeruuid =>
      by_cases hadapter : s.dbAdapterPtr_ = true
      · refine h.of_subset fun key text htext => ?_
        obtain ⟨htakenOut, hstays, -⟩ := clearRemoteDeviceMetaInfoData_lookup sha256 db
          peerudid peeruuid key hadapter
        by_cases htaken : TakenOut (sha256 peerudid) peeruuid db key
        · rw [perform, htakenOut htaken] at htext
          cases htext
        · rwa [perform, hstays htaken] at htext
      · rw [perform, clearRemoteDeviceMetaInfoData, if_pos hadapter]
        exact h
    | syncMetaInfoFromDB db udidHash =>
      exact Rereads.proper (fun _ => rereads_syncMetaInfoFromDB h db udidHash) h
    | syncRemoteMetaInfos db udidHashVec localUdidHash =>
      exact Rereads.proper (fun _ => rereads_syncRemoteInfos h _ db udidHashVec) h
  perform_iff key untold s o hstore h := by
    cases o with
    | init | unInit => exact iff_of_true h trivial
    | addMetaCapInfos db metaCapInfos proper => exact sound_addInfos_iff h
    | clearRemoteDeviceMetaInfoData sha256 db peerudid peeruuid =>
      exact sound_clearRemoteDeviceMetaInfoData_iff sha256 db peerudid peeruuid h
    | syncMetaInfoFromDB db udidHash =>
      exact iff_of_true ((rereads_syncMetaInfoFromDB hstore db udidHash).sound h) trivial
    | syncRemoteMetaInfos db udidHashVec localUdidHash =>
      exact iff_of_true ((rereads_syncRemoteInfos hstore _ db udidHashVec).sound h) trivial

end MetaInfoManager

end DHFwk
