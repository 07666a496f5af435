import DHFwk.RemoteCaps
import DHFwk.DBAdapter

/-!
# Records that are added to a cache and its store

`CapabilityInfoManager`, `MetaInfoManager` and `LocalCapabilityInfoManager` add a list of
records alike : a loop puts each in the cache and notes those that the store does not have
yet, and what was noted is put in the store as one batch. They differ in when the store
has a record (`addRecords`).

The cache is written first, and what the store says of the batch does not take it back.
A list that is too short or too long and a missing adapter leave the cache as it was; in
every other case, also when the batch is refused, the cache has the last record of each
key in the list and is otherwise unchanged (`cache_written`). On a list without null
pointers `addRecords` is what `RemoteCaps` uses to save an answer
(`addMetaCapInfos_map_some`).
-/

set_option linter.unusedSectionVars false

namespace DHFwk

open Json

/-- What the store answers : whether it is open, the keys at which `Get` succeeds if there is
an entry, and whether it takes a batch. -/
structure KvAnswers where
  kvStoragePtr_ : Bool := true
  get : String → Bool := fun _ => true
  putBatch : Bool := true

section AddRecords

variable {T : Type}

/-- `GetDataByKey`. -/
def getDataByKey (db : KvAnswers) (kvStore : Table String String) (key : String) : Option String :=
  if ¬isIdLengthValid key then none
  else if ¬db.kvStoragePtr_ then none
  else if db.get key then kvStore.lookup key else none

/-- `PutDataBatch`, with the keys and the values in pairs. -/
def putDataBatch (db : KvAnswers) (puts : List (String × String)) (kvStore : Table String String) :
    Int × Table String String :=
  if ¬isArrayLengthValid (puts.map Prod.fst) ∨ ¬isArrayLengthValid (puts.map Prod.snd) then
    (ERR_DH_FWK_PARA_INVALID, kvStore)
  else if ¬db.kvStoragePtr_ then (ERR_DH_FWK_RESOURCE_KV_STORAGE_POINTER_NULL, kvStore)
  else if ¬db.putBatch then (ERR_DH_FWK_RESOURCE_KV_STORAGE_OPERATION_FAIL, kvStore)
  else (DH_FWK_SUCCESS, puts.foldl (fun t put => t.set put.1 put.2) kvStore)

variable (getKey toJsonString : T → String) (isStored : T → Bool)

/-- The loop over the records : each is put in the cache, and noted with its text unless it is
stored. -/
def writeCache : List (Option T) → Table String T → Table String T × List (String × String)
  | [], map => (map, [])
  | none :: infos, map => writeCache infos map
  | some info :: infos, map =>
    let (map', puts) := writeCache infos (map.set (getKey info) info)
    if isStored info then (map', puts) else (map', (getKey info, toJsonString info) :: puts)

/-- What the three managers have in common. -/
def addInfos (db : KvAnswers) (infos : List (Option T)) (s : InfoStore T) : Int × InfoStore T :=
  if infos = [] ∨ infos.length > MAX_WRITE_DB_DATA_SIZE then
    (ERR_DH_FWK_RESOURCE_RES_DB_DATA_INVALID, s)
  else if ¬s.dbAdapterPtr_ then (ERR_DH_FWK_RESOURCE_DB_ADAPTER_POINTER_NULL, s)
  else
    let (map, puts) := writeCache getKey toJsonString isStored infos s.globalInfoMap_
    if puts = [] then (DH_FWK_SUCCESS, { s with globalInfoMap_ := map })
    else
      let (ret, kvStore) := putDataBatch db puts s.kvStore
      if ret ≠ DH_FWK_SUCCESS then
        (ERR_DH_FWK_RESOURCE_DB_ADAPTER_OPERATION_FAIL, { s with globalInfoMap_ := map })
      else (DH_FWK_SUCCESS, { s with globalInfoMap_ := map, kvStore := kvStore })

end AddRecords

/-- `CapabilityInfo::Compare`. -/
def CapabilityInfo.compare (c capInfo : CapabilityInfo) : Bool :=
  cStr c.deviceId_ = cStr capInfo.deviceId_ ∧ cStr c.dhId_ = cStr capInfo.dhId_ ∧
    cStr c.deviceName_ = cStr capInfo.deviceName_ ∧ c.deviceType_ = capInfo.deviceType_ ∧
    c.dhType_ = capInfo.dhType_ ∧ cStr c.dhAttrs_ = cStr capInfo.dhAttrs_ ∧
    cStr c.dhSubtype_ = cStr capInfo.dhSubtype_

/-- `IsCapInfoJsonEqual`. -/
def isCapInfoJsonEqual (cJSON : Codec) (firstData lastData : String) : Bool :=
  match cJSON.parse firstData, cJSON.parse lastData with
  | some firstJson, some lastJson =>
    (CapabilityInfo.fromJson firstJson {}).compare (CapabilityInfo.fromJson lastJson {})
  | _, _ => false

namespace CapabilityInfoManager

/-- `AddCapability` : a record that the store has in another spelling is not put again. -/
def addCapability (cJSON : Codec) (db : KvAnswers) (resInfos : List (Option CapabilityInfo))
    (s : InfoStore CapabilityInfo) : Int × InfoStore CapabilityInfo :=
  let isStored (resInfo : CapabilityInfo) : Bool :=
    (getDataByKey db s.kvStore resInfo.getKey).any fun data =>
      isCapInfoJsonEqual cJSON data (resInfo.toJsonString cJSON)
  addInfos CapabilityInfo.getKey (CapabilityInfo.toJsonString cJSON) isStored db resInfos s

end CapabilityInfoManager

namespace MetaInfoManager

/-- `AddMetaCapInfos` : a text that the store has is not put again. -/
def addMetaCapInfos (cJSON : Codec) (db : KvAnswers)
    (metaCapInfos : List (Option MetaCapabilityInfo)) (s : InfoStore MetaCapabilityInfo) :
    Int × InfoStore MetaCapabilityInfo :=
  let isStored (metaCapInfo : MetaCapabilityInfo) : Bool :=
    getDataByKey db s.kvStore metaCapInfo.getKey = some (metaCapInfo.toJsonString cJSON)
  addInfos MetaCapabilityInfo.getKey (MetaCapabilityInfo.toJsonString cJSON) isStored db
    metaCapInfos s

end MetaInfoManager

namespace LocalCapabilityInfoManager

/-- `AddCapability` : every record is put. -/
def addCapability (cJSON : Codec) (db : KvAnswers) (resInfos : List (Option CapabilityInfo))
    (s : InfoStore CapabilityInfo) : Int × InfoStore CapabilityInfo :=
  addInfos CapabilityInfo.getKey (CapabilityInfo.toJsonString cJSON) (fun _ => false) db resInfos s

end LocalCapabilityInfoManager

/-! ## What the cache has after -/

section Written

variable {T : Type} (getKey toJsonString : T → String) (isStored : T → Bool) (db : KvAnswers)

/-- The last record of a key in the list. -/
def lastOf (infos : List (Option T)) (key : String) : Option T :=
  (infos.filterMap id).reverse.find? fun info => getKey info = key

/-- What an addition of `infos` to `s` answers and does to the cache. It is turned down before
the cache is touched if the list is empty or too long or the adapter is missing. Else the last
record of each key is in the cache and the other entries are unchanged; and it fails exactly
if some record is not stored and the store is closed or refuses. -/
structure Written (infos : List (Option T)) (s : InfoStore T) (r : Int × InfoStore T) : Prop where
  invalid : infos = [] ∨ infos.length > MAX_WRITE_DB_DATA_SIZE →
    r.1 = ERR_DH_FWK_RESOURCE_RES_DB_DATA_INVALID ∧ r.2.globalInfoMap_ = s.globalInfoMap_
  missing : infos ≠ [] → infos.length ≤ MAX_WRITE_DB_DATA_SIZE → s.dbAdapterPtr_ = false →
    r.1 = ERR_DH_FWK_RESOURCE_DB_ADAPTER_POINTER_NULL ∧ r.2.globalInfoMap_ = s.globalInfoMap_
  cached : infos ≠ [] → infos.length ≤ MAX_WRITE_DB_DATA_SIZE → s.dbAdapterPtr_ = true →
    ∀ key, r.2.globalInfoMap_.lookup key = (lastOf getKey infos key).or (s.globalInfoMap_.lookup key)
  refused : infos ≠ [] → infos.length ≤ MAX_WRITE_DB_DATA_SIZE → s.dbAdapterPtr_ = true →
    (db.kvStoragePtr_ = false ∨ db.putBatch = false) →
      (∃ info, some info ∈ infos ∧ isStored info = false) →
        r.1 = ERR_DH_FWK_RESOURCE_DB_ADAPTER_OPERATION_FAIL
  success : infos ≠ [] → infos.length ≤ MAX_WRITE_DB_DATA_SIZE → s.dbAdapterPtr_ = true →
    (db.kvStoragePtr_ = true ∧ db.putBatch = true ∨
      ∀ info, some info ∈ infos → isStored info = true) → r.1 = DH_FWK_SUCCESS

/-- Where the loop ends : the later of two records of one key is in the cache. -/
theorem lookup_writeCache (key : String) : ∀ (infos : List (Option T)) (map : Table String T),
    (writeCache getKey toJsonString isStored infos map).1.lookup key =
      (lastOf getKey infos key).or (map.lookup key)
  | [], _ => rfl
  | none :: infos, map => lookup_writeCache key infos map
  | some info :: infos, map => by
    have hmap : (writeCache getKey toJsonString isStored (some info :: infos) map).1 =
        (writeCache getKey toJsonString isStored infos (map.set (getKey info) info)).1 := by
      rw [writeCache]
      split_ifs <;> rfl
    have hlast : lastOf getKey (some info :: infos) key =
        (lastOf getKey infos key).or (if getKey info = key then some info else none) := by
      simp only [lastOf, List.filterMap_cons, id_eq, List.reverse_cons, List.find?_append]
      by_cases h : getKey info = key <;> simp [h]
    rw [hmap, lookup_writeCache key infos, hlast, Table.lookup_set]
    by_cases h : key = getKey info
    · rw [if_pos h, if_pos h.symm, Option.or_assoc, Option.some_or]
    · rw [if_neg h, if_neg (Ne.symm h), Option.or_none]

/-- Only records that are stored are not noted. -/
theorem writeCache_snd_eq_nil_iff : ∀ (infos : List (Option T)) (map : Table String T),
    (writeCache getKey toJsonString isStored infos map).2 = [] ↔
      ∀ info, some info ∈ infos → isStored info = true
  | [], _ => by simp [writeCache]
  | none :: infos, map => by
    rw [writeCache, writeCache_snd_eq_nil_iff infos map]
    simp
  | some info :: infos, map => by
    have ih := writeCache_snd_eq_nil_iff infos (map.set (getKey info) info)
    rw [writeCache]
    cases h : isStored info <;> simp [h, ih]

theorem length_writeCache : ∀ (infos : List (Option T)) (map : Table String T),
    (writeCache getKey toJsonString isStored infos map).2.length ≤ infos.length
  | [], _ => Nat.le_refl _
  | none :: infos, map => Nat.le_succ_of_le (length_writeCache infos map)
  | some info :: infos, map => by
    have ih := length_writeCache infos (map.set (getKey info) info)
    rw [writeCache]
    split_ifs
    · exact Nat.le_succ_of_le ih
    · exact Nat.succ_le_succ ih

/-- A batch of a size that a store takes is put if the store is open and does not refuse. -/
theorem putDataBatch_eq {puts : List (String × String)} (hne : puts ≠ [])
    (hlen : puts.length ≤ MAX_WRITE_DB_DATA_SIZE) (kvStore : Table String String) :
    putDataBatch db puts kvStore =
      if ¬db.kvStoragePtr_ then (ERR_DH_FWK_RESOURCE_KV_STORAGE_POINTER_NULL, kvStore)
      else if ¬db.putBatch then (ERR_DH_FWK_RESOURCE_KV_STORAGE_OPERATION_FAIL, kvStore)
      else (DH_FWK_SUCCESS, puts.foldl (fun t put => t.set put.1 put.2) kvStore) := by
  have hvalid : ∀ f : String × String → String, isArrayLengthValid (puts.map f) = true := by
    intro f
    have hmax : MAX_WRITE_DB_DATA_SIZE ≤ MAX_ARR_SIZE := by decide
    simp [isArrayLengthValid, hne]
    omega
  exact if_neg (by simp [hvalid])

theorem putDataBatch_success_iff {puts : List (String × String)} (hne : puts ≠ [])
    (hlen : puts.length ≤ MAX_WRITE_DB_DATA_SIZE) (kvStore : Table String String) :
    (putDataBatch db puts kvStore).1 = DH_FWK_SUCCESS ↔
      db.kvStoragePtr_ = true ∧ db.putBatch = true := by
  rw [putDataBatch_eq db hne hlen]
  cases db.kvStoragePtr_ <;> cases db.putBatch <;> simp

/-- What happens to a list of a size that is taken, if the adapter is there. -/
theorem addInfos_of_accepted {infos : List (Option T)} {s : InfoStore T} (hne : infos ≠ [])
    (hlen : infos.length ≤ MAX_WRITE_DB_DATA_SIZE) (hadapter : s.dbAdapterPtr_ = true) :
    let w := writeCache getKey toJsonString isStored infos s.globalInfoMap_
    let r := addInfos getKey toJsonString isStored db infos s
    r.2.globalInfoMap_ = w.1 ∧
      (r.1 = DH_FWK_SUCCESS ↔ w.2 = [] ∨ db.kvStoragePtr_ = true ∧ db.putBatch = true) ∧
      (r.1 ≠ DH_FWK_SUCCESS → r.1 = ERR_DH_FWK_RESOURCE_DB_ADAPTER_OPERATION_FAIL) := by
  intro w r
  have hr : r = if w.2 = [] then (DH_FWK_SUCCESS, { s with globalInfoMap_ := w.1 })
      else if (putDataBatch db w.2 s.kvStore).1 ≠ DH_FWK_SUCCESS then
        (ERR_DH_FWK_RESOURCE_DB_ADAPTER_OPERATION_FAIL, { s with globalInfoMap_ := w.1 })
      else (DH_FWK_SUCCESS, ⟨w.1, s.dbAdapterPtr_, (putDataBatch db w.2 s.kvStore).2⟩) :=
    (if_neg (not_or.2 ⟨hne, not_lt.2 hlen⟩)).trans (if_neg (by simp [hadapter]))
  have hfail : ERR_DH_FWK_RESOURCE_DB_ADAPTER_OPERATION_FAIL ≠ DH_FWK_SUCCESS := by decide
  rw [hr]
  by_cases hnil : w.2 = []
  · rw [if_pos hnil]
    exact ⟨rfl, iff_of_true rfl (.inl hnil), fun h => absurd rfl h⟩
  have hput := putDataBatch_success_iff db hnil
    ((length_writeCache getKey toJsonString isStored infos _).trans hlen) s.kvStore
  rw [if_neg hnil]
  split_ifs with hok
  · refine ⟨rfl, iff_of_false hfail ?_, fun _ => rfl⟩
    exact not_or.2 ⟨hnil, fun h => hok (hput.2 h)⟩
  · exact ⟨rfl, iff_of_true rfl (.inr (hput.1 (not_not.1 hok))), fun h => absurd rfl h⟩

/-- An addition writes the cache, and reports on the store. -/
theorem written_addInfos (infos : List (Option T)) (s : InfoStore T) :
    Written getKey isStored db infos s (addInfos getKey toJsonString isStored db infos s) where
  invalid h := by
    rw [addInfos, if_pos h]
    exact ⟨rfl, rfl⟩
  missing hne hlen hadapter := by
    rw [addInfos, if_neg (not_or.2 ⟨hne, not_lt.2 hlen⟩), if_pos (by simp [hadapter])]
    exact ⟨rfl, rfl⟩
  cached hne hlen hadapter key := by
    rw [(addInfos_of_accepted getKey toJsonString isStored db hne hlen hadapter).1]
    exact lookup_writeCache getKey toJsonString isStored key infos s.globalInfoMap_
  refused hne hlen hadapter hdb := by
    rintro ⟨info, hmem, hinfo⟩
    obtain ⟨-, hsuccess, hfail⟩ :=
      addInfos_of_accepted getKey toJsonString isStored db hne hlen hadapter
    refine hfail fun h => ?_
    obtain hnil | ⟨hopen, hbatch⟩ := hsuccess.1 h
    · rw [(writeCache_snd_eq_nil_iff _ _ _ infos _).1 hnil info hmem] at hinfo
      cases hinfo
    · rw [hopen, hbatch] at hdb
      exact hdb.elim nofun nofun
  success hne hlen hadapter h := by
    refine (addInfos_of_accepted getKey toJsonString isStored db hne hlen hadapter).2.1.2 ?_
    exact h.elim .inr fun hall => .inl ((writeCache_snd_eq_nil_iff _ _ _ infos _).2 hall)

end Written

/-! ## The three managers -/

/-- The three managers write the cache first, whatever the store answers then. -/
theorem cache_written (cJSON : Codec) (db : KvAnswers) (resInfos : List (Option CapabilityInfo))
    (metaCapInfos : List (Option MetaCapabilityInfo)) (s : InfoStore CapabilityInfo)
    (m : InfoStore MetaCapabilityInfo) :
    Written CapabilityInfo.getKey (fun resInfo => (getDataByKey db s.kvStore resInfo.getKey).any
        fun data => isCapInfoJsonEqual cJSON data (resInfo.toJsonString cJSON)) db resInfos s
        (CapabilityInfoManager.addCapability cJSON db resInfos s) ∧
      Written MetaCapabilityInfo.getKey (fun metaCapInfo =>
        getDataByKey db m.kvStore metaCapInfo.getKey = some (metaCapInfo.toJsonString cJSON)) db
        metaCapInfos m (MetaInfoManager.addMetaCapInfos cJSON db metaCapInfos m) ∧
      Written CapabilityInfo.getKey (fun _ => false) db resInfos s
        (LocalCapabilityInfoManager.addCapability cJSON db resInfos s) :=
  ⟨written_addInfos .., written_addInfos .., written_addInfos ..⟩

/-- A batch that the store refuses is in the cache of each manager : the call has failed, and
the cache has a record that it did not have. -/
theorem cache_written_refused :
    let cJSON := cameraCodec ""
    let db : KvAnswers := { putBatch := false }
    let s : InfoStore CapabilityInfo := {}
    let m : InfoStore MetaCapabilityInfo := {}
    let r := CapabilityInfoManager.addCapability cJSON db [some camera] s
    let r' := MetaInfoManager.addMetaCapInfos cJSON db [some metaCamera] m
    let r'' := LocalCapabilityInfoManager.addCapability cJSON db [some camera] s
    (r.1 ≠ DH_FWK_SUCCESS ∧ r.2.globalInfoMap_.lookup camera.getKey ≠
        s.globalInfoMap_.lookup camera.getKey) ∧
      (r'.1 ≠ DH_FWK_SUCCESS ∧ r'.2.globalInfoMap_.lookup metaCamera.getKey ≠
        m.globalInfoMap_.lookup metaCamera.getKey) ∧
      (r''.1 ≠ DH_FWK_SUCCESS ∧ r''.2.globalInfoMap_.lookup camera.getKey ≠
        s.globalInfoMap_.lookup camera.getKey) := by
  decide +kernel

/-! ## Answers of a peer -/

section Answers

variable {T : Type} (getKey toJsonString : T → String) (isStored : T → Bool)

/-- Without null pointers the loop is a fold over the list, and a filter. -/
theorem writeCache_map_some : ∀ (infos : List T) (map : Table String T),
    writeCache getKey toJsonString isStored (infos.map some) map =
      (infos.foldl (fun t info => t.set (getKey info) info) map,
        (infos.filter fun info => !isStored info).map fun info => (getKey info, toJsonString info))
  | [], _ => rfl
  | info :: infos, map => by
    rw [List.map_cons, writeCache, writeCache_map_some infos]
    cases h : isStored info <;> simp [h]

/-- An answer is saved by the code that adds records, with an open store. -/
theorem addInfos_map_some (db : KvAnswers) (hopen : db.kvStoragePtr_ = true) (infos : List T)
    (s : InfoStore T) : addInfos getKey toJsonString isStored db (infos.map some) s =
      addRecords getKey toJsonString isStored db.putBatch infos s := by
  by_cases hsize : infos = [] ∨ infos.length > MAX_WRITE_DB_DATA_SIZE
  · simp [addInfos, addRecords, hsize]
  by_cases hadapter : s.dbAdapterPtr_ = true
  · simp only [addInfos, addRecords, List.map_eq_nil_iff, List.length_map, hsize, hadapter,
      writeCache_map_some, not_true_eq_false, if_false]
    by_cases hputs : (infos.filter fun info => !isStored info) = []
    · simp [hputs]
    · have hlen : ((infos.filter fun info => !isStored info).map fun info =>
          (getKey info, toJsonString info)).length ≤ MAX_WRITE_DB_DATA_SIZE := by
        rw [List.length_map]
        exact (List.length_filter_le _ _).trans (not_lt.1 (not_or.1 hsize).2)
      rw [putDataBatch_eq db (by simpa using hputs) hlen]
      cases db.putBatch <;> simp [hputs, hopen, List.foldl_map]
  · simp [addInfos, addRecords, hsize, hadapter]

/-- The meta records of an answer are saved by `AddMetaCapInfos`, where `Get` succeeds. -/
theorem addMetaCapInfos_map_some (ctx : PeerContext) (metaCapInfos : List MetaCapabilityInfo)
    (s : InfoStore MetaCapabilityInfo) :
    MetaInfoManager.addMetaCapInfos ctx.cJSON { putBatch := ctx.putBatch } (metaCapInfos.map some)
      s = addMetaCapInfos ctx metaCapInfos s := by
  have hstored : ∀ metaCapInfo : MetaCapabilityInfo,
      decide (getDataByKey { putBatch := ctx.putBatch } s.kvStore metaCapInfo.getKey =
        some (metaCapInfo.toJsonString ctx.cJSON)) =
      decide (isIdLengthValid metaCapInfo.getKey ∧ s.kvStore.lookup metaCapInfo.getKey =
        some (metaCapInfo.toJsonString ctx.cJSON)) := by
    intro metaCapInfo
    refine decide_eq_decide.2 ?_
    unfold getDataByKey
    cases isIdLengthValid metaCapInfo.getKey <;> simp
  unfold MetaInfoManager.addMetaCapInfos addMetaCapInfos
  simp only [hstored]
  exact addInfos_map_some _ _ _ { putBatch := ctx.putBatch } rfl metaCapInfos s

/-- The other records are saved by `LocalCapabilityInfoManager::AddCapability`. -/
theorem addCapability_map_some (ctx : PeerContext) (resInfos : List CapabilityInfo)
    (s : InfoStore CapabilityInfo) :
    LocalCapabilityInfoManager.addCapability ctx.cJSON { putBatch := ctx.putBatch }
      (resInfos.map some) s = addCapability ctx resInfos s :=
  addInfos_map_some _ _ _ { putBatch := ctx.putBatch } rfl resInfos s

end Answers

end DHFwk
