import DHFwk.AudioGate
import DHFwk.EnableParams
import DHFwk.Publisher

/-!
# The local hardware

`LocalHardwareManager` asks every component for its hardware and adds a record for each item that
is reported. Before the input devices are added, it takes out the records of those that are not
reported, which an earlier run may have left. Later a `PluginListenerImpl` adds and removes the
records of single devices. What these calls return is not looked at.

This is the code and what each part of it does, where the store does what it is asked : the keys
that are removed, the records that are added and the items that are known after the queries. The
meta records of the items are written to another store, and the message on plugged hardware is for
other services; both are left out.
-/

set_option linter.unusedSectionVars false

namespace DHFwk

open Json

/-- An item that a component reports. -/
structure DHItem where
  dhId : String
  attrs : String
  subtype : String
  deriving DecidableEq, Repr

/-- What is read of the local `DeviceInfo`. -/
structure LocalDeviceInfo where
  deviceId : String
  deviceName : String
  deviceType : UInt16
  deriving DecidableEq, Repr

/-- `DHTypePrefixMap`. -/
def dhTypePrefixMap : List (DHType × String) :=
  [(.CAMERA, "Camera"), (.SCREEN, "Screen"), (.INPUT, "Input")]

/-! ## The store -/

/-- What the store answers, to queries by a prefix and to deletions too. -/
structure StoreAnswers extends KvAnswers where
  getEntries : Bool := true
  delete : Bool := true

namespace DBAdapter

/-- `GetDataByKeyPrefix` : the values of the keys with a prefix, in the order of the keys. -/
def getDataByKeyPrefix (db : StoreAnswers) (kvStore : Table String String) (keyPrefix : String) :
    Except Int (List String) :=
  if ¬db.kvStoragePtr_ then .error ERR_DH_FWK_RESOURCE_KV_STORAGE_POINTER_NULL
  else if ¬db.getEntries then .error ERR_DH_FWK_RESOURCE_KV_STORAGE_OPERATION_FAIL
  else
    let keys := kvStore.sortedKeys.filter fun key => keyPrefix.toList <+: key.toList
    let allEntries := keys.filterMap kvStore.lookup
    if allEntries = [] ∨ allEntries.length > MAX_DB_RECORD_SIZE then
      .error ERR_DH_FWK_RESOURCE_RES_DB_DATA_INVALID
    else .ok allEntries

/-- `RemoveDataByKey`. -/
def removeDataByKey (db : StoreAnswers) (key : String) (kvStore : Table String String) :
    Int × Table String String :=
  if ¬isIdLengthValid key then (ERR_DH_FWK_PARA_INVALID, kvStore)
  else if ¬db.kvStoragePtr_ then (ERR_DH_FWK_RESOURCE_KV_STORAGE_POINTER_NULL, kvStore)
  else if ¬db.delete then (ERR_DH_FWK_RESOURCE_KV_STORAGE_OPERATION_FAIL, kvStore)
  else (DH_FWK_SUCCESS, kvStore.remove key)

end DBAdapter

namespace CapabilityInfoManager

/-- `GetDataByKeyPrefix`, into an empty map. -/
def getDataByKeyPrefix (cJSON : Codec) (db : StoreAnswers) (keyPrefix : String)
    (s : InfoStore CapabilityInfo) : Int × Table String CapabilityInfo :=
  if ¬isIdLengthValid keyPrefix then (ERR_DH_FWK_PARA_INVALID, ∅)
  else if ¬s.dbAdapterPtr_ then (ERR_DH_FWK_RESOURCE_DB_ADAPTER_POINTER_NULL, ∅)
  else
    match DBAdapter.getDataByKeyPrefix db s.kvStore keyPrefix with
    | .error _ => (ERR_DH_FWK_RESOURCE_DB_ADAPTER_OPERATION_FAIL, ∅)
    | .ok dataVector =>
      if dataVector = [] ∨ dataVector.length > MAX_DB_RECORD_SIZE then
        (ERR_DH_FWK_RESOURCE_RES_DB_DATA_INVALID, ∅)
      else
        (DH_FWK_SUCCESS, (dataVector.filterMap (kind.getCapabilityByValue cJSON)).foldl
          (fun capabilityMap capabilityInfo =>
            capabilityMap.set capabilityInfo.getKey capabilityInfo) ∅)

/-- `RemoveCapabilityInfoByKey`. -/
def removeCapabilityInfoByKey (db : StoreAnswers) (key : String) (s : InfoStore CapabilityInfo) :
    Int × InfoStore CapabilityInfo :=
  if ¬isIdLengthValid key then (ERR_DH_FWK_PARA_INVALID, s)
  else if ¬s.dbAdapterPtr_ then (ERR_DH_FWK_RESOURCE_DB_ADAPTER_POINTER_NULL, s)
  else
    let s := { s with globalInfoMap_ := s.globalInfoMap_.remove key }
    let r := DBAdapter.removeDataByKey db key s.kvStore
    if r.1 ≠ DH_FWK_SUCCESS then (ERR_DH_FWK_RESOURCE_DB_ADAPTER_OPERATION_FAIL, s)
    else (DH_FWK_SUCCESS, { s with kvStore := r.2 })

end CapabilityInfoManager

open CapabilityInfoManager

/-! ## The manager -/

abbrev QUERY_RETRY_MAX_TIMES : ℕ := 3

/-- What a component's hardware handler does : whether it can be had and initialised, and what
`Query` returns when so many attempts are left. -/
structure HardwareHandler where
  loads : Bool := true
  initialises : Bool := true
  query : ℕ → List DHItem

/-- `LocalHardwareManager`, with the store of `CapabilityInfoManager`. -/
structure LocalHardwareManager where
  localDHItemsMap_ : Table DHType (List DHItem) := ∅
  capabilityInfoManager : InfoStore CapabilityInfo := {}

/-- The record of an item. -/
def DHItem.capabilityInfo (dev : LocalDeviceInfo) (dhType : DHType) (dhItem : DHItem) :
    CapabilityInfo where
  dhId_ := dhItem.dhId
  deviceId_ := dev.deviceId
  deviceName_ := dev.deviceName
  deviceType_ := dev.deviceType
  dhType_ := dhType.number
  dhAttrs_ := dhItem.attrs
  dhSubtype_ := dhItem.subtype

section Code

variable (cJSON : Codec) (db : StoreAnswers) (dev : LocalDeviceInfo)

namespace LocalHardwareManager

/-- `GetLocalCapabilityMapByPrefix`. -/
def getLocalCapabilityMapByPrefix (dhType : DHType) (s : InfoStore CapabilityInfo) :
    Table String CapabilityInfo :=
  if ¬isIdLengthValid dev.deviceId then ∅
  else
    match dhTypePrefixMap.lookup dhType with
    | none => ∅
    | some typePrefix =>
      (getDataByKeyPrefix cJSON db (dev.deviceId ++ RESOURCE_SEPARATOR ++ typePrefix) s).2

/-- `CheckNonExistCapabilityInfo`. -/
def checkNonExistCapabilityInfo (dhItems : List DHItem) (dhType : DHType)
    (s : InfoStore CapabilityInfo) : InfoStore CapabilityInfo :=
  if dhType ≠ .INPUT then s
  else
    let allLocalCapabilityInfos := getLocalCapabilityMapByPrefix cJSON db dev dhType s
    (allLocalCapabilityInfos.sortedKeys.filterMap allLocalCapabilityInfos.lookup).foldl
      (fun s capabilityValue =>
        let isExist := dhItems.any fun dhItem => capabilityValue.dhId_ = dhItem.dhId
        if ¬isExist then (removeCapabilityInfoByKey db capabilityValue.getKey s).2 else s) s

/-- `QueryLocalHardware`, with the attempts that are left. -/
def queryLocalHardware (dhType : DHType) (hardwareHandler : HardwareHandler) :
    ℕ → LocalHardwareManager → LocalHardwareManager
  | 0, s => s
  | retryTimes + 1, s =>
    let dhItems := hardwareHandler.query (retryTimes + 1)
    if dhItems = [] then queryLocalHardware dhType hardwareHandler retryTimes s
    else
      { localDHItemsMap_ := s.localDHItemsMap_.set dhType dhItems
        capabilityInfoManager :=
          checkNonExistCapabilityInfo cJSON db dev dhItems dhType s.capabilityInfoManager }

/-- A round of the loop over the components. -/
def queryComponent (s : LocalHardwareManager) (comp : Σ _ : DHType, HardwareHandler) :
    LocalHardwareManager :=
  if ¬comp.2.loads then s
  else if ¬comp.2.initialises then s
  else queryLocalHardware cJSON db dev comp.1 comp.2 QUERY_RETRY_MAX_TIMES s

/-- The records that `AddLocalCapabilityInfo` makes, in an order that the hash map chooses. -/
def localCapabilityInfos (localDHItemsMap_ : Table DHType (List DHItem)) : List CapabilityInfo :=
  localDHItemsMap_.entries.flatMap fun localDHItems =>
    localDHItems.2.map (DHItem.capabilityInfo dev localDHItems.1)

/-- `Init`, with the components that are loaded. -/
def init (compHandlerMap_ : Table DHType HardwareHandler) (s : LocalHardwareManager) :
    LocalHardwareManager :=
  let s := compHandlerMap_.entries.foldl (queryComponent cJSON db dev) s
  let capabilityInfos := localCapabilityInfos dev s.localDHItemsMap_
  { s with
    capabilityInfoManager := (CapabilityInfoManager.addCapability cJSON db.toKvAnswers
      (capabilityInfos.map some) s.capabilityInfoManager).2 }

/-- `UnInit`. -/
def unInit (s : LocalHardwareManager) : LocalHardwareManager :=
  { s with localDHItemsMap_ := ∅ }

end LocalHardwareManager

namespace PluginListenerImpl

/-- `PluginHardware` of the listener of a type. -/
def pluginHardware (dhType_ : DHType) (dhItem : DHItem) (s : InfoStore CapabilityInfo) :
    InfoStore CapabilityInfo :=
  if ¬isIdLengthValid dhItem.dhId ∨ ¬isMessageLengthValid dhItem.attrs then s
  else
    (CapabilityInfoManager.addCapability cJSON db.toKvAnswers
      [some (dhItem.capabilityInfo dev dhType_)] s).2

/-- `UnPluginHardware`. -/
def unPluginHardware (dhId : String) (s : InfoStore CapabilityInfo) : InfoStore CapabilityInfo :=
  if ¬isIdLengthValid dhId then s
  else
    match ParamCaches.getCapability s dev.deviceId dhId with
    | .error _ => s
    | .ok capability => (removeCapabilityInfoByKey db capability.getKey s).2

end PluginListenerImpl

end Code

/-! ## Ids and items -/

/-- The id of an input device. -/
def IsInputId (dhId : String) : Prop :=
  "Input".toList <+: dhId.toList

instance : DecidablePred IsInputId := fun _ => inferInstanceAs (Decidable (_ <+: _))

namespace LocalDeviceInfo

variable (dev : LocalDeviceInfo)

/-- The key of an item. -/
def key (dhId : String) : String :=
  getCapabilityKey dev.deviceId dhId

/-- The key of a local input device. -/
def IsInputKey (key : String) : Prop :=
  (dev.key "Input").toList <+: key.toList

instance : DecidablePred dev.IsInputKey := fun _ => inferInstanceAs (Decidable (_ <+: _))

/-- The ids of the local input devices that a table has records of. -/
def inputIds {V : Type} (t : Table String V) : Set String :=
  {dhId | IsInputId dhId ∧ dev.key dhId ∈ t}

instance {V : Type} (t : Table String V) (dhId : String) : Decidable (dhId ∈ dev.inputIds t) :=
  inferInstanceAs (Decidable (_ ∧ _))

end LocalDeviceInfo

namespace HardwareHandler

/-- What the last of at most so many attempts returns. -/
def answer (h : HardwareHandler) : ℕ → List DHItem
  | 0 => []
  | retryTimes + 1 =>
    if h.query (retryTimes + 1) = [] then h.answer retryTimes else h.query (retryTimes + 1)

/-- What the last `Query` of an `Init` returns, if there is one. -/
def lastQuery (h : HardwareHandler) : Option (List DHItem) :=
  if h.loads ∧ h.initialises then some (h.answer QUERY_RETRY_MAX_TIMES) else none

/-- What an `Init` finds. -/
def found (h : HardwareHandler) : List DHItem :=
  h.lastQuery.getD []

end HardwareHandler

/-- What the last `Query` for the input devices returns. -/
def inputQuery (compHandlerMap_ : Table DHType HardwareHandler) : Option (List DHItem) :=
  (compHandlerMap_.lookup .INPUT).bind HardwareHandler.lastQuery

/-- The items of each type after the queries : those that were found, else those of before. -/
def queried (compHandlerMap_ : Table DHType HardwareHandler)
    (localDHItemsMap_ : Table DHType (List DHItem)) : Table DHType (List DHItem) :=
  compHandlerMap_.entries.foldl
    (fun t comp => if comp.2.found = [] then t else t.set comp.1 comp.2.found) localDHItemsMap_

/-! ## Keys -/

namespace LocalDeviceInfo

variable {dev : LocalDeviceInfo} {key dhId dhId' : String}

theorem key_inj : dev.key dhId = dev.key dhId' ↔ dhId = dhId' :=
  ⟨getCapabilityKey_inj_right, congrArg dev.key⟩

theorem toList_key : (dev.key dhId).toList =
    dev.deviceId.toList ++ RESOURCE_SEPARATOR.toList ++ dhId.toList := by
  rw [LocalDeviceInfo.key, getCapabilityKey, String.toList_append, String.toList_append]

theorem isInputKey_key : dev.IsInputKey (dev.key dhId) ↔ IsInputId dhId := by
  rw [IsInputKey, toList_key, toList_key, List.prefix_append_right_inj, IsInputId]

/-- The keys of local input devices are those that begin like one. -/
theorem isInputKey_iff : dev.IsInputKey key ↔ ∃ dhId, IsInputId dhId ∧ key = dev.key dhId := by
  constructor
  · rintro ⟨rest, hrest⟩
    have hkey : key = dev.key ("Input" ++ String.ofList rest) := by
      rw [← String.toList_inj, ← hrest, toList_key, toList_key, String.toList_append,
        List.append_assoc]
      simp only [String.toList_ofList]
    refine ⟨_, ?_, hkey⟩
    rw [IsInputId, String.toList_append]
    exact List.prefix_append _ _
  · rintro ⟨dhId, hid, rfl⟩
    exact isInputKey_key.2 hid

theorem isIdLengthValid_key :
    isIdLengthValid (dev.key dhId) = true ↔ (dev.key dhId).utf8ByteSize ≤ MAX_ID_LEN :=
  owner.isIdLengthValid_key (r := { deviceId_ := dev.deviceId, dhId_ := dhId })

/-- What a key that is not too long begins with is not too long. -/
theorem isIdLengthValid_input (hinput : dev.IsInputKey key) (h : isIdLengthValid key = true) :
    isIdLengthValid (dev.key "Input") = true := by
  obtain ⟨dhId, -, rfl⟩ := isInputKey_iff.1 hinput
  obtain ⟨rest, hrest⟩ := hinput
  have hkey : dev.key dhId = dev.key "Input" ++ String.ofList rest := by
    rw [← String.toList_inj, ← hrest, String.toList_append, String.toList_ofList]
  have hsize := isIdLengthValid_key.1 h
  rw [hkey, String.utf8ByteSize_append] at hsize
  exact isIdLengthValid_key.2 (by omega)

end LocalDeviceInfo

/-! ## What is removed -/

namespace LocalHardwareManager

section Removals

variable {cJSON : Codec} {dev : LocalDeviceInfo} {s : InfoStore CapabilityInfo} {key : String}

theorem removeCapabilityInfoByKey_eq (hadapter : s.dbAdapterPtr_ = true) :
    (removeCapabilityInfoByKey {} key s).2 =
      if isIdLengthValid key then
        { s with globalInfoMap_ := s.globalInfoMap_.remove key, kvStore := s.kvStore.remove key }
      else s := by
  unfold removeCapabilityInfoByKey DBAdapter.removeDataByKey
  cases isIdLengthValid key <;> simp [hadapter]

/-- The values of the local input devices. -/
def inputValues (dev : LocalDeviceInfo) (kvStore : Table String String) : List String :=
  (kvStore.sortedKeys.filter fun key => dev.IsInputKey key).filterMap kvStore.lookup

theorem mem_inputValues {kvStore : Table String String} {value : String} :
    value ∈ inputValues dev kvStore ↔ ∃ e ∈ kvStore.entries, dev.IsInputKey e.1 ∧ e.2 = value := by
  simp only [inputValues, List.mem_filterMap, List.mem_filter, decide_eq_true_eq]
  constructor
  · rintro ⟨key, ⟨-, hinput⟩, hvalue⟩
    exact ⟨⟨key, value⟩, AList.mem_lookup_iff.1 hvalue, hinput, rfl⟩
  · rintro ⟨⟨key, value⟩, he, hinput, rfl⟩
    have hvalue := AList.mem_lookup_iff.2 he
    exact ⟨key, ⟨Table.mem_sortedKeys.2 ⟨_, hvalue⟩, hinput⟩, hvalue⟩

theorem length_inputValues (kvStore : Table String String) : (inputValues dev kvStore).length ≤
    (kvStore.entries.filter fun e => dev.IsInputKey e.1).length := by
  refine (List.length_filterMap_le _ _).trans_eq ?_
  have hperm := List.perm_insertionSort (· ≤ ·) kvStore.keys
  rw [Table.sortedKeys, (hperm.filter _).length_eq, AList.keys, List.keys, List.filter_map,
    List.length_map]
  rfl

/-- What `GetLocalCapabilityMapByPrefix` finds, where it comes to the end. -/
theorem getLocalCapabilityMapByPrefix_eq (hadapter : s.dbAdapterPtr_ = true) :
    getLocalCapabilityMapByPrefix cJSON {} dev .INPUT s =
      if isIdLengthValid dev.deviceId ∧ isIdLengthValid (dev.key "Input") ∧
        inputValues dev s.kvStore ≠ [] ∧ (inputValues dev s.kvStore).length ≤ MAX_DB_RECORD_SIZE
      then ((inputValues dev s.kvStore).filterMap (kind.getCapabilityByValue cJSON)).foldl
        (fun capabilityMap capabilityInfo =>
          capabilityMap.set capabilityInfo.getKey capabilityInfo) ∅
      else ∅ := by
  have hmap : getLocalCapabilityMapByPrefix cJSON {} dev .INPUT s =
      if ¬isIdLengthValid dev.deviceId then ∅
      else (getDataByKeyPrefix cJSON {} (dev.key "Input") s).2 := rfl
  have hstore : DBAdapter.getDataByKeyPrefix {} s.kvStore (dev.key "Input") =
      if inputValues dev s.kvStore = [] ∨ (inputValues dev s.kvStore).length > MAX_DB_RECORD_SIZE
      then .error ERR_DH_FWK_RESOURCE_RES_DB_DATA_INVALID
      else .ok (inputValues dev s.kvStore) := rfl
  rw [hmap, getDataByKeyPrefix, hstore]
  by_cases hdevice : isIdLengthValid dev.deviceId = true
  swap
  · rw [if_pos hdevice, if_neg fun h => hdevice h.1]
  by_cases hinput : isIdLengthValid (dev.key "Input") = true
  swap
  · rw [if_neg (not_not.2 hdevice), if_pos hinput, if_neg fun h => hinput h.2.1]
  rw [if_neg (not_not.2 hdevice), if_neg (not_not.2 hinput), if_neg (not_not.2 hadapter)]
  by_cases hsize : inputValues dev s.kvStore = [] ∨
      (inputValues dev s.kvStore).length > MAX_DB_RECORD_SIZE
  · rw [if_pos hsize, if_neg]
    rintro ⟨-, -, hne, hlen⟩
    exact hsize.elim hne (not_lt.2 hlen)
  · rw [if_neg hsize]
    dsimp only
    rw [if_neg hsize, if_pos]
    exact ⟨hdevice, hinput, (not_or.1 hsize).1, not_lt.1 (not_or.1 hsize).2⟩

/-- What the records are that it finds. -/
theorem lookup_getLocalCapabilityMapByPrefix (hadapter : s.dbAdapterPtr_ = true)
    {capabilityInfo : CapabilityInfo}
    (h : (getLocalCapabilityMapByPrefix cJSON {} dev .INPUT s).lookup key = some capabilityInfo) :
    capabilityInfo.getKey = key ∧ ∃ e ∈ s.kvStore.entries, dev.IsInputKey e.1 ∧
      capabilityInfo ∈ kind.getCapabilityByValue cJSON e.2 := by
  rw [getLocalCapabilityMapByPrefix_eq hadapter] at h
  split_ifs at h
  swap
  · exact absurd h (Table.lookup_empty_ne_some _ _)
  obtain ⟨c, hc, hkey, rfl⟩ | hempty := Table.mem_of_lookup_foldl_set h
  · obtain ⟨value, hvalue, hread⟩ := List.mem_filterMap.1 hc
    obtain ⟨e, he, hinput, rfl⟩ := mem_inputValues.1 hvalue
    exact ⟨hkey, e, he, hinput, hread⟩
  · exact absurd hempty (Table.lookup_empty_ne_some _ _)

/-- Where they are found. -/
theorem getKey_mem_getLocalCapabilityMapByPrefix {e : Σ _ : String, String}
    {capabilityInfo : CapabilityInfo} (hadapter : s.dbAdapterPtr_ = true)
    (hdevice : isIdLengthValid dev.deviceId = true)
    (hbegin : isIdLengthValid (dev.key "Input") = true)
    (hcount : (s.kvStore.entries.filter fun e => dev.IsInputKey e.1).length ≤ MAX_DB_RECORD_SIZE)
    (he : e ∈ s.kvStore.entries) (hinput : dev.IsInputKey e.1)
    (hread : capabilityInfo ∈ kind.getCapabilityByValue cJSON e.2) :
    capabilityInfo.getKey ∈ getLocalCapabilityMapByPrefix cJSON {} dev .INPUT s := by
  have hvalue : e.2 ∈ inputValues dev s.kvStore := mem_inputValues.2 ⟨e, he, hinput, rfl⟩
  rw [getLocalCapabilityMapByPrefix_eq hadapter, if_pos, Table.mem_foldl_set]
  · exact .inl ⟨capabilityInfo, List.mem_filterMap.2 ⟨e.2, hvalue, hread⟩, rfl⟩
  · exact ⟨hdevice, hbegin, List.ne_nil_of_mem hvalue, (length_inputValues _).trans hcount⟩

/-- The keys that `CheckNonExistCapabilityInfo` removes. -/
def nonExistKeys (cJSON : Codec) (dev : LocalDeviceInfo) (dhItems : List DHItem)
    (s : InfoStore CapabilityInfo) : List String :=
  let allLocalCapabilityInfos := getLocalCapabilityMapByPrefix cJSON {} dev .INPUT s
  (allLocalCapabilityInfos.sortedKeys.filterMap allLocalCapabilityInfos.lookup).filterMap fun c =>
    if (dhItems.any fun dhItem => c.dhId_ = dhItem.dhId) = false ∧ isIdLengthValid c.getKey = true
    then some c.getKey else none

theorem foldl_removeCapabilityInfoByKey (isExist : CapabilityInfo → Bool) :
    ∀ (cs : List CapabilityInfo) {s : InfoStore CapabilityInfo}, s.dbAdapterPtr_ = true →
      cs.foldl
          (fun s c => if ¬isExist c then (removeCapabilityInfoByKey {} c.getKey s).2 else s) s =
        let keys := cs.filterMap fun c =>
          if isExist c = false ∧ isIdLengthValid c.getKey = true then some c.getKey else none
        { s with
          globalInfoMap_ := s.globalInfoMap_.removeAll keys
          kvStore := s.kvStore.removeAll keys }
  | [], _, _ => rfl
  | c :: cs, s, hadapter => by
    rw [List.foldl_cons, List.filterMap_cons]
    by_cases hexist : isExist c = true
    · rw [if_neg (not_not.2 hexist), if_neg fun h => by simp [hexist] at h]
      exact foldl_removeCapabilityInfoByKey isExist cs hadapter
    rw [if_pos hexist, removeCapabilityInfoByKey_eq hadapter]
    by_cases hvalid : isIdLengthValid c.getKey = true
    · rw [if_pos hvalid, if_pos ⟨Bool.eq_false_iff.2 hexist, hvalid⟩]
      exact foldl_removeCapabilityInfoByKey isExist cs hadapter
    · rw [if_neg hvalid, if_neg fun h => hvalid h.2]
      exact foldl_removeCapabilityInfoByKey isExist cs hadapter

theorem checkNonExistCapabilityInfo_eq (dhItems : List DHItem) (hadapter : s.dbAdapterPtr_ = true) :
    checkNonExistCapabilityInfo cJSON {} dev dhItems .INPUT s =
      { s with
        globalInfoMap_ := s.globalInfoMap_.removeAll (nonExistKeys cJSON dev dhItems s)
        kvStore := s.kvStore.removeAll (nonExistKeys cJSON dev dhItems s) } :=
  foldl_removeCapabilityInfoByKey _ _ hadapter

end Removals

/-! ## What is added -/

section Additions

variable {cJSON : Codec} {s : InfoStore CapabilityInfo} {key : String}

/-- What an addition of records does to the store and the cache. -/
structure Added (infos : List CapabilityInfo) (s s' : InfoStore CapabilityInfo) : Prop where
  stored : ∀ key, key ∈ s'.kvStore ↔ (∃ c ∈ infos, c.getKey = key) ∨ key ∈ s.kvStore
  cached : ∀ key, key ∈ s'.globalInfoMap_ ↔ (∃ c ∈ infos, c.getKey = key) ∨ key ∈ s.globalInfoMap_
  filed : ∀ {key c}, s'.globalInfoMap_.lookup key = some c →
    c.getKey = key ∨ s.globalInfoMap_.lookup key = some c
  kept : ∀ {key}, (∀ c ∈ infos, c.getKey ≠ key) →
    s'.kvStore.lookup key = s.kvStore.lookup key ∧
      s'.globalInfoMap_.lookup key = s.globalInfoMap_.lookup key
  dbAdapterPtr : s'.dbAdapterPtr_ = s.dbAdapterPtr_

theorem added_nil (s : InfoStore CapabilityInfo) : Added [] s s where
  stored := by simp
  cached := by simp
  filed := .inr
  kept _ := ⟨rfl, rfl⟩
  dbAdapterPtr := rfl

/-- A list that is too long is turned down. -/
def accepted (infos : List CapabilityInfo) : List CapabilityInfo :=
  if infos.length > MAX_WRITE_DB_DATA_SIZE then [] else infos

theorem accepted_of_le {infos : List CapabilityInfo} (h : infos.length ≤ MAX_WRITE_DB_DATA_SIZE) :
    accepted infos = infos :=
  if_neg (not_lt.2 h)

theorem mem_of_mem_accepted {infos : List CapabilityInfo} {c : CapabilityInfo}
    (h : c ∈ accepted infos) : c ∈ infos := by
  unfold accepted at h
  split_ifs at h
  · cases h
  · exact h

/-- A record that is not put again is in the store. -/
theorem mem_of_getDataByKey {data : String}
    (h : getDataByKey {} s.kvStore key = some data) : key ∈ s.kvStore := by
  unfold getDataByKey at h
  simp only [not_true_eq_false, if_false, if_true, ite_not] at h
  split_ifs at h
  exact AList.lookup_isSome.1 (Option.isSome_of_eq_some h)

section Records

variable {isStored : CapabilityInfo → Bool} {infos : List CapabilityInfo}
  {toJsonString : CapabilityInfo → String}

/-- The store after records were added, of a number that is taken. -/
theorem kvStore_addRecords (hne : infos ≠ []) (hlen : infos.length ≤ MAX_WRITE_DB_DATA_SIZE)
    (hadapter : s.dbAdapterPtr_ = true) :
    (addRecords CapabilityInfo.getKey toJsonString isStored true infos s).2.kvStore =
      (infos.filter fun c => !isStored c).foldl
        (fun t c => t.set c.getKey (toJsonString c)) s.kvStore := by
  rw [addRecords, if_neg (not_or.2 ⟨hne, not_lt.2 hlen⟩), if_neg (not_not.2 hadapter)]
  dsimp only
  by_cases hputs : (infos.filter fun c => !isStored c) = []
  · rw [if_pos hputs, hputs]
    rfl
  · rw [if_neg hputs, if_neg (not_not.2 rfl)]

/-- Records that are not put again are in the store, so all of them are afterwards. -/
theorem added_addRecords (hne : infos ≠ []) (hlen : infos.length ≤ MAX_WRITE_DB_DATA_SIZE)
    (hadapter : s.dbAdapterPtr_ = true) (hstored : ∀ c, isStored c = true → c.getKey ∈ s.kvStore) :
    Added infos s (addRecords CapabilityInfo.getKey toJsonString isStored true infos s).2 := by
  have hmap : (addRecords CapabilityInfo.getKey toJsonString isStored true infos
      s).2.globalInfoMap_ = infos.foldl (fun t c => t.set c.getKey c) s.globalInfoMap_ :=
    globalInfoMap_addRecords.trans (if_pos ⟨hne, hlen, hadapter⟩)
  refine ⟨fun key => ?_, fun key => ?_, fun {key c} h => ?_,
    fun h => And.symm (lookup_addRecords h), ?_⟩
  · rw [kvStore_addRecords hne hlen hadapter, Table.mem_foldl_set]
    constructor
    · rintro (⟨c, hc, hkey⟩ | h)
      · exact .inl ⟨c, List.mem_of_mem_filter hc, hkey⟩
      · exact .inr h
    · rintro (⟨c, hc, rfl⟩ | h)
      · cases hs : isStored c with
        | true => exact .inr (hstored c hs)
        | false => exact .inl ⟨c, List.mem_filter.2 ⟨hc, by simp [hs]⟩, rfl⟩
      · exact .inr h
  · rw [hmap, Table.mem_foldl_set]
  · rw [hmap] at h
    obtain ⟨c', -, hkey, rfl⟩ | h := Table.mem_of_lookup_foldl_set h
    · exact .inl hkey
    · exact .inr h
  · simp only [addRecords]
    split_ifs <;> rfl

end Records

theorem added_addCapability (hadapter : s.dbAdapterPtr_ = true) (infos : List CapabilityInfo) :
    Added (accepted infos) s
      (CapabilityInfoManager.addCapability cJSON {} (infos.map some) s).2 := by
  let isStored (c : CapabilityInfo) : Bool := (getDataByKey {} s.kvStore c.getKey).any fun data =>
    isCapInfoJsonEqual cJSON data (c.toJsonString cJSON)
  have hstored : ∀ c, isStored c = true → c.getKey ∈ s.kvStore := by
    intro c hc
    obtain ⟨data, hdata, -⟩ := (Option.any_eq_true _ _).1 hc
    exact mem_of_getDataByKey hdata
  have heq : CapabilityInfoManager.addCapability cJSON {} (infos.map some) s =
      addRecords CapabilityInfo.getKey (CapabilityInfo.toJsonString cJSON) isStored true infos s :=
    addInfos_map_some _ _ _ {} rfl infos s
  rw [heq, accepted]
  by_cases hlen : infos.length > MAX_WRITE_DB_DATA_SIZE
  · rw [if_pos hlen, addRecords, if_pos (.inr hlen)]
    exact added_nil s
  rw [if_neg hlen]
  by_cases hne : infos = []
  · rw [hne, addRecords, if_pos (.inl rfl)]
    exact added_nil s
  · exact added_addRecords hne (not_lt.1 hlen) hadapter hstored

end Additions

/-! ## What the queries leave -/

section Queries

variable (cJSON : Codec) (dev : LocalDeviceInfo)

/-- The loop over the attempts ends with the last of them. -/
theorem queryLocalHardware_eq (dhType : DHType) (h : HardwareHandler) :
    ∀ (retryTimes : ℕ) (s : LocalHardwareManager),
      queryLocalHardware cJSON {} dev dhType h retryTimes s =
        if h.answer retryTimes = [] then s
        else
          { localDHItemsMap_ := s.localDHItemsMap_.set dhType (h.answer retryTimes)
            capabilityInfoManager := checkNonExistCapabilityInfo cJSON {} dev
              (h.answer retryTimes) dhType s.capabilityInfoManager }
  | 0, s => rfl
  | retryTimes + 1, s => by
    rw [queryLocalHardware, HardwareHandler.answer]
    by_cases hquery : h.query (retryTimes + 1) = []
    · simp only [hquery, if_true]
      exact queryLocalHardware_eq dhType h retryTimes s
    · simp only [hquery, if_false]

theorem queryComponent_eq (s : LocalHardwareManager) (comp : Σ _ : DHType, HardwareHandler) :
    queryComponent cJSON {} dev s comp =
      if comp.2.found = [] then s
      else
        { localDHItemsMap_ := s.localDHItemsMap_.set comp.1 comp.2.found
          capabilityInfoManager := checkNonExistCapabilityInfo cJSON {} dev comp.2.found comp.1
            s.capabilityInfoManager } := by
  unfold queryComponent HardwareHandler.found HardwareHandler.lastQuery
  cases comp.2.loads with
  | false => simp
  | true =>
    cases comp.2.initialises with
    | false => simp
    | true => simpa using queryLocalHardware_eq cJSON dev comp.1 comp.2 QUERY_RETRY_MAX_TIMES s

/-- The items after the queries. -/
theorem localDHItemsMap_queryComponents :
    ∀ (comps : List (Σ _ : DHType, HardwareHandler)) (s : LocalHardwareManager),
      (comps.foldl (queryComponent cJSON {} dev) s).localDHItemsMap_ =
        comps.foldl (fun t comp => if comp.2.found = [] then t else t.set comp.1 comp.2.found)
          s.localDHItemsMap_
  | [], _ => rfl
  | comp :: comps, s => by
    rw [List.foldl_cons, List.foldl_cons, localDHItemsMap_queryComponents comps, queryComponent_eq]
    split_ifs <;> rfl

/-- Other components do not touch what is known of the input devices. -/
theorem queryComponent_other (s : LocalHardwareManager) (comp : Σ _ : DHType, HardwareHandler)
    (h : comp.1 ≠ .INPUT) :
    (queryComponent cJSON {} dev s comp).capabilityInfoManager = s.capabilityInfoManager ∧
      (queryComponent cJSON {} dev s comp).localDHItemsMap_.lookup .INPUT =
        s.localDHItemsMap_.lookup .INPUT := by
  rw [queryComponent_eq]
  split_ifs
  · exact ⟨rfl, rfl⟩
  · exact ⟨if_pos h, Table.lookup_set_ne _ (Ne.symm h) _⟩

theorem queryComponents_others : ∀ {comps : List (Σ _ : DHType, HardwareHandler)}
    (s : LocalHardwareManager), DHType.INPUT ∉ comps.keys →
      (comps.foldl (queryComponent cJSON {} dev) s).capabilityInfoManager =
          s.capabilityInfoManager ∧
        (comps.foldl (queryComponent cJSON {} dev) s).localDHItemsMap_.lookup .INPUT =
          s.localDHItemsMap_.lookup .INPUT
  | [], _, _ => ⟨rfl, rfl⟩
  | comp :: comps, s, h => by
    rw [List.keys_cons, List.mem_cons, not_or] at h
    obtain ⟨hstore, hitems⟩ := queryComponent_other cJSON dev s comp (Ne.symm h.1)
    obtain ⟨hstore', hitems'⟩ := queryComponents_others (queryComponent cJSON {} dev s comp) h.2
    exact ⟨hstore'.trans hstore, hitems'.trans hitems⟩

/-- What is known of the input devices after their component was asked. -/
theorem queryComponents_input : ∀ {comps : List (Σ _ : DHType, HardwareHandler)}
    (s : LocalHardwareManager) {h : HardwareHandler}, comps.NodupKeys →
      comps.dlookup .INPUT = some h →
      (comps.foldl (queryComponent cJSON {} dev) s).capabilityInfoManager =
          (if h.found = [] then s.capabilityInfoManager
          else checkNonExistCapabilityInfo cJSON {} dev h.found .INPUT s.capabilityInfoManager) ∧
        (comps.foldl (queryComponent cJSON {} dev) s).localDHItemsMap_.lookup .INPUT =
          if h.found = [] then s.localDHItemsMap_.lookup .INPUT else some h.found
  | [], _, _, _, hlookup => by cases hlookup
  | ⟨dhType, h'⟩ :: comps, s, h, hnodup, hlookup => by
    rw [List.nodupKeys_cons] at hnodup
    by_cases htype : dhType = .INPUT
    · subst htype
      rw [List.dlookup_cons_eq, Option.some_inj] at hlookup
      obtain ⟨hstore, hitems⟩ :=
        queryComponents_others cJSON dev (queryComponent cJSON {} dev s ⟨.INPUT, h'⟩) hnodup.1
      rw [List.foldl_cons, hstore, hitems, queryComponent_eq, ← hlookup]
      split_ifs
      · exact ⟨rfl, rfl⟩
      · exact ⟨rfl, Table.lookup_set_self _ _ _⟩
    · rw [List.dlookup_cons_ne _ _ (Ne.symm htype)] at hlookup
      obtain ⟨hstore, hitems⟩ := queryComponent_other cJSON dev s ⟨dhType, h'⟩ htype
      rw [List.foldl_cons, ← hstore, ← hitems]
      exact queryComponents_input _ hnodup.2 hlookup

/-- The two together, for the components of an `Init`. -/
theorem queryComponents_eq (compHandlerMap_ : Table DHType HardwareHandler)
    (s : LocalHardwareManager) :
    let s' := compHandlerMap_.entries.foldl (queryComponent cJSON {} dev) s
    let dhItems := (inputQuery compHandlerMap_).getD []
    s'.capabilityInfoManager =
        (if dhItems = [] then s.capabilityInfoManager
        else checkNonExistCapabilityInfo cJSON {} dev dhItems .INPUT s.capabilityInfoManager) ∧
      s'.localDHItemsMap_.lookup .INPUT =
        if dhItems = [] then s.localDHItemsMap_.lookup .INPUT else some dhItems := by
  cases hlookup : compHandlerMap_.lookup .INPUT with
  | none =>
    rw [inputQuery, hlookup]
    exact queryComponents_others cJSON dev s (List.dlookup_eq_none.1 hlookup)
  | some h =>
    rw [inputQuery, hlookup]
    exact queryComponents_input cJSON dev s compHandlerMap_.nodupKeys hlookup

end Queries

end LocalHardwareManager

end DHFwk
