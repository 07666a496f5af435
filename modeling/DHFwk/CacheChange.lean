import DHFwk.CapabilityInfo
import DHFwk.DeviceLife

/-!
# Changes of the store and the caches

`CapabilityInfoManager` and `MetaInfoManager` keep the records of the store in a cache and
follow its changes, which come in two shapes : a notification with entries, and one from the
cloud with keys alone. The keys that were inserted or updated are looked up in the store; of
the deleted ones entries without a value are made.

The handlers find the key to erase in the value. Without one there is none : a deletion that
comes from the cloud erases nothing, and the two shapes leave the same cache only if the
values of the other one name nothing that is in it (`deletions_reach_iff`).
-/

set_option linter.unusedSectionVars false

namespace DHFwk

open Json

abbrev MAX_KEY_SIZE : ℕ := 256
abbrev MAX_DB_RECORD_SIZE : ℕ := 10000

/-- `IsKeySizeValid`. -/
def isKeySizeValid (inputKey : String) : Bool :=
  !(inputKey.isEmpty || inputKey.utf8ByteSize > MAX_KEY_SIZE)

/-- `IsArrayLengthValid`. -/
def isArrayLengthValid (inputArray : List String) : Bool :=
  !(inputArray.isEmpty || inputArray.length > MAX_ARR_SIZE)

/-- `DistributedKv::Entry`. -/
structure Entry where
  key : String
  value : String := ""
  deriving DecidableEq, Repr

/-- `DistributedKv::ChangeNotification`. -/
structure ChangeNotification where
  insertEntries : List Entry := []
  updateEntries : List Entry := []
  deleteEntries : List Entry := []
  deriving DecidableEq, Repr

/-- `Keys`, by `ChangeOp`. -/
structure ChangeKeys where
  opInsert : List String := []
  opUpdate : List String := []
  opDelete : List String := []
  deriving DecidableEq, Repr

/-- What the handlers ask for : cJSON, the store (nothing if it is not open), the ids of the
online devices, `TaskBoard` and `flagUnInit_`. -/
structure ChangeContext where
  cJSON : Codec
  kvStore : String → Option String
  getUUIDByDeviceId : String → String
  getNetworkIdByUUID : String → String
  isEnabledDevice : String → Bool
  getUnInitFlag : Bool

/-- A task that a handler pushes. -/
structure ChangeTask where
  isEnable : Bool
  networkId : String
  uuid : String
  dhId : String
  dhType : UInt32
  deriving DecidableEq, Repr

/-- The cache of a manager, and the tasks that its handlers pushed. -/
structure InfoCache (T : Type) where
  globalInfoMap_ : Table String T := ∅
  tasks : List ChangeTask := []

/-- What the two kinds of record differ in. -/
structure RecordKind (T : Type) where
  getCapabilityByValue : Codec → String → Option T
  getKey : T → String
  capability : T → CapabilityInfo

/-- The handlers of a manager. -/
structure ChangeHandlers (T : Type) where
  handleAddChange : ChangeContext → List Entry → InfoCache T → InfoCache T
  handleUpdateChange : ChangeContext → List Entry → InfoCache T → InfoCache T
  handleDeleteChange : ChangeContext → List Entry → InfoCache T → InfoCache T

/-- `GetEntriesByKeys`. -/
def getEntriesByKeys (ctx : ChangeContext) (keys : List String) : List Entry :=
  if ¬isArrayLengthValid keys then []
  else keys.filterMap fun key => (ctx.kvStore key).map fun value => ⟨key, value⟩

/-- A batch is handled if there is something in it, and not too much. -/
def handleBatch {α T : Type} (handle : List α → InfoCache T → InfoCache T) (batch : List α)
    (s : InfoCache T) : InfoCache T :=
  if batch ≠ [] ∧ batch.length ≤ MAX_DB_RECORD_SIZE then handle batch s else s

section Handlers

variable {T : Type} (kind : RecordKind T) (ctx : ChangeContext)

/-- The uuid and the networkId of the device of a record, if it is online. -/
def findDevice (cap : T) : Option (String × String) :=
  let uuid := ctx.getUUIDByDeviceId (kind.capability cap).deviceId_
  if uuid = "" then none
  else
    let networkId := ctx.getNetworkIdByUUID uuid
    if networkId = "" then none else some (uuid, networkId)

/-- A task for the hardware of a record. -/
def changeTask (isEnable : Bool) (cap : T) (uuid networkId : String) : ChangeTask where
  isEnable := isEnable
  networkId := networkId
  uuid := uuid
  dhId := (kind.capability cap).dhId_
  dhType := (kind.capability cap).dhType_

/-- One record of an add change. -/
def addRecord (s : InfoCache T) (item : Entry) : InfoCache T :=
  match kind.getCapabilityByValue ctx.cJSON item.value with
  | none => s
  | some cap =>
    match findDevice kind ctx cap with
    | none => s
    | some (uuid, networkId) =>
      { globalInfoMap_ := s.globalInfoMap_.set (kind.getKey cap) cap
        tasks := s.tasks ++ [changeTask kind true cap uuid networkId] }

/-- One record of an update change : nothing is done for hardware that is enabled. -/
def updateRecord (s : InfoCache T) (item : Entry) : InfoCache T :=
  match kind.getCapabilityByValue ctx.cJSON item.value with
  | none => s
  | some cap =>
    match findDevice kind ctx cap with
    | none => s
    | some (uuid, networkId) =>
      let enabledDeviceKey :=
        getCapabilityKey (kind.capability cap).deviceId_ (kind.capability cap).dhId_
      if ctx.isEnabledDevice enabledDeviceKey then s
      else
        { globalInfoMap_ := s.globalInfoMap_.set (kind.getKey cap) cap
          tasks := s.tasks ++ [changeTask kind true cap uuid networkId] }

end Handlers

namespace CapabilityInfoManager

/-- `CapabilityInfo` records. -/
def kind : RecordKind CapabilityInfo where
  getCapabilityByValue cJSON value :=
    let (ret, cap) := CapabilityInfo.fromJsonString cJSON value {}
    if ret ≠ DH_FWK_SUCCESS then none else some cap
  getKey := CapabilityInfo.getKey
  capability := id

/-- One record of a delete change : its hardware is disabled. -/
def deleteRecord (ctx : ChangeContext) (s : InfoCache CapabilityInfo) (item : Entry) :
    InfoCache CapabilityInfo :=
  match kind.getCapabilityByValue ctx.cJSON item.value with
  | none => s
  | some cap =>
    match findDevice kind ctx cap with
    | none => s
    | some (uuid, networkId) =>
      { globalInfoMap_ := s.globalInfoMap_.remove cap.getKey
        tasks := s.tasks ++ [changeTask kind false cap uuid networkId] }

/-- `HandleCapabilityAddChange`. -/
def handleCapabilityAddChange (ctx : ChangeContext) (insertRecords : List Entry)
    (s : InfoCache CapabilityInfo) : InfoCache CapabilityInfo :=
  insertRecords.foldl (addRecord kind ctx) s

/-- `HandleCapabilityUpdateChange`. -/
def handleCapabilityUpdateChange (ctx : ChangeContext) (updateRecords : List Entry)
    (s : InfoCache CapabilityInfo) : InfoCache CapabilityInfo :=
  if ctx.getUnInitFlag then s else updateRecords.foldl (updateRecord kind ctx) s

/-- `HandleCapabilityDeleteChange`. -/
def handleCapabilityDeleteChange (ctx : ChangeContext) (deleteRecords : List Entry)
    (s : InfoCache CapabilityInfo) : InfoCache CapabilityInfo :=
  if ctx.getUnInitFlag then s else deleteRecords.foldl (deleteRecord ctx) s

def handlers : ChangeHandlers CapabilityInfo :=
  ⟨handleCapabilityAddChange, handleCapabilityUpdateChange, handleCapabilityDeleteChange⟩

end CapabilityInfoManager

namespace MetaInfoManager

/-- `MetaCapabilityInfo` records. -/
def kind : RecordKind MetaCapabilityInfo where
  getCapabilityByValue cJSON value :=
    let (ret, cap) := MetaCapabilityInfo.fromJsonString cJSON value {}
    if ret ≠ DH_FWK_SUCCESS then none else some cap
  getKey := MetaCapabilityInfo.getKey
  capability := MetaCapabilityInfo.toCapabilityInfo

/-- One record of a delete change : no hardware is disabled, whether its device is online or
not. -/
def deleteRecord (ctx : ChangeContext) (s : InfoCache MetaCapabilityInfo) (item : Entry) :
    InfoCache MetaCapabilityInfo :=
  match kind.getCapabilityByValue ctx.cJSON item.value with
  | none => s
  | some cap => { s with globalInfoMap_ := s.globalInfoMap_.remove cap.getKey }

/-- `HandleMetaCapabilityAddChange`. -/
def handleMetaCapabilityAddChange (ctx : ChangeContext) (insertRecords : List Entry)
    (s : InfoCache MetaCapabilityInfo) : InfoCache MetaCapabilityInfo :=
  insertRecords.foldl (addRecord kind ctx) s

/-- `HandleMetaCapabilityUpdateChange`, which does not look at `flagUnInit_`. -/
def handleMetaCapabilityUpdateChange (ctx : ChangeContext) (updateRecords : List Entry)
    (s : InfoCache MetaCapabilityInfo) : InfoCache MetaCapabilityInfo :=
  updateRecords.foldl (updateRecord kind ctx) s

/-- `HandleMetaCapabilityDeleteChange`, which does not either. -/
def handleMetaCapabilityDeleteChange (ctx : ChangeContext) (deleteRecords : List Entry)
    (s : InfoCache MetaCapabilityInfo) : InfoCache MetaCapabilityInfo :=
  deleteRecords.foldl (deleteRecord ctx) s

def handlers : ChangeHandlers MetaCapabilityInfo :=
  ⟨handleMetaCapabilityAddChange, handleMetaCapabilityUpdateChange,
    handleMetaCapabilityDeleteChange⟩

end MetaInfoManager

namespace ChangeHandlers

variable {T : Type} (handlers : ChangeHandlers T) (ctx : ChangeContext)

/-- `OnChange` of a notification. -/
def onChange (changeNotification : ChangeNotification) (s : InfoCache T) : InfoCache T :=
  let s := handleBatch (handlers.handleAddChange ctx) changeNotification.insertEntries s
  let s := handleBatch (handlers.handleUpdateChange ctx) changeNotification.updateEntries s
  handleBatch (handlers.handleDeleteChange ctx) changeNotification.deleteEntries s

/-- `OnChange` from the cloud. -/
def onChangeKeys (keys : ChangeKeys) (s : InfoCache T) : InfoCache T :=
  let s := handleBatch (handlers.handleAddChange ctx) (getEntriesByKeys ctx keys.opInsert) s
  let s := handleBatch (handlers.handleUpdateChange ctx) (getEntriesByKeys ctx keys.opUpdate) s
  let deleteRecords := keys.opDelete.map fun key => ({ key } : Entry)
  handleBatch (handlers.handleDeleteChange ctx) deleteRecords s

end ChangeHandlers

/-! ## What the handlers write and erase -/

/-- The keys that the handlers of a manager write and erase for an entry. An entry without a
value names none to erase. -/
structure HandlerKeys {T : Type} (handlers : ChangeHandlers T) where
  added : ChangeContext → Entry → Option String
  updated : ChangeContext → Entry → Option String
  deleted : ChangeContext → Entry → Option String
  lookup_add : ∀ ctx es s k, (handlers.handleAddChange ctx es s).globalInfoMap_.lookup k = none ↔
    s.globalInfoMap_.lookup k = none ∧ ∀ e ∈ es, added ctx e ≠ some k
  lookup_update : ∀ ctx es s k,
    (handlers.handleUpdateChange ctx es s).globalInfoMap_.lookup k = none ↔
      s.globalInfoMap_.lookup k = none ∧ ∀ e ∈ es, updated ctx e ≠ some k
  lookup_delete : ∀ ctx es s k, (handlers.handleDeleteChange ctx es s).globalInfoMap_.lookup k =
    if ∃ e ∈ es, deleted ctx e = some k then none else s.globalInfoMap_.lookup k
  deleted_empty : ∀ ctx key, deleted ctx { key } = none

section Records

variable {T : Type} {record : InfoCache T → Entry → InfoCache T} {key : Entry → Option String}

/-- If each entry writes one key or none, a batch writes these keys. -/
theorem lookup_foldl_write (h : ∀ s e k, (record s e).globalInfoMap_.lookup k = none ↔
      s.globalInfoMap_.lookup k = none ∧ key e ≠ some k) (es : List Entry) (s : InfoCache T)
    (k : String) : (es.foldl record s).globalInfoMap_.lookup k = none ↔
      s.globalInfoMap_.lookup k = none ∧ ∀ e ∈ es, key e ≠ some k := by
  induction es generalizing s with
  | nil => simp
  | cons e es ih => rw [List.foldl_cons, ih, h, List.forall_mem_cons, and_assoc]

/-- If each entry erases one key or none, a batch erases these keys. -/
theorem lookup_foldl_erase (h : ∀ s e k, (record s e).globalInfoMap_.lookup k =
      if key e = some k then none else s.globalInfoMap_.lookup k) (es : List Entry)
    (s : InfoCache T) (k : String) : (es.foldl record s).globalInfoMap_.lookup k =
      if ∃ e ∈ es, key e = some k then none else s.globalInfoMap_.lookup k := by
  induction es generalizing s with
  | nil => simp
  | cons e es ih =>
    rw [List.foldl_cons, ih, h]
    simp only [List.exists_mem_cons_iff]
    by_cases hrest : ∃ e ∈ es, key e = some k
    · rw [if_pos hrest, if_pos (.inr hrest)]
    · rw [if_neg hrest]
      exact if_congr (or_iff_left hrest).symm rfl rfl

theorem lookup_set_eq_none_iff {V : Type} (t : Table String V) (k k' : String) (v : V) :
    (t.set k v).lookup k' = none ↔ t.lookup k' = none ∧ some k ≠ some k' := by
  rw [Table.lookup_set]
  split_ifs with h
  · simp [h]
  · simp [Ne.symm h]

theorem lookup_remove_eq {V : Type} (t : Table String V) (k k' : String) :
    (t.remove k).lookup k' = if some k = some k' then none else t.lookup k' := by
  rw [Table.lookup_remove]
  exact if_congr (by rw [Option.some_inj, eq_comm]) rfl rfl

variable (kind : RecordKind T) (ctx : ChangeContext)

/-- The key of the record in an entry whose device is online. -/
def addedKey (item : Entry) : Option String :=
  (kind.getCapabilityByValue ctx.cJSON item.value).bind fun cap =>
    (findDevice kind ctx cap).map fun _ => kind.getKey cap

/-- The same, unless the hardware is enabled. -/
def updatedKey (item : Entry) : Option String :=
  (kind.getCapabilityByValue ctx.cJSON item.value).bind fun cap =>
    (findDevice kind ctx cap).bind fun _ =>
      if ctx.isEnabledDevice (getCapabilityKey (kind.capability cap).deviceId_
        (kind.capability cap).dhId_) then none else some (kind.getKey cap)

theorem lookup_addRecord (s : InfoCache T) (item : Entry) (k : String) :
    (addRecord kind ctx s item).globalInfoMap_.lookup k = none ↔
      s.globalInfoMap_.lookup k = none ∧ addedKey kind ctx item ≠ some k := by
  unfold addRecord addedKey
  cases kind.getCapabilityByValue ctx.cJSON item.value with
  | none => simp
  | some cap =>
    cases hdev : findDevice kind ctx cap with
    | none => simp [hdev]
    | some ids => simpa [hdev] using lookup_set_eq_none_iff _ _ _ _

theorem lookup_updateRecord (s : InfoCache T) (item : Entry) (k : String) :
    (updateRecord kind ctx s item).globalInfoMap_.lookup k = none ↔
      s.globalInfoMap_.lookup k = none ∧ updatedKey kind ctx item ≠ some k := by
  unfold updateRecord updatedKey
  cases kind.getCapabilityByValue ctx.cJSON item.value with
  | none => simp
  | some cap =>
    cases hdev : findDevice kind ctx cap with
    | none => simp [hdev]
    | some ids =>
      simp only [hdev, Option.bind_some]
      split_ifs
      · simp
      · exact lookup_set_eq_none_iff _ _ _ _

end Records

namespace CapabilityInfoManager

theorem lookup_deleteRecord (ctx : ChangeContext) (s : InfoCache CapabilityInfo) (item : Entry)
    (k : String) : (deleteRecord ctx s item).globalInfoMap_.lookup k =
      if addedKey kind ctx item = some k then none else s.globalInfoMap_.lookup k := by
  unfold deleteRecord addedKey
  cases kind.getCapabilityByValue ctx.cJSON item.value with
  | none => simp
  | some cap =>
    cases hdev : findDevice kind ctx cap with
    | none => simp [hdev]
    | some ids =>
      simp only [hdev, Option.bind_some, Option.map_some]
      exact lookup_remove_eq _ _ _

/-- Updates and deletions are not handled while the service is released. -/
def handlerKeys : HandlerKeys handlers where
  added := addedKey kind
  updated ctx item := if ctx.getUnInitFlag then none else updatedKey kind ctx item
  deleted ctx item := if ctx.getUnInitFlag then none else addedKey kind ctx item
  lookup_add ctx es s k := lookup_foldl_write (lookup_addRecord kind ctx) es s k
  lookup_update ctx es s k := by
    simp only [handlers, handleCapabilityUpdateChange]
    split_ifs
    · simp
    · exact lookup_foldl_write (lookup_updateRecord kind ctx) es s k
  lookup_delete ctx es s k := by
    simp only [handlers, handleCapabilityDeleteChange]
    by_cases hflag : ctx.getUnInitFlag
    · simp [hflag]
    · simp only [hflag]
      exact lookup_foldl_erase (lookup_deleteRecord ctx) es s k
  deleted_empty ctx key := by
    split_ifs <;> rfl

end CapabilityInfoManager

namespace MetaInfoManager

/-- The key of the record in an entry. -/
def deletedKey (ctx : ChangeContext) (item : Entry) : Option String :=
  (kind.getCapabilityByValue ctx.cJSON item.value).map MetaCapabilityInfo.getKey

theorem lookup_deleteRecord (ctx : ChangeContext) (s : InfoCache MetaCapabilityInfo) (item : Entry)
    (k : String) : (deleteRecord ctx s item).globalInfoMap_.lookup k =
      if deletedKey ctx item = some k then none else s.globalInfoMap_.lookup k := by
  unfold deleteRecord deletedKey
  cases kind.getCapabilityByValue ctx.cJSON item.value with
  | none => simp
  | some cap => simpa using lookup_remove_eq _ _ _

def handlerKeys : HandlerKeys handlers where
  added := addedKey kind
  updated := updatedKey kind
  deleted := deletedKey
  lookup_add ctx es s k := lookup_foldl_write (lookup_addRecord kind ctx) es s k
  lookup_update ctx es s k := lookup_foldl_write (lookup_updateRecord kind ctx) es s k
  lookup_delete ctx es s k := lookup_foldl_erase (lookup_deleteRecord ctx) es s k
  deleted_empty _ _ := rfl

end MetaInfoManager

/-! ## Deletions -/

/-- The keys are gone, and every other entry is what it was. -/
def Deleted {T : Type} (keys : List String) (before after : InfoCache T) : Prop :=
  ∀ k, after.globalInfoMap_.lookup k =
    if k ∈ keys ∧ isKeySizeValid k then none else before.globalInfoMap_.lookup k

/-- The entries of the deleted records are deleted, whichever shape the change has, and both
shapes of a change leave the same cache. -/
structure DeletionsReach {T : Type} (handlers : ChangeHandlers T) (ctx : ChangeContext)
    (s : InfoCache T) (inserted updated : List String) (deleted : List Entry) : Prop where
  notification : Deleted (deleted.map Entry.key) s
    (handlers.onChange ctx { deleteEntries := deleted } s)
  cloud : Deleted (deleted.map Entry.key) s
    (handlers.onChangeKeys ctx { opDelete := deleted.map Entry.key } s)
  same : ∀ k, (handlers.onChange ctx ⟨getEntriesByKeys ctx inserted, getEntriesByKeys ctx updated,
      deleted⟩ s).globalInfoMap_.lookup k =
    (handlers.onChangeKeys ctx ⟨inserted, updated, deleted.map Entry.key⟩ s).globalInfoMap_.lookup k

namespace HandlerKeys

variable {T : Type} {handlers : ChangeHandlers T} (keys : HandlerKeys handlers)
  (ctx : ChangeContext) (s : InfoCache T)

/-- An entry of the batch has the key, and the batch is handled. -/
def InBatch (key : ChangeContext → Entry → Option String) (batch : List Entry) (k : String) :
    Prop :=
  batch.length ≤ MAX_DB_RECORD_SIZE ∧ ∃ e ∈ batch, key ctx e = some k

/-- The values of the deleted entries name exactly the deleted keys that are in the cache, no
deleted key is in the cache, and the values name no key that is in the cache or is written by
the same change. -/
structure Reached (inserted updated : List String) (deleted : List Entry) : Prop where
  values : ∀ k, s.globalInfoMap_.lookup k ≠ none →
    (InBatch ctx keys.deleted deleted k ↔ k ∈ deleted.map Entry.key ∧ isKeySizeValid k)
  absent : ∀ k ∈ deleted.map Entry.key, isKeySizeValid k → s.globalInfoMap_.lookup k = none
  untouched : ∀ k, InBatch ctx keys.deleted deleted k → s.globalInfoMap_.lookup k = none ∧
    ¬ InBatch ctx keys.added (getEntriesByKeys ctx inserted) k ∧
    ¬ InBatch ctx keys.updated (getEntriesByKeys ctx updated) k

variable {keys ctx s}

theorem handleBatch_eq_none_iff {handle : List Entry → InfoCache T → InfoCache T}
    {key : ChangeContext → Entry → Option String}
    (h : ∀ es s k, (handle es s).globalInfoMap_.lookup k = none ↔
      s.globalInfoMap_.lookup k = none ∧ ∀ e ∈ es, key ctx e ≠ some k) (es : List Entry)
    (s : InfoCache T) (k : String) : (handleBatch handle es s).globalInfoMap_.lookup k = none ↔
      s.globalInfoMap_.lookup k = none ∧ ¬ InBatch ctx key es k := by
  unfold handleBatch InBatch
  split_ifs with hbatch
  · rw [h, and_iff_right hbatch.2]
    simp
  · have hno : ¬ (es.length ≤ MAX_DB_RECORD_SIZE ∧ ∃ e ∈ es, key ctx e = some k) := by
      rintro ⟨hlen, e, he, -⟩
      exact hbatch ⟨List.ne_nil_of_mem he, hlen⟩
    exact (and_iff_left hno).symm

/-- What deletions leave of the cache. -/
theorem lookup_handleDelete (keys : HandlerKeys handlers) (es : List Entry) (s : InfoCache T)
    (k : String) : (InBatch ctx keys.deleted es k →
        (handleBatch (handlers.handleDeleteChange ctx) es s).globalInfoMap_.lookup k = none) ∧
      (¬ InBatch ctx keys.deleted es k →
        (handleBatch (handlers.handleDeleteChange ctx) es s).globalInfoMap_.lookup k =
          s.globalInfoMap_.lookup k) := by
  unfold handleBatch InBatch
  split_ifs with hbatch
  · rw [keys.lookup_delete, and_iff_right hbatch.2]
    exact ⟨fun h => if_pos h, fun h => if_neg h⟩
  · refine ⟨?_, fun _ => rfl⟩
    rintro ⟨hlen, e, he, -⟩
    exact absurd ⟨List.ne_nil_of_mem he, hlen⟩ hbatch

/-- Entries without a value erase nothing. -/
theorem lookup_handleDelete_keys (keys : HandlerKeys handlers) (ks : List String)
    (s : InfoCache T) (k : String) :
    (handleBatch (handlers.handleDeleteChange ctx) (ks.map fun key => ({ key } : Entry))
      s).globalInfoMap_.lookup k = s.globalInfoMap_.lookup k := by
  refine (lookup_handleDelete keys _ s k).2 ?_
  rintro ⟨-, e, he, hkey⟩
  obtain ⟨key, -, rfl⟩ := List.mem_map.1 he
  rw [keys.deleted_empty] at hkey
  cases hkey

theorem onChange_deleted_iff (keys : HandlerKeys handlers) (deleted : List Entry) :
    Deleted (deleted.map Entry.key) s (handlers.onChange ctx { deleteEntries := deleted } s) ↔
      ∀ k, s.globalInfoMap_.lookup k ≠ none →
        (InBatch ctx keys.deleted deleted k ↔ k ∈ deleted.map Entry.key ∧ isKeySizeValid k) := by
  have hchange : handlers.onChange ctx { deleteEntries := deleted } s =
      handleBatch (handlers.handleDeleteChange ctx) deleted s := rfl
  rw [hchange, Deleted]
  refine forall_congr' fun k => ?_
  obtain ⟨hgone, hkept⟩ := lookup_handleDelete keys deleted s k
  by_cases hin : InBatch ctx keys.deleted deleted k
  · rw [hgone hin, iff_true_left hin]
    by_cases hk : k ∈ deleted.map Entry.key ∧ isKeySizeValid k
    · rw [if_pos hk]
      exact iff_of_true rfl fun _ => hk
    · rw [if_neg hk]
      exact ⟨fun h hmem => absurd h.symm hmem, fun h => by_contra fun hmem => hk (h (Ne.symm hmem))⟩
  · rw [hkept hin, iff_false_left hin]
    by_cases hk : k ∈ deleted.map Entry.key ∧ isKeySizeValid k
    · rw [if_pos hk]
      exact ⟨fun h hmem => absurd h hmem, fun h => by_contra fun hmem => h hmem hk⟩
    · rw [if_neg hk]
      exact iff_of_true rfl fun _ => hk

theorem onChangeKeys_deleted_iff (keys : HandlerKeys handlers) (ks : List String) :
    Deleted ks s (handlers.onChangeKeys ctx { opDelete := ks } s) ↔
      ∀ k ∈ ks, isKeySizeValid k → s.globalInfoMap_.lookup k = none := by
  have hchange : handlers.onChangeKeys ctx { opDelete := ks } s =
      handleBatch (handlers.handleDeleteChange ctx) (ks.map fun key => ({ key } : Entry)) s := rfl
  rw [hchange, Deleted]
  refine forall_congr' fun k => ?_
  rw [lookup_handleDelete_keys keys]
  by_cases hk : k ∈ ks ∧ isKeySizeValid k
  · rw [if_pos hk]
    exact ⟨fun h _ _ => h, fun h => h hk.1 hk.2⟩
  · rw [if_neg hk]
    exact iff_of_true rfl fun hmem hvalid => absurd ⟨hmem, hvalid⟩ hk

theorem onChange_same_iff (keys : HandlerKeys handlers) (inserted updated : List String)
    (deleted : List Entry) :
    (∀ k, (handlers.onChange ctx ⟨getEntriesByKeys ctx inserted, getEntriesByKeys ctx updated,
        deleted⟩ s).globalInfoMap_.lookup k =
      (handlers.onChangeKeys ctx
        ⟨inserted, updated, deleted.map Entry.key⟩ s).globalInfoMap_.lookup k) ↔
      ∀ k, InBatch ctx keys.deleted deleted k → s.globalInfoMap_.lookup k = none ∧
        ¬ InBatch ctx keys.added (getEntriesByKeys ctx inserted) k ∧
        ¬ InBatch ctx keys.updated (getEntriesByKeys ctx updated) k := by
  refine forall_congr' fun k => ?_
  simp only [ChangeHandlers.onChange, ChangeHandlers.onChangeKeys]
  rw [lookup_handleDelete_keys keys]
  generalize hw : handleBatch (handlers.handleUpdateChange ctx) (getEntriesByKeys ctx updated)
    (handleBatch (handlers.handleAddChange ctx) (getEntriesByKeys ctx inserted) s) = w
  have hnone : w.globalInfoMap_.lookup k = none ↔ s.globalInfoMap_.lookup k = none ∧
      ¬ InBatch ctx keys.added (getEntriesByKeys ctx inserted) k ∧
      ¬ InBatch ctx keys.updated (getEntriesByKeys ctx updated) k := by
    rw [← hw, handleBatch_eq_none_iff (keys.lookup_update ctx),
      handleBatch_eq_none_iff (keys.lookup_add ctx), and_assoc]
  obtain ⟨hgone, hkept⟩ := lookup_handleDelete keys deleted w k
  rw [← hnone]
  by_cases hin : InBatch ctx keys.deleted deleted k
  · rw [hgone hin]
    exact ⟨fun h _ => h.symm, fun h => (h hin).symm⟩
  · exact iff_of_true (hkept hin) fun h => absurd h hin

theorem deletionsReach_iff (keys : HandlerKeys handlers) (inserted updated : List String)
    (deleted : List Entry) : DeletionsReach handlers ctx s inserted updated deleted ↔
      keys.Reached ctx s inserted updated deleted := by
  constructor
  · rintro ⟨hnotification, hcloud, hsame⟩
    exact ⟨(onChange_deleted_iff keys deleted).1 hnotification,
      (onChangeKeys_deleted_iff keys _).1 hcloud,
      (onChange_same_iff keys inserted updated deleted).1 hsame⟩
  · rintro ⟨hvalues, habsent, huntouched⟩
    exact ⟨(onChange_deleted_iff keys deleted).2 hvalues,
      (onChangeKeys_deleted_iff keys _).2 habsent,
      (onChange_same_iff keys inserted updated deleted).2 huntouched⟩

end HandlerKeys

/-- The deletions of a change reach the caches of both managers, in either shape of the change,
exactly if the deleted keys are not in them and the values of the deleted entries name nothing
that is, or that the change writes. -/
theorem deletions_reach_iff (ctx : ChangeContext) (s : InfoCache CapabilityInfo)
    (m : InfoCache MetaCapabilityInfo) (inserted updated : List String) (deleted : List Entry) :
    (DeletionsReach CapabilityInfoManager.handlers ctx s inserted updated deleted ↔
        CapabilityInfoManager.handlerKeys.Reached ctx s inserted updated deleted) ∧
      (DeletionsReach MetaInfoManager.handlers ctx m inserted updated deleted ↔
        MetaInfoManager.handlerKeys.Reached ctx m inserted updated deleted) :=
  ⟨HandlerKeys.deletionsReach_iff _ _ _ _, HandlerKeys.deletionsReach_iff _ _ _ _⟩

/-- A camera is in both caches, and the cloud reports its key as deleted : it stays. -/
theorem deletions_lost :
    let ctx : ChangeContext := ⟨cameraCodec "camera", fun _ => none, fun _ => "u1", fun _ => "n1",
      fun _ => false, false⟩
    ¬ DeletionsReach CapabilityInfoManager.handlers ctx
        ⟨(∅ : Table String CapabilityInfo).set camera.getKey camera, []⟩ [] [] [⟨camera.getKey, ""⟩] ∧
      ¬ DeletionsReach MetaInfoManager.handlers ctx
        ⟨(∅ : Table String MetaCapabilityInfo).set metaCamera.getKey metaCamera, []⟩ [] []
        [⟨metaCamera.getKey, ""⟩] := by
  constructor
  · intro h
    exact absurd (h.cloud camera.getKey) (by decide)
  · intro h
    exact absurd (h.cloud metaCamera.getKey) (by decide)

end DHFwk
