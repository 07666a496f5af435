import DHFwk.LocalHardware
import DHFwk.Runs

/-!
# The records of the local input devices

The store and the cache should have the records of the input devices that are plugged : those that
the last query of an `Init` returned, and those plugged and not unplugged since. They do in a run in
which no record stays that should go and none that is added is turned down (`input_records_mirror`).

Records stay if all queries of an `Init` come back empty, or if their keys are longer than an id may
be, while only the ids of the hardware were checked; and records are turned down if there are too
many or their attributes are empty (`input_records_stay`).
-/

set_option linter.unusedSectionVars false

namespace DHFwk

open Json Runs CapabilityInfoManager

/-! ## What should be there -/

/-- A call of the manager, or of the listener for the input devices. -/
inductive InputEvent
  | init (compHandlerMap_ : Table DHType HardwareHandler)
  | unInit
  | pluginHardware (dhItem : DHItem)
  | unPluginHardware (dhId : String)

namespace LocalHardwareManager

/-- The system, where the store does what it is asked. -/
def step (cJSON : Codec) (dev : LocalDeviceInfo) (s : LocalHardwareManager) :
    InputEvent → LocalHardwareManager
  | .init compHandlerMap_ => s.init cJSON {} dev compHandlerMap_
  | .unInit => s.unInit
  | .pluginHardware dhItem =>
    { s with
      capabilityInfoManager :=
        PluginListenerImpl.pluginHardware cJSON {} dev .INPUT dhItem s.capabilityInfoManager }
  | .unPluginHardware dhId =>
    { s with
      capabilityInfoManager :=
        PluginListenerImpl.unPluginHardware {} dev dhId s.capabilityInfoManager }

/-- The ids of the input devices that are plugged, since an `Init` asked for them. -/
def expected : Option (List String) → InputEvent → Option (List String)
  | _, .init compHandlerMap_ => (inputQuery compHandlerMap_).map (·.map DHItem.dhId)
  | ids, .unInit => ids
  | ids, .pluginHardware dhItem => ids.map (dhItem.dhId :: ·)
  | ids, .unPluginHardware dhId => ids.map (·.filter (· ≠ dhId))

/-- The key of an item of another type that is added with the input devices. -/
def IsOther (dev : LocalDeviceInfo) (s : LocalHardwareManager) (key : String) : InputEvent → Prop
  | .init compHandlerMap_ => ∃ dhType ≠ .INPUT, ∃ dhItems,
    (queried compHandlerMap_ s.localDHItemsMap_).lookup dhType = some dhItems ∧
      ∃ dhItem ∈ dhItems, key = dev.key dhItem.dhId
  | _ => False

/-- The store and the cache have the records of the ids. -/
def Has (dev : LocalDeviceInfo) (ids : List String) (s : LocalHardwareManager) : Prop :=
  dev.inputIds s.capabilityInfoManager.kvStore = {dhId | dhId ∈ ids} ∧
    dev.inputIds s.capabilityInfoManager.globalInfoMap_ = {dhId | dhId ∈ ids}

/-- What an event does to records that are not of local input devices. -/
def KeepsOthers (dev : LocalDeviceInfo) (event : InputEvent) (s s' : LocalHardwareManager) : Prop :=
  ∀ key, ¬dev.IsInputKey key → ¬s.IsOther dev key event →
    s'.capabilityInfoManager.kvStore.lookup key = s.capabilityInfoManager.kvStore.lookup key ∧
      s'.capabilityInfoManager.globalInfoMap_.lookup key =
        s.capabilityInfoManager.globalInfoMap_.lookup key

/-! ## When it is there -/

/-- What the store has of local input devices, where those of the ids are there. No value reads back
as a record of another key, and the values of devices that are gone read back at all; these are not
too many to be found, and their keys not too long to be removed. -/
structure Clears (cJSON : Codec) (dev : LocalDeviceInfo) (ids : List String)
    (kvStore : Table String String) : Prop where
  reads : ∀ e ∈ kvStore.entries, dev.IsInputKey e.1 →
    (∀ c ∈ kind.getCapabilityByValue cJSON e.2, c.deviceId_ = dev.deviceId ∧ c.getKey = e.1) ∧
      (e.1 ∈ ids.map dev.key ∨ (kind.getCapabilityByValue cJSON e.2).isSome)
  found : (∃ e ∈ kvStore.entries, dev.IsInputKey e.1 ∧ e.1 ∉ ids.map dev.key) →
    isIdLengthValid dev.deviceId = true ∧
      (kvStore.entries.filter fun e => dev.IsInputKey e.1).length ≤ MAX_DB_RECORD_SIZE
  short : ∀ e ∈ kvStore.entries, dev.IsInputKey e.1 → e.1 ∉ ids.map dev.key →
    isIdLengthValid e.1 = true

/-- What is asked of an `Init` : of the reports, that the ids tell the input devices from others;
and of what follows, that records that should go can be removed and what was found is not too
much to be added. Where nothing was found there is nothing to remove. -/
structure InitOk (cJSON : Codec) (dev : LocalDeviceInfo) (s : LocalHardwareManager)
    (compHandlerMap_ : Table DHType HardwareHandler) : Prop where
  reported : ∀ comp ∈ compHandlerMap_.entries, ∀ n ≤ QUERY_RETRY_MAX_TIMES,
    ∀ dhItem ∈ comp.2.query n, (IsInputId dhItem.dhId ↔ comp.1 = .INPUT)
  empty : inputQuery compHandlerMap_ = some [] →
    (s.localDHItemsMap_.lookup .INPUT).getD [] = [] ∧
      ∀ e ∈ s.capabilityInfoManager.kvStore.entries, ¬dev.IsInputKey e.1
  clears : ∀ dhItems ∈ inputQuery compHandlerMap_, dhItems ≠ [] →
    Clears cJSON dev (dhItems.map DHItem.dhId) s.capabilityInfoManager.kvStore
  fits : ∀ dhItems ∈ inputQuery compHandlerMap_, dhItems ≠ [] →
    (queried compHandlerMap_ s.localDHItemsMap_).sum (fun _ dhItems => dhItems.length) ≤
      MAX_WRITE_DB_DATA_SIZE

/-- What is asked of an event. A plugged device has attributes of a length that is taken; and an
unplugged one, if it is there, a key that may be removed. -/
def Ok (cJSON : Codec) (dev : LocalDeviceInfo) (s : LocalHardwareManager) : InputEvent → Prop
  | .init compHandlerMap_ => s.InitOk cJSON dev compHandlerMap_
  | .unInit => True
  | .pluginHardware dhItem =>
    isIdLengthValid dhItem.dhId ∧ IsInputId dhItem.dhId ∧ isMessageLengthValid dhItem.attrs
  | .unPluginHardware dhId =>
    isIdLengthValid dhId ∧ IsInputId dhId ∧
      (dev.key dhId ∈ s.capabilityInfoManager.globalInfoMap_ →
        isIdLengthValid dev.deviceId ∧ isIdLengthValid (dev.key dhId))

/-- Before the first `Init`. The store is as an earlier run left it. -/
structure Starts (s : LocalHardwareManager) : Prop where
  localDHItemsMap : s.localDHItemsMap_ = ∅
  globalInfoMap : s.capabilityInfoManager.globalInfoMap_ = ∅
  dbAdapterPtr : s.capabilityInfoManager.dbAdapterPtr_ = true

end LocalHardwareManager

/-! ## What is removed -/

namespace LocalHardwareManager

section Removals

variable {cJSON : Codec} {dev : LocalDeviceInfo} {s : InfoStore CapabilityInfo} {key : String}

/-- A local record is looked for by its id, or by its key. -/
theorem any_dhId_eq_false_iff {dhItems : List DHItem} {c : CapabilityInfo}
    (hdevice : c.deviceId_ = dev.deviceId) :
    (dhItems.any fun dhItem => c.dhId_ = dhItem.dhId) = false ↔
      c.getKey ∉ (dhItems.map DHItem.dhId).map dev.key := by
  have hkey : c.getKey = dev.key c.dhId_ := congrArg (getCapabilityKey · c.dhId_) hdevice
  simp only [hkey, List.any_eq_false, decide_eq_true_eq, List.mem_map, not_exists, not_and,
    LocalDeviceInfo.key_inj]
  exact ⟨fun h dhId ⟨dhItem, hi, hid⟩ heq => h dhItem hi (heq.symm.trans hid.symm),
    fun h dhItem hi heq => h dhItem.dhId ⟨dhItem, hi, rfl⟩ heq.symm⟩

/-- The keys of the local input devices that are not among the items are removed, and no others. -/
theorem mem_nonExistKeys {dhItems : List DHItem} (hadapter : s.dbAdapterPtr_ = true)
    (h : Clears cJSON dev (dhItems.map DHItem.dhId) s.kvStore) :
    key ∈ nonExistKeys cJSON dev dhItems s ↔
      key ∈ s.kvStore ∧ dev.IsInputKey key ∧ key ∉ (dhItems.map DHItem.dhId).map dev.key := by
  simp only [nonExistKeys, List.mem_filterMap, Option.ite_none_right_eq_some, Option.some_inj]
  constructor
  · rintro ⟨c, ⟨k, -, hlookup⟩, ⟨hexist, -⟩, rfl⟩
    obtain ⟨-, e, he, hinput, hread⟩ := lookup_getLocalCapabilityMapByPrefix hadapter hlookup
    obtain ⟨hdevice, hkey⟩ := (h.reads e he hinput).1 c hread
    have hmem : e.1 ∈ s.kvStore := AList.mem_keys.2 (List.mem_map_of_mem he)
    exact ⟨hkey ▸ hmem, hkey ▸ hinput, (any_dhId_eq_false_iff hdevice).1 hexist⟩
  · rintro ⟨hmem, hinput, hgone⟩
    obtain ⟨value, hvalue⟩ := Option.isSome_iff_exists.1 (AList.lookup_isSome.2 hmem)
    have he : (⟨key, value⟩ : Σ _ : String, String) ∈ s.kvStore.entries :=
      AList.mem_lookup_iff.1 hvalue
    have hshort := h.short _ he hinput hgone
    obtain ⟨hvalid, hcount⟩ := h.found ⟨_, he, hinput, hgone⟩
    obtain ⟨c, hread⟩ := Option.isSome_iff_exists.1 ((h.reads _ he hinput).2.resolve_left hgone)
    obtain ⟨-, rfl⟩ := (h.reads _ he hinput).1 c hread
    have hfound := getKey_mem_getLocalCapabilityMapByPrefix hadapter hvalid
      (LocalDeviceInfo.isIdLengthValid_input hinput hshort) hcount he hinput hread
    -- The record under the key may be read from another value, but is one of the device too.
    obtain ⟨c', hlookup⟩ := Option.isSome_iff_exists.1 (AList.lookup_isSome.2 hfound)
    obtain ⟨hkey', e', he', hinput', hread'⟩ :=
      lookup_getLocalCapabilityMapByPrefix hadapter hlookup
    obtain ⟨hdevice', -⟩ := (h.reads e' he' hinput').1 c' hread'
    have hgone' := (any_dhId_eq_false_iff hdevice').2 (hkey'.symm ▸ hgone)
    exact ⟨c', ⟨_, Table.mem_sortedKeys.2 ⟨c', hlookup⟩, hlookup⟩, ⟨hgone', hkey'.symm ▸ hshort⟩,
      hkey'⟩

end Removals

/-! ## What is kept -/

section Kept

variable {cJSON : Codec} {dev : LocalDeviceInfo}

/-- The cache has no record that the store does not have, and each under its key. -/
structure Filed (s : InfoStore CapabilityInfo) : Prop where
  dbAdapterPtr : s.dbAdapterPtr_ = true
  stored : ∀ key ∈ s.globalInfoMap_, key ∈ s.kvStore
  key : ∀ {key c}, s.globalInfoMap_.lookup key = some c → c.getKey = key

/-- The items of the input devices, and no others, have ids of input devices. -/
def Typed (localDHItemsMap_ : Table DHType (List DHItem)) : Prop :=
  ∀ dhType dhItems, localDHItemsMap_.lookup dhType = some dhItems →
    ∀ dhItem ∈ dhItems, (IsInputId dhItem.dhId ↔ dhType = .INPUT)

/-- What every event keeps. -/
structure Consistent (s : LocalHardwareManager) : Prop where
  filed : Filed s.capabilityInfoManager
  typed : Typed s.localDHItemsMap_

theorem Starts.consistent {s : LocalHardwareManager} (h : s.Starts) : s.Consistent where
  filed :=
    { dbAdapterPtr := h.dbAdapterPtr
      stored := fun key hkey => absurd (h.globalInfoMap ▸ hkey) (AList.notMem_empty key)
      key := fun hlookup => absurd (h.globalInfoMap ▸ hlookup) (Table.lookup_empty_ne_some _ _) }
  typed _ _ hlookup := absurd (h.localDHItemsMap ▸ hlookup) (Table.lookup_empty_ne_some _ _)

section Filed

variable {s s' : InfoStore CapabilityInfo}

theorem Filed.added {infos : List CapabilityInfo} (h : Filed s) (hadded : Added infos s s') :
    Filed s' where
  dbAdapterPtr := hadded.dbAdapterPtr.trans h.dbAdapterPtr
  stored key hkey := (hadded.stored key).2 (((hadded.cached key).1 hkey).imp_right (h.stored key))
  key hlookup := (hadded.filed hlookup).elim id h.key

theorem Filed.removeAll (h : Filed s) (keys : List String) :
    Filed { s with
      globalInfoMap_ := s.globalInfoMap_.removeAll keys
      kvStore := s.kvStore.removeAll keys } where
  dbAdapterPtr := h.dbAdapterPtr
  stored key hkey := by
    rw [Table.mem_removeAll] at hkey ⊢
    exact hkey.imp_right (h.stored key)
  key hlookup := by
    rw [Table.lookup_removeAll] at hlookup
    split_ifs at hlookup
    exact h.key hlookup

end Filed

/-- Every answer is one of the attempts. -/
theorem exists_mem_query {h : HardwareHandler} {dhItem : DHItem} :
    ∀ {n : ℕ}, dhItem ∈ h.answer n → ∃ m ≤ n, dhItem ∈ h.query m
  | 0, hmem => by cases hmem
  | n + 1, hmem => by
    rw [HardwareHandler.answer] at hmem
    split_ifs at hmem
    · obtain ⟨m, hm, hquery⟩ := exists_mem_query hmem
      exact ⟨m, Nat.le_succ_of_le hm, hquery⟩
    · exact ⟨n + 1, le_rfl, hmem⟩

theorem exists_mem_query_of_found {h : HardwareHandler} {dhItem : DHItem}
    (hmem : dhItem ∈ h.found) : ∃ n ≤ QUERY_RETRY_MAX_TIMES, dhItem ∈ h.query n := by
  unfold HardwareHandler.found HardwareHandler.lastQuery at hmem
  split_ifs at hmem
  · exact exists_mem_query hmem
  · cases hmem

theorem Typed.queried {compHandlerMap_ : Table DHType HardwareHandler}
    {localDHItemsMap_ : Table DHType (List DHItem)} (h : Typed localDHItemsMap_)
    (hreported : ∀ comp ∈ compHandlerMap_.entries, ∀ n ≤ QUERY_RETRY_MAX_TIMES,
      ∀ dhItem ∈ comp.2.query n, (IsInputId dhItem.dhId ↔ comp.1 = .INPUT)) :
    Typed (queried compHandlerMap_ localDHItemsMap_) := by
  unfold DHFwk.queried
  generalize compHandlerMap_.entries = comps at hreported ⊢
  induction comps generalizing localDHItemsMap_ with
  | nil => exact h
  | cons comp comps ih =>
    rw [List.forall_mem_cons] at hreported
    rw [List.foldl_cons]
    refine ih ?_ hreported.2
    split_ifs
    · exact h
    intro dhType dhItems hlookup dhItem hmem
    rw [Table.lookup_set] at hlookup
    split_ifs at hlookup with htype
    · obtain rfl := Option.some.inj hlookup
      obtain ⟨n, hn, hquery⟩ := exists_mem_query_of_found hmem
      rw [htype]
      exact hreported.1 n hn dhItem hquery
    · exact h dhType dhItems hlookup dhItem hmem

end Kept

/-! ## Ids -/

section Ids

variable {V : Type} {dev : LocalDeviceInfo} {t t' : Table String V} {dhId : String}

/-- The ids are those that are new, if there were no others. -/
theorem inputIds_eq_of_added {P : String → Prop} {ids : List String}
    (ht : ∀ key, key ∈ t' ↔ P key ∨ key ∈ t)
    (hnew : ∀ dhId, IsInputId dhId → (P (dev.key dhId) ↔ dhId ∈ ids))
    (hold : ∀ dhId, IsInputId dhId → dev.key dhId ∈ t → dhId ∈ ids)
    (hids : ∀ dhId ∈ ids, IsInputId dhId) : dev.inputIds t' = {dhId | dhId ∈ ids} := by
  ext dhId
  constructor
  · rintro ⟨hid, hkey⟩
    exact ((ht _).1 hkey).elim (hnew dhId hid).1 (hold dhId hid)
  · intro hmem
    exact ⟨hids dhId hmem, (ht _).2 (.inl ((hnew dhId (hids dhId hmem)).2 hmem))⟩

theorem inputIds_insert (hid : IsInputId dhId)
    (ht : ∀ key, key ∈ t' ↔ key = dev.key dhId ∨ key ∈ t) :
    dev.inputIds t' = insert dhId (dev.inputIds t) := by
  ext dhId'
  rw [Set.mem_insert_iff]
  constructor
  · rintro ⟨hid', hkey⟩
    exact ((ht _).1 hkey).imp LocalDeviceInfo.key_inj.1 fun hold => ⟨hid', hold⟩
  · rintro (rfl | ⟨hid', hold⟩)
    · exact ⟨hid, (ht _).2 (.inl rfl)⟩
    · exact ⟨hid', (ht _).2 (.inr hold)⟩

theorem inputIds_remove :
    dev.inputIds (t.remove (dev.key dhId)) = {dhId' ∈ dev.inputIds t | dhId' ≠ dhId} := by
  ext dhId'
  have hmem : dev.key dhId' ∈ t.remove (dev.key dhId) ↔ dhId' ≠ dhId ∧ dev.key dhId' ∈ t :=
    AList.mem_erase.trans (and_congr_left fun _ => LocalDeviceInfo.key_inj.not)
  constructor
  · rintro ⟨hid, hkey⟩
    exact ⟨⟨hid, (hmem.1 hkey).2⟩, (hmem.1 hkey).1⟩
  · rintro ⟨⟨hid, hkey⟩, hne⟩
    exact ⟨hid, hmem.2 ⟨hne, hkey⟩⟩

end Ids

/-! ## An `Init` -/

section Init

variable {cJSON : Codec} {dev : LocalDeviceInfo} {s : LocalHardwareManager} {key dhId : String}
  {compHandlerMap_ : Table DHType HardwareHandler} {dhItems : List DHItem}

theorem mem_localCapabilityInfos {t : Table DHType (List DHItem)} {c : CapabilityInfo} :
    c ∈ localCapabilityInfos dev t ↔ ∃ dhType dhItems, t.lookup dhType = some dhItems ∧
      ∃ dhItem ∈ dhItems, dhItem.capabilityInfo dev dhType = c := by
  simp only [localCapabilityInfos, List.mem_flatMap, List.mem_map]
  constructor
  · rintro ⟨e, he, hmem⟩
    exact ⟨e.1, e.2, AList.mem_lookup_iff.2 he, hmem⟩
  · rintro ⟨dhType, dhItems, hlookup, hmem⟩
    exact ⟨⟨dhType, dhItems⟩, AList.mem_lookup_iff.1 hlookup, hmem⟩

theorem length_localCapabilityInfos (t : Table DHType (List DHItem)) :
    (localCapabilityInfos dev t).length = t.sum fun _ dhItems => dhItems.length := by
  simp [localCapabilityInfos, Table.sum, List.length_flatMap]

/-- Of the records those of input devices are the ones of the input items. -/
theorem exists_getKey_eq_iff {t : Table DHType (List DHItem)} (h : Typed t)
    (hid : IsInputId dhId) : (∃ c ∈ localCapabilityInfos dev t, c.getKey = dev.key dhId) ↔
      dhId ∈ ((t.lookup .INPUT).getD []).map DHItem.dhId := by
  rw [List.mem_map]
  constructor
  · rintro ⟨c, hc, hkey⟩
    obtain ⟨dhType, dhItems, hlookup, dhItem, hmem, rfl⟩ := mem_localCapabilityInfos.1 hc
    obtain rfl : dhItem.dhId = dhId := LocalDeviceInfo.key_inj.1 hkey
    obtain rfl := (h dhType dhItems hlookup dhItem hmem).1 hid
    exact ⟨dhItem, by rwa [hlookup], rfl⟩
  · rintro ⟨dhItem, hmem, rfl⟩
    cases hlookup : t.lookup .INPUT with
    | none =>
      rw [hlookup] at hmem
      cases hmem
    | some dhItems =>
      rw [hlookup] at hmem
      exact ⟨_, mem_localCapabilityInfos.2 ⟨.INPUT, dhItems, hlookup, dhItem, hmem, rfl⟩, rfl⟩

/-- The state between the queries and the addition. -/
def afterQueries (cJSON : Codec) (dev : LocalDeviceInfo)
    (compHandlerMap_ : Table DHType HardwareHandler) (s : LocalHardwareManager) :
    LocalHardwareManager :=
  compHandlerMap_.entries.foldl (queryComponent cJSON {} dev) s

theorem filed_afterQueries (cJSON : Codec) (dev : LocalDeviceInfo)
    (compHandlerMap_ : Table DHType HardwareHandler) (h : Filed s.capabilityInfoManager) :
    Filed (s.afterQueries cJSON dev compHandlerMap_).capabilityInfoManager := by
  rw [afterQueries, (queryComponents_eq cJSON dev compHandlerMap_ s).1]
  split_ifs
  · exact h
  · rw [checkNonExistCapabilityInfo_eq _ h.dbAdapterPtr]
    exact h.removeAll _

theorem typed_afterQueries (h : Typed s.localDHItemsMap_)
    (hok : s.InitOk cJSON dev compHandlerMap_) :
    Typed (s.afterQueries cJSON dev compHandlerMap_).localDHItemsMap_ := by
  rw [afterQueries, localDHItemsMap_queryComponents]
  exact h.queried hok.reported

theorem added_init (cJSON : Codec) (dev : LocalDeviceInfo)
    (compHandlerMap_ : Table DHType HardwareHandler) (h : Filed s.capabilityInfoManager) :
    let s' := s.afterQueries cJSON dev compHandlerMap_
    Added (accepted (localCapabilityInfos dev s'.localDHItemsMap_)) s'.capabilityInfoManager
      (s.init cJSON {} dev compHandlerMap_).capabilityInfoManager :=
  added_addCapability (filed_afterQueries cJSON dev compHandlerMap_ h).dbAdapterPtr _

/-- What `Clears` is asked of is nothing, if nothing was found. -/
theorem mem_afterQueries (h : Filed s.capabilityInfoManager)
    (hok : s.InitOk cJSON dev compHandlerMap_) (hquery : inputQuery compHandlerMap_ = some dhItems)
    (hid : IsInputId dhId)
    (hmem : dev.key dhId ∈
      (s.afterQueries cJSON dev compHandlerMap_).capabilityInfoManager.kvStore) :
    dhId ∈ dhItems.map DHItem.dhId := by
  have hstore := (queryComponents_eq cJSON dev compHandlerMap_ s).1
  rw [hquery, Option.getD_some] at hstore
  rw [afterQueries, hstore] at hmem
  by_cases hne : dhItems = []
  · rw [if_pos hne] at hmem
    obtain ⟨value, hvalue⟩ := Option.isSome_iff_exists.1 (AList.lookup_isSome.2 hmem)
    have hnone := (hok.empty (hne ▸ hquery)).2 _ (AList.mem_lookup_iff.1 hvalue)
    exact absurd (LocalDeviceInfo.isInputKey_key.2 hid) hnone
  · rw [if_neg hne, checkNonExistCapabilityInfo_eq _ h.dbAdapterPtr, Table.mem_removeAll,
      mem_nonExistKeys h.dbAdapterPtr (hok.clears dhItems hquery hne)] at hmem
    by_contra hgone
    refine hmem.1 ⟨hmem.2, LocalDeviceInfo.isInputKey_key.2 hid, fun hin => hgone ?_⟩
    obtain ⟨dhId', hin, heq⟩ := List.mem_map.1 hin
    rwa [← LocalDeviceInfo.key_inj.1 heq]

/-- The input devices that are added are those that were found. -/
theorem exists_mem_accepted_iff (h : s.Consistent) (hok : s.InitOk cJSON dev compHandlerMap_)
    (hquery : inputQuery compHandlerMap_ = some dhItems) (hid : IsInputId dhId) :
    (∃ c ∈ accepted (localCapabilityInfos dev
        (s.afterQueries cJSON dev compHandlerMap_).localDHItemsMap_), c.getKey = dev.key dhId) ↔
      dhId ∈ dhItems.map DHItem.dhId := by
  have htyped := typed_afterQueries h.typed hok
  have hitems := (queryComponents_eq cJSON dev compHandlerMap_ s).2
  rw [hquery, Option.getD_some] at hitems
  by_cases hne : dhItems = []
  · rw [if_pos hne] at hitems
    have hnone : ((s.afterQueries cJSON dev compHandlerMap_).localDHItemsMap_.lookup
        .INPUT).getD [] = [] := (congrArg (Option.getD · []) hitems).trans (hok.empty (hne ▸ hquery)).1
    rw [hne]
    refine iff_of_false ?_ List.not_mem_nil
    rintro ⟨c, hc, hkey⟩
    have hmem := (exists_getKey_eq_iff htyped hid).1 ⟨c, mem_of_mem_accepted hc, hkey⟩
    rw [hnone] at hmem
    cases hmem
  · have hfits := hok.fits dhItems hquery hne
    rw [if_neg hne] at hitems
    rw [queried, ← localDHItemsMap_queryComponents cJSON dev,
      ← length_localCapabilityInfos] at hfits
    rw [afterQueries, accepted_of_le hfits]
    refine (exists_getKey_eq_iff htyped hid).trans ?_
    rw [afterQueries, hitems, Option.getD_some]

theorem isInputId_of_mem (h : s.Consistent) (hok : s.InitOk cJSON dev compHandlerMap_)
    (hquery : inputQuery compHandlerMap_ = some dhItems)
    (hmem : dhId ∈ dhItems.map DHItem.dhId) : IsInputId dhId := by
  obtain ⟨dhItem, hitem, rfl⟩ := List.mem_map.1 hmem
  have hitems := (queryComponents_eq cJSON dev compHandlerMap_ s).2
  rw [hquery, Option.getD_some, if_neg (List.ne_nil_of_mem hitem)] at hitems
  exact (typed_afterQueries h.typed hok .INPUT dhItems hitems dhItem hitem).2 rfl

/-- After an `Init` the records are those of the input devices that were found. -/
theorem has_init (h : s.Consistent) (hok : s.InitOk cJSON dev compHandlerMap_)
    (hquery : inputQuery compHandlerMap_ = some dhItems) :
    Has dev (dhItems.map DHItem.dhId) (s.init cJSON {} dev compHandlerMap_) := by
  have hadded := added_init cJSON dev compHandlerMap_ h.filed
  have hfiled := filed_afterQueries cJSON dev compHandlerMap_ h.filed
  have hnew := fun dhId (hid : IsInputId dhId) => exists_mem_accepted_iff h hok hquery hid
  have hids : ∀ dhId ∈ dhItems.map DHItem.dhId, IsInputId dhId :=
    fun _ => isInputId_of_mem h hok hquery
  refine ⟨inputIds_eq_of_added hadded.stored hnew ?_ hids,
    inputIds_eq_of_added hadded.cached hnew ?_ hids⟩
  · exact fun dhId hid hkey => mem_afterQueries h.filed hok hquery hid hkey
  · exact fun dhId hid hkey => mem_afterQueries h.filed hok hquery hid (hfiled.stored _ hkey)

/-- An `Init` touches the keys of input devices, and those of the other items that it adds. -/
theorem keepsOthers_init (h : s.Consistent) (hok : s.InitOk cJSON dev compHandlerMap_) :
    KeepsOthers dev (.init compHandlerMap_) s (s.init cJSON {} dev compHandlerMap_) := by
  intro key hkey hother
  have htyped := typed_afterQueries h.typed hok
  have hnew : ∀ c ∈ accepted (localCapabilityInfos dev
      (s.afterQueries cJSON dev compHandlerMap_).localDHItemsMap_), c.getKey ≠ key := by
    rintro c hc rfl
    obtain ⟨dhType, dhItems, hlookup, dhItem, hmem, rfl⟩ :=
      mem_localCapabilityInfos.1 (mem_of_mem_accepted hc)
    by_cases htype : dhType = .INPUT
    · have hid := (htyped dhType dhItems hlookup dhItem hmem).2 htype
      exact hkey (LocalDeviceInfo.isInputKey_key.2 hid)
    · rw [afterQueries, localDHItemsMap_queryComponents] at hlookup
      exact hother ⟨dhType, htype, dhItems, hlookup, dhItem, hmem, rfl⟩
  obtain ⟨hstored, hcached⟩ := (added_init cJSON dev compHandlerMap_ h.filed).kept hnew
  have hstore := (queryComponents_eq cJSON dev compHandlerMap_ s).1
  rw [hstored, hcached, afterQueries, hstore]
  by_cases hnil : (inputQuery compHandlerMap_).getD [] = []
  · rw [if_pos hnil]
    exact ⟨rfl, rfl⟩
  have hquery : inputQuery compHandlerMap_ = some ((inputQuery compHandlerMap_).getD []) := by
    cases hquery : inputQuery compHandlerMap_ with
    | none => exact absurd (by rw [hquery]; rfl) hnil
    | some dhItems => rfl
  have hkept : key ∉ nonExistKeys cJSON dev ((inputQuery compHandlerMap_).getD [])
      s.capabilityInfoManager := fun hmem =>
    hkey ((mem_nonExistKeys h.filed.dbAdapterPtr (hok.clears _ hquery hnil)).1 hmem).2.1
  rw [if_neg hnil, checkNonExistCapabilityInfo_eq _ h.filed.dbAdapterPtr]
  dsimp only
  rw [Table.lookup_removeAll, Table.lookup_removeAll, if_neg hkept, if_neg hkept]
  exact ⟨rfl, rfl⟩

theorem consistent_init (h : s.Consistent) (hok : s.InitOk cJSON dev compHandlerMap_) :
    (s.init cJSON {} dev compHandlerMap_).Consistent where
  filed := (filed_afterQueries cJSON dev compHandlerMap_ h.filed).added
    (added_init cJSON dev compHandlerMap_ h.filed)
  typed := typed_afterQueries h.typed hok

end Init

/-! ## Devices that are plugged and unplugged -/

section Plug

variable {cJSON : Codec} {dev : LocalDeviceInfo} {s : LocalHardwareManager} {dhItem : DHItem}
  {dhId : String} {ids : List String}

theorem added_pluginHardware (cJSON : Codec) (dev : LocalDeviceInfo)
    {s : InfoStore CapabilityInfo} (hadapter : s.dbAdapterPtr_ = true)
    (hid : isIdLengthValid dhItem.dhId = true) (hattrs : isMessageLengthValid dhItem.attrs = true) :
    Added [dhItem.capabilityInfo dev .INPUT] s
      (PluginListenerImpl.pluginHardware cJSON {} dev .INPUT dhItem s) := by
  rw [PluginListenerImpl.pluginHardware, if_neg (not_or.2 ⟨not_not.2 hid, not_not.2 hattrs⟩)]
  exact added_addCapability hadapter [dhItem.capabilityInfo dev .INPUT]

/-- The record of a device that may be removed is, if it is there. -/
theorem unPluginHardware_eq {s : InfoStore CapabilityInfo} (h : Filed s)
    (hid : isIdLengthValid dhId = true)
    (hkey : dev.key dhId ∈ s.globalInfoMap_ →
      isIdLengthValid dev.deviceId = true ∧ isIdLengthValid (dev.key dhId) = true) :
    PluginListenerImpl.unPluginHardware {} dev dhId s =
      if dev.key dhId ∈ s.globalInfoMap_ then
        { s with
          globalInfoMap_ := s.globalInfoMap_.remove (dev.key dhId)
          kvStore := s.kvStore.remove (dev.key dhId) }
      else s := by
  unfold PluginListenerImpl.unPluginHardware ParamCaches.getCapability
  rw [if_neg (not_not.2 hid)]
  by_cases hmem : dev.key dhId ∈ s.globalInfoMap_
  · obtain ⟨hdevice, hvalid⟩ := hkey hmem
    obtain ⟨c, hlookup⟩ := Option.isSome_iff_exists.1 (AList.lookup_isSome.2 hmem)
    have hc : s.globalInfoMap_.lookup (getCapabilityKey dev.deviceId dhId) = some c := hlookup
    rw [if_pos hmem, if_neg (not_or.2 ⟨not_not.2 hdevice, not_not.2 hid⟩), hc]
    dsimp only
    rw [h.key hlookup, removeCapabilityInfoByKey_eq h.dbAdapterPtr, if_pos hvalid]
  · have hnone : s.globalInfoMap_.lookup (getCapabilityKey dev.deviceId dhId) = none :=
      AList.lookup_eq_none.2 hmem
    rw [if_neg hmem, hnone]
    split_ifs <;> rfl

theorem has_pluginHardware (h : s.Consistent) (hhas : Has dev ids s) (hid : IsInputId dhItem.dhId)
    (hvalid : isIdLengthValid dhItem.dhId = true)
    (hattrs : isMessageLengthValid dhItem.attrs = true) :
    Has dev (dhItem.dhId :: ids) (s.step cJSON dev (.pluginHardware dhItem)) := by
  have hadded := added_pluginHardware cJSON dev h.filed.dbAdapterPtr hvalid hattrs
  have hone : ∀ key, (∃ c ∈ [dhItem.capabilityInfo dev .INPUT], c.getKey = key) ↔
      key = dev.key dhItem.dhId := by
    intro key
    simp only [List.mem_singleton, exists_eq_left]
    exact eq_comm
  have hids : ({dhId | dhId ∈ dhItem.dhId :: ids} : Set String) =
      insert dhItem.dhId {dhId | dhId ∈ ids} := by
    ext dhId
    simp
  rw [Has, hids, ← hhas.1]
  refine ⟨inputIds_insert hid fun key => ?_, ?_⟩
  · exact (hadded.stored key).trans (or_congr_left (hone key))
  · rw [hhas.1, ← hhas.2]
    exact inputIds_insert hid fun key => (hadded.cached key).trans (or_congr_left (hone key))

theorem has_unPluginHardware (h : s.Consistent) (hhas : Has dev ids s)
    (hok : s.Ok cJSON dev (.unPluginHardware dhId)) :
    Has dev (ids.filter (· ≠ dhId)) (s.step cJSON dev (.unPluginHardware dhId)) := by
  obtain ⟨hvalid, hid, hkey⟩ := hok
  have hids : ({dhId' | dhId' ∈ ids.filter (· ≠ dhId)} : Set String) =
      {dhId' ∈ {dhId | dhId ∈ ids} | dhId' ≠ dhId} := by
    ext dhId'
    simp
  rw [Has, step, unPluginHardware_eq h.filed hvalid hkey, hids]
  dsimp only
  by_cases hmem : dev.key dhId ∈ s.capabilityInfoManager.globalInfoMap_
  · rw [if_pos hmem]
    dsimp only
    rw [inputIds_remove, inputIds_remove, hhas.1, hhas.2]
    exact ⟨rfl, rfl⟩
  · rw [if_neg hmem, hhas.1, hhas.2]
    -- What is not there is not among the ids either.
    have hgone : dhId ∉ ids := fun hin => hmem (hhas.2.symm.subset hin).2
    have hsame : {dhId' ∈ {dhId | dhId ∈ ids} | dhId' ≠ dhId} = {dhId | dhId ∈ ids} :=
      Set.sep_eq_self_iff_mem_true.2 fun dhId' hin heq => hgone (heq ▸ hin)
    exact ⟨hsame.symm, hsame.symm⟩

end Plug

/-! ## Runs -/

section Run

variable {cJSON : Codec} {dev : LocalDeviceInfo} {s : LocalHardwareManager} {event : InputEvent}

theorem Consistent.step (h : s.Consistent) (hok : s.Ok cJSON dev event) :
    (s.step cJSON dev event).Consistent := by
  cases event with
  | init compHandlerMap_ => exact consistent_init h hok
  | unInit => exact ⟨h.filed, fun _ _ hlookup => absurd hlookup (Table.lookup_empty_ne_some _ _)⟩
  | pluginHardware dhItem =>
    obtain ⟨hvalid, -, hattrs⟩ := hok
    have hadded := added_pluginHardware cJSON dev h.filed.dbAdapterPtr hvalid hattrs
    exact ⟨h.filed.added hadded, h.typed⟩
  | unPluginHardware dhId =>
    obtain ⟨hvalid, -, hkey⟩ := hok
    refine ⟨?_, h.typed⟩
    rw [LocalHardwareManager.step, unPluginHardware_eq h.filed hvalid hkey]
    dsimp only
    split_ifs
    · exact h.filed.removeAll [dev.key dhId]
    · exact h.filed

theorem keepsOthers_step (h : s.Consistent) (hok : s.Ok cJSON dev event) :
    KeepsOthers dev event s (s.step cJSON dev event) := by
  cases event with
  | init compHandlerMap_ => exact keepsOthers_init h hok
  | unInit => exact fun _ _ _ => ⟨rfl, rfl⟩
  | pluginHardware dhItem =>
    obtain ⟨hvalid, hid, hattrs⟩ := hok
    intro key hkey _
    refine (added_pluginHardware cJSON dev h.filed.dbAdapterPtr hvalid hattrs).kept ?_
    rintro c hc rfl
    obtain rfl := List.mem_singleton.1 hc
    exact hkey (LocalDeviceInfo.isInputKey_key.2 hid)
  | unPluginHardware dhId =>
    obtain ⟨hvalid, hid, hremove⟩ := hok
    intro key hkey _
    have hne : key ≠ dev.key dhId := fun heq => hkey (heq ▸ LocalDeviceInfo.isInputKey_key.2 hid)
    rw [step, unPluginHardware_eq h.filed hvalid hremove]
    dsimp only
    split_ifs
    · exact ⟨Table.lookup_remove_ne _ hne, Table.lookup_remove_ne _ hne⟩
    · exact ⟨rfl, rfl⟩

/-- If the records were those of the devices that are plugged, they are afterwards. -/
theorem has_step (h : s.Consistent) (hok : s.Ok cJSON dev event) {plugged : Option (List String)}
    (hhas : ∀ ids, plugged = some ids → Has dev ids s) :
    ∀ ids, expected plugged event = some ids → Has dev ids (s.step cJSON dev event) := by
  intro ids hids
  cases event with
  | init compHandlerMap_ =>
    obtain ⟨dhItems, hquery, rfl⟩ := Option.map_eq_some_iff.1 hids
    exact has_init h hok hquery
  | unInit => exact hhas ids hids
  | pluginHardware dhItem =>
    obtain ⟨ids', hids', rfl⟩ := Option.map_eq_some_iff.1 hids
    obtain ⟨hvalid, hid, hattrs⟩ := hok
    exact has_pluginHardware h (hhas ids' hids') hid hvalid hattrs
  | unPluginHardware dhId =>
    obtain ⟨ids', hids', rfl⟩ := Option.map_eq_some_iff.1 hids
    exact has_unPluginHardware h (hhas ids' hids') hok

theorem has_run : ∀ (events : List InputEvent) {s : LocalHardwareManager}
    {plugged : Option (List String)}, s.Consistent → (∀ ids, plugged = some ids → Has dev ids s) →
      Along (step cJSON dev) (Ok cJSON dev) s events →
        ∀ ids, events.foldl expected plugged = some ids →
          Has dev ids (events.foldl (step cJSON dev) s)
  | [], _, _, _, hhas, _ => hhas
  | _ :: events, _, _, h, hhas, ⟨hok, hrun⟩ =>
    has_run events (h.step hok) (has_step h hok hhas) hrun

/-- In a run that meets the condition the records of the local input devices are those of the
devices that are plugged, in the store and in the cache, after every `Init` and what follows; and
no event touches records of other devices, or of other types but those that an `Init` adds. -/
theorem input_records_mirror (cJSON : Codec) (dev : LocalDeviceInfo) {s : LocalHardwareManager}
    {events : List InputEvent} (h : s.Starts)
    (hrun : Along (step cJSON dev) (Ok cJSON dev) s events) :
    ∀ pre event post, events = pre ++ event :: post →
      let before := pre.foldl (step cJSON dev) s
      let after := before.step cJSON dev event
      (∀ ids, (pre ++ [event]).foldl expected none = some ids → Has dev ids after) ∧
        KeepsOthers dev event before after := by
  rintro pre event post rfl
  obtain ⟨hpre, hok, -⟩ := hrun.of_append
  have hbefore : (pre.foldl (step cJSON dev) s).Consistent :=
    hpre.invariant (fun _ _ hs hl => hs.step hl) h.consistent
  refine ⟨fun ids hids => ?_, keepsOthers_step hbefore hok⟩
  have hnone : ∀ ids, (none : Option (List String)) = some ids → Has dev ids s := nofun
  have hhas := has_run pre h.consistent hnone hpre
  rw [List.foldl_append] at hids
  exact has_step hbefore hok hhas ids hids

end Run

/-! ## A keyboard -/

def phone : LocalDeviceInfo := ⟨"d1", "phone", 14⟩

def keyboard (dhId : String) : DHItem := ⟨dhId, "keys", "keyboard"⟩

def keyboardText (deviceId dhId : String) : String :=
  "\x7b\"dh_id\":\"" ++ dhId ++ "\",\"dev_id\":\"" ++ deviceId ++ "\",\"dev_name\":\"phone\"," ++
    "\"dev_type\":14,\"dh_type\":32,\"dh_attrs\":\"keys\",\"dh_subtype\":\"keyboard\"\x7d"

/-- cJSON on the records of the keyboards of a phone. -/
def keyboardCodec (dev : LocalDeviceInfo) (dhIds : List String) : Codec where
  printUnformatted
    | .object ((_, .string dhId) :: (_, .string deviceId) :: _) => keyboardText deviceId dhId
    | _ => ""
  parse s := (dhIds.find? fun dhId => s = keyboardText dev.deviceId dhId).map fun dhId =>
    ((keyboard dhId).capabilityInfo dev .INPUT).toJson

/-- The component of the input devices, with the results of its queries. -/
def inputComponent (query : ℕ → List DHItem) : Table DHType HardwareHandler :=
  (∅ : Table DHType HardwareHandler).set .INPUT { query := query }

/-- The store with a record of a keyboard that an earlier run left, and one of another device. -/
def leftStore : LocalHardwareManager where
  capabilityInfoManager.kvStore :=
    ((∅ : Table String String).set (phone.key "Input_0") (keyboardText "d1" "Input_0")).set
      "d2###Input_9" ""

/-- A keyboard is found, one is plugged, the first is unplugged, and the next `Init`, whose first
query comes back empty, finds the second. -/
theorem input_records_mirror_keyboard :
    let events : List InputEvent :=
      [.init (inputComponent fun _ => [keyboard "Input_1"]), .pluginHardware (keyboard "Input_2"),
        .unPluginHardware "Input_1", .unInit,
        .init (inputComponent fun n => if n = 3 then [] else [keyboard "Input_2"])]
    let cJSON := keyboardCodec phone ["Input_0", "Input_1", "Input_2"]
    leftStore.Starts ∧ Along (step cJSON phone) (Ok cJSON phone) leftStore events ∧
      Has phone ["Input_2"] (events.foldl (step cJSON phone) leftStore) := by
  intro events cJSON
  have hstarts : leftStore.Starts := ⟨rfl, rfl, rfl⟩
  have hrun : Along (step cJSON phone) (Ok cJSON phone) leftStore events := by
    refine ⟨⟨by decide +kernel, by decide +kernel, ?_, by decide +kernel⟩,
      ⟨by decide +kernel, by decide +kernel, by decide +kernel⟩,
      ⟨by decide +kernel, by decide +kernel, by decide +kernel⟩, trivial,
      ⟨by decide +kernel, by decide +kernel, ?_, by decide +kernel⟩, trivial⟩
    · rintro dhItems hquery -
      obtain rfl := Option.some.inj hquery
      exact ⟨by decide +kernel, by decide +kernel, by decide +kernel⟩
    · rintro dhItems hquery -
      obtain rfl := Option.some.inj hquery
      exact ⟨by decide +kernel, by decide +kernel, by decide +kernel⟩
  exact ⟨hstarts, hrun,
    (input_records_mirror cJSON phone hstarts hrun (events.take 4) _ [] rfl).1 ["Input_2"] rfl⟩

/-- The id of a device has 64 characters, and that of its hardware may have 256. -/
def longId : String := "Input_" ++ String.ofList (List.replicate 200 'x')

def farPhone : LocalDeviceInfo := ⟨String.ofList (List.replicate 64 'a'), "phone", 14⟩

/-- The record of an earlier run stays if the three queries come back empty. A device with a long
id is plugged and stays when it is unplugged, one without attributes is not added, and none of more
than a hundred is. -/
theorem input_records_stay :
    let cJSON := keyboardCodec phone ["Input_0", "Input_1"]
    let farJSON := keyboardCodec farPhone ["Input_1", longId]
    let empty : InputEvent := .init (inputComponent fun _ => [])
    let first : InputEvent := .init (inputComponent fun _ => [keyboard "Input_1"])
    let many : InputEvent := .init (inputComponent fun _ => (List.range 101).map fun n =>
      keyboard ("Input_" ++ String.ofList (List.replicate n 'x')))
    let long := [first, .pluginHardware (keyboard longId), .unPluginHardware longId]
    let bare := [first, .pluginHardware ⟨"Input_2", "", "keyboard"⟩]
    leftStore.Starts ∧
      ([empty].foldl expected none = some [] ∧
        "Input_0" ∈ phone.inputIds
          (leftStore.step cJSON phone empty).capabilityInfoManager.kvStore) ∧
      (isIdLengthValid longId = true ∧ IsInputId longId ∧
        long.foldl expected none = some ["Input_1"] ∧
        longId ∈ farPhone.inputIds
          (long.foldl (step farJSON farPhone) leftStore).capabilityInfoManager.kvStore) ∧
      (bare.foldl expected none = some ["Input_2", "Input_1"] ∧
        "Input_2" ∉ phone.inputIds
          (bare.foldl (step cJSON phone) leftStore).capabilityInfoManager.kvStore) ∧
      "Input_" ∈ ([many].foldl expected none).getD [] ∧
        "Input_" ∉ phone.inputIds
          (leftStore.step cJSON phone many).capabilityInfoManager.kvStore := by
  refine ⟨⟨rfl, rfl, rfl⟩, ?_⟩
  decide +kernel

end LocalHardwareManager

end DHFwk
