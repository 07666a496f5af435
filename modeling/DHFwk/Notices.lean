import DHFwk.CacheWrites
import DHFwk.Follower
import DHFwk.Runs

/-!
# Notifications of the stores

`CapabilityInfoManager` and `MetaInfoManager` keep the records of a store in a cache, and the
store is shared with other devices. What these write comes into the store first, and the manager
is told of it later by a notification, with the entries or with keys alone.

Key by key the store is a register and the cache a copy of it (`CacheManager.view`), and a
notification does with the copy what `HandledEntries.heard` says. A manager comes with what it
does besides, and the cache is right in every state of a run exactly if every step is one that
`Follows`, by conditions on the step and the state before it (`along_follows_iff`).
-/

set_option linter.unusedSectionVars false

namespace DHFwk

open Json Runs
open scoped List

/-! ## Notifications -/

/-- A text is stored under the key of the record in it. -/
def Proper {T : Type} (kind : RecordKind T) (cJSON : Codec) (e : Entry) : Prop :=
  ∀ cap, kind.getCapabilityByValue cJSON e.value = some cap → kind.getKey cap = e.key

namespace ChangeNotification

def entries (n : ChangeNotification) : List Entry :=
  n.insertEntries ++ n.updateEntries ++ n.deleteEntries

/-- What the store has after the change. -/
def applyTo (n : ChangeNotification) (kvStore : Table String String) : Table String String :=
  (n.insertEntries ++ n.updateEntries).foldl (fun t e => t.set e.key e.value) kvStore
    |>.removeAll (n.deleteEntries.map Entry.key)

end ChangeNotification

/-- A key is changed once, and a text is put under its own key. -/
structure WellTold {T : Type} (kind : RecordKind T) (cJSON : Codec) (n : ChangeNotification) :
    Prop where
  distinct : (n.entries.map Entry.key).Nodup
  proper : ∀ e ∈ n.entries, Proper kind cJSON e

/-- A change of the store by another device, of which the manager is told with the entries or,
by the cloud, with the keys. -/
structure Notice {T : Type} (kind : RecordKind T) (cJSON : Codec) where
  change : ChangeNotification
  byKeys : Bool
  wellTold : WellTold kind cJSON change

/-- What the handlers ask for when the manager is told, less cJSON and the store. -/
structure Surroundings where
  getUUIDByDeviceId : String → String
  getNetworkIdByUUID : String → String
  isEnabledDevice : String → Bool
  getUnInitFlag : Bool
  db : KvAnswers := {}

def Surroundings.context {T : Type} (around : Surroundings) (cJSON : Codec) (s : InfoStore T) :
    ChangeContext where
  cJSON := cJSON
  kvStore key :=
    if s.dbAdapterPtr_ && around.db.kvStoragePtr_ && around.db.get key then s.kvStore.lookup key
    else none
  getUUIDByDeviceId := around.getUUIDByDeviceId
  getNetworkIdByUUID := around.getNetworkIdByUUID
  isEnabledDevice := around.isEnabledDevice
  getUnInitFlag := around.getUnInitFlag

/-! ## What a notification does -/

section Batches

variable {C S : Type} {look : S → Option C} {record : S → Entry → S}
  {acts : Entry → Option (Option C)} {key : String}

/-- The entry of a key. -/
def entryOf (es : List Entry) (key : String) : Option Entry :=
  es.find? fun e => e.key = key

theorem entryOf_eq_some {es : List Entry} {e : Entry} (h : entryOf es key = some e) :
    e ∈ es ∧ e.key = key :=
  ⟨List.mem_of_find?_eq_some h,
    of_decide_eq_true (List.find?_some (p := fun e : Entry => decide (e.key = key)) h)⟩

theorem entryOf_eq_none_iff {es : List Entry} :
    entryOf es key = none ↔ key ∉ es.map Entry.key := by
  simp [entryOf]

theorem entryOf_append (es es' : List Entry) :
    entryOf (es ++ es') key = (entryOf es key).or (entryOf es' key) :=
  List.find?_append

/-- If each entry sets what is under its key, or nothing, the entry of a key decides what is under
it after a batch. -/
theorem look_foldl {P : Entry → Prop}
    (h : ∀ s e, P e → look (record s e) =
      if e.key = key then (acts e).getD (look s) else look s) :
    ∀ (es : List Entry) (s : S), (es.map Entry.key).Nodup → (∀ e ∈ es, P e) →
      look (es.foldl record s) = ((entryOf es key).bind acts).getD (look s)
  | [], _, _, _ => rfl
  | e :: es, s, hnodup, hP => by
    obtain ⟨hnot, hnodup⟩ := List.nodup_cons.1 hnodup
    obtain ⟨he, hes⟩ := List.forall_mem_cons.1 hP
    rw [List.foldl_cons, look_foldl h es _ hnodup hes, h s e he]
    by_cases hk : e.key = key
    · have hrest : entryOf es key = none := entryOf_eq_none_iff.2 (hk ▸ hnot)
      have hfirst : entryOf (e :: es) key = some e := List.find?_cons_of_pos (by simpa using hk)
      rw [hrest, hfirst, if_pos hk]
      rfl
    · have hfirst : entryOf (e :: es) key = entryOf es key :=
        List.find?_cons_of_neg (by simpa using hk)
      rw [hfirst, if_neg hk]

end Batches

section Handled

variable {T : Type} (kind : RecordKind T) (ctx : ChangeContext)

/-- What an inserted entry sets. -/
def addActs (e : Entry) : Option (Option T) :=
  (kind.getCapabilityByValue ctx.cJSON e.value).bind fun cap =>
    (findDevice kind ctx cap).map fun _ => some cap

/-- What an updated entry sets. -/
def updateActs (e : Entry) : Option (Option T) :=
  (kind.getCapabilityByValue ctx.cJSON e.value).bind fun cap =>
    (findDevice kind ctx cap).bind fun _ =>
      if ctx.isEnabledDevice (getCapabilityKey (kind.capability cap).deviceId_
        (kind.capability cap).dhId_) then none else some (some cap)

variable {kind ctx} {key : String}

theorem lookup_addRecord_eq (s : InfoCache T) (e : Entry) (h : Proper kind ctx.cJSON e) :
    (addRecord kind ctx s e).globalInfoMap_.lookup key =
      if e.key = key then (addActs kind ctx e).getD (s.globalInfoMap_.lookup key)
      else s.globalInfoMap_.lookup key := by
  unfold addRecord addActs
  cases hparse : kind.getCapabilityByValue ctx.cJSON e.value with
  | none => simp
  | some cap =>
    cases hdev : findDevice kind ctx cap with
    | none => simp [hdev]
    | some ids =>
      simp only [hdev, Option.bind_some, Option.map_some, Option.getD_some, h cap hparse,
        Table.lookup_set, eq_comm (a := key)]

theorem lookup_updateRecord_eq (s : InfoCache T) (e : Entry) (h : Proper kind ctx.cJSON e) :
    (updateRecord kind ctx s e).globalInfoMap_.lookup key =
      if e.key = key then (updateActs kind ctx e).getD (s.globalInfoMap_.lookup key)
      else s.globalInfoMap_.lookup key := by
  unfold updateRecord updateActs
  cases hparse : kind.getCapabilityByValue ctx.cJSON e.value with
  | none => simp
  | some cap =>
    cases hdev : findDevice kind ctx cap with
    | none => simp [hdev]
    | some ids =>
      simp only [hdev, Option.bind_some]
      cases ctx.isEnabledDevice (getCapabilityKey (kind.capability cap).deviceId_
        (kind.capability cap).dhId_) with
      | true => simp
      | false => simp [h cap hparse, Table.lookup_set, eq_comm (a := key)]

/-- `look_foldl`, for the entries of a batch that a handler goes through. -/
theorem lookup_foldl_acts {record : InfoCache T → Entry → InfoCache T}
    {acts : Entry → Option (Option T)}
    (h : ∀ s e, Proper kind ctx.cJSON e → (record s e).globalInfoMap_.lookup key =
      if e.key = key then (acts e).getD (s.globalInfoMap_.lookup key)
      else s.globalInfoMap_.lookup key) (es : List Entry) (s : InfoCache T)
    (hnodup : (es.map Entry.key).Nodup) (hproper : ∀ e ∈ es, Proper kind ctx.cJSON e) :
    (es.foldl record s).globalInfoMap_.lookup key =
      ((entryOf es key).bind acts).getD (s.globalInfoMap_.lookup key) :=
  @look_foldl _ _ (fun s => s.globalInfoMap_.lookup key) record acts key _ h es s hnodup hproper

/-- What a manager sets for the entries of a change. -/
structure HandledEntries {T : Type} (kind : RecordKind T) (handlers : ChangeHandlers T) where
  added : ChangeContext → Entry → Option (Option T)
  updated : ChangeContext → Entry → Option (Option T)
  deleted : ChangeContext → Entry → Option (Option T)
  lookup_add : ∀ ctx es s k, (es.map Entry.key).Nodup → (∀ e ∈ es, Proper kind ctx.cJSON e) →
    (handlers.handleAddChange ctx es s).globalInfoMap_.lookup k =
      ((entryOf es k).bind (added ctx)).getD (s.globalInfoMap_.lookup k)
  lookup_update : ∀ ctx es s k, (es.map Entry.key).Nodup → (∀ e ∈ es, Proper kind ctx.cJSON e) →
    (handlers.handleUpdateChange ctx es s).globalInfoMap_.lookup k =
      ((entryOf es k).bind (updated ctx)).getD (s.globalInfoMap_.lookup k)
  lookup_delete : ∀ ctx es s k, (es.map Entry.key).Nodup → (∀ e ∈ es, Proper kind ctx.cJSON e) →
    (handlers.handleDeleteChange ctx es s).globalInfoMap_.lookup k =
      ((entryOf es k).bind (deleted ctx)).getD (s.globalInfoMap_.lookup k)
  added_reads : ∀ ctx e c, added ctx e = some c → c = kind.getCapabilityByValue ctx.cJSON e.value
  updated_reads : ∀ ctx e c, updated ctx e = some c →
    c = kind.getCapabilityByValue ctx.cJSON e.value
  deleted_reads : ∀ ctx e c, deleted ctx e = some c → c = none
  text_empty : ∀ cJSON, kind.getCapabilityByValue cJSON "" = none

theorem addActs_reads {e : Entry} {c : Option T} (h : addActs kind ctx e = some c) :
    c = kind.getCapabilityByValue ctx.cJSON e.value := by
  obtain ⟨cap, hparse, hcap⟩ := Option.bind_eq_some_iff.1 h
  obtain ⟨ids, -, rfl⟩ := Option.map_eq_some_iff.1 hcap
  exact hparse.symm

theorem updateActs_reads {e : Entry} {c : Option T} (h : updateActs kind ctx e = some c) :
    c = kind.getCapabilityByValue ctx.cJSON e.value := by
  obtain ⟨cap, hparse, hcap⟩ := Option.bind_eq_some_iff.1 h
  obtain ⟨ids, -, hids⟩ := Option.bind_eq_some_iff.1 hcap
  split_ifs at hids
  rw [hparse, Option.some.inj hids]

end Handled

namespace CapabilityInfoManager

/-- What a deleted entry sets. -/
def deleteActs (ctx : ChangeContext) (e : Entry) : Option (Option CapabilityInfo) :=
  (kind.getCapabilityByValue ctx.cJSON e.value).bind fun cap =>
    (findDevice kind ctx cap).map fun _ => none

theorem lookup_deleteRecord_eq {ctx : ChangeContext} {key : String}
    (s : InfoCache CapabilityInfo) (e : Entry) (h : Proper kind ctx.cJSON e) :
    (deleteRecord ctx s e).globalInfoMap_.lookup key =
      if e.key = key then (deleteActs ctx e).getD (s.globalInfoMap_.lookup key)
      else s.globalInfoMap_.lookup key := by
  unfold deleteRecord deleteActs
  cases hparse : kind.getCapabilityByValue ctx.cJSON e.value with
  | none => simp
  | some cap =>
    have hkey : cap.getKey = e.key := h cap hparse
    cases hdev : findDevice kind ctx cap with
    | none => simp [hdev]
    | some ids =>
      simp only [hdev, Option.bind_some, Option.map_some, Option.getD_some, hkey,
        Table.lookup_remove, eq_comm (a := key)]

def handledEntries : HandledEntries kind handlers where
  added := addActs kind
  updated ctx e := if ctx.getUnInitFlag then none else updateActs kind ctx e
  deleted ctx e := if ctx.getUnInitFlag then none else deleteActs ctx e
  lookup_add ctx es s k hnodup hproper :=
    lookup_foldl_acts lookup_addRecord_eq es s hnodup hproper
  lookup_update ctx es s k hnodup hproper := by
    simp only [handlers, handleCapabilityUpdateChange]
    split_ifs
    · simp
    · exact lookup_foldl_acts lookup_updateRecord_eq es s hnodup hproper
  lookup_delete ctx es s k hnodup hproper := by
    simp only [handlers, handleCapabilityDeleteChange]
    split_ifs
    · simp
    · exact lookup_foldl_acts lookup_deleteRecord_eq es s hnodup hproper
  added_reads _ _ _ := addActs_reads
  updated_reads ctx e c h := by
    split_ifs at h
    exact updateActs_reads h
  deleted_reads ctx e c h := by
    split_ifs at h
    obtain ⟨cap, -, hcap⟩ := Option.bind_eq_some_iff.1 h
    obtain ⟨ids, -, rfl⟩ := Option.map_eq_some_iff.1 hcap
    rfl
  text_empty _ := rfl

end CapabilityInfoManager

namespace MetaInfoManager

/-- What a deleted entry sets. -/
def deleteActs (ctx : ChangeContext) (e : Entry) : Option (Option MetaCapabilityInfo) :=
  (kind.getCapabilityByValue ctx.cJSON e.value).map fun _ => none

theorem lookup_deleteRecord_eq {ctx : ChangeContext} {key : String}
    (s : InfoCache MetaCapabilityInfo) (e : Entry) (h : Proper kind ctx.cJSON e) :
    (deleteRecord ctx s e).globalInfoMap_.lookup key =
      if e.key = key then (deleteActs ctx e).getD (s.globalInfoMap_.lookup key)
      else s.globalInfoMap_.lookup key := by
  unfold deleteRecord deleteActs
  cases hparse : kind.getCapabilityByValue ctx.cJSON e.value with
  | none => simp
  | some cap =>
    have hkey : cap.getKey = e.key := h cap hparse
    simp only [Option.map_some, Option.getD_some, hkey, Table.lookup_remove, eq_comm (a := key)]

def handledEntries : HandledEntries kind handlers where
  added := addActs kind
  updated := updateActs kind
  deleted := deleteActs
  lookup_add ctx es s k hnodup hproper :=
    lookup_foldl_acts lookup_addRecord_eq es s hnodup hproper
  lookup_update ctx es s k hnodup hproper :=
    lookup_foldl_acts lookup_updateRecord_eq es s hnodup hproper
  lookup_delete ctx es s k hnodup hproper :=
    lookup_foldl_acts lookup_deleteRecord_eq es s hnodup hproper
  added_reads _ _ _ := addActs_reads
  updated_reads _ _ _ := updateActs_reads
  deleted_reads ctx e c h := by
    obtain ⟨cap, -, rfl⟩ := Option.map_eq_some_iff.1 h
    rfl
  text_empty _ := rfl

end MetaInfoManager

/-! ## What a notification sets -/

namespace ChangeNotification

variable {n : ChangeNotification} {key : String}

/-- What the store has under a key after the change, if the key is changed. -/
def valueAt (n : ChangeNotification) (key : String) : Option (Option String) :=
  ((entryOf n.deleteEntries key).map fun _ => none).or
    ((entryOf (n.insertEntries ++ n.updateEntries) key).map fun e => some e.value)

theorem valueAt_eq_none_iff : n.valueAt key = none ↔ key ∉ n.entries.map Entry.key := by
  simp only [valueAt, Option.or_eq_none_iff, Option.map_eq_none_iff, entryOf_eq_none_iff, entries,
    List.map_append, List.mem_append, not_or]
  tauto

theorem lookup_applyTo (hdistinct : (n.entries.map Entry.key).Nodup)
    (kvStore : Table String String) :
    (n.applyTo kvStore).lookup key = (n.valueAt key).getD (kvStore.lookup key) := by
  have hput : ((n.insertEntries ++ n.updateEntries).foldl (fun t e => t.set e.key e.value)
      kvStore).lookup key = (((entryOf (n.insertEntries ++ n.updateEntries) key).map fun e =>
        some e.value).getD (kvStore.lookup key)) := by
    rw [entries, List.map_append] at hdistinct
    have h := @look_foldl _ _ (fun t : Table String String => t.lookup key)
      (fun t e => t.set e.key e.value) (fun e => some (some e.value)) key (fun _ => True)
      (fun t e _ => by
        simp only [Table.lookup_set, Option.getD_some, eq_comm (a := key)])
      (n.insertEntries ++ n.updateEntries) kvStore hdistinct.of_append_left fun _ _ => trivial
    rw [h, Option.map_eq_bind]
    rfl
  rw [applyTo, Table.lookup_removeAll, hput, valueAt]
  cases hdelete : entryOf n.deleteEntries key with
  | none =>
    rw [if_neg (entryOf_eq_none_iff.1 hdelete)]
    rfl
  | some e =>
    obtain ⟨hmem, hkey⟩ := entryOf_eq_some hdelete
    rw [if_pos (List.mem_map.2 ⟨e, hmem, hkey⟩)]
    rfl

end ChangeNotification

/-- The record of a text, if there is one. -/
def readText {T : Type} (kind : RecordKind T) (cJSON : Codec) (text : Option String) : Option T :=
  text.bind (kind.getCapabilityByValue cJSON)

/-- Every text of the store is under its own key. -/
def StoreProper {T : Type} (kind : RecordKind T) (cJSON : Codec) (kvStore : Table String String) :
    Prop :=
  ∀ key text, kvStore.lookup key = some text → Proper kind cJSON ⟨key, text⟩

namespace HandledEntries

variable {T : Type} {kind : RecordKind T} {handlers : ChangeHandlers T}
  (h : HandledEntries kind handlers) (ctx : ChangeContext)

/-- What a batch sets under a key, if it is not too large. -/
def batchActs (acts : Entry → Option (Option T)) (es : List Entry) (key : String) :
    Option (Option T) :=
  if es.length ≤ MAX_DB_RECORD_SIZE then (entryOf es key).bind acts else none

/-- What a notification sets under a key. -/
def heard (n : ChangeNotification) (key : String) : Option (Option T) :=
  (batchActs (h.deleted ctx) n.deleteEntries key).or
    ((batchActs (h.updated ctx) n.updateEntries key).or
      (batchActs (h.added ctx) n.insertEntries key))

variable {h ctx} {n : ChangeNotification} {key : String}

theorem batchActs_eq_some {acts : Entry → Option (Option T)} {es : List Entry} {c : Option T}
    (hacts : batchActs acts es key = some c) : ∃ e, entryOf es key = some e ∧ acts e = some c := by
  unfold batchActs at hacts
  split_ifs at hacts
  exact Option.bind_eq_some_iff.1 hacts

theorem lookup_handleBatch {handle : List Entry → InfoCache T → InfoCache T}
    {acts : Entry → Option (Option T)} {es : List Entry} {s : InfoCache T}
    (hhandle : (handle es s).globalInfoMap_.lookup key =
      ((entryOf es key).bind acts).getD (s.globalInfoMap_.lookup key)) :
    (handleBatch handle es s).globalInfoMap_.lookup key =
      (batchActs acts es key).getD (s.globalInfoMap_.lookup key) := by
  unfold handleBatch batchActs
  by_cases hnil : es = []
  · subst hnil
    simp [entryOf]
  · simp only [ne_eq, hnil, not_false_iff, true_and]
    split_ifs
    · exact hhandle
    · rfl

theorem lookup_onChange (hn : WellTold kind ctx.cJSON n) (s : InfoCache T) :
    (handlers.onChange ctx n s).globalInfoMap_.lookup key =
      (h.heard ctx n key).getD (s.globalInfoMap_.lookup key) := by
  obtain ⟨hdistinct, hproper⟩ := hn
  simp only [ChangeNotification.entries, List.map_append] at hdistinct
  simp only [ChangeNotification.entries, List.forall_mem_append] at hproper
  have hwritten := hdistinct.of_append_left
  rw [ChangeHandlers.onChange,
    lookup_handleBatch (h.lookup_delete ctx _ _ key hdistinct.of_append_right hproper.2),
    lookup_handleBatch (h.lookup_update ctx _ _ key hwritten.of_append_right hproper.1.2),
    lookup_handleBatch (h.lookup_add ctx _ _ key hwritten.of_append_left hproper.1.1), heard]
  cases batchActs (h.deleted ctx) n.deleteEntries key with
  | some c => rfl
  | none => cases batchActs (h.updated ctx) n.updateEntries key <;> rfl

/-- What is set is what the store has after the change. -/
theorem heard_reads (hdistinct : (n.entries.map Entry.key).Nodup) {c : Option T}
    (hc : h.heard ctx n key = some c) :
    ∃ v, n.valueAt key = some v ∧ c = readText kind ctx.cJSON v := by
  unfold ChangeNotification.valueAt
  obtain hdelete | ⟨hdelete, hwrite⟩ := Option.or_eq_some_iff.1 hc
  · obtain ⟨e, he, hacts⟩ := batchActs_eq_some hdelete
    exact ⟨none, by simp [he], h.deleted_reads ctx e c hacts⟩
  -- The entry is one that is written, and so is none of those that are deleted.
  obtain ⟨e, he, hreads⟩ : ∃ e, entryOf (n.insertEntries ++ n.updateEntries) key = some e ∧
      c = kind.getCapabilityByValue ctx.cJSON e.value := by
    simp only [ChangeNotification.entries, List.map_append] at hdistinct
    obtain hupdate | ⟨-, hadd⟩ := Option.or_eq_some_iff.1 hwrite
    · obtain ⟨e, he, hacts⟩ := batchActs_eq_some hupdate
      obtain ⟨hmem, hkey⟩ := entryOf_eq_some he
      have hnone : entryOf n.insertEntries key = none := by
        rw [entryOf_eq_none_iff]
        intro hins
        exact (List.disjoint_of_nodup_append hdistinct.of_append_left) hins
          (List.mem_map.2 ⟨e, hmem, hkey⟩)
      refine ⟨e, ?_, h.updated_reads ctx e c hacts⟩
      rw [entryOf_append, hnone, Option.none_or, he]
    · obtain ⟨e, he, hacts⟩ := batchActs_eq_some hadd
      refine ⟨e, ?_, h.added_reads ctx e c hacts⟩
      rw [entryOf_append, he, Option.some_or]
  have hnone : entryOf n.deleteEntries key = none := by
    obtain ⟨hmem, hkey⟩ := entryOf_eq_some he
    rw [entryOf_eq_none_iff]
    intro hdel
    rw [ChangeNotification.entries, List.map_append] at hdistinct
    exact List.disjoint_of_nodup_append hdistinct (List.mem_map.2 ⟨e, hmem, hkey⟩) hdel
  exact ⟨some e.value, by simp [hnone, he], hreads⟩

end HandledEntries

/-! ## The entries that the handlers get -/

namespace Notice

variable {T : Type} {kind : RecordKind T} {cJSON : Codec} (ctx : ChangeContext)
  (n : Notice kind cJSON)

/-- `OnChange`, of the one or the other shape. -/
def onChange (handlers : ChangeHandlers T) (s : InfoCache T) : InfoCache T :=
  if n.byKeys then
    handlers.onChangeKeys ctx ⟨n.change.insertEntries.map Entry.key,
      n.change.updateEntries.map Entry.key, n.change.deleteEntries.map Entry.key⟩ s
  else handlers.onChange ctx n.change s

/-- Of keys the entries are made, with what the store has by now. -/
def entries : ChangeNotification :=
  if n.byKeys then
    ⟨getEntriesByKeys ctx (n.change.insertEntries.map Entry.key),
      getEntriesByKeys ctx (n.change.updateEntries.map Entry.key),
      (n.change.deleteEntries.map Entry.key).map fun key => { key }⟩
  else n.change

variable {ctx n}

theorem onChange_eq (handlers : ChangeHandlers T) (s : InfoCache T) :
    n.onChange ctx handlers s = handlers.onChange ctx (n.entries ctx) s := by
  unfold onChange entries
  split_ifs <;> rfl

theorem mem_getEntriesByKeys {keys : List String} {e : Entry}
    (he : e ∈ getEntriesByKeys ctx keys) : ctx.kvStore e.key = some e.value := by
  unfold getEntriesByKeys at he
  split_ifs at he
  · obtain ⟨key, -, hkey⟩ := List.mem_filterMap.1 he
    obtain ⟨value, hvalue, rfl⟩ := Option.map_eq_some_iff.1 hkey
    exact hvalue
  · cases he

/-- No entry of another key is made. -/
theorem keys_getEntriesByKeys (keys : List String) :
    (getEntriesByKeys ctx keys).map Entry.key <+ keys := by
  have hfound : (keys.filterMap fun key => (ctx.kvStore key).map fun value =>
      (⟨key, value⟩ : Entry)).map Entry.key <+ keys := by
    rw [List.map_filterMap]
    induction keys with
    | nil => exact List.Sublist.refl _
    | cons key keys ih =>
      cases hvalue : ctx.kvStore key with
      | none =>
        rw [List.filterMap_cons_none (by simp [hvalue])]
        exact ih.cons _
      | some value =>
        rw [List.filterMap_cons_some (by simp [hvalue]; rfl)]
        exact ih.cons_cons _
  unfold getEntriesByKeys
  split_ifs
  · exact hfound
  · exact List.nil_sublist _

theorem keys_entries : (n.entries ctx).entries.map Entry.key <+ n.change.entries.map Entry.key := by
  unfold entries
  split_ifs
  · simp only [ChangeNotification.entries, List.map_append]
    refine ((keys_getEntriesByKeys _).append (keys_getEntriesByKeys _)).append ?_
    rw [List.map_map, List.map_map]
    exact List.Sublist.refl _
  · exact List.Sublist.refl _

/-- What the handlers get is well told. -/
theorem wellTold_entries {handlers : ChangeHandlers T} (h : HandledEntries kind handlers)
    (hstore : ∀ key text, ctx.kvStore key = some text → Proper kind cJSON ⟨key, text⟩) :
    WellTold kind cJSON (n.entries ctx) where
  distinct := n.wellTold.distinct.sublist keys_entries
  proper e he := by
    have hmade : ∀ {keys}, e ∈ getEntriesByKeys ctx keys → Proper kind cJSON e := fun hmem =>
      hstore e.key e.value (mem_getEntriesByKeys hmem)
    unfold entries at he
    split_ifs at he
    · simp only [ChangeNotification.entries, List.mem_append] at he
      obtain (hins | hupd) | hdel := he
      · exact hmade hins
      · exact hmade hupd
      · obtain ⟨key, -, rfl⟩ := List.mem_map.1 hdel
        intro cap hcap
        rw [h.text_empty] at hcap
        cases hcap
    · exact n.wellTold.proper e he

/-- What is set under a key is what the change has put there, or what the store has by now. -/
theorem heard_entries {handlers : ChangeHandlers T} {h : HandledEntries kind handlers}
    (hctx : ctx.cJSON = cJSON) {key : String} {c : Option T}
    (hc : h.heard ctx (n.entries ctx) key = some c) :
    (∃ v, n.change.valueAt key = some v ∧ c = readText kind cJSON v) ∨
      n.change.valueAt key ≠ none ∧ (c = none ∨ c = readText kind cJSON (ctx.kvStore key)) := by
  obtain ⟨v, hv, rfl⟩ := HandledEntries.heard_reads (n.wellTold.distinct.sublist keys_entries) hc
  rw [hctx]
  by_cases hshape : n.byKeys
  swap
  · rw [entries, if_neg hshape] at hv
    exact .inl ⟨v, hv, rfl⟩
  refine .inr ⟨?_, ?_⟩
  · rw [Ne, ChangeNotification.valueAt_eq_none_iff, not_not]
    have hnamed : key ∈ (n.entries ctx).entries.map Entry.key := by
      rw [← not_not (a := key ∈ _), ← ChangeNotification.valueAt_eq_none_iff, hv]
      exact Option.some_ne_none v
    exact keys_entries.subset hnamed
  · rw [entries, if_pos hshape, ChangeNotification.valueAt] at hv
    obtain hdelete | ⟨-, hwrite⟩ := Option.or_eq_some_iff.1 hv
    · obtain ⟨e, -, rfl⟩ := Option.map_eq_some_iff.1 hdelete
      exact .inl rfl
    · obtain ⟨e, he, rfl⟩ := Option.map_eq_some_iff.1 hwrite
      obtain ⟨hmem, rfl⟩ := entryOf_eq_some he
      have hvalue : ctx.kvStore e.key = some e.value :=
        (List.mem_append.1 hmem).elim mem_getEntriesByKeys mem_getEntriesByKeys
      exact .inr (by rw [hvalue])

end Notice

/-! ## The system -/

/-- A manager with what it does besides following the notifications : what keeps the texts of the
store under their keys, and when the cache stays right. -/
structure CacheManager (T : Type) (cJSON : Codec) where
  kind : RecordKind T
  handlers : ChangeHandlers T
  handled : HandledEntries kind handlers
  Operation : Type
  perform : InfoStore T → Operation → InfoStore T
  Good : String → List (Option String) → InfoStore T → Operation → Prop
  perform_proper : ∀ s o, StoreProper kind cJSON s.kvStore →
    StoreProper kind cJSON (perform s o).kvStore
  perform_iff : ∀ key untold s o, StoreProper kind cJSON s.kvStore →
    Follower.Sound (readText kind cJSON)
      ⟨s.kvStore.lookup key, untold, s.globalInfoMap_.lookup key⟩ →
    (Follower.Sound (readText kind cJSON) ⟨(perform s o).kvStore.lookup key, untold,
      (perform s o).globalInfoMap_.lookup key⟩ ↔ Good key untold s o)

/-- The cache and the store, the tasks that the handlers pushed, and the notifications under way,
the oldest first. -/
structure FollowedCache {T : Type} (kind : RecordKind T) (cJSON : Codec) where
  info : InfoStore T := {}
  tasks : List ChangeTask := []
  notices : List (Notice kind cJSON) := []

namespace CacheManager

variable {T : Type} {cJSON : Codec} (m : CacheManager T cJSON)

/-- Another device changes the store, the manager is told of the oldest change, or does something
itself. -/
inductive Step
  | change (notice : Notice m.kind cJSON)
  | onChange (around : Surroundings)
  | own (operation : m.Operation)

def step (s : FollowedCache m.kind cJSON) : m.Step → FollowedCache m.kind cJSON
  | .change notice =>
    { s with
      info := { s.info with kvStore := notice.change.applyTo s.info.kvStore }
      notices := s.notices ++ [notice] }
  | .onChange around =>
    match s.notices with
    | [] => s
    | notice :: notices =>
      let cache := notice.onChange (around.context cJSON s.info) m.handlers
        ⟨s.info.globalInfoMap_, s.tasks⟩
      { info := { s.info with globalInfoMap_ := cache.globalInfoMap_ }
        tasks := cache.tasks
        notices := notices }
  | .own operation => { s with info := m.perform s.info operation }

/-- What the manager was not told yet of a key. -/
def untold (key : String) (notices : List (Notice m.kind cJSON)) : List (Option String) :=
  notices.filterMap fun notice => notice.change.valueAt key

/-- A key of the store, and the cache. -/
def view (key : String) (s : FollowedCache m.kind cJSON) : Follower (Option String) T :=
  ⟨s.info.kvStore.lookup key, m.untold key s.notices, s.info.globalInfoMap_.lookup key⟩

/-- **Right under a key.** Once no notification of the key is under way, the cache has under it what
the store has, if anything; and the last one under way tells what the store has. -/
def RightAt (key : String) (s : FollowedCache m.kind cJSON) : Prop :=
  (m.view key s).Sound (readText m.kind cJSON)

/-- A notification that is the last one of the key sets something under it, if what the cache has
there is not right; and what the manager does itself is good. -/
def Follows (key : String) (s : FollowedCache m.kind cJSON) : m.Step → Prop
  | .change _ => True
  | .onChange around =>
    match s.notices with
    | [] => True
    | notice :: notices =>
      let ctx := around.context cJSON s.info
      notice.change.valueAt key ≠ none → m.untold key notices = [] →
        m.handled.heard ctx (notice.entries ctx) key = none →
          Follower.Reads (readText m.kind cJSON) (s.info.kvStore.lookup key)
            (s.info.globalInfoMap_.lookup key)
  | .own operation => m.Good key (m.untold key s.notices) s.info operation

/-- What every step keeps : the texts of the store are under their keys. -/
def KeepsTexts (s : FollowedCache m.kind cJSON) : Prop :=
  StoreProper m.kind cJSON s.info.kvStore

variable {m} {key : String} {s : FollowedCache m.kind cJSON}

theorem keepsTexts_step (l : m.Step) (h : m.KeepsTexts s) : m.KeepsTexts (m.step s l) := by
  cases l with
  | change notice =>
    intro key text htext
    rw [step, ChangeNotification.lookup_applyTo notice.wellTold.distinct] at htext
    cases hvalue : notice.change.valueAt key with
    | none =>
      rw [hvalue] at htext
      exact h key text htext
    | some v =>
      rw [hvalue, Option.getD_some] at htext
      subst htext
      obtain hdelete | ⟨-, hwrite⟩ := Option.or_eq_some_iff.1 hvalue
      · obtain ⟨e, -, he⟩ := Option.map_eq_some_iff.1 hdelete
        cases he
      · obtain ⟨e, he, hvalue⟩ := Option.map_eq_some_iff.1 hwrite
        obtain rfl := Option.some.inj hvalue
        obtain ⟨hmem, rfl⟩ := entryOf_eq_some he
        exact notice.wellTold.proper e (List.mem_append_left _ hmem)
  | onChange around =>
    unfold step
    cases s.notices <;> exact h
  | own operation => exact m.perform_proper s.info operation h

theorem kvStore_context {around : Surroundings} {info : InfoStore T} {key text : String}
    (h : (around.context cJSON info).kvStore key = some text) :
    info.kvStore.lookup key = some text := by
  simp only [Surroundings.context] at h
  split_ifs at h
  exact h

/-- Another device changes the store. -/
theorem rightAt_change (notice : Notice m.kind cJSON) (h : m.RightAt key s) :
    m.RightAt key (m.step s (.change notice)) := by
  have hview : m.view key (m.step s (.change notice)) =
      ⟨(notice.change.valueAt key).getD (s.info.kvStore.lookup key),
        m.untold key s.notices ++ (notice.change.valueAt key).toList,
        s.info.globalInfoMap_.lookup key⟩ := by
    simp only [view, untold, step, List.filterMap_append,
      ChangeNotification.lookup_applyTo notice.wellTold.distinct]
    cases hvalue : notice.change.valueAt key <;> simp [hvalue]
  rw [RightAt, hview]
  cases notice.change.valueAt key with
  | none => simpa [RightAt, view] using h
  | some v => exact Follower.sound_written (m.view key s) v

/-- The manager is told of the oldest change. -/
theorem rightAt_onChange_iff (around : Surroundings) (htexts : m.KeepsTexts s)
    (h : m.RightAt key s) : m.RightAt key (m.step s (.onChange around)) ↔
      m.Follows key s (.onChange around) := by
  cases hnotices : s.notices with
  | nil => simpa [step, Follows, hnotices] using h
  | cons notice notices =>
    let ctx := around.context cJSON s.info
    have hlookup : (m.step s (.onChange around)).info.globalInfoMap_.lookup key =
        (m.handled.heard ctx (notice.entries ctx) key).getD
          (s.info.globalInfoMap_.lookup key) := by
      simp only [step, hnotices]
      rw [Notice.onChange_eq, HandledEntries.lookup_onChange]
      exact Notice.wellTold_entries m.handled fun key text htext =>
        htexts key text (kvStore_context htext)
    have hview : m.view key (m.step s (.onChange around)) =
        ⟨s.info.kvStore.lookup key, m.untold key notices,
          (m.handled.heard ctx (notice.entries ctx) key).getD
            (s.info.globalInfoMap_.lookup key)⟩ := by
      rw [view, hlookup]
      simp only [step, hnotices]
    rw [RightAt, hview]
    simp only [Follows, hnotices]
    have hbefore : m.view key s = ⟨s.info.kvStore.lookup key, m.untold key (notice :: notices),
        s.info.globalInfoMap_.lookup key⟩ := by
      rw [view, hnotices]
    rw [RightAt, hbefore] at h
    cases hvalue : notice.change.valueAt key with
    | none =>
      -- The notification does not name the key, and sets nothing under it.
      have huntold : m.untold key (notice :: notices) = m.untold key notices :=
        List.filterMap_cons_none hvalue
      have hheard : m.handled.heard ctx (notice.entries ctx) key = none := by
        rw [Option.eq_none_iff_forall_ne_some]
        intro c hc
        obtain ⟨v, hv, -⟩ | ⟨hne, -⟩ := Notice.heard_entries rfl hc
        · rw [hvalue] at hv
          cases hv
        · exact hne hvalue
      rw [hheard, ← huntold]
      exact iff_of_true h fun hne => absurd rfl hne
    | some v =>
      have huntold : m.untold key (notice :: notices) = v :: m.untold key notices :=
        List.filterMap_cons_some hvalue
      rw [huntold] at h
      refine (Follower.sound_told_iff h).trans ?_
      have hlast : (v :: m.untold key notices).length ≤ 1 ↔ m.untold key notices = [] := by
        rw [List.length_cons, ← List.length_eq_zero_iff]
        omega
      rw [Follower.GoodTold, hlast]
      simp only [ne_eq, reduceCtorEq, not_false_iff, true_imp_iff]
      refine forall_congr' fun hnil => ?_
      cases hheard : m.handled.heard ctx (notice.entries ctx) key with
      | none => exact (true_imp_iff.symm.trans (imp_congr_left (iff_of_true trivial rfl)))
      | some c =>
        refine iff_of_true ?_ fun hnone => absurd hnone (Option.some_ne_none c)
        rw [Option.getD_some]
        obtain ⟨w, hw, rfl⟩ | ⟨-, rfl | rfl⟩ := Notice.heard_entries rfl hheard
        · obtain rfl : v = w := Option.some.inj (hvalue.symm.trans hw)
          have hcurrent := Follower.Sound.told_eq h rfl (hlast.2 hnil)
          exact hcurrent ▸ Follower.reads_read _
        · exact Follower.reads_none _
        · cases hstored : ctx.kvStore key with
          | none => exact Follower.reads_none _
          | some text =>
            rw [kvStore_context hstored]
            exact Follower.reads_read _

theorem rightAt_step_iff (l : m.Step) (htexts : m.KeepsTexts s) (h : m.RightAt key s) :
    m.RightAt key (m.step s l) ↔ m.Follows key s l := by
  cases l with
  | change notice => exact iff_of_true (rightAt_change notice h) trivial
  | onChange around => exact rightAt_onChange_iff around htexts h
  | own operation => exact m.perform_iff key _ s.info operation htexts h

/-- The cache is right under a key in every state of a run exactly if every step of the run
follows. -/
theorem along_follows_iff (m : CacheManager T cJSON) (key : String) (ls : List m.Step) :
    Along m.step (m.Follows key) {} ls ↔
      ∀ pre post, ls = pre ++ post → m.RightAt key (pre.foldl m.step {}) :=
  along_iff (fun _ l h => keepsTexts_step l h) (fun _ l htexts h => rightAt_step_iff l htexts h) ls
    (fun _ _ h => absurd h (Table.lookup_empty_ne_some _ _))
    ⟨fun _ => Follower.reads_none _, fun _ h => nomatch h⟩

end CacheManager

end DHFwk
