import DHFwk.CacheChange
import DHFwk.CacheWrites
import DHFwk.CapsExchange
import Mathlib.Data.List.ReduceOption
import Mathlib.Data.String.Basic

/-!
# The records of a device

The managers find the records of a device by their keys : what stands before the first separator
of a key is the device, if the key is not too long (`isCapKeyMatchDeviceId`). So a device is
removed, and its records are found, without touching others, exactly if each record of it has a
key that is not too long, its id is plain, and no other device whose id begins with it and a
separator has a record with such a key (`device_removed_iff`).
-/

set_option linter.unusedSectionVars false

namespace DHFwk

/-! ## The managers -/

section Loops

variable {T : Type}

/-- The loop that erases. -/
def eraseDevice (deviceId : String) (map : Table String T) : Table String T :=
  map.sortedKeys.foldl
    (fun map key => if ¬isCapKeyMatchDeviceId key deviceId then map else map.remove key) map

/-- The loop that collects. -/
def recordsOf (deviceId : String) (map : Table String T) : List T :=
  map.sortedKeys.filterMap fun key =>
    if isCapKeyMatchDeviceId key deviceId then map.lookup key else none

end Loops

namespace CapabilityInfoManager

/-- `AddCapabilityInMem`. -/
def addCapabilityInMem (resInfos : List (Option CapabilityInfo)) (s : InfoStore CapabilityInfo) :
    Int × InfoStore CapabilityInfo :=
  if resInfos = [] ∨ resInfos.length > MAX_DB_RECORD_SIZE then
    (ERR_DH_FWK_RESOURCE_RES_DB_DATA_INVALID, s)
  else
    (DH_FWK_SUCCESS, { s with
      globalInfoMap_ := resInfos.reduceOption.foldl
        (fun map resInfo => map.set resInfo.getKey resInfo) s.globalInfoMap_ })

/-- `RemoveCapabilityInfoInMem`. -/
def removeCapabilityInfoInMem (deviceId : String) (s : InfoStore CapabilityInfo) :
    Int × InfoStore CapabilityInfo :=
  if ¬isIdLengthValid deviceId then (ERR_DH_FWK_PARA_INVALID, s)
  else (DH_FWK_SUCCESS, { s with globalInfoMap_ := eraseDevice deviceId s.globalInfoMap_ })

/-- `RemoveCapabilityInfoInDB`. `removed` is the store after its `RemoveDeviceData`, if that
succeeds. -/
def removeCapabilityInfoInDB (removed : Option (Table String String)) (deviceId : String)
    (s : InfoStore CapabilityInfo) : Int × InfoStore CapabilityInfo :=
  if ¬isIdLengthValid deviceId then (ERR_DH_FWK_PARA_INVALID, s)
  else if ¬s.dbAdapterPtr_ then (ERR_DH_FWK_RESOURCE_DB_ADAPTER_POINTER_NULL, s)
  else
    let s := { s with globalInfoMap_ := eraseDevice deviceId s.globalInfoMap_ }
    match removed with
    | none => (ERR_DH_FWK_RESOURCE_DB_ADAPTER_OPERATION_FAIL, s)
    | some kvStore => (DH_FWK_SUCCESS, { s with kvStore := kvStore })

/-- `GetCapabilitiesByDeviceId`. -/
def getCapabilitiesByDeviceId (deviceId : String) (resInfos : List CapabilityInfo)
    (s : InfoStore CapabilityInfo) : List CapabilityInfo :=
  if ¬isIdLengthValid deviceId then resInfos else resInfos ++ recordsOf deviceId s.globalInfoMap_

/-- An addition of either kind. -/
inductive Addition
  | addCapability (cJSON : Json.Codec) (db : KvAnswers) (resInfos : List (Option CapabilityInfo))
  | addCapabilityInMem (resInfos : List (Option CapabilityInfo))

def Addition.resInfos : Addition → List (Option CapabilityInfo)
  | .addCapability _ _ resInfos => resInfos
  | .addCapabilityInMem resInfos => resInfos

def add (s : InfoStore CapabilityInfo) : Addition → InfoStore CapabilityInfo
  | .addCapability cJSON db resInfos => (addCapability cJSON db resInfos s).2
  | .addCapabilityInMem resInfos => (addCapabilityInMem resInfos s).2

end CapabilityInfoManager

namespace MetaInfoManager

/-- `RemoveMetaInfoInMemByUdid`. -/
def removeMetaInfoInMemByUdid (sha256 : String → String) (peerudid : String)
    (s : InfoStore MetaCapabilityInfo) : Int × InfoStore MetaCapabilityInfo :=
  (DH_FWK_SUCCESS, { s with globalInfoMap_ := eraseDevice (sha256 peerudid) s.globalInfoMap_ })

/-- `GetMetaCapInfosByUdidHash`. -/
def getMetaCapInfosByUdidHash (udidHash : String) (metaCapInfos : List MetaCapabilityInfo)
    (s : InfoStore MetaCapabilityInfo) : List MetaCapabilityInfo :=
  if ¬isHashSizeValid udidHash then metaCapInfos
  else metaCapInfos ++ recordsOf udidHash s.globalInfoMap_

/-- An addition. -/
structure Addition where
  cJSON : Json.Codec
  db : KvAnswers
  metaCapInfos : List (Option MetaCapabilityInfo)

def add (s : InfoStore MetaCapabilityInfo) (a : Addition) : InfoStore MetaCapabilityInfo :=
  (addMetaCapInfos a.cJSON a.db a.metaCapInfos s).2

end MetaInfoManager

/-! ## Whose a record is -/

/-- The two parts of the key of a record. -/
structure Owner (T : Type) where
  device : T → String
  hardware : T → String

namespace Owner

variable {T : Type}

def key (o : Owner T) (r : T) : String := getCapabilityKey (o.device r) (o.hardware r)

/-- The parts pass the check of lengths. -/
def Valid (o : Owner T) (r : T) : Prop :=
  isIdLengthValid (o.device r) = true ∧ isIdLengthValid (o.hardware r) = true

/-- Every record is under its key, and valid. -/
structure Keyed (o : Owner T) (map : Table String T) : Prop where
  key : ∀ {k r}, map.lookup k = some r → k = o.key r
  valid : ∀ {k r}, map.lookup k = some r → o.Valid r

/-- No record of the device is left, and those of others are. -/
structure Removed (o : Owner T) (deviceId : String) (map map' : Table String T) : Prop where
  gone : ∀ k r, map'.lookup k = some r → o.device r ≠ deviceId
  kept : ∀ k r, map.lookup k = some r → o.device r ≠ deviceId → map'.lookup k = some r
  old : ∀ k r, map'.lookup k = some r → map.lookup k = some r

/-- The records of the device, in the order of the keys. -/
def records (o : Owner T) (deviceId : String) (map : Table String T) : List T :=
  map.sortedKeys.filterMap fun key => (map.lookup key).filter fun r => o.device r = deviceId

/-- What must hold of a record, where `go` says that the call gets to the cache : the id of the
device is plain and the key of its record not too long, and the id of another device does not begin
with that of the device and a separator, unless its key is too long. -/
structure Clear (o : Owner T) (go : Bool) (deviceId : String) (r : T) : Prop where
  own : o.device r = deviceId →
    go = true ∧ PlainId deviceId ∧ (o.key r).utf8ByteSize ≤ MAX_ID_LEN
  other : o.device r ≠ deviceId → go = true → isIdLengthValid deviceId = true → PlainId deviceId →
    (o.key r).utf8ByteSize ≤ MAX_ID_LEN → ¬BeginsWith (o.device r) deviceId

instance (o : Owner T) (go : Bool) (deviceId : String) (r : T) :
    Decidable (o.Clear go deviceId r) :=
  if hd : o.device r = deviceId then
    decidable_of_iff (go = true ∧ PlainId deviceId ∧ (o.key r).utf8ByteSize ≤ MAX_ID_LEN)
      ⟨fun h => ⟨fun _ => h, fun hne => absurd hd hne⟩, fun h => h.own hd⟩
  else
    decidable_of_iff (go = true → isIdLengthValid deviceId = true → PlainId deviceId →
        (o.key r).utf8ByteSize ≤ MAX_ID_LEN → ¬BeginsWith (o.device r) deviceId)
      ⟨fun h => ⟨fun heq => absurd heq hd, fun _ => h⟩, fun h => h.other hd⟩

section Proofs

variable {o : Owner T} {map : Table String T} {deviceId : String} {go : Bool} {r : T}

/-- A key is not empty. -/
theorem isIdLengthValid_key :
    isIdLengthValid (o.key r) = true ↔ (o.key r).utf8ByteSize ≤ MAX_ID_LEN := by
  have hne : o.key r ≠ "" := by
    intro h
    have hlist := congrArg String.toList h
    rw [key, getCapabilityKey, String.toList_append, String.toList_append] at hlist
    simp only [String.toList_empty, List.append_eq_nil_iff, String.toList_eq_nil_iff] at hlist
    exact absurd hlist.1.2 (by decide)
  simp [isIdLengthValid, hne]

theorem match_key_iff : isCapKeyMatchDeviceId (o.key r) deviceId = true ↔
    (o.key r).utf8ByteSize ≤ MAX_ID_LEN ∧ isIdLengthValid deviceId = true ∧
      PlainId deviceId ∧ BeginsWith (o.device r) deviceId := by
  unfold isCapKeyMatchDeviceId
  rw [Bool.and_eq_true, Bool.and_eq_true, isIdLengthValid_key, decide_eq_true_iff, key,
    splitString_getCapabilityKey_iff, and_assoc]

/-- The key tells the device of a record exactly if the record is clear. -/
theorem match_eq_iff_clear (h : o.Valid r) :
    (go = true ∧ isCapKeyMatchDeviceId (o.key r) deviceId = true ↔ o.device r = deviceId) ↔
      o.Clear go deviceId r := by
  rw [match_key_iff]
  constructor
  · intro hiff
    refine ⟨fun hd => ?_, fun hd hgo hvalid hplain hsize hbegins => ?_⟩
    · obtain ⟨hgo, hsize, -, hplain, -⟩ := hiff.2 hd
      exact ⟨hgo, hplain, hsize⟩
    · exact hd (hiff.1 ⟨hgo, hsize, hvalid, hplain, hbegins⟩)
  · intro hclear
    constructor
    · rintro ⟨hgo, hsize, hvalid, hplain, hbegins⟩
      by_contra hd
      exact hclear.other hd hgo hvalid hplain hsize hbegins
    · intro hd
      obtain ⟨hgo, hplain, hsize⟩ := hclear.own hd
      exact ⟨hgo, hsize, hd ▸ h.1, hplain, hd ▸ beginsWith_self _⟩

/-! ## What the loops do -/

theorem lookup_foldl_remove (deviceId : String) (k : String) :
    ∀ (keys : List String) (map : Table String T),
      (keys.foldl (fun map key =>
        if ¬isCapKeyMatchDeviceId key deviceId then map else map.remove key) map).lookup k =
        if k ∈ keys ∧ isCapKeyMatchDeviceId k deviceId = true then none else map.lookup k
  | [], map => by simp
  | key :: keys, map => by
    rw [List.foldl_cons, lookup_foldl_remove deviceId k keys]
    by_cases hk : k = key
    · subst hk
      by_cases hmatch : isCapKeyMatchDeviceId k deviceId = true
      · simp [hmatch]
      · simp [hmatch]
    · by_cases hmatch : isCapKeyMatchDeviceId key deviceId = true
      · simp [hmatch, hk, Table.lookup_remove_ne]
      · simp [hmatch, hk]

theorem lookup_eraseDevice (k : String) : (eraseDevice deviceId map).lookup k =
    if isCapKeyMatchDeviceId k deviceId = true then none else map.lookup k := by
  unfold eraseDevice
  rw [lookup_foldl_remove]
  by_cases hk : k ∈ map.sortedKeys
  · simp [hk]
  · have hnone : map.lookup k = none := by
      rw [Table.mem_sortedKeys, not_exists] at hk
      exact Option.eq_none_iff_forall_ne_some.2 hk
    simp [hk, hnone]

/-- That the keys tell the device of every record, in terms of the records. -/
theorem clear_iff (h : o.Keyed map) :
    (∀ e ∈ map.entries, o.Clear go deviceId e.2) ↔
      ∀ k r, map.lookup k = some r →
        (go = true ∧ isCapKeyMatchDeviceId k deviceId = true ↔ o.device r = deviceId) := by
  constructor
  · intro hclear k r hr
    rw [h.key hr]
    exact (match_eq_iff_clear (h.valid hr)).2 (hclear ⟨k, r⟩ (AList.mem_lookup_iff.1 hr))
  · rintro hiff ⟨k, r⟩ he
    have hr : map.lookup k = some r := AList.mem_lookup_iff.2 he
    refine (match_eq_iff_clear (h.valid hr)).1 ?_
    rw [← h.key hr]
    exact hiff k r hr

/-- The device is removed exactly if all records are clear. -/
theorem removed_iff (h : o.Keyed map) (go : Bool) (deviceId : String) :
    o.Removed deviceId map (if go then eraseDevice deviceId map else map) ↔
      ∀ e ∈ map.entries, o.Clear go deviceId e.2 := by
  have hlookup : ∀ k, (if go then eraseDevice deviceId map else map).lookup k =
      if go = true ∧ isCapKeyMatchDeviceId k deviceId = true then none else map.lookup k := by
    intro k
    cases go with
    | true => simp [lookup_eraseDevice]
    | false => simp
  rw [clear_iff h]
  constructor
  · intro hremoved k r hr
    constructor
    · intro hmatch
      by_contra hd
      have hkept := hremoved.kept k r hr hd
      rw [hlookup, if_pos hmatch] at hkept
      cases hkept
    · intro hd
      by_contra hmatch
      refine hremoved.gone k r ?_ hd
      rw [hlookup, if_neg hmatch, hr]
  · intro hiff
    refine ⟨fun k r hr hd => ?_, fun k r hr hd => ?_, fun k r hr => ?_⟩
    · rw [hlookup] at hr
      split_ifs at hr with hmatch
      exact hmatch ((hiff k r hr).2 hd)
    · rw [hlookup, if_neg fun hmatch => hd ((hiff k r hr).1 hmatch), hr]
    · rw [hlookup] at hr
      split_ifs at hr
      exact hr

/-- The records that are found are those of the device exactly if all records are clear. -/
theorem recordsOf_iff (h : o.Keyed map) (go : Bool) (deviceId : String) (before : List T) :
    (if go then before ++ recordsOf deviceId map else before) =
        before ++ o.records deviceId map ↔
      ∀ e ∈ map.entries, o.Clear go deviceId e.2 := by
  have hfound : (if go then before ++ recordsOf deviceId map else before) =
      before ++ map.sortedKeys.filterMap fun key =>
        if go = true ∧ isCapKeyMatchDeviceId key deviceId = true then map.lookup key else none := by
    cases go with
    | true => simp [recordsOf]
    | false => simp
  rw [clear_iff h, hfound, List.append_cancel_left_eq]
  constructor
  · -- A record is under no other key, so the lists agree key by key.
    intro heq k r hr
    have hmem := congrArg (r ∈ ·) heq
    simp only [records, List.mem_filterMap, eq_iff_iff] at hmem
    have hkeys : ∀ {f : String → Option T}, (∀ {k' r'}, f k' = some r' → map.lookup k' = some r') →
        ((∃ k' ∈ map.sortedKeys, f k' = some r) ↔ f k = some r) := by
      intro f hf
      constructor
      · rintro ⟨k', -, hk'⟩
        rwa [h.key hr, ← h.key (hf hk')]
      · intro hk
        exact ⟨k, Table.mem_sortedKeys.2 ⟨r, hr⟩, hk⟩
    rw [hkeys, hkeys] at hmem
    · simpa [hr] using hmem
    · intro k' r' hk'
      exact (Option.filter_eq_some_iff.1 hk').1
    · intro k' r' hk'
      split_ifs at hk'
      exact hk'
  · intro hiff
    refine List.filterMap_congr fun k _ => ?_
    cases hr : map.lookup k with
    | none => simp
    | some r =>
      by_cases hd : o.device r = deviceId
      · rw [if_pos ((hiff k r hr).2 hd), Option.filter_some_pos (by simpa using hd)]
      · rw [if_neg fun hmatch => hd ((hiff k r hr).1 hmatch),
          Option.filter_some_neg (by simpa using hd)]

/-! ## What the additions build -/

theorem keyed_empty : o.Keyed ∅ :=
  ⟨fun h => absurd h (Table.lookup_empty_ne_some _ _),
    fun h => absurd h (Table.lookup_empty_ne_some _ _)⟩

/-- Records that are added are under their keys. -/
theorem Keyed.of_added {map' : Table String T} (h : o.Keyed map)
    (hadded : ∀ {k r}, map'.lookup k = some r →
      map.lookup k = some r ∨ k = o.key r ∧ o.Valid r) : o.Keyed map' where
  key hr := (hadded hr).elim h.key And.left
  valid hr := (hadded hr).elim h.valid And.right

theorem Keyed.foldl_set : ∀ {infos : List T} {map : Table String T}, o.Keyed map →
    (∀ info ∈ infos, o.Valid info) →
      o.Keyed (infos.foldl (fun map info => map.set (o.key info) info) map)
  | [], _, h, _ => h
  | info :: infos, map, h, hvalid => by
    obtain ⟨hinfo, hinfos⟩ := List.forall_mem_cons.1 hvalid
    have hset : o.Keyed (map.set (o.key info) info) := h.of_added fun {k r} hr => by
      rw [Table.lookup_set] at hr
      split_ifs at hr with hk
      · obtain rfl := Option.some.inj hr
        exact .inr ⟨hk, hinfo⟩
      · exact .inl hr
    rw [List.foldl_cons]
    exact Keyed.foldl_set hset hinfos

theorem Keyed.addInfos {toJsonString : T → String} {isStored : T → Bool} {db : KvAnswers}
    {infos : List (Option T)} {s : InfoStore T} (h : o.Keyed s.globalInfoMap_)
    (hvalid : ∀ info, some info ∈ infos → o.Valid info) :
    o.Keyed (addInfos o.key toJsonString isStored db infos s).2.globalInfoMap_ := by
  have hwritten := written_addInfos o.key toJsonString isStored db infos s
  by_cases hsize : infos = [] ∨ infos.length > MAX_WRITE_DB_DATA_SIZE
  · rw [(hwritten.invalid hsize).2]
    exact h
  push Not at hsize
  cases hadapter : s.dbAdapterPtr_ with
  | false =>
    rw [(hwritten.missing hsize.1 hsize.2 hadapter).2]
    exact h
  | true =>
    refine h.of_added fun {k r} hr => ?_
    rw [hwritten.cached hsize.1 hsize.2 hadapter] at hr
    cases hlast : lastOf o.key infos k with
    | none =>
      rw [hlast, Option.none_or] at hr
      exact .inl hr
    | some info =>
      rw [hlast, Option.some_or] at hr
      obtain rfl := Option.some.inj hr
      have hmem := List.mem_of_find?_eq_some hlast
      have hkey := List.find?_some hlast
      rw [List.mem_reverse, List.mem_filterMap] at hmem
      obtain ⟨info', hinfo', hid⟩ := hmem
      obtain rfl : info' = some info := hid
      exact .inr ⟨(of_decide_eq_true hkey).symm, hvalid info hinfo'⟩

end Proofs

end Owner

/-! ## The two managers -/

namespace CapabilityInfoManager

def owner : Owner CapabilityInfo := ⟨CapabilityInfo.deviceId_, CapabilityInfo.dhId_⟩

theorem keyed_add {s : InfoStore CapabilityInfo} (h : owner.Keyed s.globalInfoMap_) (a : Addition)
    (hvalid : ∀ info, some info ∈ a.resInfos → owner.Valid info) :
    owner.Keyed (add s a).globalInfoMap_ := by
  cases a with
  | addCapability cJSON db resInfos => exact h.addInfos hvalid
  | addCapabilityInMem resInfos =>
    dsimp only [add, addCapabilityInMem]
    split_ifs
    · exact h
    · exact h.foldl_set fun info hinfo => hvalid info (List.reduceOption_mem_iff.1 hinfo)

/-- What the additions build from an empty cache. -/
theorem keyed_foldl_add : ∀ (adds : List Addition) {s : InfoStore CapabilityInfo},
    owner.Keyed s.globalInfoMap_ →
    (∀ a ∈ adds, ∀ info, some info ∈ a.resInfos → owner.Valid info) →
      owner.Keyed (adds.foldl add s).globalInfoMap_
  | [], _, h, _ => h
  | _ :: adds, _, h, hvalid =>
    have hvalid := List.forall_mem_cons.1 hvalid
    keyed_foldl_add adds (keyed_add h _ hvalid.1) hvalid.2

theorem removeCapabilityInfoInMem_map (deviceId : String) (s : InfoStore CapabilityInfo) :
    (removeCapabilityInfoInMem deviceId s).2.globalInfoMap_ =
      if isIdLengthValid deviceId then eraseDevice deviceId s.globalInfoMap_
      else s.globalInfoMap_ := by
  unfold removeCapabilityInfoInMem
  cases isIdLengthValid deviceId <;> rfl

theorem removeCapabilityInfoInDB_map (removed : Option (Table String String)) (deviceId : String)
    (s : InfoStore CapabilityInfo) :
    (removeCapabilityInfoInDB removed deviceId s).2.globalInfoMap_ =
      if isIdLengthValid deviceId && s.dbAdapterPtr_ then eraseDevice deviceId s.globalInfoMap_
      else s.globalInfoMap_ := by
  unfold removeCapabilityInfoInDB
  cases isIdLengthValid deviceId <;> cases s.dbAdapterPtr_ <;> cases removed <;> rfl

theorem getCapabilitiesByDeviceId_eq (deviceId : String) (resInfos : List CapabilityInfo)
    (s : InfoStore CapabilityInfo) :
    getCapabilitiesByDeviceId deviceId resInfos s =
      if isIdLengthValid deviceId then resInfos ++ recordsOf deviceId s.globalInfoMap_
      else resInfos := by
  unfold getCapabilitiesByDeviceId
  cases isIdLengthValid deviceId <;> rfl

end CapabilityInfoManager

namespace MetaInfoManager

def owner : Owner MetaCapabilityInfo := ⟨MetaCapabilityInfo.udidHash_, fun m => m.dhId_⟩

theorem keyed_foldl_add : ∀ (adds : List Addition) {s : InfoStore MetaCapabilityInfo},
    owner.Keyed s.globalInfoMap_ →
    (∀ a ∈ adds, ∀ info, some info ∈ a.metaCapInfos → owner.Valid info) →
      owner.Keyed (adds.foldl add s).globalInfoMap_
  | [], _, h, _ => h
  | _ :: adds, _, h, hvalid =>
    have hvalid := List.forall_mem_cons.1 hvalid
    keyed_foldl_add adds (Owner.Keyed.addInfos (o := owner) h hvalid.1) hvalid.2

theorem getMetaCapInfosByUdidHash_eq (udidHash : String) (metaCapInfos : List MetaCapabilityInfo)
    (s : InfoStore MetaCapabilityInfo) :
    getMetaCapInfosByUdidHash udidHash metaCapInfos s =
      if isHashSizeValid udidHash then metaCapInfos ++ recordsOf udidHash s.globalInfoMap_
      else metaCapInfos := by
  unfold getMetaCapInfosByUdidHash
  cases isHashSizeValid udidHash <;> rfl

end MetaInfoManager

open CapabilityInfoManager MetaInfoManager

/-- **A device is removed, and nothing else.** Each of the calls does what it is for exactly if all
records of the cache are clear. -/
theorem device_removed_iff (adds : List CapabilityInfoManager.Addition)
    (metaAdds : List MetaInfoManager.Addition) (s₀ : InfoStore CapabilityInfo)
    (m₀ : InfoStore MetaCapabilityInfo) (hs₀ : s₀.globalInfoMap_ = ∅) (hm₀ : m₀.globalInfoMap_ = ∅)
    (hadds : ∀ a ∈ adds, ∀ info, some info ∈ a.resInfos → CapabilityInfoManager.owner.Valid info)
    (hmetaAdds : ∀ a ∈ metaAdds, ∀ info, some info ∈ a.metaCapInfos →
      MetaInfoManager.owner.Valid info) :
    let s := adds.foldl CapabilityInfoManager.add s₀
    let m := metaAdds.foldl MetaInfoManager.add m₀
    (∀ deviceId, CapabilityInfoManager.owner.Removed deviceId s.globalInfoMap_
        (removeCapabilityInfoInMem deviceId s).2.globalInfoMap_ ↔
      ∀ e ∈ s.globalInfoMap_.entries,
        CapabilityInfoManager.owner.Clear (isIdLengthValid deviceId) deviceId e.2) ∧
    (∀ removed deviceId, CapabilityInfoManager.owner.Removed deviceId s.globalInfoMap_
        (removeCapabilityInfoInDB removed deviceId s).2.globalInfoMap_ ↔
      ∀ e ∈ s.globalInfoMap_.entries, CapabilityInfoManager.owner.Clear
        (isIdLengthValid deviceId && s.dbAdapterPtr_) deviceId e.2) ∧
    (∀ deviceId resInfos, getCapabilitiesByDeviceId deviceId resInfos s =
        resInfos ++ CapabilityInfoManager.owner.records deviceId s.globalInfoMap_ ↔
      ∀ e ∈ s.globalInfoMap_.entries,
        CapabilityInfoManager.owner.Clear (isIdLengthValid deviceId) deviceId e.2) ∧
    (∀ sha256 peerudid, MetaInfoManager.owner.Removed (sha256 peerudid) m.globalInfoMap_
        (removeMetaInfoInMemByUdid sha256 peerudid m).2.globalInfoMap_ ↔
      ∀ e ∈ m.globalInfoMap_.entries,
        MetaInfoManager.owner.Clear true (sha256 peerudid) e.2) ∧
    (∀ udidHash metaCapInfos, getMetaCapInfosByUdidHash udidHash metaCapInfos m =
        metaCapInfos ++ MetaInfoManager.owner.records udidHash m.globalInfoMap_ ↔
      ∀ e ∈ m.globalInfoMap_.entries,
        MetaInfoManager.owner.Clear (isHashSizeValid udidHash) udidHash e.2) := by
  intro s m
  have hs : CapabilityInfoManager.owner.Keyed s.globalInfoMap_ :=
    CapabilityInfoManager.keyed_foldl_add adds (hs₀ ▸ Owner.keyed_empty) hadds
  have hm : MetaInfoManager.owner.Keyed m.globalInfoMap_ :=
    MetaInfoManager.keyed_foldl_add metaAdds (hm₀ ▸ Owner.keyed_empty) hmetaAdds
  refine ⟨fun deviceId => ?_, fun removed deviceId => ?_, fun deviceId resInfos => ?_,
    fun sha256 peerudid => ?_, fun udidHash metaCapInfos => ?_⟩
  · rw [removeCapabilityInfoInMem_map]
    exact Owner.removed_iff hs _ deviceId
  · rw [removeCapabilityInfoInDB_map]
    exact Owner.removed_iff hs _ deviceId
  · rw [getCapabilitiesByDeviceId_eq]
    exact Owner.recordsOf_iff hs _ deviceId resInfos
  · exact Owner.removed_iff hm true (sha256 peerudid)
  · rw [getMetaCapInfosByUdidHash_eq]
    exact Owner.recordsOf_iff hm _ udidHash metaCapInfos

/-- The cache after one addition. -/
def cached (resInfos : List CapabilityInfo) : InfoStore CapabilityInfo :=
  CapabilityInfoManager.add {} (.addCapabilityInMem (resInfos.map some))

def someInfos : List CapabilityInfo :=
  [{ deviceId_ := "A", dhId_ := "camera" }, { deviceId_ := "B", dhId_ := "mic" }]

theorem valid_of_all {resInfos : List CapabilityInfo}
    (h : resInfos.all (fun r => isIdLengthValid r.deviceId_ && isIdLengthValid r.dhId_) = true) :
    ∀ a ∈ [CapabilityInfoManager.Addition.addCapabilityInMem (resInfos.map some)],
      ∀ info, some info ∈ a.resInfos → CapabilityInfoManager.owner.Valid info := by
  intro a ha info hinfo
  obtain rfl := List.mem_singleton.1 ha
  obtain ⟨r, hr, heq⟩ := List.mem_map.1 hinfo
  obtain rfl := Option.some.inj heq
  exact Bool.and_eq_true_iff.1 (List.all_eq_true.1 h r hr)

/-- Hardware of `A` and of `B`, of which `A` is removed. -/
theorem device_removed_one :
    CapabilityInfoManager.owner.Removed "A" (cached someInfos).globalInfoMap_
      (removeCapabilityInfoInMem "A" (cached someInfos)).2.globalInfoMap_ :=
  ((device_removed_iff [.addCapabilityInMem (someInfos.map some)] [] {} {} rfl rfl
    (valid_of_all (by decide)) (fun _ h => nomatch h)).1 "A").2 (by decide +kernel)

/-- A device and hardware with ids of 200 and 60 bytes, whose key is too long ; a device whose id
ends with the character of the separator, and one that begins with it. -/
theorem device_not_removed :
    ¬CapabilityInfoManager.owner.Removed (String.ofList (List.replicate 200 'a'))
        (cached [{ deviceId_ := String.ofList (List.replicate 200 'a')
                   dhId_ := String.ofList (List.replicate 60 'b') }]).globalInfoMap_
        (removeCapabilityInfoInMem (String.ofList (List.replicate 200 'a'))
          (cached [{ deviceId_ := String.ofList (List.replicate 200 'a')
                     dhId_ := String.ofList (List.replicate 60 'b') }])).2.globalInfoMap_ ∧
      ¬CapabilityInfoManager.owner.Removed "A#"
        (cached [{ deviceId_ := "A#", dhId_ := "camera" }]).globalInfoMap_
        (removeCapabilityInfoInMem "A#"
          (cached [{ deviceId_ := "A#", dhId_ := "camera" }])).2.globalInfoMap_ ∧
      ¬CapabilityInfoManager.owner.Removed "A"
        (cached [{ deviceId_ := "A###B", dhId_ := "camera" }]).globalInfoMap_
        (removeCapabilityInfoInMem "A"
          (cached [{ deviceId_ := "A###B", dhId_ := "camera" }])).2.globalInfoMap_ := by
  have hclear : ∀ {resInfos : List CapabilityInfo} {deviceId : String},
      resInfos.all (fun r => isIdLengthValid r.deviceId_ && isIdLengthValid r.dhId_) = true →
      CapabilityInfoManager.owner.Removed deviceId (cached resInfos).globalInfoMap_
        (removeCapabilityInfoInMem deviceId (cached resInfos)).2.globalInfoMap_ →
      ∀ e ∈ (cached resInfos).globalInfoMap_.entries,
        CapabilityInfoManager.owner.Clear (isIdLengthValid deviceId) deviceId e.2 := by
    intro resInfos deviceId hvalid hremoved
    have hkeyed := CapabilityInfoManager.keyed_foldl_add
      [.addCapabilityInMem (resInfos.map some)] (s := {}) Owner.keyed_empty (valid_of_all hvalid)
    rw [removeCapabilityInfoInMem_map] at hremoved
    exact (Owner.removed_iff hkeyed _ deviceId).1 hremoved
  refine ⟨fun h => ?_, fun h => ?_, fun h => ?_⟩
  · exact absurd (hclear (by decide +kernel) h) (by decide +kernel)
  · exact absurd (hclear (by decide +kernel) h) (by decide +kernel)
  · exact absurd (hclear (by decide +kernel) h) (by decide +kernel)

end DHFwk
