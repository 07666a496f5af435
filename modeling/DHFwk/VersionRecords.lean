import DHFwk.EnableParams

/-!
# Version records and their store

A `VersionInfo` is written as an object with an array of its component versions, in the order in
which the map of them iterates, and read into an empty record, where the first component of each
type counts. It comes back if no text is cut, no list is longer than `IsArray` lets pass and no
type has more than 31 bits (`fromJson_toJson_iff`), so that the version store gives back what was
put in it (`version_restored`).

`AddVersion` does not put a record whose text the store has. The text depends on the order in which
the map iterates, so a record that only equals the stored one may be put again.
-/

set_option linter.unusedSectionVars false

namespace DHFwk

open Json

abbrev DH_VER : String := "dh_ver"

namespace CompVersion

/-- A version comes back. -/
structure ComesBack (v : CompVersion) : Prop extends v.Survives where
  sink : IsText v.sinkVersion
  noFeature : v.haveFeature = false → v.sourceFeatureFilters = [] ∧ v.sinkSupportedFeatures = []

theorem serialised_eq_iff (v : CompVersion) : v.serialised = v ↔
    (v.haveFeature = false → v.sourceFeatureFilters = [] ∧ v.sinkSupportedFeatures = []) := by
  unfold serialised
  split_ifs with hv
  · simp [hv]
  · rw [CompVersion.ext_iff]
    simp only [true_and, eq_comm (a := []), Bool.eq_false_of_not_eq_true hv, forall_true_left]

/-- The fields of a new version are read as they were written if no text is cut and the type has
no more than 31 bits. -/
theorem readEach_new_iff (v : CompVersion) (dhType : UInt32) :
    (∀ f ∈ fields, f.get (readEach fields v.toJson { dhType }) = f.get v) ↔
      (∀ s ∈ [v.name, v.handlerVersion, v.sourceVersion, v.sinkVersion], IsText s) ∧
        (v.dhType.toNat : ℤ) ≤ INT32_MAX := by
  rw [readEach_iff independent v.holds]
  simp only [fields, List.forall_mem_cons, List.not_mem_nil, false_imp_iff, implies_true, and_true]
  have hcheck : ∀ n ≤ INT32_MAX, decide (n ≤ 2147483648) = true := fun n hn =>
    decide_eq_true (hn.trans (by decide))
  constructor
  · rintro ⟨hname, htype, hhandler, hsource, hsink⟩
    refine ⟨⟨textField_carries_or_stops_iff.1 hname, textField_carries_or_stops_iff.1 hhandler,
      textField_carries_or_stops_iff.1 hsource, textField_carries_or_stops_iff.1 hsink⟩, ?_⟩
    exact (uint32Field_carries_iff hcheck).1
      (htype.resolve_right fun h => uint32Field_not_stops hcheck h.1)
  · rintro ⟨⟨hname, hhandler, hsource, hsink⟩, htype⟩
    exact ⟨textField_carries_or_stops_iff.2 hname, .inl ((uint32Field_carries_iff hcheck).2 htype),
      textField_carries_or_stops_iff.2 hhandler, textField_carries_or_stops_iff.2 hsource,
      textField_carries_or_stops_iff.2 hsink⟩

/-- Where no features are read, there are none if there were none before. -/
theorem noFeature_fromJsoncompVerContinue (j : Json) (w : CompVersion)
    (hf : w.sourceFeatureFilters = []) (hs : w.sinkSupportedFeatures = []) :
    (fromJsoncompVerContinue j w).haveFeature = false →
      (fromJsoncompVerContinue j w).sourceFeatureFilters = [] ∧
        (fromJsoncompVerContinue j w).sinkSupportedFeatures = [] := by
  simp only [fromJsoncompVerContinue]
  split_ifs
  · exact fun _ => ⟨hf, hs⟩
  · exact fun h => absurd h (by simp)

/-- A version that is read into a new one comes back exactly if it may, whatever the new one had
for its type. -/
theorem fromJson_toJson_new_iff (v : CompVersion) (dhType : UInt32) :
    fromJson v.toJson { dhType } = v ↔ v.ComesBack := by
  have hserialised := fromJson_toJson_eq_iff v { dhType } rfl rfl
  rw [readEach_new_iff, and_assoc] at hserialised
  constructor
  · intro hsame
    have hnone : v.haveFeature = false →
        v.sourceFeatureFilters = [] ∧ v.sinkSupportedFeatures = [] := by
      rw [← hsame]
      exact noFeature_fromJsoncompVerContinue _ _
        (get_readEach sourceFeatureFilters (by simp [fields, textField, uint32Field]) _)
        (get_readEach sinkSupportedFeatures (by simp [fields, textField, uint32Field]) _)
    obtain ⟨htext, htype, hfeatures⟩ :=
      hserialised.1 (hsame.trans ((serialised_eq_iff v).2 hnone).symm)
    simp only [List.forall_mem_cons, List.not_mem_nil, false_imp_iff, implies_true,
      and_true] at htext
    obtain ⟨hname, hhandler, hsource, hsink⟩ := htext
    exact ⟨⟨by simp [hname, hhandler, hsource], htype, hfeatures⟩, hsink, hnone⟩
  · intro h
    have htext := h.text
    simp only [List.forall_mem_cons, List.not_mem_nil, false_imp_iff, implies_true,
      and_true] at htext
    obtain ⟨hname, hhandler, hsource⟩ := htext
    rw [hserialised.2 ⟨by simp [hname, hhandler, hsource, h.sink], h.dhType, h.features⟩,
      (serialised_eq_iff v).2 h.noFeature]

/-- No type of more than 31 bits is read. -/
theorem dhType_fromJson_toJson (v w : CompVersion) :
    ((fromJson v.toJson w).dhType.toNat : ℤ) ≤ INT32_MAX ∧
      ((v.dhType.toNat : ℤ) ≤ INT32_MAX → (fromJson v.toJson w).dhType = v.dhType) := by
  have hmem : uint32Field (· ≤ 2147483648) TYPE dhType (fun n v => { v with dhType := n }) ∈
      fields := by simp [fields]
  have hread : (fromJson v.toJson w).dhType =
      UInt32.ofNat (number v.dhType.toNat).valueint.toNat := by
    refine (get_fromJsoncompVerContinue _ _ _ hmem).trans (readEach_get independent v.holds hmem ?_)
    exact uint32Field_read TYPE dhType _ (fun n hn => decide_eq_true (hn.trans (by decide))) v.dhType
  rw [hread]
  refine ⟨?_, fun hle => ?_⟩
  · have hmax := valueint_le v.dhType.toNat
    have hnonneg := valueint_nonneg (Int.natCast_nonneg v.dhType.toNat)
    have hmod := Nat.mod_le (number v.dhType.toNat).valueint.toNat (2 ^ 32)
    rw [UInt32.toNat_ofNat']
    omega
  · rw [valueint_of_le (Int.natCast_nonneg _) hle, Int.toNat_natCast, UInt32.ofNat_toNat]

end CompVersion

namespace VersionInfo

variable (v w : VersionInfo)

/-- The texts, in the order in which they are written and read. -/
def fields : List (Member VersionInfo) :=
  [textField DEV_ID deviceId fun s v => { v with deviceId := s },
   textField DH_VER dhVersion fun s v => { v with dhVersion := s }]

/-- `ToJson`. -/
def toJson : Json :=
  .object (writeFields fields v ++
    [(COMP_VER, .array (v.compVersions.entries.map fun compVersion => compVersion.2.toJson))])

/-- `compVersions.insert`, which leaves a component that is there. -/
def insertComp (compVersions : Table UInt32 CompVersion) (compVer : CompVersion) :
    Table UInt32 CompVersion :=
  if (compVersions.lookup compVer.dhType).isSome then compVersions
  else compVersions.set compVer.dhType compVer

/-- `FromJson`. A `compVerValue` is made without a value for its type, so that it has `noType`
until one is read. -/
def fromJson (noType : Json → UInt32) (jsonObject : Json) : VersionInfo :=
  let v := readEach fields jsonObject v
  match (jsonObject.getObjectItem COMP_VER).filter isArray with
  | some (.array compVer) =>
    let insert compVersions compVerObj :=
      insertComp compVersions (CompVersion.fromJson compVerObj { dhType := noType compVerObj })
    { v with compVersions := compVer.foldl insert v.compVersions }
  | _ => v

/-- A new `VersionInfo`. -/
def new : VersionInfo := ⟨"", "", ∅⟩

/-- `VersionInfo::ToJsonString`. -/
def toJsonString (cJSON : Codec) : String :=
  cJSON.printUnformatted v.toJson

/-- `VersionInfo::FromJsonString`, into a new record. -/
def fromJsonString (cJSON : Codec) (noType : Json → UInt32) (jsonStr : String) :
    Int × VersionInfo :=
  if ¬isJsonLengthValid jsonStr then (ERR_DH_FWK_PARA_INVALID, new)
  else
    match cJSON.parse jsonStr with
    | none => (ERR_DH_FWK_JSON_PARSE_FAILED, new)
    | some jsonObj => (DH_FWK_SUCCESS, new.fromJson noType jsonObj)

/-- The same texts and the same components, in whatever order the maps iterate. -/
structure Equal : Prop where
  deviceId : v.deviceId = w.deviceId
  dhVersion : v.dhVersion = w.dhVersion
  compVersions : ∀ dhType, v.compVersions.lookup dhType = w.compVersions.lookup dhType

/-- Every component is under its type and comes back, and no text or list is cut. -/
structure Survives : Prop where
  text : IsText v.deviceId ∧ IsText v.dhVersion
  size : v.compVersions.entries.length ≤ MAX_ARR_SIZE
  dhType : ∀ e ∈ v.compVersions.entries, e.2.dhType = e.1
  comp : ∀ e ∈ v.compVersions.entries, e.2.ComesBack

section

variable {v w}

theorem Equal.rfl : v.Equal v := ⟨Eq.refl _, Eq.refl _, fun _ => Eq.refl _⟩

theorem independent : Independent fields where
  names := by decide
  get_set_self := by simp [fields, textField]
  get_set := by simp [fields, textField]
  get_set' := by simp [fields, textField]

theorem holds (v : VersionInfo) : v.toJson.Holds fields v :=
  holds_writeFields independent v _

theorem getObjectItem_toJson (v : VersionInfo) : v.toJson.getObjectItem COMP_VER =
    some (.array (v.compVersions.entries.map fun compVersion => compVersion.2.toJson)) := by
  rw [toJson, getObjectItem_append (by decide)]
  simp [getObjectItem]

theorem lookup_insertComp (t : Table UInt32 CompVersion) (c : CompVersion) (dhType : UInt32) :
    (insertComp t c).lookup dhType =
      (t.lookup dhType).or (if dhType = c.dhType then some c else none) := by
  unfold insertComp
  split_ifs with hthere heq heq
  · obtain ⟨c', hc'⟩ := Option.isSome_iff_exists.1 hthere
    rw [heq, hc', Option.some_or]
  · rw [Option.or_none]
  · rw [heq, Table.lookup_set_self, Option.not_isSome_iff_eq_none.1 hthere, Option.none_or]
  · rw [Table.lookup_set_ne _ heq, Option.or_none]

/-- Of components that are inserted one after another the first of a type stays. -/
theorem lookup_foldl_insertComp (dhType : UInt32) : ∀ (cs : List CompVersion)
    (t : Table UInt32 CompVersion), (cs.foldl insertComp t).lookup dhType =
      (t.lookup dhType).or (cs.find? fun c => dhType = c.dhType)
  | [], t => by simp
  | c :: cs, t => by
    rw [List.foldl_cons, lookup_foldl_insertComp dhType cs, lookup_insertComp, Option.or_assoc,
      List.find?_cons]
    congr 1
    by_cases heq : dhType = c.dhType
    · rw [if_pos heq, decide_eq_true heq, Option.some_or]
    · rw [if_neg heq, decide_eq_false heq, Option.none_or]

/-- The components that are read from a written record. -/
def readComps (v : VersionInfo) (noType : Json → UInt32) : List CompVersion :=
  v.compVersions.entries.map fun e => .fromJson e.2.toJson { dhType := noType e.2.toJson }

/-- What is read from a written record. -/
theorem fromJson_toJson_new (v : VersionInfo) (noType : Json → UInt32) :
    (∀ f ∈ fields, f.get (new.fromJson noType v.toJson) =
        f.get (readEach fields v.toJson new)) ∧
      ∀ dhType, (new.fromJson noType v.toJson).compVersions.lookup dhType =
        if v.compVersions.entries.length ≤ MAX_ARR_SIZE then
          (v.readComps noType).find? fun c => dhType = c.dhType
        else none := by
  have hcomp : (readEach fields v.toJson new).compVersions = ∅ :=
    get_readEach compVersions (by simp [fields, textField]) _
  have harray : isArray (.array (v.compVersions.entries.map fun e => e.2.toJson)) = true ↔
      v.compVersions.entries.length ≤ MAX_ARR_SIZE := by
    simp [isArray]
  unfold fromJson
  rw [getObjectItem_toJson, Option.filter_some]
  by_cases hlen : v.compVersions.entries.length ≤ MAX_ARR_SIZE
  · rw [if_pos (harray.2 hlen)]
    refine ⟨by simp [fields, textField], fun dhType => ?_⟩
    have hfold := lookup_foldl_insertComp dhType (v.readComps noType) ∅
    rw [AList.lookup_empty, Option.none_or, readComps, List.foldl_map] at hfold
    rw [if_pos hlen]
    simp only [hcomp, List.foldl_map]
    exact hfold
  · rw [if_neg (mt harray.1 hlen)]
    refine ⟨fun f _ => rfl, fun dhType => ?_⟩
    rw [if_neg hlen]
    exact (congrArg (AList.lookup dhType) hcomp).trans (AList.lookup_empty _)

theorem find?_eq_dlookup (dhType : UInt32) : ∀ es : List (Σ _ : UInt32, CompVersion),
    (∀ e ∈ es, e.2.dhType = e.1) →
      (es.map Sigma.snd).find? (fun c => dhType = c.dhType) = List.dlookup dhType es
  | [], _ => rfl
  | ⟨k, c⟩ :: es, h => by
    obtain ⟨hc, hes⟩ := List.forall_mem_cons.1 h
    obtain rfl : c.dhType = k := hc
    rw [List.map_cons, List.find?_cons]
    by_cases heq : dhType = c.dhType
    · rw [decide_eq_true heq, heq, List.dlookup_cons_eq]
    · rw [decide_eq_false heq, List.dlookup_cons_ne _ _ heq]
      exact find?_eq_dlookup dhType es hes

/-- Components that come back are found under their types. -/
theorem find?_readComps (h : v.Survives) (noType : Json → UInt32) (dhType : UInt32) :
    (v.readComps noType).find? (fun c => dhType = c.dhType) = v.compVersions.lookup dhType := by
  have hread : v.readComps noType = v.compVersions.entries.map Sigma.snd :=
    List.map_congr_left fun e he => (CompVersion.fromJson_toJson_new_iff e.2 _).2 (h.comp e he)
  rw [hread]
  exact find?_eq_dlookup dhType v.compVersions.entries h.dhType

/-- Where all components are found, each one comes back : no other is read with its type. -/
theorem comesBack_of_find? (hkey : ∀ e ∈ v.compVersions.entries, e.2.dhType = e.1)
    (noType : Json → UInt32)
    (hfind : ∀ dhType, (v.readComps noType).find? (fun c => dhType = c.dhType) =
      v.compVersions.lookup dhType) :
    ∀ e ∈ v.compVersions.entries, e.2.ComesBack := by
  have hread : ∀ e ∈ v.compVersions.entries, ∃ e' ∈ v.compVersions.entries,
      CompVersion.fromJson e'.2.toJson { dhType := noType e'.2.toJson } = e.2 := by
    intro e he
    have hsome : (v.readComps noType).find? (fun c => e.1 = c.dhType) = some e.2 :=
      (hfind e.1).trans (AList.mem_lookup_iff.2 he)
    exact List.mem_map.1 (List.mem_of_find?_eq_some hsome)
  have htype : ∀ e ∈ v.compVersions.entries, (e.2.dhType.toNat : ℤ) ≤ INT32_MAX := by
    intro e he
    obtain ⟨e', -, hsame⟩ := hread e he
    rw [← hsame]
    exact (CompVersion.dhType_fromJson_toJson e'.2 _).1
  intro e he
  obtain ⟨e', he', hsame⟩ := hread e he
  have hkey' : e'.1 = e.1 := by
    rw [← hkey e' he', ← hkey e he, ← hsame]
    exact ((CompVersion.dhType_fromJson_toJson e'.2 _).2 (htype e' he')).symm
  obtain rfl : e' = e := v.compVersions.nodupKeys.eq_of_fst_eq he' he hkey'
  exact (CompVersion.fromJson_toJson_new_iff e'.2 _).1 hsame

/-- A record with its components under their types is read as it was written exactly if it
survives. -/
theorem fromJson_toJson_iff (hkey : ∀ e ∈ v.compVersions.entries, e.2.dhType = e.1)
    (noType : Json → UInt32) : (new.fromJson noType v.toJson).Equal v ↔ v.Survives := by
  obtain ⟨hfields, hlookup⟩ := v.fromJson_toJson_new noType
  have htext : (∀ f ∈ fields, f.get (new.fromJson noType v.toJson) = f.get v) ↔
      IsText v.deviceId ∧ IsText v.dhVersion := by
    rw [forall₂_congr fun f hf => by rw [hfields f hf], readEach_iff independent v.holds]
    simp only [fields, List.forall_mem_cons, List.not_mem_nil, false_imp_iff, implies_true,
      and_true]
    exact and_congr textField_carries_or_stops_iff textField_carries_or_stops_iff
  simp only [fields, List.forall_mem_cons, List.not_mem_nil, false_imp_iff, implies_true,
    and_true] at htext
  constructor
  · intro hequal
    have hsize : v.compVersions.entries.length ≤ MAX_ARR_SIZE := by
      by_contra hlong
      obtain ⟨e, he⟩ := List.exists_mem_of_length_pos (by omega : 0 < v.compVersions.entries.length)
      have hnone := hlookup e.1
      rw [if_neg hlong, hequal.compVersions] at hnone
      exact Option.some_ne_none _ ((AList.mem_lookup_iff.2 he).symm.trans hnone)
    refine ⟨htext.1 ⟨hequal.deviceId, hequal.dhVersion⟩, hsize, hkey, ?_⟩
    refine comesBack_of_find? hkey noType fun dhType => ?_
    rw [← hequal.compVersions, hlookup, if_pos hsize]
  · intro h
    obtain ⟨hdevice, hversion⟩ := htext.2 h.text
    refine ⟨hdevice, hversion, fun dhType => ?_⟩
    rw [hlookup, if_pos h.size, find?_readComps h]

/-- So is its text, where cJSON parses what it prints. -/
theorem fromJsonString_toJsonString {cJSON : Codec} (hcJSON : cJSON.Faithful v.toJson)
    (hlen : isJsonLengthValid (v.toJsonString cJSON) = true) (noType : Json → UInt32) :
    fromJsonString cJSON noType (v.toJsonString cJSON) =
      (DH_FWK_SUCCESS, new.fromJson noType v.toJson) := by
  have hparse : cJSON.parse (v.toJsonString cJSON) = some v.toJson := hcJSON
  rw [fromJsonString, if_neg (not_not.2 hlen), hparse]

end

end VersionInfo

/-! ## The version store -/

/-- `VersionInfoManager` with its store, and the versions of `VersionManager`. `puts` has the calls
of `PutData`. -/
structure VersionInfoManager where
  dbAdapterPtr_ : Bool := true
  kvStoragePtr_ : Bool := true
  kvStore : Table String String := ∅
  dhVersions_ : Table String DHVersion := ∅
  puts : List (String × String) := []

namespace VersionInfoManager

variable (s : VersionInfoManager) (cJSON : Codec) (noType : Json → UInt32)

/-- `DBAdapter::GetDataByKey`. -/
def getDataByKey (key : String) : Int × String :=
  if ¬isIdLengthValid key then (ERR_DH_FWK_PARA_INVALID, "")
  else if ¬s.kvStoragePtr_ then (ERR_DH_FWK_RESOURCE_KV_STORAGE_POINTER_NULL, "")
  else
    match s.kvStore.lookup key with
    | none => (ERR_DH_FWK_RESOURCE_KV_STORAGE_OPERATION_FAIL, "")
    | some data => (DH_FWK_SUCCESS, data)

/-- `DBAdapter::PutData`. -/
def putData (key value : String) : Int × VersionInfoManager :=
  let s := { s with puts := s.puts ++ [(key, value)] }
  if ¬isIdLengthValid key ∨ value = "" ∨ value.utf8ByteSize > MAX_MESSAGE_LEN then
    (ERR_DH_FWK_PARA_INVALID, s)
  else if ¬s.kvStoragePtr_ then (ERR_DH_FWK_RESOURCE_KV_STORAGE_POINTER_NULL, s)
  else (DH_FWK_SUCCESS, { s with kvStore := s.kvStore.set key value })

/-- `AddVersion`. -/
def addVersion (versionInfo : VersionInfo) : Int × VersionInfoManager :=
  if ¬s.dbAdapterPtr_ then (ERR_DH_FWK_RESOURCE_DB_ADAPTER_POINTER_NULL, s)
  else if (s.getDataByKey versionInfo.deviceId).2 = versionInfo.toJsonString cJSON then
    (DH_FWK_SUCCESS, s)
  else
    let (ret, s) := s.putData versionInfo.deviceId (versionInfo.toJsonString cJSON)
    if ret ≠ DH_FWK_SUCCESS then (ERR_DH_FWK_RESOURCE_DB_ADAPTER_OPERATION_FAIL, s)
    else (DH_FWK_SUCCESS, s)

/-- `GetVersionInfoByDeviceId`, into a new record. -/
def getVersionInfoByDeviceId (deviceId : String) : Int × VersionInfo :=
  if ¬isIdLengthValid deviceId then (ERR_DH_FWK_PARA_INVALID, .new)
  else if ¬s.dbAdapterPtr_ then (ERR_DH_FWK_RESOURCE_DB_ADAPTER_POINTER_NULL, .new)
  else
    let (ret, data) := s.getDataByKey deviceId
    if ret ≠ DH_FWK_SUCCESS then (ERR_DH_FWK_RESOURCE_DB_ADAPTER_OPERATION_FAIL, .new)
    else VersionInfo.fromJsonString cJSON noType data

/-- `UpdateVersionCache`, where `uuidOf` is `GetUUIDByDeviceId`. -/
def updateVersionCache (uuidOf : String → String) (versionInfo : VersionInfo) :
    VersionInfoManager :=
  let uuid := uuidOf versionInfo.deviceId
  if uuid = "" then s
  else if ¬isIdLengthValid uuid then s
  else
    let dhVersion : DHVersion := ⟨uuid, versionInfo.dhVersion, versionInfo.compVersions⟩
    { s with dhVersions_ := s.dhVersions_.set uuid dhVersion }

/-- `SyncVersionInfoFromDB`. -/
def syncVersionInfoFromDB (uuidOf : String → String) (deviceId : String) :
    Int × VersionInfoManager :=
  if ¬isIdLengthValid deviceId then (ERR_DH_FWK_PARA_INVALID, s)
  else if ¬s.dbAdapterPtr_ then (ERR_DH_FWK_RESOURCE_DB_ADAPTER_POINTER_NULL, s)
  else
    let (ret, data) := s.getDataByKey deviceId
    if ret ≠ DH_FWK_SUCCESS then (ERR_DH_FWK_RESOURCE_DB_ADAPTER_OPERATION_FAIL, s)
    else
      let (ret, versionInfo) := VersionInfo.fromJsonString cJSON noType data
      if ret ≠ DH_FWK_SUCCESS then (ret, s)
      else (DH_FWK_SUCCESS, s.updateVersionCache uuidOf versionInfo)

/-- The store is open and has the text under the key. -/
structure Stored (key text : String) : Prop where
  dbAdapterPtr_ : s.dbAdapterPtr_ = true
  kvStoragePtr_ : s.kvStoragePtr_ = true
  lookup : s.kvStore.lookup key = some text

/-- The store gives the record back, to who asks for it and to the versions of its device. -/
structure Restores (v : VersionInfo) : Prop where
  read : (s.getVersionInfoByDeviceId cJSON noType v.deviceId).1 = DH_FWK_SUCCESS ∧
    (s.getVersionInfoByDeviceId cJSON noType v.deviceId).2.Equal v
  sync : ∀ uuidOf, (s.syncVersionInfoFromDB cJSON noType uuidOf v.deviceId).1 = DH_FWK_SUCCESS ∧
    (isIdLengthValid (uuidOf v.deviceId) = true → ∃ dhVersion,
      (s.syncVersionInfoFromDB cJSON noType uuidOf v.deviceId).2.dhVersions_.lookup
        (uuidOf v.deviceId) = some dhVersion ∧
      dhVersion.uuid = uuidOf v.deviceId ∧ dhVersion.dhVersion = v.dhVersion ∧
      ∀ dhType, dhVersion.compVersions.lookup dhType = v.compVersions.lookup dhType)

section

variable {s cJSON noType} {key text : String} {v : VersionInfo}

theorem getDataByKey_of_stored (h : s.Stored key text) (hid : isIdLengthValid key = true) :
    s.getDataByKey key = (DH_FWK_SUCCESS, text) := by
  simp [getDataByKey, hid, h.kvStoragePtr_, h.lookup]

/-- Only what is in the store is read from it. -/
theorem lookup_of_getDataByKey (hne : text ≠ "") (h : (s.getDataByKey key).2 = text) :
    s.kvStore.lookup key = some text := by
  by_contra hno
  refine hne (h.symm.trans ?_)
  unfold getDataByKey
  split_ifs with hid hkv
  · cases hlookup : s.kvStore.lookup key with
    | none => rfl
    | some data =>
      have hdata : (s.getDataByKey key).2 = data := by
        rw [getDataByKey, if_neg (not_not.2 hid), if_neg (not_not.2 hkv), hlookup]
      exact absurd (hlookup.trans (by rw [← hdata, h])) hno
  · rfl
  · rfl

theorem putData_of_valid (hid : isIdLengthValid key = true) (hlen : isJsonLengthValid text = true)
    (hkv : s.kvStoragePtr_ = true) : s.putData key text =
      (DH_FWK_SUCCESS,
        { s with kvStore := s.kvStore.set key text, puts := s.puts ++ [(key, text)] }) := by
  simp only [isJsonLengthValid, Bool.not_eq_true', Bool.or_eq_false_iff,
    String.isEmpty_eq_false_iff,
    decide_eq_false_iff_not] at hlen
  have hvalid : ¬(¬isIdLengthValid key ∨ text = "" ∨ text.utf8ByteSize > MAX_MESSAGE_LEN) := by
    rintro (h | h | h)
    · exact h hid
    · exact hlen.1 h
    · exact hlen.2 h
  unfold putData
  dsimp only
  rw [if_neg hvalid, if_neg (not_not.2 hkv)]

/-- A record that is added is in the store, put there now or before. -/
theorem stored_addVersion (hdb : s.dbAdapterPtr_ = true) (hkv : s.kvStoragePtr_ = true)
    (hid : isIdLengthValid v.deviceId = true)
    (hlen : isJsonLengthValid (v.toJsonString cJSON) = true) :
    (s.addVersion cJSON v).1 = DH_FWK_SUCCESS ∧
      (s.addVersion cJSON v).2.Stored v.deviceId (v.toJsonString cJSON) := by
  unfold addVersion
  rw [if_neg (not_not.2 hdb)]
  split_ifs with hthere
  · have hne : v.toJsonString cJSON ≠ "" := by
      intro h
      rw [h] at hlen
      exact absurd hlen (by decide)
    exact ⟨rfl, hdb, hkv, lookup_of_getDataByKey hne hthere⟩
  · rw [putData_of_valid hid hlen hkv]
    exact ⟨rfl, hdb, hkv, Table.lookup_set_self _ _ _⟩

/-- What is added for other devices leaves it there. -/
theorem stored_addVersion_ne (h : s.Stored key text) (hne : key ≠ v.deviceId) :
    (s.addVersion cJSON v).2.Stored key text := by
  unfold addVersion putData
  dsimp only
  split_ifs
  all_goals first
    | exact h
    | exact ⟨h.dbAdapterPtr_, h.kvStoragePtr_, h.lookup⟩
    | exact ⟨h.dbAdapterPtr_, h.kvStoragePtr_, (Table.lookup_set_ne _ hne _).trans h.lookup⟩

theorem stored_foldl_addVersion (cJSON : Codec) : ∀ (others : List VersionInfo)
    {s : VersionInfoManager}, s.Stored key text → (∀ w ∈ others, key ≠ w.deviceId) →
      (others.foldl (fun s w => (s.addVersion cJSON w).2) s).Stored key text
  | [], _, h, _ => h
  | w :: others, _, h, hne => by
    obtain ⟨hw, hothers⟩ := List.forall_mem_cons.1 hne
    exact stored_foldl_addVersion cJSON others (stored_addVersion_ne h hw) hothers

/-- A record of the device with the stored text is not put again. -/
theorem addVersion_of_stored {w : VersionInfo} (h : s.Stored w.deviceId (w.toJsonString cJSON))
    (hid : isIdLengthValid w.deviceId = true) : s.addVersion cJSON w = (DH_FWK_SUCCESS, s) := by
  unfold addVersion
  rw [if_neg (not_not.2 h.dbAdapterPtr_), getDataByKey_of_stored h hid, if_pos rfl]

/-- A record is put where the store has another text for its device, or none. -/
theorem puts_addVersion (hdb : s.dbAdapterPtr_ = true) (hkv : s.kvStoragePtr_ = true)
    (hid : isIdLengthValid v.deviceId = true)
    (hlen : isJsonLengthValid (v.toJsonString cJSON) = true)
    (hne : (s.getDataByKey v.deviceId).2 ≠ v.toJsonString cJSON) :
    (s.addVersion cJSON v).2.puts = s.puts ++ [(v.deviceId, v.toJsonString cJSON)] := by
  unfold addVersion
  rw [if_neg (not_not.2 hdb), if_neg hne, putData_of_valid hid hlen hkv]
  rfl

theorem restores_of_stored (h : v.Survives) (hcJSON : cJSON.Faithful v.toJson)
    (hlen : isJsonLengthValid (v.toJsonString cJSON) = true)
    (hid : isIdLengthValid v.deviceId = true)
    (hstored : s.Stored v.deviceId (v.toJsonString cJSON)) : s.Restores cJSON noType v := by
  have hequal := (VersionInfo.fromJson_toJson_iff h.dhType noType).2 h
  have hread := VersionInfo.fromJsonString_toJsonString hcJSON hlen noType
  have hget := getDataByKey_of_stored hstored hid
  constructor
  · unfold getVersionInfoByDeviceId
    rw [if_neg (not_not.2 hid), if_neg (not_not.2 hstored.dbAdapterPtr_), hget]
    dsimp only
    rw [if_neg (not_not.2 rfl), hread]
    exact ⟨rfl, hequal⟩
  · intro uuidOf
    have hsync : s.syncVersionInfoFromDB cJSON noType uuidOf v.deviceId =
        (DH_FWK_SUCCESS,
          s.updateVersionCache uuidOf (VersionInfo.new.fromJson noType v.toJson)) := by
      unfold syncVersionInfoFromDB
      rw [if_neg (not_not.2 hid), if_neg (not_not.2 hstored.dbAdapterPtr_), hget]
      dsimp only
      rw [if_neg (not_not.2 rfl), hread]
      exact if_neg (not_not.2 rfl)
    rw [hsync]
    refine ⟨rfl, fun huuid => ?_⟩
    have hne : uuidOf v.deviceId ≠ "" := by
      intro hempty
      rw [hempty] at huuid
      exact absurd huuid (by decide)
    unfold updateVersionCache
    dsimp only
    rw [hequal.deviceId, if_neg hne, if_neg (not_not.2 huuid), Table.lookup_set_self]
    exact ⟨_, rfl, rfl, hequal.dhVersion, hequal.compVersions⟩

end

/-- A record is read from its text as it was written exactly if it survives. Once such a record was
added the store restores it, whatever is added for other devices, and does not put it again. -/
theorem version_restored (cJSON : Codec) (noType : Json → UInt32) (v : VersionInfo)
    (hkey : ∀ e ∈ v.compVersions.entries, e.2.dhType = e.1) (hcJSON : cJSON.Faithful v.toJson)
    (hlen : isJsonLengthValid (v.toJsonString cJSON) = true) :
    ((VersionInfo.fromJsonString cJSON noType (v.toJsonString cJSON)).1 = DH_FWK_SUCCESS ∧
        (VersionInfo.fromJsonString cJSON noType (v.toJsonString cJSON)).2.Equal v ↔
      v.Survives) ∧
      ∀ s : VersionInfoManager, s.dbAdapterPtr_ = true → s.kvStoragePtr_ = true →
        isIdLengthValid v.deviceId = true → v.Survives →
        (s.addVersion cJSON v).1 = DH_FWK_SUCCESS ∧
          ∀ others : List VersionInfo, (∀ w ∈ others, v.deviceId ≠ w.deviceId) →
            let s' := others.foldl (fun s w => (s.addVersion cJSON w).2) (s.addVersion cJSON v).2
            s'.Restores cJSON noType v ∧
              ∀ w : VersionInfo, w.deviceId = v.deviceId → w.toJson = v.toJson →
                s'.addVersion cJSON w = (DH_FWK_SUCCESS, s') := by
  constructor
  · rw [VersionInfo.fromJsonString_toJsonString hcJSON hlen noType, eq_self_iff_true, true_and]
    exact VersionInfo.fromJson_toJson_iff hkey noType
  · intro s hdb hkv hid h
    obtain ⟨hret, hadded⟩ := stored_addVersion hdb hkv hid hlen
    refine ⟨hret, fun others hothers => ?_⟩
    have hstored := stored_foldl_addVersion cJSON others hadded hothers
    refine ⟨restores_of_stored h hcJSON hlen hid hstored, fun w hdevice hjson => ?_⟩
    apply addVersion_of_stored
    · rwa [VersionInfo.toJsonString, hjson, hdevice]
    · rwa [hdevice]

/-! ## A camera -/

/-- A version of a type, with a feature of its sink. -/
def cameraVersion (dhType : UInt32) : CompVersion where
  name := "camera"
  dhType := dhType
  handlerVersion := "1.0"
  sourceVersion := "1.0"
  sinkVersion := "2.0"
  haveFeature := true
  sinkSupportedFeatures := ["hdr"]

/-- The record of a device with one component. -/
def recordOf (c : CompVersion) : VersionInfo :=
  ⟨"d1", "5.0", (∅ : Table UInt32 CompVersion).set c.dhType c⟩

/-- The record of a device with two, the second of which was inserted first. -/
def recordOfTwo (first second : UInt32) : VersionInfo :=
  ⟨"d1", "5.0", ((∅ : Table UInt32 CompVersion).set second (cameraVersion second)).set first
    (cameraVersion first)⟩

theorem survives_recordOf_iff (c : CompVersion) : (recordOf c).Survives ↔ c.ComesBack := by
  have hentries : (recordOf c).compVersions.entries = [⟨c.dhType, c⟩] := rfl
  constructor
  · intro h
    exact h.comp ⟨c.dhType, c⟩ (by simp [hentries])
  · intro h
    have htext : IsText "d1" ∧ IsText "5.0" := by decide
    refine ⟨htext, by simp [hentries], ?_, ?_⟩
    · rw [hentries, List.forall_mem_singleton]
    · rwa [hentries, List.forall_mem_singleton]

/-- What its document is printed as. -/
def recordText (dhType : String) : String :=
  "\x7b\"dev_id\":\"d1\",\"dh_ver\":\"5.0\",\"comp_ver\":[\x7b\"name\":\"camera\",\"type\":" ++
    dhType ++ ",\"handler\":\"1.0\",\"source_ver\":\"1.0\",\"sink_ver\":\"2.0\"," ++
    "\"source_feature_filter\":[],\"sink_supported_feature\":[\"hdr\"]\x7d]\x7d"

/-- cJSON on that document. -/
def recordCodec (dhType : UInt32) (text : String) : Codec where
  printUnformatted _ := recordText text
  parse s := if s = recordText text then some (recordOf (cameraVersion dhType)).toJson else none

theorem recordCodec_faithful (dhType : UInt32) (text : String) :
    (recordCodec dhType text).Faithful (recordOf (cameraVersion dhType)).toJson :=
  if_pos rfl

theorem version_restored_camera :
    (({} : VersionInfoManager).addVersion (recordCodec 1 "1")
      (recordOf (cameraVersion 1))).2.Restores (recordCodec 1 "1") (fun _ => 0)
        (recordOf (cameraVersion 1)) := by
  have hsurvives : (recordOf (cameraVersion 1)).Survives := by
    rw [survives_recordOf_iff]
    exact ⟨⟨by decide, by decide, by decide⟩, by decide, by decide⟩
  exact (((version_restored (recordCodec 1 "1") (fun _ => 0) (recordOf (cameraVersion 1))
    (by decide) (recordCodec_faithful 1 "1") (by decide +kernel)).2 {} rfl rfl (by decide)
    hsurvives).2 [] (by simp)).1

/-- The record of a component that does not come back is read as another one. -/
theorem not_equal_recordOf {c : CompVersion} (hc : ¬c.ComesBack) (cJSON : Codec)
    (noType : Json → UInt32) (hcJSON : cJSON.Faithful (recordOf c).toJson)
    (hlen : isJsonLengthValid ((recordOf c).toJsonString cJSON) = true) :
    ¬(VersionInfo.fromJsonString cJSON noType ((recordOf c).toJsonString cJSON)).2.Equal
      (recordOf c) := by
  rw [VersionInfo.fromJsonString_toJsonString hcJSON hlen noType,
    VersionInfo.fromJson_toJson_iff (by simp [recordOf, Table.set]) noType,
    survives_recordOf_iff]
  exact hc

/-- The order in which the two components are inserted is seen in the text. -/
theorem recordOfTwo_ne {cJSON : Codec} (hfirst : cJSON.Faithful (recordOfTwo 1 2).toJson)
    (hsecond : cJSON.Faithful (recordOfTwo 2 1).toJson) :
    (recordOfTwo 1 2).toJsonString cJSON ≠ (recordOfTwo 2 1).toJsonString cJSON := by
  intro h
  have hjson := hfirst.eq_of_print hsecond h
  simp [recordOfTwo, VersionInfo.toJson, CompVersion.toJson, cameraVersion, Table.set,
    writeFields, CompVersion.fields, textField, uint32Field] at hjson

/-- A component of type `MAX_DH`, one with more features than an array may have, and one with a NUL
in its name do not come back, and a record that equals the stored one but iterates in another order
is put again. -/
theorem not_all_restored :
    ((recordCodec 2147483648 "2147483648").Faithful (recordOf (cameraVersion 2147483648)).toJson ∧
        isJsonLengthValid (recordText "2147483648") = true) ∧
      (∀ c ∈ [cameraVersion 2147483648,
          { cameraVersion 1 with sinkSupportedFeatures := List.replicate 10001 "hdr" },
          { cameraVersion 1 with name := "cam\x00era" }], ∀ cJSON noType,
        cJSON.Faithful (recordOf c).toJson →
        isJsonLengthValid ((recordOf c).toJsonString cJSON) = true →
        ¬(VersionInfo.fromJsonString cJSON noType ((recordOf c).toJsonString cJSON)).2.Equal
          (recordOf c)) ∧
      (recordOfTwo 1 2).Equal (recordOfTwo 2 1) ∧
        ∀ cJSON : Codec, cJSON.Faithful (recordOfTwo 1 2).toJson →
          cJSON.Faithful (recordOfTwo 2 1).toJson →
          isJsonLengthValid ((recordOfTwo 1 2).toJsonString cJSON) = true →
          isJsonLengthValid ((recordOfTwo 2 1).toJsonString cJSON) = true →
          ((({} : VersionInfoManager).addVersion cJSON (recordOfTwo 1 2)).2.addVersion cJSON
            (recordOfTwo 2 1)).2.puts =
              [("d1", (recordOfTwo 1 2).toJsonString cJSON),
                ("d1", (recordOfTwo 2 1).toJsonString cJSON)] := by
  refine ⟨⟨recordCodec_faithful _ _, by decide +kernel⟩, ?_, ?_, ?_⟩
  · rw [List.forall_mem_cons, List.forall_mem_cons, List.forall_mem_singleton]
    refine ⟨not_equal_recordOf fun h => ?_, not_equal_recordOf fun h => ?_,
      not_equal_recordOf fun h => ?_⟩
    · exact absurd h.dhType (by decide)
    · have hfeatures := (h.features rfl (List.replicate 10001 "hdr")
        (List.mem_cons_of_mem _ (List.mem_singleton_self _))).1
      rw [List.length_replicate] at hfeatures
      exact absurd hfeatures (by decide)
    · exact absurd h.text (by decide)
  · exact ⟨rfl, rfl, fun dhType =>
      AList.perm_lookup (AList.insert_insert_of_ne _ (by decide))⟩
  · intro cJSON hfirst hsecond hlen hlen'
    have hid : isIdLengthValid "d1" = true := by decide
    have hempty : (({} : VersionInfoManager).getDataByKey "d1").2 ≠
        (recordOfTwo 1 2).toJsonString cJSON := by
      intro h
      rw [← h] at hlen
      exact absurd hlen (by decide)
    have hstored : (({} : VersionInfoManager).addVersion cJSON (recordOfTwo 1 2)).2.Stored "d1"
        ((recordOfTwo 1 2).toJsonString cJSON) := (stored_addVersion rfl rfl hid hlen).2
    have hother : ((({} : VersionInfoManager).addVersion cJSON (recordOfTwo 1 2)).2.getDataByKey
        "d1").2 ≠ (recordOfTwo 2 1).toJsonString cJSON := by
      rw [getDataByKey_of_stored hstored hid]
      exact recordOfTwo_ne hfirst hsecond
    rw [puts_addVersion hstored.dbAdapterPtr_ hstored.kvStoragePtr_ hid hlen' hother,
      puts_addVersion rfl rfl hid hlen hempty]
    rfl

end VersionInfoManager

end DHFwk
