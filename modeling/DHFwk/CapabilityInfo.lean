import DHFwk.Basic
import DHFwk.CapabilityKey
import DHFwk.Json

/-!
# Capability records as documents

A `CapabilityInfo` and a `MetaCapabilityInfo` travel and are stored as JSON texts. They are
written with all their fields, empty ones too; `FromJson` reads the fields in the same order,
turns an empty text down and stops there, and `FromJsonString` is a success all the same.

So a record is read back as it was written exactly if nothing but default values stands
behind an empty text, and no text or number is cut on the way (`Survives`). The version of a
component inside a meta record is read field by field and does not stop.
-/

set_option linter.unusedSectionVars false

namespace DHFwk

open Json

abbrev ERR_DH_FWK_JSON_PARSE_FAILED : Int := -10004

abbrev MAX_MESSAGE_LEN : ℕ := 41943040
abbrev MIN_MESSAGE_LEN : ℕ := 0
abbrev MAX_ARR_SIZE : ℕ := 10000
abbrev MAX_JSON_SIZE : ℕ := 41943040

abbrev DH_ID : String := "dh_id"
abbrev DEV_ID : String := "dev_id"
abbrev DEV_NAME : String := "dev_name"
abbrev DEV_TYPE : String := "dev_type"
abbrev DH_TYPE : String := "dh_type"
abbrev DH_ATTRS : String := "dh_attrs"
abbrev DH_SUBTYPE : String := "dh_subtype"
abbrev DEV_UDID_HASH : String := "udid_hash"
abbrev COMP_VER : String := "comp_ver"
abbrev NAME : String := "name"
abbrev TYPE : String := "type"
abbrev HANDLER : String := "handler"
abbrev SOURCE_VER : String := "source_ver"
abbrev SINK_VER : String := "sink_ver"
abbrev SOURCE_FEATURE_FILTER : String := "source_feature_filter"
abbrev SINK_SUPPORTED_FEATURE : String := "sink_supported_feature"

/-! ## Checks -/

/-- `IsUInt16`. -/
def isUInt16 : Json → Bool
  | .number n => 0 ≤ (Json.number n).valueint ∧ (Json.number n).valueint ≤ 65535
  | _ => false

/-- `IsUInt32`. -/
def isUInt32 : Json → Bool
  | .number n => 0 ≤ (Json.number n).valueint ∧ (Json.number n).valueint ≤ INT32_MAX
  | _ => false

/-- `IsString`. -/
def isString : Json → Bool
  | .string s => MIN_MESSAGE_LEN < s.utf8ByteSize ∧ s.utf8ByteSize ≤ MAX_MESSAGE_LEN
  | _ => false

/-- `IsArray`. -/
def isArray : Json → Bool
  | .array items => items.length ≤ MAX_ARR_SIZE
  | _ => false

/-- `IsJsonLengthValid`. -/
def isJsonLengthValid (inputJsonStr : String) : Bool :=
  !(inputJsonStr.isEmpty || inputJsonStr.utf8ByteSize > MAX_JSON_SIZE)

section Fields

variable {R : Type}

/-- A text that is read if it passes `IsString`. -/
def textField (name : String) (get : R → String) (set : String → R → R) : Member R where
  name := name
  get := get
  set := set
  write s := .string (cStr s)
  read j := if isString j then some j.valuestring else none

/-- A number of 16 bits that is read if it passes `IsUInt16`. -/
def uint16Field (name : String) (get : R → UInt16) (set : UInt16 → R → R) : Member R where
  name := name
  get := get
  set := set
  write n := .number n.toNat
  read j := if isUInt16 j then some (UInt16.ofNat j.valueint.toNat) else none

/-- A number of 32 bits that is read if it passes `IsUInt32` and `check`. -/
def uint32Field (check : ℤ → Bool) (name : String) (get : R → UInt32) (set : UInt32 → R → R) :
    Member R where
  name := name
  get := get
  set := set
  write n := .number n.toNat
  read j :=
    if isUInt32 j ∧ check j.valueint then some (UInt32.ofNat j.valueint.toNat) else none

end Fields

/-! ## Records -/

/-- `CapabilityInfo`. A `DHType` has 32 bits, and reading one casts any number to it. -/
@[ext] structure CapabilityInfo where
  dhId_ : String := ""
  deviceId_ : String := ""
  deviceName_ : String := ""
  deviceType_ : UInt16 := 0
  dhType_ : UInt32 := 0
  dhAttrs_ : String := ""
  dhSubtype_ : String := ""
  deriving DecidableEq, Repr

/-- `CompVersion`. -/
@[ext] structure CompVersion where
  name : String := ""
  dhType : UInt32 := 0
  handlerVersion : String := ""
  sourceVersion : String := ""
  sinkVersion : String := ""
  haveFeature : Bool := false
  sourceFeatureFilters : List String := []
  sinkSupportedFeatures : List String := []
  deriving DecidableEq, Repr

/-- `MetaCapabilityInfo`. -/
@[ext] structure MetaCapabilityInfo extends CapabilityInfo where
  udidHash_ : String := ""
  compVersion_ : CompVersion := {}
  deriving DecidableEq, Repr

namespace CapabilityInfo

/-- `CapabilityInfo::GetKey`. -/
def getKey (c : CapabilityInfo) : String :=
  getCapabilityKey c.deviceId_ c.dhId_

/-- The fields, in the order in which `ToJson` writes and `FromJson` reads them. -/
def fields : List (Member CapabilityInfo) :=
  [textField DH_ID dhId_ fun s c => { c with dhId_ := s },
   textField DEV_ID deviceId_ fun s c => { c with deviceId_ := s },
   textField DEV_NAME deviceName_ fun s c => { c with deviceName_ := s },
   uint16Field DEV_TYPE deviceType_ fun n c => { c with deviceType_ := n },
   uint32Field (fun _ => true) DH_TYPE dhType_ fun n c => { c with dhType_ := n },
   textField DH_ATTRS dhAttrs_ fun s c => { c with dhAttrs_ := s },
   textField DH_SUBTYPE dhSubtype_ fun s c => { c with dhSubtype_ := s }]

/-- `ToJson`. -/
def toJson (c : CapabilityInfo) : Json :=
  .object (writeFields fields c)

/-- `FromJson`. -/
def fromJson (jsonObject : Json) (c : CapabilityInfo) : CapabilityInfo :=
  (readFields fields jsonObject c).1

/-- `CapabilityInfo::ToJsonString`. -/
def toJsonString (cJSON : Codec) (c : CapabilityInfo) : String :=
  cJSON.printUnformatted c.toJson

/-- `CapabilityInfo::FromJsonString`. -/
def fromJsonString (cJSON : Codec) (jsonStr : String) (c : CapabilityInfo) :
    Int × CapabilityInfo :=
  if ¬isJsonLengthValid jsonStr then (ERR_DH_FWK_PARA_INVALID, c)
  else
    match cJSON.parse jsonStr with
    | none => (ERR_DH_FWK_JSON_PARSE_FAILED, c)
    | some jsonObj => (DH_FWK_SUCCESS, fromJson jsonObj c)

end CapabilityInfo

namespace CompVersion

/-- The fields that `FromJson` reads, each if it passes. -/
def fields : List (Member CompVersion) :=
  [textField NAME name fun s v => { v with name := s },
   uint32Field (· ≤ 2147483648) TYPE dhType fun n v => { v with dhType := n },
   textField HANDLER handlerVersion fun s v => { v with handlerVersion := s },
   textField SOURCE_VER sourceVersion fun s v => { v with sourceVersion := s },
   textField SINK_VER sinkVersion fun s v => { v with sinkVersion := s }]

/-- An array of features. -/
def features (fs : List String) : Json :=
  .array (fs.map fun s => .string (cStr s))

/-- `ToJson`. -/
def toJson (v : CompVersion) : Json :=
  .object (writeFields fields v ++
    if v.haveFeature then
      [(SOURCE_FEATURE_FILTER, features v.sourceFeatureFilters),
        (SINK_SUPPORTED_FEATURE, features v.sinkSupportedFeatures)]
    else [])

/-- The strings of an array. -/
def strings : Json → List String
  | .array items => items.filterMap fun
    | .string s => some s
    | _ => none
  | _ => []

/-- `FromJsoncompVerContinue`. -/
def fromJsoncompVerContinue (jsonObject : Json) (v : CompVersion) : CompVersion :=
  let sourceFeatureFilters := (jsonObject.getObjectItem SOURCE_FEATURE_FILTER).filter isArray
  let sinkSupportedFeatures := (jsonObject.getObjectItem SINK_SUPPORTED_FEATURE).filter isArray
  if sourceFeatureFilters.isNone ∧ sinkSupportedFeatures.isNone then
    { v with haveFeature := false }
  else
    { v with
      haveFeature := true
      sourceFeatureFilters := (sourceFeatureFilters.map strings).getD v.sourceFeatureFilters
      sinkSupportedFeatures := (sinkSupportedFeatures.map strings).getD v.sinkSupportedFeatures }

/-- `FromJson`. -/
def fromJson (jsonObject : Json) (v : CompVersion) : CompVersion :=
  fromJsoncompVerContinue jsonObject (readEach fields jsonObject v)

end CompVersion

namespace MetaCapabilityInfo

/-- `MetaCapabilityInfo::GetKey`. -/
def getKey (m : MetaCapabilityInfo) : String :=
  getCapabilityKey m.udidHash_ m.dhId_

/-- The fields that `FromJson` reads. -/
def fieldsHead : List (Member MetaCapabilityInfo) :=
  [textField DH_ID (·.dhId_) fun s m => { m with dhId_ := s },
   textField DEV_ID (·.deviceId_) fun s m => { m with deviceId_ := s },
   textField DEV_NAME (·.deviceName_) fun s m => { m with deviceName_ := s },
   uint16Field DEV_TYPE (·.deviceType_) fun n m => { m with deviceType_ := n },
   uint32Field (fun _ => true) DH_TYPE (·.dhType_) fun n m => { m with dhType_ := n },
   textField DH_ATTRS (·.dhAttrs_) fun s m => { m with dhAttrs_ := s }]

/-- The fields that `FromJsonContinue` reads, before the version. -/
def fieldsContinue : List (Member MetaCapabilityInfo) :=
  [textField DH_SUBTYPE (·.dhSubtype_) fun s m => { m with dhSubtype_ := s },
   textField DEV_UDID_HASH udidHash_ fun s m => { m with udidHash_ := s },
   textField SINK_VER (·.compVersion_.sinkVersion) fun s m =>
     { m with compVersion_ := { m.compVersion_ with sinkVersion := s } }]

/-- The fields in the order in which they are written and read. -/
def fields : List (Member MetaCapabilityInfo) :=
  fieldsHead ++ fieldsContinue

/-- `ToJson`. -/
def toJson (m : MetaCapabilityInfo) : Json :=
  .object (writeFields fields m ++ [(COMP_VER, m.compVersion_.toJson)])

/-- `FromJsonContinue`. -/
def fromJsonContinue (jsonObject : Json) (m : MetaCapabilityInfo) : MetaCapabilityInfo :=
  let (m, isRead) := readFields fieldsContinue jsonObject m
  if ¬isRead then m
  else
    match jsonObject.getObjectItem COMP_VER with
    | none => m
    | some compVersionJson =>
      { m with compVersion_ := CompVersion.fromJson compVersionJson m.compVersion_ }

/-- `FromJson`. -/
def fromJson (jsonObject : Json) (m : MetaCapabilityInfo) : MetaCapabilityInfo :=
  let (m, isRead) := readFields fieldsHead jsonObject m
  if ¬isRead then m else fromJsonContinue jsonObject m

/-- `MetaCapabilityInfo::ToJsonString`. -/
def toJsonString (cJSON : Codec) (m : MetaCapabilityInfo) : String :=
  cJSON.printUnformatted m.toJson

/-- `MetaCapabilityInfo::FromJsonString`. -/
def fromJsonString (cJSON : Codec) (jsonStr : String) (m : MetaCapabilityInfo) :
    Int × MetaCapabilityInfo :=
  if ¬isJsonLengthValid jsonStr then (ERR_DH_FWK_PARA_INVALID, m)
  else
    match cJSON.parse jsonStr with
    | none => (ERR_DH_FWK_JSON_PARSE_FAILED, m)
    | some jsonObj => (DH_FWK_SUCCESS, fromJson jsonObj m)

end MetaCapabilityInfo

/-! ## What a field carries -/

/-- A text that is not cut and passes the upper bound of `IsString`. -/
def IsText (s : String) : Prop :=
  '\x00' ∉ s.toList ∧ s.utf8ByteSize ≤ MAX_MESSAGE_LEN

instance : DecidablePred IsText := fun _ => inferInstanceAs (Decidable (_ ∧ _))

section Fields

variable {R : Type} {name : String} {get : R → String} {set : String → R → R} {r : R}

theorem isString_string {s : String} :
    isString (.string s) = true ↔ s ≠ "" ∧ s.utf8ByteSize ≤ MAX_MESSAGE_LEN := by
  simp [isString, Nat.pos_iff_ne_zero, String.utf8ByteSize_eq_zero_iff]

theorem isText_empty : IsText "" :=
  ⟨by simp, by decide⟩

/-- A text is read as it was written, or is empty. -/
theorem textField_carries_or_iff :
    (textField name get set).Carries r ∨ get r = "" ↔ IsText (get r) := by
  constructor
  · rintro (hread | hempty)
    · simp only [Member.Carries, textField, valuestring, Option.ite_none_right_eq_some,
        Option.some_inj] at hread
      obtain ⟨hs, hcut⟩ := hread
      rw [hcut] at hs
      exact ⟨cStr_eq_self_iff.1 hcut, (isString_string.1 hs).2⟩
    · rw [hempty]
      exact isText_empty
  · rintro ⟨hnul, hlen⟩
    refine or_iff_not_imp_right.2 fun hempty => ?_
    simp only [Member.Carries, textField, cStr_eq_self_iff.2 hnul, valuestring]
    exact if_pos (isString_string.2 ⟨hempty, hlen⟩)

/-- Of such texts only the empty one is turned down. -/
theorem textField_stops_iff (h : IsText (get r)) :
    (textField name get set).Stops r ↔ get r = "" := by
  simp only [Member.Stops, textField, cStr_eq_self_iff.2 h.1, ite_eq_right_iff, reduceCtorEq,
    imp_false, isString_string]
  refine ⟨fun hs => by_contra fun hempty => hs ⟨hempty, h.2⟩, fun hempty hs => hs.1 hempty⟩

/-- A text is read as it was written, or is empty and turned down. -/
theorem textField_carries_or_stops_iff :
    (textField name get set).Carries r ∨ (textField name get set).Stops r ∧ get r = "" ↔
      IsText (get r) := by
  constructor
  · intro h
    exact textField_carries_or_iff.1 (h.imp_right And.right)
  · intro h
    exact (textField_carries_or_iff.2 h).imp_right fun hempty =>
      ⟨(textField_stops_iff h).2 hempty, hempty⟩

/-- The empty text is what is left where a text is not read. -/
theorem textField_regular {d : R} (h : get d = "") : (textField name get set).Regular d where
  default := .inr ((textField_stops_iff (by rw [h]; exact isText_empty)).2 h)
  stops_iff r hr := by
    have hget : get r = get d ↔ get r = "" := by rw [h]
    have ht : IsText (get r) := textField_carries_or_iff.1 (hr.imp_right hget.1)
    have hempty : (textField name get set).IsEmpty r ↔ cStr (get r) = "" :=
      ⟨Json.string.inj, congrArg Json.string⟩
    rw [textField_stops_iff ht, hempty, cStr_eq_self_iff.2 ht.1]

theorem uint16Field_carries {get : R → UInt16} {set : UInt16 → R → R} :
    (uint16Field name get set).Carries r := by
  have hlt : ((get r).toNat : ℤ) ≤ 65535 := by
    have := (get r).toNat_lt
    omega
  have hint : (Json.number (get r).toNat).valueint = (get r).toNat :=
    valueint_of_le (Int.natCast_nonneg _) (hlt.trans (by decide))
  simp only [Member.Carries, uint16Field, isUInt16, hint]
  rw [if_pos (decide_eq_true ⟨Int.natCast_nonneg _, hlt⟩), Int.toNat_natCast, UInt16.ofNat_toNat]

theorem uint16Field_regular {get : R → UInt16} {set : UInt16 → R → R} {d : R} :
    (uint16Field name get set).Regular d where
  default := .inl uint16Field_carries
  stops_iff _ _ := iff_of_false uint16Field_carries.not_stops Json.noConfusion

section

variable {check : ℤ → Bool} {get : R → UInt32} {set : UInt32 → R → R}

/-- A number is never turned down, but cut. -/
theorem uint32Field_read (name : String) (get : R → UInt32) (set : UInt32 → R → R)
    (hcheck : ∀ n ≤ INT32_MAX, check n = true) (n : UInt32) :
    (uint32Field check name get set).read (.number n.toNat) =
      some (UInt32.ofNat (Json.number n.toNat).valueint.toNat) := by
  have hmax := valueint_le n.toNat
  have hnonneg := valueint_nonneg (Int.natCast_nonneg n.toNat)
  exact if_pos ⟨decide_eq_true ⟨hnonneg, hmax⟩, hcheck _ hmax⟩

theorem uint32Field_not_stops (hcheck : ∀ n ≤ INT32_MAX, check n = true) :
    ¬ (uint32Field check name get set).Stops r := by
  intro hstop
  have hread := uint32Field_read name get set hcheck (get r)
  exact Option.some_ne_none _ (hread.symm.trans hstop)

/-- A number of more than 31 bits does not come back. -/
theorem uint32Field_carries_iff (hcheck : ∀ n ≤ INT32_MAX, check n = true) :
    (uint32Field check name get set).Carries r ↔ ((get r).toNat : ℤ) ≤ INT32_MAX := by
  have hcarries : (uint32Field check name get set).Carries r ↔
      UInt32.ofNat (Json.number (get r).toNat).valueint.toNat = get r :=
    (Eq.congr_left (uint32Field_read name get set hcheck (get r))).trans Option.some_inj
  rw [hcarries]
  constructor
  · intro hcut
    have hmax := valueint_le (get r).toNat
    have hback := congrArg UInt32.toNat hcut
    rw [UInt32.toNat_ofNat'] at hback
    have := Nat.mod_le (Json.number (get r).toNat).valueint.toNat (2 ^ 32)
    have := valueint_nonneg (Int.natCast_nonneg (get r).toNat)
    omega
  · intro hle
    rw [valueint_of_le (Int.natCast_nonneg _) hle, Int.toNat_natCast, UInt32.ofNat_toNat]

theorem uint32Field_regular (hcheck : ∀ n ≤ INT32_MAX, check n = true) {d : R}
    (h : get d = 0) : (uint32Field check name get set).Regular d where
  default := .inl ((uint32Field_carries_iff hcheck).2 (by rw [h]; decide))
  stops_iff _ _ := iff_of_false (uint32Field_not_stops hcheck) Json.noConfusion

theorem uint32Field_carries_or_iff (hcheck : ∀ n ≤ INT32_MAX, check n = true) :
    (uint32Field check name get set).Carries r ∨ get r = 0 ↔ ((get r).toNat : ℤ) ≤ INT32_MAX := by
  rw [uint32Field_carries_iff hcheck, or_iff_left_iff_imp]
  intro hzero
  rw [hzero]
  decide

end

end Fields

/-! ## Capability records -/

namespace CapabilityInfo

/-- The texts of a record. -/
def texts (c : CapabilityInfo) : List String :=
  [c.dhId_, c.deviceId_, c.deviceName_, c.dhAttrs_, c.dhSubtype_]

/-- No text is cut, the type has no more than 31 bits, and nothing but default values stands
behind an empty text. -/
structure Survives (c : CapabilityInfo) : Prop where
  text : ∀ s ∈ c.texts, IsText s
  dhType : (c.dhType_.toNat : ℤ) ≤ INT32_MAX
  behind : fields.Pairwise fun f g => f.IsEmpty c → g.get c = g.get {}

theorem independent : Independent fields where
  names := by decide
  get_set_self := by simp [fields, textField, uint16Field, uint32Field]
  get_set := by simp [fields, textField, uint16Field, uint32Field]
  get_set' := by simp [fields, textField, uint16Field, uint32Field]

theorem fields_eq_iff (c c' : CapabilityInfo) : (∀ f ∈ fields, f.get c = f.get c') ↔ c = c' := by
  simp [fields, textField, uint16Field, uint32Field, CapabilityInfo.ext_iff]

theorem regular : ∀ f ∈ fields, f.Regular {} := by
  simp only [fields, List.forall_mem_cons, List.not_mem_nil, false_imp_iff, implies_true, and_true]
  exact ⟨textField_regular rfl, textField_regular rfl, textField_regular rfl, uint16Field_regular,
    uint32Field_regular (fun _ _ => rfl) rfl, textField_regular rfl, textField_regular rfl⟩

theorem carries_iff (c : CapabilityInfo) :
    (∀ f ∈ fields, f.Carries c ∨ f.get c = f.get {}) ↔
      (∀ s ∈ c.texts, IsText s) ∧ (c.dhType_.toNat : ℤ) ≤ INT32_MAX := by
  simp only [fields, texts, List.forall_mem_cons, List.not_mem_nil, false_imp_iff, implies_true,
    and_true]
  refine (and_congr textField_carries_or_iff <| and_congr textField_carries_or_iff <|
    and_congr textField_carries_or_iff <| and_congr (iff_true_intro (.inl uint16Field_carries)) <|
    and_congr (uint32Field_carries_or_iff fun _ _ => rfl) <| and_congr textField_carries_or_iff
    textField_carries_or_iff).trans ?_
  constructor
  · rintro ⟨hid, hdev, hname, -, htype, hattrs, hsub⟩
    exact ⟨⟨hid, hdev, hname, hattrs, hsub⟩, htype⟩
  · rintro ⟨⟨hid, hdev, hname, hattrs, hsub⟩, htype⟩
    exact ⟨hid, hdev, hname, trivial, htype, hattrs, hsub⟩

/-- A record that is written and read is the same exactly if it survives. -/
theorem fromJson_toJson_iff (c : CapabilityInfo) : fromJson c.toJson {} = c ↔ c.Survives := by
  have hj : c.toJson.Holds fields c := by
    simpa [toJson] using holds_writeFields independent c []
  rw [fromJson, ← fields_eq_iff, readFields_regular_iff independent hj regular, carries_iff]
  constructor
  · rintro ⟨⟨htext, htype⟩, hbehind⟩
    exact ⟨htext, htype, hbehind⟩
  · rintro ⟨htext, htype, hbehind⟩
    exact ⟨⟨htext, htype⟩, hbehind⟩

end CapabilityInfo

/-! ## Component versions -/

namespace CompVersion

/-- What of a version is written : features only if it says it has some. -/
def serialised (v : CompVersion) : CompVersion :=
  if v.haveFeature then v else { v with sourceFeatureFilters := [], sinkSupportedFeatures := [] }

/-- No text is cut, the type has no more than 31 bits, and the features fit their arrays. -/
structure Survives (v : CompVersion) : Prop where
  text : ∀ s ∈ [v.name, v.handlerVersion, v.sourceVersion], IsText s
  dhType : (v.dhType.toNat : ℤ) ≤ INT32_MAX
  features : v.haveFeature → ∀ fs ∈ [v.sourceFeatureFilters, v.sinkSupportedFeatures],
    fs.length ≤ MAX_ARR_SIZE ∧ ∀ s ∈ fs, '\x00' ∉ s.toList

theorem independent : Independent fields where
  names := by decide
  get_set_self := by simp [fields, textField, uint32Field]
  get_set := by simp [fields, textField, uint32Field]
  get_set' := by simp [fields, textField, uint32Field]

theorem holds (v : CompVersion) : v.toJson.Holds fields v :=
  holds_writeFields independent v _

/-- The features are read as the strings that were written. -/
theorem strings_features (fs : List String) : strings (features fs) = fs.map cStr := by
  simp [strings, features, List.filterMap_map]

theorem isArray_features (fs : List String) :
    isArray (features fs) = true ↔ fs.length ≤ MAX_ARR_SIZE := by
  simp [isArray, features]

theorem getObjectItem_features (v : CompVersion) :
    v.toJson.getObjectItem SOURCE_FEATURE_FILTER =
        (if v.haveFeature then some (features v.sourceFeatureFilters) else none) ∧
      v.toJson.getObjectItem SINK_SUPPORTED_FEATURE =
        (if v.haveFeature then some (features v.sinkSupportedFeatures) else none) := by
  rw [toJson, getObjectItem_append (by decide), getObjectItem_append (by decide)]
  have hne : sameName SINK_SUPPORTED_FEATURE SOURCE_FEATURE_FILTER = false := by decide
  cases v.haveFeature with
  | true => simp [getObjectItem, hne]
  | false => exact ⟨rfl, rfl⟩

/-- An array of features comes back exactly if it fits. -/
theorem getD_features_iff (fs : List String) :
    (((some (features fs)).filter isArray).map strings).getD [] = fs ↔
      fs.length ≤ MAX_ARR_SIZE ∧ ∀ s ∈ fs, '\x00' ∉ s.toList := by
  by_cases hlen : fs.length ≤ MAX_ARR_SIZE
  · rw [Option.filter_some, if_pos ((isArray_features fs).2 hlen), Option.map_some,
      Option.getD_some, strings_features, and_iff_right hlen]
    have hmap : fs.map cStr = fs ↔ ∀ s ∈ fs, cStr s = s := by
      conv_lhs => rhs; rw [← List.map_id fs]
      exact List.map_inj_left
    rw [hmap]
    exact forall₂_congr fun s _ => cStr_eq_self_iff
  · rw [Option.filter_some, if_neg (mt (isArray_features fs).1 hlen)]
    refine iff_of_false (fun hnil => hlen ?_) fun h => hlen h.1
    rw [← hnil]
    exact Nat.zero_le _

/-- The features come back exactly if they fit. -/
theorem fromJsoncompVerContinue_toJson (v w : CompVersion) (hf : w.sourceFeatureFilters = [])
    (hs : w.sinkSupportedFeatures = []) :
    (fromJsoncompVerContinue v.toJson w).haveFeature = v.serialised.haveFeature ∧
        (fromJsoncompVerContinue v.toJson w).sourceFeatureFilters =
          v.serialised.sourceFeatureFilters ∧
        (fromJsoncompVerContinue v.toJson w).sinkSupportedFeatures =
          v.serialised.sinkSupportedFeatures ↔
      (v.haveFeature → ∀ fs ∈ [v.sourceFeatureFilters, v.sinkSupportedFeatures],
        fs.length ≤ MAX_ARR_SIZE ∧ ∀ s ∈ fs, '\x00' ∉ s.toList) := by
  obtain ⟨hfilters, hfeatures⟩ := v.getObjectItem_features
  simp only [fromJsoncompVerContinue, hfilters, hfeatures]
  cases hv : v.haveFeature with
  | false => simp [serialised, hv, hf, hs]
  | true =>
    have hpos : ∀ fs : List String, fs.length ≤ MAX_ARR_SIZE →
        ((some (features fs)).filter isArray).isNone = false := fun fs hlen => by
      rw [Option.filter_some, if_pos ((isArray_features fs).2 hlen), Option.isNone_some]
    simp only [serialised, hv, if_true, forall_true_left, List.forall_mem_cons, List.not_mem_nil,
      false_imp_iff, implies_true, and_true, ← getD_features_iff]
    constructor
    · rintro ⟨hhave, hsame⟩
      split_ifs at hhave hsame with hnone
      simpa [hf, hs] using hsame
    · rintro ⟨hsame, hsame'⟩
      have hlen := ((getD_features_iff _).1 hsame).1
      rw [hpos _ hlen]
      simpa [hf, hs] using ⟨hsame, hsame'⟩

theorem eq_serialised_iff (v w : CompVersion) : w = v.serialised ↔
    (∀ f ∈ fields, f.get w = f.get v) ∧ w.haveFeature = v.serialised.haveFeature ∧
      w.sourceFeatureFilters = v.serialised.sourceFeatureFilters ∧
      w.sinkSupportedFeatures = v.serialised.sinkSupportedFeatures := by
  rw [CompVersion.ext_iff]
  unfold serialised
  split_ifs <;> simp [fields, textField, uint32Field, and_assoc]

/-- Reading the features leaves the fields alone. -/
theorem get_fromJsoncompVerContinue (j : Json) (w : CompVersion) :
    ∀ f ∈ fields, f.get (fromJsoncompVerContinue j w) = f.get w := by
  simp only [fromJsoncompVerContinue]
  split_ifs <;> simp [fields, textField, uint32Field]

/-- The fields come back exactly if none is cut. -/
theorem readEach_toJson_iff (v : CompVersion) (hsink : IsText v.sinkVersion) :
    (∀ f ∈ fields, f.get (readEach fields v.toJson { sinkVersion := v.sinkVersion }) = f.get v) ↔
      (∀ s ∈ [v.name, v.handlerVersion, v.sourceVersion], IsText s) ∧
        (v.dhType.toNat : ℤ) ≤ INT32_MAX := by
  rw [readEach_iff independent v.holds]
  simp only [fields, List.forall_mem_cons, List.not_mem_nil, false_imp_iff, implies_true, and_true]
  have hcheck : ∀ n ≤ INT32_MAX, decide (n ≤ 2147483648) = true := fun n hn =>
    decide_eq_true (hn.trans (by decide))
  constructor
  · rintro ⟨hname, htype, hhandler, hsource, -⟩
    refine ⟨⟨textField_carries_or_stops_iff.1 hname, textField_carries_or_stops_iff.1 hhandler,
      textField_carries_or_stops_iff.1 hsource⟩, ?_⟩
    exact (uint32Field_carries_iff hcheck).1
      (htype.resolve_right fun h => uint32Field_not_stops hcheck h.1)
  · rintro ⟨⟨hname, hhandler, hsource⟩, htype⟩
    refine ⟨textField_carries_or_stops_iff.2 hname, .inl ((uint32Field_carries_iff hcheck).2 htype),
      textField_carries_or_stops_iff.2 hhandler, textField_carries_or_stops_iff.2 hsource, ?_⟩
    exact (textField_carries_or_stops_iff.2 hsink).imp_right fun h => ⟨h.1, rfl⟩

/-- A version is read as it was written exactly if its fields are and its features fit. -/
theorem fromJson_toJson_eq_iff (v w : CompVersion) (hf : w.sourceFeatureFilters = [])
    (hs : w.sinkSupportedFeatures = []) : fromJson v.toJson w = v.serialised ↔
      (∀ f ∈ fields, f.get (readEach fields v.toJson w) = f.get v) ∧
        (v.haveFeature → ∀ fs ∈ [v.sourceFeatureFilters, v.sinkSupportedFeatures],
          fs.length ≤ MAX_ARR_SIZE ∧ ∀ s ∈ fs, '\x00' ∉ s.toList) := by
  have hf' : (readEach fields v.toJson w).sourceFeatureFilters = [] :=
    (get_readEach sourceFeatureFilters (by simp [fields, textField, uint32Field]) _).trans hf
  have hs' : (readEach fields v.toJson w).sinkSupportedFeatures = [] :=
    (get_readEach sinkSupportedFeatures (by simp [fields, textField, uint32Field]) _).trans hs
  rw [fromJson, eq_serialised_iff, fromJsoncompVerContinue_toJson _ _ hf' hs',
    forall₂_congr fun f hmem => by rw [get_fromJsoncompVerContinue _ _ f hmem]]

/-- A version that is written and read, where its sink version was read before, is the same
exactly if it survives. -/
theorem fromJson_toJson_iff (v : CompVersion) (hsink : IsText v.sinkVersion) :
    fromJson v.toJson { sinkVersion := v.sinkVersion } = v.serialised ↔ v.Survives := by
  rw [fromJson_toJson_eq_iff v { sinkVersion := v.sinkVersion } rfl rfl,
    readEach_toJson_iff v hsink]
  constructor
  · rintro ⟨⟨htext, htype⟩, hfeatures⟩
    exact ⟨htext, htype, hfeatures⟩
  · rintro ⟨htext, htype, hfeatures⟩
    exact ⟨⟨htext, htype⟩, hfeatures⟩

@[simp] theorem sinkVersion_serialised (v : CompVersion) :
    v.serialised.sinkVersion = v.sinkVersion := by
  unfold serialised
  split_ifs <;> rfl

/-- A version with nothing but a sink version survives. -/
theorem survives_of_serialised {v : CompVersion} {sinkVersion : String}
    (h : v.serialised = { sinkVersion }) : v.Survives := by
  have hfeature : v.haveFeature = false := by
    have hhave := congrArg haveFeature h
    unfold serialised at hhave
    split_ifs at hhave with hv
    · exact hhave
    · exact hhave
  have hsame : ({ v with sourceFeatureFilters := [], sinkSupportedFeatures := [] } : CompVersion) =
      { sinkVersion } := by
    rw [← h, serialised, if_neg (by simp [hfeature])]
  obtain ⟨hname, htype, hhandler, hsource, -⟩ := CompVersion.ext_iff.1 hsame
  refine ⟨?_, ?_, fun hv => absurd (hfeature.symm.trans hv) (by decide)⟩
  · rw [hname, hhandler, hsource]
    simp [isText_empty]
  · rw [htype]
    exact (by decide : ((0 : UInt32).toNat : ℤ) ≤ INT32_MAX)

/-- A sink version that passes is read as it was written. -/
theorem sinkVersion_fromJson (v w : CompVersion) (h : isString (.string (cStr v.sinkVersion))) :
    (fromJson v.toJson w).sinkVersion = cStr v.sinkVersion := by
  have hmem : textField SINK_VER sinkVersion (fun s v => { v with sinkVersion := s }) ∈ fields := by
    simp [fields]
  have hread := readEach_get independent v.holds hmem (d := w) (v := cStr v.sinkVersion) (if_pos h)
  rw [← hread]
  exact get_fromJsoncompVerContinue _ _ _ hmem

end CompVersion

/-! ## Meta records -/

namespace MetaCapabilityInfo

/-- What of a record is written. -/
def serialised (m : MetaCapabilityInfo) : MetaCapabilityInfo :=
  { m with compVersion_ := m.compVersion_.serialised }

/-- The texts of a record. -/
def texts (m : MetaCapabilityInfo) : List String :=
  [m.dhId_, m.deviceId_, m.deviceName_, m.dhAttrs_, m.dhSubtype_, m.udidHash_,
    m.compVersion_.sinkVersion]

/-- No text is cut, the type has no more than 31 bits, nothing but default values stands behind
an empty text, the version included, and the version survives. -/
structure Survives (m : MetaCapabilityInfo) : Prop where
  text : ∀ s ∈ m.texts, IsText s
  dhType : (m.dhType_.toNat : ℤ) ≤ INT32_MAX
  behind : fields.Pairwise fun f g => f.IsEmpty m → g.get m = g.get {}
  version : (∃ f ∈ fields, f.IsEmpty m) →
    m.compVersion_.serialised = { sinkVersion := m.compVersion_.sinkVersion }
  compVersion : m.compVersion_.Survives

theorem independent : Independent fields where
  names := by decide
  get_set_self := by
    simp [fields, fieldsHead, fieldsContinue, textField, uint16Field, uint32Field]
  get_set := by simp [fields, fieldsHead, fieldsContinue, textField, uint16Field, uint32Field]
  get_set' := by simp [fields, fieldsHead, fieldsContinue, textField, uint16Field, uint32Field]

theorem holds (m : MetaCapabilityInfo) : m.toJson.Holds fields m :=
  holds_writeFields independent m _

theorem regular : ∀ f ∈ fields, f.Regular {} := by
  simp only [fields, fieldsHead, fieldsContinue, List.cons_append, List.nil_append,
    List.forall_mem_cons, List.not_mem_nil, false_imp_iff, implies_true, and_true]
  exact ⟨textField_regular rfl, textField_regular rfl, textField_regular rfl, uint16Field_regular,
    uint32Field_regular (fun _ _ => rfl) rfl, textField_regular rfl, textField_regular rfl,
    textField_regular rfl, textField_regular rfl⟩

theorem carries_iff (m : MetaCapabilityInfo) :
    (∀ f ∈ fields, f.Carries m ∨ f.get m = f.get {}) ↔
      (∀ s ∈ m.texts, IsText s) ∧ (m.dhType_.toNat : ℤ) ≤ INT32_MAX := by
  simp only [fields, fieldsHead, fieldsContinue, texts, List.cons_append, List.nil_append,
    List.forall_mem_cons, List.not_mem_nil, false_imp_iff, implies_true, and_true]
  refine (and_congr textField_carries_or_iff <| and_congr textField_carries_or_iff <|
    and_congr textField_carries_or_iff <| and_congr (iff_true_intro (.inl uint16Field_carries)) <|
    and_congr (uint32Field_carries_or_iff fun _ _ => rfl) <| and_congr textField_carries_or_iff <|
    and_congr textField_carries_or_iff <| and_congr textField_carries_or_iff
    textField_carries_or_iff).trans ?_
  constructor
  · rintro ⟨hid, hdev, hname, -, htype, hattrs, hsub, hhash, hsink⟩
    exact ⟨⟨hid, hdev, hname, hattrs, hsub, hhash, hsink⟩, htype⟩
  · rintro ⟨⟨hid, hdev, hname, hattrs, hsub, hhash, hsink⟩, htype⟩
    exact ⟨hid, hdev, hname, trivial, htype, hattrs, hsub, hhash, hsink⟩

/-- The fields are read, and behind them the version if they all were. -/
theorem fromJson_toJson (m : MetaCapabilityInfo) : fromJson m.toJson {} =
    match readFields fields m.toJson {} with
    | (m', true) =>
      { m' with compVersion_ := CompVersion.fromJson m.compVersion_.toJson m'.compVersion_ }
    | (m', false) => m' := by
  have hver : m.toJson.getObjectItem COMP_VER = some m.compVersion_.toJson := by
    rw [toJson, getObjectItem_append (by decide)]
    simp [getObjectItem]
  rw [fields, readFields_append]
  simp only [fromJson, fromJsonContinue]
  rcases readFields fieldsHead m.toJson {} with ⟨m', _ | _⟩
  · rfl
  · simp only
    rcases readFields fieldsContinue m.toJson m' with ⟨m'', _ | _⟩
    · rfl
    · simp [hver]

theorem fields_eq_iff (m m' : MetaCapabilityInfo) : (∀ f ∈ fields, f.get m = f.get m') ↔
    m.toCapabilityInfo = m'.toCapabilityInfo ∧ m.udidHash_ = m'.udidHash_ ∧
      m.compVersion_.sinkVersion = m'.compVersion_.sinkVersion := by
  simp [fields, fieldsHead, fieldsContinue, textField, uint16Field, uint32Field,
    CapabilityInfo.ext_iff, and_assoc]

/-- Of the version only the sink version is among the fields. -/
theorem compVersion_readFields (j : Json) : (readFields fields j {}).1.compVersion_ =
    { sinkVersion := (readFields fields j {}).1.compVersion_.sinkVersion } := by
  have hrest : ({ (readFields fields j {}).1.compVersion_ with sinkVersion := "" } : CompVersion) =
      {} := get_readFields (fun m : MetaCapabilityInfo =>
        ({ m.compVersion_ with sinkVersion := "" } : CompVersion))
      (by simp [fields, fieldsHead, fieldsContinue, textField, uint16Field, uint32Field]) _
  simpa [CompVersion.ext_iff] using hrest

/-- The sink version that is read in front of the version is the one inside it. -/
theorem sinkVersion_fromJson (m : MetaCapabilityInfo)
    (hread : (readFields fields m.toJson {}).2 = true) (w : CompVersion) :
    (CompVersion.fromJson m.compVersion_.toJson w).sinkVersion =
      (readFields fields m.toJson {}).1.compVersion_.sinkVersion := by
  have hmem : textField SINK_VER (·.compVersion_.sinkVersion) (fun s (m : MetaCapabilityInfo) =>
      { m with compVersion_ := { m.compVersion_ with sinkVersion := s } }) ∈ fields := by
    simp [fields, fieldsContinue]
  have hsink := readFields_get independent m.holds hread hmem
  simp only [textField, valuestring, Option.ite_none_right_eq_some, Option.some_inj] at hsink
  rw [← hsink.2, CompVersion.sinkVersion_fromJson _ _ hsink.1]

theorem eq_serialised_iff (m w : MetaCapabilityInfo) : w = m.serialised ↔
    w.toCapabilityInfo = m.toCapabilityInfo ∧ w.udidHash_ = m.udidHash_ ∧
      w.compVersion_ = m.compVersion_.serialised := by
  obtain ⟨c, h, v⟩ := w
  simp [serialised]

/-- A record that is written and read is the same exactly if it survives. -/
theorem fromJson_toJson_iff (m : MetaCapabilityInfo) :
    fromJson m.toJson {} = m.serialised ↔ m.Survives := by
  have hall := readFields_regular_iff independent m.holds regular
  rw [carries_iff, fields_eq_iff] at hall
  have hsnd := readFields_snd_iff (d := {}) m.holds
  have hver := compVersion_readFields m.toJson
  have hsink := m.sinkVersion_fromJson
  have hstops : (∀ s ∈ m.texts, IsText s) ∧ (m.dhType_.toNat : ℤ) ≤ INT32_MAX →
      ∀ f ∈ fields, (f.Stops m ↔ f.IsEmpty m) := fun h f hf =>
    (regular f hf).stops_iff m ((carries_iff m).2 h f hf)
  rw [fromJson_toJson]
  generalize readFields fields m.toJson {} = d at hall hsnd hver hsink ⊢
  obtain ⟨m', _ | _⟩ := d
  · obtain ⟨f, hf, hstop⟩ : ∃ f ∈ fields, f.Stops m := by simpa using hsnd
    rw [eq_serialised_iff]
    constructor
    · rintro ⟨hcap, hhash, hversion⟩
      have hsame : m'.compVersion_.sinkVersion = m.compVersion_.sinkVersion := by
        rw [hversion, CompVersion.sinkVersion_serialised]
      obtain ⟨hvalue, hbehind⟩ := hall.1 ⟨hcap, hhash, hsame⟩
      have hdefault := hversion.symm.trans (hver.trans (by rw [hsame]))
      exact ⟨hvalue.1, hvalue.2, hbehind, fun _ => hdefault,
        CompVersion.survives_of_serialised hdefault⟩
    · intro h
      obtain ⟨hcap, hhash, hsame⟩ := hall.2 ⟨⟨h.text, h.dhType⟩, h.behind⟩
      have hdefault := h.version ⟨f, hf, (hstops ⟨h.text, h.dhType⟩ f hf).1 hstop⟩
      exact ⟨hcap, hhash, hver.trans (by rw [hsame, hdefault])⟩
  · have hgo := hsnd.1 rfl
    have hsink' := hsink rfl m'.compVersion_
    have hversion := m.compVersion_.fromJson_toJson_iff
    rw [eq_serialised_iff]
    simp only at hver hsink' hall ⊢
    constructor
    · rintro ⟨hcap, hhash, hread⟩
      have hsame : m'.compVersion_.sinkVersion = m.compVersion_.sinkVersion := by
        rw [← hsink', hread, CompVersion.sinkVersion_serialised]
      obtain ⟨hvalue, hbehind⟩ := hall.1 ⟨hcap, hhash, hsame⟩
      rw [hver, hsame, hversion (hvalue.1 _ (by simp [texts]))] at hread
      refine ⟨hvalue.1, hvalue.2, hbehind, ?_, hread⟩
      rintro ⟨f, hf, hempty⟩
      exact absurd ((hstops hvalue f hf).2 hempty) (hgo f hf)
    · intro h
      obtain ⟨hcap, hhash, hsame⟩ := hall.2 ⟨⟨h.text, h.dhType⟩, h.behind⟩
      refine ⟨hcap, hhash, ?_⟩
      rw [hver, hsame, hversion (h.text _ (by simp [texts]))]
      exact h.compVersion

end MetaCapabilityInfo

/-- Where cJSON parses a record's document as it printed it, `FromJsonString` of `ToJsonString`
is a success with the same record exactly if the text is not too long and the record
survives. -/
theorem capabilities_survive (cJSON : Codec) (c : CapabilityInfo) (m : MetaCapabilityInfo)
    (hc : cJSON.Faithful c.toJson) (hm : cJSON.Faithful m.toJson) :
    (CapabilityInfo.fromJsonString cJSON (c.toJsonString cJSON) {} = (DH_FWK_SUCCESS, c) ↔
        isJsonLengthValid (c.toJsonString cJSON) ∧ c.Survives) ∧
      (MetaCapabilityInfo.fromJsonString cJSON (m.toJsonString cJSON) {} =
          (DH_FWK_SUCCESS, m.serialised) ↔
        isJsonLengthValid (m.toJsonString cJSON) ∧ m.Survives) := by
  have hc' : cJSON.parse (c.toJsonString cJSON) = some c.toJson := hc
  have hm' : cJSON.parse (m.toJsonString cJSON) = some m.toJson := hm
  rw [← CapabilityInfo.fromJson_toJson_iff, ← MetaCapabilityInfo.fromJson_toJson_iff]
  unfold CapabilityInfo.fromJsonString MetaCapabilityInfo.fromJsonString
  simp only [hc', hm']
  constructor
  · cases isJsonLengthValid (c.toJsonString cJSON) <;> simp
  · cases isJsonLengthValid (m.toJsonString cJSON) <;> simp

/-- A camera, and its meta record. -/
def camera : CapabilityInfo where
  dhId_ := "c1"
  deviceId_ := "d1"
  deviceName_ := "phone"
  deviceType_ := 14
  dhType_ := 1
  dhAttrs_ := "front"
  dhSubtype_ := "camera"

def metaCamera : MetaCapabilityInfo where
  toCapabilityInfo := camera
  udidHash_ := "h1"
  compVersion_ := { sinkVersion := "1.0" }

/-- The members that both records are printed with. -/
def cameraMembers (dhSubtype : String) : String :=
  "\"dh_id\":\"c1\",\"dev_id\":\"d1\",\"dev_name\":\"phone\",\"dev_type\":14,\"dh_type\":1," ++
    "\"dh_attrs\":\"front\",\"dh_subtype\":\"" ++ dhSubtype ++ "\""

def cameraText (dhSubtype : String) : String :=
  "\x7b" ++ cameraMembers dhSubtype ++ "\x7d"

def metaCameraText (dhSubtype : String) : String :=
  "\x7b" ++ cameraMembers dhSubtype ++
    ",\"udid_hash\":\"h1\",\"sink_ver\":\"1.0\",\"comp_ver\":\x7b\"name\":\"\",\"type\":0," ++
    "\"handler\":\"\",\"source_ver\":\"\",\"sink_ver\":\"1.0\"\x7d\x7d"

/-- cJSON on the documents of the camera, with its subtype. -/
def cameraCodec (dhSubtype : String) : Codec where
  printUnformatted
    | .object members =>
      if members.length = 7 then cameraText dhSubtype else metaCameraText dhSubtype
    | _ => ""
  parse s :=
    if s = cameraText dhSubtype then some { camera with dhSubtype_ := dhSubtype }.toJson
    else if s = metaCameraText dhSubtype then some { metaCamera with dhSubtype_ := dhSubtype }.toJson
    else none

theorem cameraCodec_faithful {dhSubtype : String}
    (h : metaCameraText dhSubtype ≠ cameraText dhSubtype) :
    (cameraCodec dhSubtype).Faithful { camera with dhSubtype_ := dhSubtype }.toJson ∧
      (cameraCodec dhSubtype).Faithful { metaCamera with dhSubtype_ := dhSubtype }.toJson := by
  have hcamera : (cameraCodec dhSubtype).printUnformatted
      { camera with dhSubtype_ := dhSubtype }.toJson = cameraText dhSubtype := rfl
  have hmeta : (cameraCodec dhSubtype).printUnformatted
      { metaCamera with dhSubtype_ := dhSubtype }.toJson = metaCameraText dhSubtype := rfl
  unfold Codec.Faithful
  rw [hcamera, hmeta]
  simp only [cameraCodec, if_true, if_neg h, and_self]

/-- The records of a camera come back. -/
theorem capabilities_survive_camera :
    CapabilityInfo.fromJsonString (cameraCodec "camera")
      (camera.toJsonString (cameraCodec "camera")) {} = (DH_FWK_SUCCESS, camera) := by
  have hne : metaCameraText "camera" ≠ cameraText "camera" := by decide +kernel
  obtain ⟨hc, hm⟩ := cameraCodec_faithful hne
  refine (capabilities_survive (cameraCodec "camera") camera metaCamera hc hm).1.2
    ⟨by decide +kernel, by decide +kernel, by decide, ?_⟩
  simp [CapabilityInfo.fields, textField, uint16Field, uint32Field, Member.IsEmpty, camera, cStr]

/-- Of a camera without subtype the records are read with success, but the meta record comes
back without its udid hash, under another key. -/
theorem capabilities_lost :
    let m : MetaCapabilityInfo := { metaCamera with dhSubtype_ := "" }
    (cameraCodec "").Faithful m.toJson ∧ isJsonLengthValid (m.toJsonString (cameraCodec "")) = true ∧
      MetaCapabilityInfo.fromJsonString (cameraCodec "") (m.toJsonString (cameraCodec "")) {} =
        (DH_FWK_SUCCESS, { toCapabilityInfo := { camera with dhSubtype_ := "" } }) ∧
      ({ toCapabilityInfo := { camera with dhSubtype_ := "" } } : MetaCapabilityInfo) ≠ m.serialised ∧
      ({ toCapabilityInfo := { camera with dhSubtype_ := "" } } : MetaCapabilityInfo).getKey ≠
        m.getKey := by
  have hne : metaCameraText "" ≠ cameraText "" := by decide +kernel
  refine ⟨(cameraCodec_faithful hne).2, by decide +kernel, by decide +kernel, by decide,
    by decide⟩

end DHFwk
