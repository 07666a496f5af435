import DHFwk.CapabilityInfo

/-!
# Abilities of codecs as documents

The querier of the codecs writes what they can do as a document, an object for each codec with
arrays of objects for its inputs and outputs, and reads it back; the parser of another library
reads it as well. Both stop, without telling, at the first member that they turn down. They differ
in the search for a member, in the checks, in the side of a number that they take (`valueint` or
`valuedouble`), and in one name.

A list of codecs comes back from a library exactly if what that library cuts or turns down is not
in it (`abilities_come_back_iff`).
-/

set_option linter.unusedSectionVars false

namespace DHFwk

open Json

abbrev INS : String := "ins"
abbrev OUTS : String := "outs"
abbrev MIME : String := "mime"
abbrev SAMPLE_RATE : String := "sample_rate"
abbrev AUDIO_SAMPLE_FORMAT : String := "sample_fmt"
abbrev AD_MPEG_VER : String := "ad_mpeg_ver"
abbrev AUDIO_AAC_PROFILE : String := "aac_profile"
abbrev AUDIO_CHANNEL_LAYOUT : String := "channel_layout"
abbrev VIDEO_PIXEL_FMT : String := "pixel_fmt"
abbrev VIDEO_BIT_STREAM_FMT : String := "vd_bit_stream_fmt"

abbrev MAX_MESSAGES_LEN : ℕ := 1048576

/-! ## Numbers -/

/-- A number as a double holds it : of 53 bits, the nearest one, and of two the even one. -/
def toDouble (n : ℕ) : ℕ :=
  let scale := 2 ^ (n.log2 - 52)
  let kept := n / scale
  if scale < 2 * (n % scale) ∨ scale = 2 * (n % scale) ∧ kept % 2 = 1 then (kept + 1) * scale
  else kept * scale

theorem toDouble_of_le {n : ℕ} (h : n ≤ 2 ^ 53) : toDouble n = n := by
  obtain hlt | rfl := h.lt_or_eq
  · have hscale : n.log2 - 52 = 0 := by
      by_cases hzero : n = 0
      · simp [hzero]
      · have hlog := (Nat.log2_lt hzero).2 hlt
        omega
    simp [toDouble, hscale, Nat.mod_one]
  · decide

/-- A type of numbers, and the cast to it. -/
structure NumberType (α : Type) where
  toNat : α → ℕ
  ofInt : ℤ → α
  ofInt_toNat : ∀ v, ofInt (toNat v) = v
  toNat_ofInt : ∀ v (m : ℕ), m ≤ toNat v → toNat (ofInt m) = m

namespace NumberType

def uint8 : NumberType UInt8 where
  toNat := UInt8.toNat
  ofInt := UInt8.ofInt
  ofInt_toNat v := by
    have hlt := v.toNat_lt
    rw [UInt8.ofInt, Int.emod_eq_of_lt (by omega) (by omega)]
    simp
  toNat_ofInt v m h := by
    have hlt := v.toNat_lt
    rw [UInt8.ofInt, Int.emod_eq_of_lt (by omega) (by omega), Int.toNat_natCast,
      UInt8.toNat_ofNat', Nat.mod_eq_of_lt (by omega)]

def uint32 : NumberType UInt32 where
  toNat := UInt32.toNat
  ofInt := UInt32.ofInt
  ofInt_toNat v := by
    have hlt := v.toNat_lt
    rw [UInt32.ofInt, Int.emod_eq_of_lt (by omega) (by omega)]
    simp
  toNat_ofInt v m h := by
    have hlt := v.toNat_lt
    rw [UInt32.ofInt, Int.emod_eq_of_lt (by omega) (by omega), Int.toNat_natCast,
      UInt32.toNat_ofNat', Nat.mod_eq_of_lt (by omega)]

def uint64 : NumberType UInt64 where
  toNat := UInt64.toNat
  ofInt := UInt64.ofInt
  ofInt_toNat v := by
    have hlt := v.toNat_lt
    rw [UInt64.ofInt, Int.emod_eq_of_lt (by omega) (by omega)]
    simp
  toNat_ofInt v m h := by
    have hlt := v.toNat_lt
    rw [UInt64.ofInt, Int.emod_eq_of_lt (by omega) (by omega), Int.toNat_natCast,
      UInt64.toNat_ofNat', Nat.mod_eq_of_lt (by omega)]

end NumberType

/-- `valuedouble`. -/
def valuedouble : Json → ℤ
  | .number n => n
  | _ => 0

/-- `IsUInt8`. -/
def isUInt8 : Json → Bool
  | .number n => 0 ≤ (Json.number n).valueint ∧ (Json.number n).valueint ≤ 255
  | _ => false

/-! ## The two libraries -/

/-- Who reads : the parser of the utils, or the querier itself. -/
inductive AbilityReader
  | parser | querier
  deriving DecidableEq, Repr

namespace AbilityReader

/-- The name of a stream format, which the querier writes. -/
def AUDIO_AAC_STREAM_FORMAT : AbilityReader → String
  | parser => "aac_stream_fmt"
  | querier => "aac_stm_fmt"

def find : AbilityReader → Json → String → Option Json
  | parser => getObjectItem
  | querier => getObjectItemCaseSensitive

def isString : AbilityReader → Json → Bool
  | parser, j => DHFwk.isString j
  | querier, .string s => s.utf8ByteSize ≤ MAX_MESSAGES_LEN
  | querier, _ => false

def isArray : AbilityReader → Json → Bool
  | parser, j => DHFwk.isArray j
  | querier, .array _ => true
  | querier, _ => false

/-- The querier casts before it compares. -/
def isUInt8 : AbilityReader → Json → Bool
  | parser, j => DHFwk.isUInt8 j
  | querier, .number n => (UInt8.ofInt (Json.number n).valueint).toNat ≤ 255
  | querier, _ => false

def isUInt32 : AbilityReader → Json → Bool
  | parser, j => DHFwk.isUInt32 j
  | querier, .number n => (UInt32.ofInt (Json.number n).valueint).toNat ≤ 4294967295
  | querier, _ => false

/-- The side of a number that is taken. -/
def value : AbilityReader → Json → ℤ
  | parser => valuedouble
  | querier => valueint

variable (lib : AbilityReader) {R I α : Type}

/-- A text. -/
def textMember (name : String) (get : R → String) (set : String → R → R) : Member R where
  name := name
  get := get
  set := set
  write s := .string (cStr s)
  read j := if lib.isString j then some j.valuestring else none

/-- The elements of an array that are numbers. -/
def numbers (type : NumberType α) (items : List Json) : List α :=
  items.filterMap fun item =>
    match item with
    | .number n => some (type.ofInt (lib.value (.number n)))
    | _ => none

/-- An array of numbers. -/
def numbersMember (type : NumberType α) (name : String) (get : R → List α)
    (set : List α → R → R) : Member R where
  name := name
  get := get
  set := set
  write vs := .array (vs.map fun v => .number (toDouble (type.toNat v)))
  read
    | .array items => if lib.isArray (.array items) then some (lib.numbers type items) else none
    | _ => none

/-- A number that passes `check`. -/
def numberMember (type : NumberType α) (check : Json → Bool) (name : String) (get : R → α)
    (set : α → R → R) : Member R where
  name := name
  get := get
  set := set
  write v := .number (type.toNat v)
  read j := if check j then some (type.ofInt (lib.value j)) else none

end AbilityReader

open AbilityReader

/-! ## Records -/

@[ext] structure AudioEncoderIn where
  mime : String := ""
  sample_rate : List UInt32 := []
  deriving DecidableEq, Repr

/-- The numbers of a new one are not initialized. -/
@[ext] structure AudioEncoderOut where
  mime : String := ""
  ad_mpeg_ver : UInt32
  aac_profile : UInt8
  aac_stm_fmt : UInt8
  deriving DecidableEq, Repr

@[ext] structure AudioDecoderIn where
  mime : String := ""
  channel_layout : List UInt64 := []
  deriving DecidableEq, Repr

@[ext] structure AudioDecoderOut where
  mime : String := ""
  sample_fmt : List UInt8 := []
  deriving DecidableEq, Repr

@[ext] structure VideoEncoderIn where
  mime : String := ""
  pixel_fmt : List UInt32 := []
  deriving DecidableEq, Repr

@[ext] structure VideoEncoderOut where
  mime : String := ""
  deriving DecidableEq, Repr

@[ext] structure VideoDecoderIn where
  mime : String := ""
  vd_bit_stream_fmt : List UInt32 := []
  deriving DecidableEq, Repr

@[ext] structure VideoDecoderOut where
  mime : String := ""
  pixel_fmt : List UInt32 := []
  deriving DecidableEq, Repr

/-- `AudioEncoder`, `AudioDecoder`, `VideoEncoder` and `VideoDecoder`. -/
@[ext] structure CodecAbility (I O : Type) where
  name : String := ""
  ins : List I := []
  outs : List O := []
  deriving DecidableEq, Repr

abbrev AudioEncoder := CodecAbility AudioEncoderIn AudioEncoderOut
abbrev AudioDecoder := CodecAbility AudioDecoderIn AudioDecoderOut
abbrev VideoEncoder := CodecAbility VideoEncoderIn VideoEncoderOut
abbrev VideoDecoder := CodecAbility VideoDecoderIn VideoDecoderOut

section Members

variable (lib : AbilityReader)

def AudioEncoderIn.members : List (Member AudioEncoderIn) :=
  [lib.textMember MIME (·.mime) fun mime r => { r with mime := mime },
    lib.numbersMember .uint32 SAMPLE_RATE (·.sample_rate) fun rates r =>
      { r with sample_rate := rates }]

/-- The version is cut to 8 bits when it is written. -/
def AudioEncoderOut.members : List (Member AudioEncoderOut) :=
  [lib.textMember MIME (·.mime) fun mime r => { r with mime := mime },
    { lib.numberMember .uint32 lib.isUInt32 AD_MPEG_VER (·.ad_mpeg_ver) fun ver r =>
        { r with ad_mpeg_ver := ver } with
      write := fun ver : UInt32 => .number ver.toUInt8.toNat },
    lib.numberMember .uint8 lib.isUInt8 AUDIO_AAC_PROFILE (·.aac_profile) fun profile r =>
      { r with aac_profile := profile },
    lib.numberMember .uint8 lib.isUInt8 lib.AUDIO_AAC_STREAM_FORMAT (·.aac_stm_fmt) fun fmt r =>
      { r with aac_stm_fmt := fmt }]

def AudioDecoderIn.members : List (Member AudioDecoderIn) :=
  [lib.textMember MIME (·.mime) fun mime r => { r with mime := mime },
    lib.numbersMember .uint64 AUDIO_CHANNEL_LAYOUT (·.channel_layout) fun layouts r =>
      { r with channel_layout := layouts }]

def AudioDecoderOut.members : List (Member AudioDecoderOut) :=
  [lib.textMember MIME (·.mime) fun mime r => { r with mime := mime },
    lib.numbersMember .uint8 AUDIO_SAMPLE_FORMAT (·.sample_fmt) fun formats r =>
      { r with sample_fmt := formats }]

def VideoEncoderIn.members : List (Member VideoEncoderIn) :=
  [lib.textMember MIME (·.mime) fun mime r => { r with mime := mime },
    lib.numbersMember .uint32 VIDEO_PIXEL_FMT (·.pixel_fmt) fun fmts r =>
      { r with pixel_fmt := fmts }]

def VideoEncoderOut.members : List (Member VideoEncoderOut) :=
  [lib.textMember MIME (·.mime) fun mime r => { r with mime := mime }]

def VideoDecoderIn.members : List (Member VideoDecoderIn) :=
  [lib.textMember MIME (·.mime) fun mime r => { r with mime := mime },
    lib.numbersMember .uint32 VIDEO_BIT_STREAM_FMT (·.vd_bit_stream_fmt) fun fmts r =>
      { r with vd_bit_stream_fmt := fmts }]

def VideoDecoderOut.members : List (Member VideoDecoderOut) :=
  [lib.textMember MIME (·.mime) fun mime r => { r with mime := mime },
    lib.numbersMember .uint32 VIDEO_PIXEL_FMT (·.pixel_fmt) fun fmts r =>
      { r with pixel_fmt := fmts }]

end Members

/-! ## Writing and reading -/

section Objects

variable {R : Type} (members : AbilityReader → List (Member R)) (lib : AbilityReader)

/-- `ToJson` of a record. The querier writes. -/
def objectToJson (r : R) : Json :=
  .object (writeFields (members .querier) r)

/-- `FromJson` of a record into `new`. -/
def objectFromJson (new : R) (j : Json) : R :=
  (readFieldsBy lib.find (members lib) j new).1

end Objects

/-- A kind of codec : the records of its inputs and outputs, what a new input holds and what a new
output may hold. -/
structure CodecKind (I O : Type) where
  ins : AbilityReader → List (Member I)
  outs : AbilityReader → List (Member O)
  newIn : I
  IsNewOut : O → Prop
  exists_newOut : ∃ new, IsNewOut new

namespace CodecKind

def AudioEncoder : CodecKind AudioEncoderIn AudioEncoderOut where
  ins := AudioEncoderIn.members
  outs := AudioEncoderOut.members
  newIn := {}
  IsNewOut new := new.mime = ""
  exists_newOut := ⟨⟨"", 0, 0, 0⟩, rfl⟩

def AudioDecoder : CodecKind AudioDecoderIn AudioDecoderOut where
  ins := AudioDecoderIn.members
  outs := AudioDecoderOut.members
  newIn := {}
  IsNewOut new := new = {}
  exists_newOut := ⟨_, rfl⟩

def VideoEncoder : CodecKind VideoEncoderIn VideoEncoderOut where
  ins := VideoEncoderIn.members
  outs := VideoEncoderOut.members
  newIn := {}
  IsNewOut new := new = {}
  exists_newOut := ⟨_, rfl⟩

def VideoDecoder : CodecKind VideoDecoderIn VideoDecoderOut where
  ins := VideoDecoderIn.members
  outs := VideoDecoderOut.members
  newIn := {}
  IsNewOut new := new = {}
  exists_newOut := ⟨_, rfl⟩

variable {I O : Type} (kind : CodecKind I O)

/-- An array of objects, each read into a new one. -/
def objectsMember {R T : Type} (members : AbilityReader → List (Member T)) (lib : AbilityReader)
    (new : ℕ → T) (name : String) (get : R → List T) (set : List T → R → R) : Member R where
  name := name
  get := get
  set := set
  write rs := .array (rs.map (objectToJson members))
  read
    | .array items =>
      if lib.isArray (.array items) then
        some (items.mapIdx fun i item => objectFromJson members lib (new i) item)
      else none
    | _ => none

/-- The members of a codec, where `newOut` is what its new outputs hold. -/
def members (newOut : ℕ → O) (lib : AbilityReader) : List (Member (CodecAbility I O)) :=
  [lib.textMember NAME (·.name) fun name r => { r with name := name },
    objectsMember kind.ins lib (fun _ => kind.newIn) INS (·.ins) fun ins r => { r with ins := ins },
    objectsMember kind.outs lib newOut OUTS (·.outs) fun outs r => { r with outs := outs }]

/-- What a codec is written as does not depend on the outputs that it is read into. -/
def codecToJson (c : CodecAbility I O) : Json :=
  .object [(NAME, .string (cStr c.name)), (INS, .array (c.ins.map (objectToJson kind.ins))),
    (OUTS, .array (c.outs.map (objectToJson kind.outs)))]

/-- `ToJson` of a list, to a new object. -/
def listToJson (key : String) (objs : List (CodecAbility I O)) : Json :=
  .object [(cStr key, .array (objs.map kind.codecToJson))]

/-- `FromJson` of a list into an empty one. `newOut` is what the new outputs of each codec hold. -/
def listFromJson (newOut : ℕ → ℕ → O) (lib : AbilityReader) (key : String) (json : Json) :
    List (CodecAbility I O) :=
  let read (i : ℕ) (item : Json) := objectFromJson (kind.members (newOut i)) lib {} item
  match lib, lib.find json (cStr key) with
  | _, some (.array items) => items.mapIdx read
  -- the parser takes anything else for one codec
  | .parser, some item => [read 0 item]
  | _, _ => []

/-- What was written is what is read, whatever the new outputs hold. -/
def ComesBack (lib : AbilityReader) (objs : List (CodecAbility I O)) : Prop :=
  ∀ key newOut, (∀ i j, kind.IsNewOut (newOut i j)) →
    kind.listFromJson newOut lib key (kind.listToJson key objs) = objs

end CodecKind

/-! ## What fits -/

namespace AbilityReader

def maxText : AbilityReader → ℕ
  | parser => MAX_MESSAGE_LEN
  | querier => MAX_MESSAGES_LEN

variable (lib : AbilityReader) {R α : Type}

/-- A text that is neither cut nor too long. -/
def TextFits (s : String) : Prop :=
  '\x00' ∉ s.toList ∧ s.utf8ByteSize ≤ lib.maxText

/-- The length of an array that is not too long. -/
def LengthFits : AbilityReader → ℕ → Prop
  | parser, n => n ≤ MAX_ARR_SIZE
  | querier, _ => True

/-- A number that is not cut. -/
def NumberFits : AbilityReader → ℕ → Prop
  | parser, _ => True
  | querier, n => (n : ℤ) ≤ INT32_MAX

/-- Numbers that come back. -/
def NumbersFit (type : NumberType α) (vs : List α) : Prop :=
  lib.LengthFits vs.length ∧ ∀ v ∈ vs, lib.NumberFits (type.toNat v)

instance (s : String) : Decidable (lib.TextFits s) :=
  inferInstanceAs (Decidable (_ ∧ _))

instance : ∀ (lib : AbilityReader) (n : ℕ), Decidable (lib.LengthFits n)
  | parser, _ => inferInstanceAs (Decidable (_ ≤ _))
  | querier, _ => inferInstanceAs (Decidable True)

instance : ∀ (lib : AbilityReader) (n : ℕ), Decidable (lib.NumberFits n)
  | parser, _ => inferInstanceAs (Decidable True)
  | querier, _ => inferInstanceAs (Decidable (_ ≤ _))

instance (type : NumberType α) (vs : List α) : Decidable (lib.NumbersFit type vs) :=
  inferInstanceAs (Decidable (_ ∧ ∀ v ∈ vs, _))

variable {lib}

theorem isArray_iff (items : List Json) :
    lib.isArray (.array items) = true ↔ lib.LengthFits items.length := by
  cases lib with
  | parser => simp [isArray, DHFwk.isArray, LengthFits]
  | querier => simp [isArray, LengthFits]

theorem isString_iff {s : String} (hne : s ≠ "") :
    lib.isString (.string s) = true ↔ s.utf8ByteSize ≤ lib.maxText := by
  have hpos : 0 < s.utf8ByteSize := by
    rw [Nat.pos_iff_ne_zero]
    exact fun h => hne (String.utf8ByteSize_eq_zero_iff.1 h)
  cases lib with
  | parser => simp [isString, DHFwk.isString, maxText, hpos]
  | querier => simp [isString, maxText]

/-- A number that a double holds comes back unless the querier cuts it. -/
theorem ofInt_value_iff (type : NumberType α) {v : α} (hexact : type.toNat v ≤ 2 ^ 53) :
    type.ofInt (lib.value (.number (toDouble (type.toNat v)))) = v ↔
      lib.NumberFits (type.toNat v) := by
  rw [toDouble_of_le hexact]
  cases lib with
  | parser => simp [value, valuedouble, NumberFits, type.ofInt_toNat]
  | querier =>
    rw [value, NumberFits]
    by_cases hmax : (type.toNat v : ℤ) ≤ INT32_MAX
    · rw [valueint_of_le (by omega) hmax]
      exact iff_of_true (type.ofInt_toNat v) hmax
    · refine iff_of_false (fun heq => hmax ?_) hmax
      have hcut : (Json.number (type.toNat v)).valueint = ((2147483647 : ℕ) : ℤ) := by
        simp only [valueint, INT32_MAX, INT32_MIN] at *
        omega
      have hsame := type.toNat_ofInt v 2147483647 (by simp only [INT32_MAX] at hmax; omega)
      rw [hcut] at heq
      rw [← heq, hsame]
      rfl

theorem numbers_map (type : NumberType α) (vs : List α) :
    lib.numbers type (vs.map fun v => .number (toDouble (type.toNat v))) =
      vs.map fun v => type.ofInt (lib.value (.number (toDouble (type.toNat v)))) := by
  simp [numbers, List.filterMap_map]

variable {name : String} {type : NumberType α} {r : R}

theorem textMember_carries_iff {get : R → String} {set : String → R → R} (hne : get r ≠ "") :
    (lib.textMember name get set).Carries r ↔ lib.TextFits (get r) := by
  simp only [Member.Carries, textMember, valuestring, TextFits, ← cStr_eq_self_iff]
  by_cases hcut : cStr (get r) = get r
  · rw [hcut, and_iff_right rfl, ← isString_iff hne]
    simp
  · simp [hcut]

theorem numbersMember_carries_iff {get : R → List α} {set : List α → R → R}
    (hexact : ∀ v ∈ get r, type.toNat v ≤ 2 ^ 53) :
    (lib.numbersMember type name get set).Carries r ↔ lib.NumbersFit type (get r) := by
  have hall : (get r).map (fun v => type.ofInt (lib.value (.number (toDouble (type.toNat v))))) =
      get r ↔ ∀ v ∈ get r, lib.NumberFits (type.toNat v) := by
    have hid := List.map_eq_map_iff (l := get r) (g := id)
      (f := fun v => type.ofInt (lib.value (.number (toDouble (type.toNat v)))))
    rw [List.map_id] at hid
    rw [hid]
    exact forall₂_congr fun v hv => ofInt_value_iff type (hexact v hv)
  simp only [Member.Carries, numbersMember, NumbersFit, ← hall, numbers_map]
  have hlength : lib.isArray (.array ((get r).map fun v => .number (toDouble (type.toNat v)))) =
      true ↔ lib.LengthFits (get r).length := by
    rw [isArray_iff, List.length_map]
  rw [← hlength]
  split_ifs with harray <;> simp [harray]

/-- A number of 8 bits passes the checks, and either side of it is the same. -/
theorem byte_checks (lib : AbilityReader) {n : ℕ} (h : n < 256) :
    lib.isUInt8 (.number n) = true ∧ lib.isUInt32 (.number n) = true ∧
      lib.value (.number n) = n := by
  have hint : (Json.number n).valueint = n :=
    valueint_of_le (by omega) (by simp only [INT32_MAX]; omega)
  cases lib with
  | parser =>
    have hbyte : (0 : ℤ) ≤ n ∧ (n : ℤ) ≤ 255 := by omega
    have hint32 : (n : ℤ) ≤ INT32_MAX := by simp only [INT32_MAX]; omega
    simp [isUInt8, isUInt32, DHFwk.isUInt8, DHFwk.isUInt32, hint, value, valuedouble, hbyte, hint32]
  | querier =>
    simp only [isUInt8, isUInt32, hint, value, decide_eq_true_eq]
    exact ⟨Nat.le_of_lt_succ (UInt8.toNat_lt _), Nat.le_of_lt_succ (UInt32.toNat_lt _), trivial⟩

theorem byteMember_carries {get : R → UInt8} {set : UInt8 → R → R} :
    (lib.numberMember .uint8 lib.isUInt8 name get set).Carries r := by
  obtain ⟨hcheck, -, hvalue⟩ := byte_checks lib (get r).toNat_lt
  simp only [Member.Carries, numberMember, NumberType.uint8] at *
  rw [if_pos hcheck, hvalue]
  exact congrArg some (NumberType.uint8.ofInt_toNat (get r))

/-- What is turned down is not what a new record has. -/
theorem numbersMember_stops {get : R → List α} {set : List α → R → R}
    (h : (lib.numbersMember type name get set).Stops r) : [] ≠ get r := by
  intro hnil
  cases lib <;>
    simp [Member.Stops, numbersMember, ← hnil, isArray, DHFwk.isArray] at h

end AbilityReader

section Records

variable {R α : Type} {members : AbilityReader → List (Member R)} {lib : AbilityReader} {new r : R}

/-- The members make up a record, and the querier writes them where the library looks. -/
structure LawfulMembers (members : AbilityReader → List (Member R)) (lib : AbilityReader) :
    Prop where
  independent : Independent (members lib)
  ext : ∀ a b, (∀ f ∈ members lib, f.get a = f.get b) → a = b
  written : ∀ r, writeFields (members .querier) r = writeFields (members lib) r

theorem LawfulMembers.holds (h : LawfulMembers members lib) (r : R) :
    (objectToJson members r).Holds (members lib) r := by
  rw [objectToJson, h.written]
  simpa using holds_writeFields h.independent r []

/-- Either way to search a document finds what was written. -/
theorem LawfulMembers.readFieldsBy_find (h : LawfulMembers members lib) (r new : R) :
    readFieldsBy lib.find (members lib) (objectToJson members r) new =
      readFields (members lib) (objectToJson members r) new := by
  rw [← readFieldsBy_getObjectItem]
  refine readFieldsBy_congr (fun f hf => ?_) new
  cases lib with
  | parser => rfl
  | querier =>
    rw [find, objectToJson, getObjectItemCaseSensitive_writeFields h.independent r hf]
    exact (h.holds r f hf).symm

/-- A record comes back exactly if each of its members does. -/
theorem LawfulMembers.objectFromJson_iff (h : LawfulMembers members lib)
    (hdiffers : ∀ f ∈ members lib, f.Stops r → f.get new ≠ f.get r) :
    objectFromJson members lib new (objectToJson members r) = r ↔
      ∀ f ∈ members lib, f.Carries r := by
  rw [objectFromJson, h.readFieldsBy_find,
    ← readFields_carries_iff h.independent (h.holds r) hdiffers]
  exact ⟨fun heq f _ => by rw [heq], h.ext _ _⟩

theorem independent_pair {f g : Member R} (hname : sameName g.name f.name = false)
    (hf : ∀ v r, f.get (f.set v r) = v) (hg : ∀ v r, g.get (g.set v r) = v)
    (hgf : ∀ v r, g.get (f.set v r) = g.get r) (hfg : ∀ v r, f.get (g.set v r) = f.get r) :
    Independent [f, g] where
  names := by simpa using hname
  get_set_self := by simpa using ⟨hf, hg⟩
  get_set := by simpa using hgf
  get_set' := by simpa using hfg

/-- The records of a mime and a list of numbers. -/
theorem LawfulMembers.mime_numbers_iff (h : LawfulMembers members lib) {type : NumberType α}
    {name : String} {mime : R → String} {setMime : String → R → R} {values : R → List α}
    {setValues : List α → R → R}
    (hmembers : members lib =
      [lib.textMember MIME mime setMime, lib.numbersMember type name values setValues])
    (hnewMime : mime new = "") (hnewValues : values new = []) (hmime : mime r ≠ "")
    (hexact : ∀ v ∈ values r, type.toNat v ≤ 2 ^ 53) :
    objectFromJson members lib new (objectToJson members r) = r ↔
      lib.TextFits (mime r) ∧ lib.NumbersFit type (values r) := by
  have hdiffers : ∀ f ∈ members lib, f.Stops r → f.get new ≠ f.get r := by
    rw [hmembers, List.forall_mem_cons, List.forall_mem_singleton]
    refine ⟨fun _ heq => hmime (heq.symm.trans hnewMime), fun hstops heq => ?_⟩
    exact numbersMember_stops hstops (hnewValues.symm.trans heq)
  rw [h.objectFromJson_iff hdiffers, hmembers, List.forall_mem_cons, List.forall_mem_singleton,
    textMember_carries_iff hmime, numbersMember_carries_iff hexact]

end Records

namespace AudioEncoderIn

def Fits (lib : AbilityReader) (x : AudioEncoderIn) : Prop :=
  lib.TextFits x.mime ∧ lib.NumbersFit .uint32 x.sample_rate

theorem lawful (lib : AbilityReader) : LawfulMembers members lib where
  independent := independent_pair (show sameName SAMPLE_RATE MIME = false by decide)
    (fun _ _ => rfl) (fun _ _ => rfl) (fun _ _ => rfl) (fun _ _ => rfl)
  ext := by simp [members, textMember, numbersMember, AudioEncoderIn.ext_iff]
  written _ := rfl

theorem comesBack_iff {lib : AbilityReader} {x : AudioEncoderIn} (h : x.mime ≠ "") :
    objectFromJson members lib {} (objectToJson members x) = x ↔ x.Fits lib :=
  (lawful lib).mime_numbers_iff rfl rfl rfl h fun v _ => v.toNat_lt.le.trans (by decide)

end AudioEncoderIn

namespace AudioDecoderIn

def Fits (lib : AbilityReader) (x : AudioDecoderIn) : Prop :=
  lib.TextFits x.mime ∧ lib.NumbersFit .uint64 x.channel_layout

theorem lawful (lib : AbilityReader) : LawfulMembers members lib where
  independent := independent_pair (show sameName AUDIO_CHANNEL_LAYOUT MIME = false by decide)
    (fun _ _ => rfl) (fun _ _ => rfl) (fun _ _ => rfl) (fun _ _ => rfl)
  ext := by simp [members, textMember, numbersMember, AudioDecoderIn.ext_iff]
  written _ := rfl

theorem comesBack_iff {lib : AbilityReader} {x : AudioDecoderIn} (h : x.mime ≠ "")
    (hexact : ∀ v ∈ x.channel_layout, v.toNat ≤ 2 ^ 53) :
    objectFromJson members lib {} (objectToJson members x) = x ↔ x.Fits lib :=
  (lawful lib).mime_numbers_iff rfl rfl rfl h hexact

end AudioDecoderIn

namespace AudioDecoderOut

def Fits (lib : AbilityReader) (x : AudioDecoderOut) : Prop :=
  lib.TextFits x.mime ∧ lib.NumbersFit .uint8 x.sample_fmt

theorem lawful (lib : AbilityReader) : LawfulMembers members lib where
  independent := independent_pair (show sameName AUDIO_SAMPLE_FORMAT MIME = false by decide)
    (fun _ _ => rfl) (fun _ _ => rfl) (fun _ _ => rfl) (fun _ _ => rfl)
  ext := by simp [members, textMember, numbersMember, AudioDecoderOut.ext_iff]
  written _ := rfl

theorem comesBack_iff {lib : AbilityReader} {x : AudioDecoderOut} (h : x.mime ≠ "") :
    objectFromJson members lib {} (objectToJson members x) = x ↔ x.Fits lib :=
  (lawful lib).mime_numbers_iff rfl rfl rfl h fun v _ => v.toNat_lt.le.trans (by decide)

end AudioDecoderOut

namespace VideoEncoderIn

def Fits (lib : AbilityReader) (x : VideoEncoderIn) : Prop :=
  lib.TextFits x.mime ∧ lib.NumbersFit .uint32 x.pixel_fmt

theorem lawful (lib : AbilityReader) : LawfulMembers members lib where
  independent := independent_pair (show sameName VIDEO_PIXEL_FMT MIME = false by decide)
    (fun _ _ => rfl) (fun _ _ => rfl) (fun _ _ => rfl) (fun _ _ => rfl)
  ext := by simp [members, textMember, numbersMember, VideoEncoderIn.ext_iff]
  written _ := rfl

theorem comesBack_iff {lib : AbilityReader} {x : VideoEncoderIn} (h : x.mime ≠ "") :
    objectFromJson members lib {} (objectToJson members x) = x ↔ x.Fits lib :=
  (lawful lib).mime_numbers_iff rfl rfl rfl h fun v _ => v.toNat_lt.le.trans (by decide)

end VideoEncoderIn

namespace VideoDecoderIn

def Fits (lib : AbilityReader) (x : VideoDecoderIn) : Prop :=
  lib.TextFits x.mime ∧ lib.NumbersFit .uint32 x.vd_bit_stream_fmt

theorem lawful (lib : AbilityReader) : LawfulMembers members lib where
  independent := independent_pair (show sameName VIDEO_BIT_STREAM_FMT MIME = false by decide)
    (fun _ _ => rfl) (fun _ _ => rfl) (fun _ _ => rfl) (fun _ _ => rfl)
  ext := by simp [members, textMember, numbersMember, VideoDecoderIn.ext_iff]
  written _ := rfl

theorem comesBack_iff {lib : AbilityReader} {x : VideoDecoderIn} (h : x.mime ≠ "") :
    objectFromJson members lib {} (objectToJson members x) = x ↔ x.Fits lib :=
  (lawful lib).mime_numbers_iff rfl rfl rfl h fun v _ => v.toNat_lt.le.trans (by decide)

end VideoDecoderIn

namespace VideoDecoderOut

def Fits (lib : AbilityReader) (x : VideoDecoderOut) : Prop :=
  lib.TextFits x.mime ∧ lib.NumbersFit .uint32 x.pixel_fmt

theorem lawful (lib : AbilityReader) : LawfulMembers members lib where
  independent := independent_pair (show sameName VIDEO_PIXEL_FMT MIME = false by decide)
    (fun _ _ => rfl) (fun _ _ => rfl) (fun _ _ => rfl) (fun _ _ => rfl)
  ext := by simp [members, textMember, numbersMember, VideoDecoderOut.ext_iff]
  written _ := rfl

theorem comesBack_iff {lib : AbilityReader} {x : VideoDecoderOut} (h : x.mime ≠ "") :
    objectFromJson members lib {} (objectToJson members x) = x ↔ x.Fits lib :=
  (lawful lib).mime_numbers_iff rfl rfl rfl h fun v _ => v.toNat_lt.le.trans (by decide)

end VideoDecoderOut

namespace VideoEncoderOut

def Fits (lib : AbilityReader) (x : VideoEncoderOut) : Prop :=
  lib.TextFits x.mime

theorem lawful (lib : AbilityReader) : LawfulMembers members lib where
  independent := {
    names := by simp [members]
    get_set_self := by simp [members, textMember]
    get_set := by simp [members]
    get_set' := by simp [members] }
  ext := by simp [members, textMember, VideoEncoderOut.ext_iff]
  written _ := rfl

theorem comesBack_iff {lib : AbilityReader} {x : VideoEncoderOut} (h : x.mime ≠ "") :
    objectFromJson members lib {} (objectToJson members x) = x ↔ x.Fits lib := by
  have hdiffers : ∀ f ∈ members lib, f.Stops x → f.get {} ≠ f.get x := by
    rw [members, List.forall_mem_singleton]
    exact fun _ heq => h heq.symm
  rw [(lawful lib).objectFromJson_iff hdiffers, members, List.forall_mem_singleton]
  exact textMember_carries_iff h

end VideoEncoderOut

namespace AudioEncoderOut

/-- The parser looks for the stream format under another name. -/
def Fits : AbilityReader → AudioEncoderOut → Prop
  | .parser, _ => False
  | .querier, x => querier.TextFits x.mime ∧ x.ad_mpeg_ver.toNat < 256

theorem lawful : LawfulMembers members .querier where
  independent := {
    names := by decide
    get_set_self := by simp [members, textMember, numberMember]
    get_set := by simp [members, textMember, numberMember]
    get_set' := by simp [members, textMember, numberMember] }
  ext := by
    simp only [members, textMember, numberMember, List.forall_mem_cons, List.not_mem_nil,
      false_imp_iff, implies_true, and_true]
    rintro a b ⟨hmime, hver, hprofile, hfmt⟩
    exact AudioEncoderOut.ext hmime hver hprofile hfmt
  written _ := rfl

/-- What is read of a version are its lowest 8 bits. -/
theorem version_carries_iff {x : AudioEncoderOut}
    {set : UInt32 → AudioEncoderOut → AudioEncoderOut} :
    Member.Carries
      { querier.numberMember .uint32 querier.isUInt32 AD_MPEG_VER (·.ad_mpeg_ver) set with
        write := fun ver : UInt32 => .number ver.toUInt8.toNat } x ↔ x.ad_mpeg_ver.toNat < 256 := by
  obtain ⟨-, hcheck, hvalue⟩ := byte_checks querier x.ad_mpeg_ver.toUInt8.toNat_lt
  simp only [Member.Carries, numberMember]
  rw [if_pos hcheck, hvalue, Option.some_inj]
  have hread : (NumberType.uint32.ofInt x.ad_mpeg_ver.toUInt8.toNat).toNat =
      x.ad_mpeg_ver.toNat % 256 := by
    refine (NumberType.uint32.toNat_ofInt x.ad_mpeg_ver _ ?_).trans (UInt32.toNat_toUInt8 _)
    exact (UInt32.toNat_toUInt8 _).trans_le (Nat.mod_le _ _)
  rw [← UInt32.toNat_inj, hread, Nat.mod_eq_iff_lt (by decide)]

theorem queried_iff {x new : AudioEncoderOut} (h : x.mime ≠ "") (hnew : new.mime = "") :
    objectFromJson members .querier new (objectToJson members x) = x ↔ x.Fits .querier := by
  have hdiffers : ∀ f ∈ members .querier, f.Stops x → f.get new ≠ f.get x := by
    simp only [members, List.forall_mem_cons, List.not_mem_nil, false_imp_iff, implies_true,
      and_true]
    refine ⟨fun _ heq => h (heq.symm.trans hnew), fun hstops => ?_,
      fun hstops => absurd hstops byteMember_carries.not_stops,
      fun hstops => absurd hstops byteMember_carries.not_stops⟩
    have hcheck := (byte_checks querier x.ad_mpeg_ver.toUInt8.toNat_lt).2.1
    simp only [Member.Stops, numberMember] at hstops
    rw [if_pos hcheck] at hstops
    cases hstops
  rw [lawful.objectFromJson_iff hdiffers]
  simp only [members, List.forall_mem_cons, List.not_mem_nil, false_imp_iff, implies_true, and_true]
  rw [textMember_carries_iff h, version_carries_iff, and_iff_left byteMember_carries,
    and_iff_left byteMember_carries]
  rfl

/-- The stream format is not read by the parser. -/
theorem aac_stm_fmt_parsed (x new : AudioEncoderOut) :
    (objectFromJson members .parser new (objectToJson members x)).aac_stm_fmt =
      new.aac_stm_fmt := by
  have hnone : (objectToJson members x).getObjectItem "aac_stream_fmt" = none := by
    have hnames : ∀ name ∈ [MIME, AD_MPEG_VER, AUDIO_AAC_PROFILE,
        querier.AUDIO_AAC_STREAM_FORMAT], sameName "aac_stream_fmt" name = false := by decide
    simp only [List.forall_mem_cons, List.not_mem_nil, false_imp_iff, implies_true, and_true]
      at hnames
    simp [objectToJson, members, writeFields, textMember, numberMember, getObjectItem, hnames]
  obtain ⟨fs, f, hmembers, hname, hkeep⟩ : ∃ (fs : List (Member AudioEncoderOut)) (f : _),
      members .parser = fs ++ [f] ∧ f.name = "aac_stream_fmt" ∧
        ∀ g ∈ fs, ∀ v r, (g.set v r).aac_stm_fmt = r.aac_stm_fmt := by
    refine ⟨(members .parser).take 3, _, rfl, rfl, ?_⟩
    simp [members, textMember, numberMember]
  rw [objectFromJson, find, readFieldsBy_getObjectItem, hmembers, readFields_append]
  have hhead := get_readFields (j := objectToJson members x) (·.aac_stm_fmt) hkeep new
  split
  · next r' heq =>
    rw [heq] at hhead
    rw [readFields, hname, hnone]
    exact hhead
  · next r' heq =>
    rw [heq] at hhead
    exact hhead

end AudioEncoderOut

/-! ## Codecs -/

/-- Written and read one by one, a list comes back if each element does. -/
theorem mapIdx_map_eq_iff {α β : Type} {write : α → β} {read : ℕ → β → α} {rs : List α} :
    (rs.map write).mapIdx read = rs ↔ ∀ i (h : i < rs.length), read i (write rs[i]) = rs[i] := by
  rw [List.mapIdx_eq_iff]
  refine forall_congr' fun i => ?_
  rw [List.getElem?_map]
  by_cases hi : i < rs.length
  · rw [List.getElem?_eq_getElem hi, Option.map_some, Option.map_some, Option.some_inj, eq_comm]
    exact ⟨fun heq _ => heq, fun heq => heq hi⟩
  · rw [List.getElem?_eq_none (not_lt.1 hi)]
    exact iff_of_true rfl fun h => absurd h hi

namespace CodecKind

section Objects

variable {R T : Type} {items : AbilityReader → List (Member T)} {lib : AbilityReader}
  {new : ℕ → T} {name : String} {get : R → List T} {set : List T → R → R} {r : R}

theorem objectsMember_carries_iff :
    (objectsMember items lib new name get set).Carries r ↔
      lib.LengthFits (get r).length ∧
        ∀ j (h : j < (get r).length),
          objectFromJson items lib (new j) (objectToJson items (get r)[j]) = (get r)[j] := by
  have hlength : lib.isArray (.array ((get r).map (objectToJson items))) = true ↔
      lib.LengthFits (get r).length := by
    rw [isArray_iff, List.length_map]
  have hread : ((get r).map (objectToJson items)).mapIdx
      (fun j item => objectFromJson items lib (new j) item) = get r ↔ _ := mapIdx_map_eq_iff
  simp only [Member.Carries, objectsMember, ← hlength, ← hread]
  split_ifs with harray <;> simp [harray]

theorem objectsMember_stops (h : (objectsMember items lib new name get set).Stops r) :
    [] ≠ get r := by
  intro hnil
  cases lib <;>
    simp [Member.Stops, objectsMember, ← hnil, AbilityReader.isArray, DHFwk.isArray] at h

end Objects

variable {I O : Type} {kind : CodecKind I O} {lib : AbilityReader} {newOut : ℕ → O}

theorem lawful (newOut : ℕ → O) (lib : AbilityReader) :
    LawfulMembers (kind.members newOut) lib where
  independent := {
    names := by
      have hnames : sameName INS NAME = false ∧ sameName OUTS NAME = false ∧
          sameName OUTS INS = false := by decide
      simpa [members, textMember, objectsMember, and_assoc] using hnames
    get_set_self := by simp [members, textMember, objectsMember]
    get_set := by simp [members, textMember, objectsMember]
    get_set' := by simp [members, textMember, objectsMember] }
  ext := by simp [members, textMember, objectsMember, CodecAbility.ext_iff]
  written _ := rfl

/-- An input comes back. -/
def InComesBack (kind : CodecKind I O) (lib : AbilityReader) (x : I) : Prop :=
  objectFromJson kind.ins lib kind.newIn (objectToJson kind.ins x) = x

theorem codec_comesBack_iff {c : CodecAbility I O} (hname : c.name ≠ "") :
    objectFromJson (kind.members newOut) lib {} (kind.codecToJson c) = c ↔
      lib.TextFits c.name ∧
        (lib.LengthFits c.ins.length ∧ ∀ j (h : j < c.ins.length), kind.InComesBack lib c.ins[j]) ∧
        lib.LengthFits c.outs.length ∧ ∀ j (h : j < c.outs.length),
          objectFromJson kind.outs lib (newOut j) (objectToJson kind.outs c.outs[j]) =
            c.outs[j] := by
  have hdiffers : ∀ f ∈ kind.members newOut lib, f.Stops c → f.get {} ≠ f.get c := by
    simp only [members, List.forall_mem_cons, List.not_mem_nil, false_imp_iff, implies_true,
      and_true]
    exact ⟨fun _ heq => hname heq.symm, objectsMember_stops, objectsMember_stops⟩
  have hwritten : kind.codecToJson c = objectToJson (kind.members newOut) c := rfl
  rw [hwritten, (lawful newOut lib).objectFromJson_iff hdiffers]
  simp only [members, List.forall_mem_cons, List.not_mem_nil, false_imp_iff, implies_true, and_true]
  rw [textMember_carries_iff hname, objectsMember_carries_iff, objectsMember_carries_iff]
  rfl

theorem listFromJson_listToJson (newOut : ℕ → ℕ → O) (key : String)
    (objs : List (CodecAbility I O)) :
    kind.listFromJson newOut lib key (kind.listToJson key objs) =
      (objs.map kind.codecToJson).mapIdx fun i item =>
        objectFromJson (kind.members (newOut i)) lib {} item := by
  have hfind : lib.find (kind.listToJson key objs) (cStr key) =
      some (.array (objs.map kind.codecToJson)) := by
    cases lib <;> simp [find, listToJson, getObjectItem, getObjectItemCaseSensitive]
  simp only [listFromJson, hfind]

end CodecKind

/-- What fits of a codec, where `ins` and `outs` say what fits of its inputs and outputs. -/
structure CodecAbility.Fits {I O : Type} (lib : AbilityReader) (ins : I → Prop) (outs : O → Prop)
    (c : CodecAbility I O) : Prop where
  name : lib.TextFits c.name
  insLength : lib.LengthFits c.ins.length
  ins : ∀ x ∈ c.ins, ins x
  outsLength : lib.LengthFits c.outs.length
  outs : ∀ x ∈ c.outs, outs x

/-- The codec and its inputs and outputs have names. -/
structure CodecAbility.Named {I O : Type} (inMime : I → String) (outMime : O → String)
    (c : CodecAbility I O) : Prop where
  name : c.name ≠ ""
  ins : ∀ x ∈ c.ins, inMime x ≠ ""
  outs : ∀ x ∈ c.outs, outMime x ≠ ""

namespace CodecKind

variable {I O : Type} {kind : CodecKind I O} {lib : AbilityReader}

/-- A list comes back exactly if each of its codecs fits. -/
theorem comesBack_iff {objs : List (CodecAbility I O)} {ins : I → Prop} {outs : O → Prop}
    (hname : ∀ c ∈ objs, c.name ≠ "")
    (hins : ∀ c ∈ objs, ∀ x ∈ c.ins, kind.InComesBack lib x ↔ ins x)
    (houts : ∀ c ∈ objs, ∀ x ∈ c.outs,
      (∀ new, kind.IsNewOut new →
        objectFromJson kind.outs lib new (objectToJson kind.outs x) = x) ↔ outs x) :
    kind.ComesBack lib objs ↔ ∀ c ∈ objs, c.Fits lib ins outs := by
  have hread : ∀ newOut key, kind.listFromJson newOut lib key (kind.listToJson key objs) = objs ↔
      ∀ i (h : i < objs.length), objectFromJson (kind.members (newOut i)) lib {}
        (kind.codecToJson objs[i]) = objs[i] := fun newOut key => by
    rw [listFromJson_listToJson, mapIdx_map_eq_iff]
  constructor
  · intro hback c hc
    obtain ⟨i, hi, rfl⟩ := List.getElem_of_mem hc
    have hcodec : ∀ new, kind.IsNewOut new → _ := fun new hnew =>
      (codec_comesBack_iff (hname _ hc)).1
        ((hread (fun _ _ => new) "").1 (hback "" (fun _ _ => new) fun _ _ => hnew) i hi)
    obtain ⟨new, hnew⟩ := kind.exists_newOut
    obtain ⟨htext, ⟨hinsLength, hinsAll⟩, houtsLength, -⟩ := hcodec new hnew
    refine ⟨htext, hinsLength, fun x hx => ?_, houtsLength, fun x hx => ?_⟩
    · obtain ⟨j, hj, rfl⟩ := List.getElem_of_mem hx
      exact (hins _ hc _ hx).1 (hinsAll j hj)
    · refine (houts _ hc x hx).1 fun new hnew => ?_
      obtain ⟨j, hj, rfl⟩ := List.getElem_of_mem hx
      exact (hcodec new hnew).2.2.2 j hj
  · intro hfits key newOut hnew
    refine (hread newOut key).2 fun i hi => ?_
    have hc : objs[i] ∈ objs := List.getElem_mem hi
    have hfit := hfits _ hc
    refine (codec_comesBack_iff (hname _ hc)).2
      ⟨hfit.name, ⟨hfit.insLength, fun j hj => ?_⟩, hfit.outsLength, fun j hj => ?_⟩
    · have hx := List.getElem_mem hj
      exact (hins _ hc _ hx).2 (hfit.ins _ hx)
    · have hx := List.getElem_mem hj
      exact (houts _ hc _ hx).2 (hfit.outs _ hx) _ (hnew i j)

/-- Where new outputs are all alike, one read suffices. -/
theorem forall_new_iff {outs : O → Prop} {x new : O} (hnew : ∀ o, kind.IsNewOut o ↔ o = new)
    (h : objectFromJson kind.outs lib new (objectToJson kind.outs x) = x ↔ outs x) :
    (∀ o, kind.IsNewOut o →
      objectFromJson kind.outs lib o (objectToJson kind.outs x) = x) ↔ outs x := by
  rw [← h]
  refine ⟨fun hall => hall new ((hnew new).2 rfl), fun heq o ho => ?_⟩
  rw [(hnew o).1 ho]
  exact heq

end CodecKind

theorem AudioEncoderOut.comesBack_iff {lib : AbilityReader} {x : AudioEncoderOut}
    (h : x.mime ≠ "") :
    (∀ new, CodecKind.AudioEncoder.IsNewOut new →
      objectFromJson AudioEncoderOut.members lib new (objectToJson AudioEncoderOut.members x) = x) ↔
        x.Fits lib := by
  cases lib with
  | parser =>
    refine iff_of_false (fun hall => ?_) id
    have hsame := hall ⟨"", 0, 0, x.aac_stm_fmt + 1⟩ rfl
    have hfmt := aac_stm_fmt_parsed x ⟨"", 0, 0, x.aac_stm_fmt + 1⟩
    rw [hsame] at hfmt
    exact absurd hfmt (by simp)
  | querier =>
    constructor
    · intro hall
      exact (queried_iff h rfl).1 (hall ⟨"", 0, 0, 0⟩ rfl)
    · intro hfits new hnew
      exact (queried_iff h hnew).2 hfits

/-- Lists of codecs of the four kinds come back from a library exactly if each codec fits. -/
theorem abilities_come_back_iff (lib : AbilityReader) (audioEncoders : List AudioEncoder)
    (audioDecoders : List AudioDecoder) (videoEncoders : List VideoEncoder)
    (videoDecoders : List VideoDecoder)
    (haudioEncoders : ∀ c ∈ audioEncoders, c.Named (·.mime) (·.mime))
    (haudioDecoders : ∀ c ∈ audioDecoders, c.Named (·.mime) (·.mime))
    (hvideoEncoders : ∀ c ∈ videoEncoders, c.Named (·.mime) (·.mime))
    (hvideoDecoders : ∀ c ∈ videoDecoders, c.Named (·.mime) (·.mime))
    (hlayouts : ∀ c ∈ audioDecoders, ∀ x ∈ c.ins, ∀ v ∈ x.channel_layout, v.toNat ≤ 2 ^ 53) :
    (CodecKind.AudioEncoder.ComesBack lib audioEncoders ↔
      ∀ c ∈ audioEncoders, c.Fits lib (·.Fits lib) (·.Fits lib)) ∧
    (CodecKind.AudioDecoder.ComesBack lib audioDecoders ↔
      ∀ c ∈ audioDecoders, c.Fits lib (·.Fits lib) (·.Fits lib)) ∧
    (CodecKind.VideoEncoder.ComesBack lib videoEncoders ↔
      ∀ c ∈ videoEncoders, c.Fits lib (·.Fits lib) (·.Fits lib)) ∧
    (CodecKind.VideoDecoder.ComesBack lib videoDecoders ↔
      ∀ c ∈ videoDecoders, c.Fits lib (·.Fits lib) (·.Fits lib)) := by
  refine ⟨?_, ?_, ?_, ?_⟩
  · exact CodecKind.comesBack_iff (fun c hc => (haudioEncoders c hc).name)
      (fun c hc x hx => AudioEncoderIn.comesBack_iff ((haudioEncoders c hc).ins x hx))
      fun c hc x hx => AudioEncoderOut.comesBack_iff ((haudioEncoders c hc).outs x hx)
  · exact CodecKind.comesBack_iff (fun c hc => (haudioDecoders c hc).name)
      (fun c hc x hx => AudioDecoderIn.comesBack_iff ((haudioDecoders c hc).ins x hx)
        (hlayouts c hc x hx))
      fun c hc x hx => CodecKind.forall_new_iff (fun _ => Iff.rfl)
        (AudioDecoderOut.comesBack_iff ((haudioDecoders c hc).outs x hx))
  · exact CodecKind.comesBack_iff (fun c hc => (hvideoEncoders c hc).name)
      (fun c hc x hx => VideoEncoderIn.comesBack_iff ((hvideoEncoders c hc).ins x hx))
      fun c hc x hx => CodecKind.forall_new_iff (fun _ => Iff.rfl)
        (VideoEncoderOut.comesBack_iff ((hvideoEncoders c hc).outs x hx))
  · exact CodecKind.comesBack_iff (fun c hc => (hvideoDecoders c hc).name)
      (fun c hc x hx => VideoDecoderIn.comesBack_iff ((hvideoDecoders c hc).ins x hx))
      fun c hc x hx => CodecKind.forall_new_iff (fun _ => Iff.rfl)
        (VideoDecoderOut.comesBack_iff ((hvideoDecoders c hc).outs x hx))

/-- A decoder of stereo sound. -/
def stereoDecoder : AudioDecoder where
  name := "ffmpegAuDec_aac"
  ins := [{ mime := "audio/mp4a-latm", channel_layout := [3] }]
  outs := [{ mime := "audio/raw", sample_fmt := [5] }]

theorem abilities_come_back_stereo :
    stereoDecoder.ins ≠ [] ∧ CodecKind.AudioDecoder.ComesBack .parser [stereoDecoder] := by
  have hnamed : stereoDecoder.Named (·.mime) (·.mime) := ⟨by decide, by decide, by decide⟩
  have hlayouts : ∀ x ∈ stereoDecoder.ins, ∀ v ∈ x.channel_layout, v.toNat ≤ 2 ^ 53 := by
    simp [stereoDecoder]
  have hins : ∀ x ∈ stereoDecoder.ins, AbilityReader.parser.TextFits x.mime ∧
      AbilityReader.parser.NumbersFit .uint64 x.channel_layout := by
    decide
  have houts : ∀ x ∈ stereoDecoder.outs, AbilityReader.parser.TextFits x.mime ∧
      AbilityReader.parser.NumbersFit .uint8 x.sample_fmt := by
    decide
  have hiff := abilities_come_back_iff .parser [] [stereoDecoder] [] [] nofun
    (by simpa using hnamed) nofun nofun (by simpa using hlayouts)
  refine ⟨by decide, hiff.2.1.2 ?_⟩
  rw [List.forall_mem_singleton]
  exact ⟨by decide, by decide, hins, by decide, houts⟩

/-- An encoder with a stream format. -/
def aacEncoder : AudioEncoder where
  name := "ffmpegAuEnc_aac"
  ins := [{ mime := "audio/raw", sample_rate := [44100] }]
  outs := [{ mime := "audio/mp4a-latm", ad_mpeg_ver := 4, aac_profile := 2, aac_stm_fmt := 6 }]

theorem aac_stm_fmt_lost : ¬CodecKind.AudioEncoder.ComesBack .parser [aacEncoder] := by
  intro hback
  have hread := hback "audioEncoders" (fun _ _ => ⟨"", 0, 0, 0⟩) fun _ _ => rfl
  exact absurd hread (by decide)

end DHFwk
