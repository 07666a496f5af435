import DHFwk.Text
import Mathlib.Data.List.Induction

/-!
# The items of a buffer

A buffer goes into the pipeline, and comes out of it, with the items of its meta. They are texts on
the one side and fields on the other.

The fields are read through one variable. A missing item leaves the variable as it is, and so the
field gets the number of the item that was read before. Each field keeps to itself if no present
item stands before a missing one, or the last one before it counts as 0 there; only the first block
of the data is taken along (`keepsItems_iff`).
-/

set_option linter.unusedSectionVars false

namespace DHFwk

namespace BufferItems

abbrev BUFFER_MAX_CAPACITY : ℕ := 104857600

inductive MetaType
  | audio
  | video
  deriving DecidableEq, Repr

/-- The tags that are converted, and the code of any other. -/
inductive AVTransTag
  | BUFFER_DATA_TYPE
  | PRE_TIMESTAMP
  | AUDIO_SAMPLE_RATE
  | AUDIO_SAMPLE_FORMAT
  | VIDEO_WIDTH
  | VIDEO_HEIGHT
  | VIDEO_PIXEL_FORMAT
  | other (code : UInt32)
  deriving DecidableEq, Repr

/-- `BufferMeta` of the transport. -/
structure TransBufferMeta where
  type_ : MetaType
  tagMap_ : AVTransTag → Option String := fun _ => none

/-- A block of data, by its address. -/
structure BufferData where
  capacity_ : ℕ
  size_ : ℕ
  address_ : Option ℕ
  deriving DecidableEq, Repr

/-- A buffer of the transport. Blocks that are too large are never added to it. -/
structure AVTransBuffer where
  data_ : List BufferData
  meta_ : TransBufferMeta
  capacity_le : ∀ data ∈ data_, data.capacity_ ≤ BUFFER_MAX_CAPACITY

/-- `AVTransAudioBufferMeta`, the fields that are converted. A sample format has 8 bits. -/
structure AVTransAudioBufferMeta where
  dataType_ : UInt32
  format_ : UInt8
  sampleRate_ : UInt32
  deriving DecidableEq, Repr

/-- `AVTransVideoBufferMeta`, the fields that are converted. -/
structure AVTransVideoBufferMeta where
  dataType_ : UInt32
  format_ : UInt32
  width_ : UInt32
  height_ : UInt32
  pts_ : Int64 := 0
  deriving DecidableEq, Repr

inductive HiSBufferMeta
  | audio (hisAMeta : AVTransAudioBufferMeta)
  | video (hisVMeta : AVTransVideoBufferMeta)
  deriving DecidableEq, Repr

/-- A buffer of the pipeline : its memories, its meta and its time. -/
structure HiSBuffer where
  data : List BufferData
  bufferMeta : HiSBufferMeta
  pts : Int64 := 0
  deriving DecidableEq, Repr

/-! ## The code -/

/-- `GetMetaItem` : what is in the variable behind it. -/
def getMetaItem (transMeta : TransBufferMeta) (tag : AVTransTag) (value : String) : String :=
  (transMeta.tagMap_ tag).getD value

/-- `SetMetaItem`. -/
def setMetaItem (tag : AVTransTag) (value : String) (transMeta : TransBufferMeta) :
    TransBufferMeta :=
  { transMeta with tagMap_ := Function.update transMeta.tagMap_ tag (some value) }

/-- `static_cast<uint32_t>(std::atoi(value.c_str()))`. -/
def number (value : String) : UInt32 := (Text.atoi value).toUInt32

/-- `Convert2HiSBufferMeta`, with the memories that the buffer has. -/
def convert2HiSBufferMeta (transMeta : TransBufferMeta) (data : List BufferData) : HiSBuffer :=
  match transMeta.type_ with
  | .audio =>
    let value := ""
    let value := getMetaItem transMeta .BUFFER_DATA_TYPE value
    let dataType_ := number value
    let value := getMetaItem transMeta .AUDIO_SAMPLE_FORMAT value
    let format_ := (number value).toUInt8
    let value := getMetaItem transMeta .AUDIO_SAMPLE_RATE value
    let sampleRate_ := number value
    { data, bufferMeta := .audio { dataType_, format_, sampleRate_ } }
  | .video =>
    let value := ""
    let value := getMetaItem transMeta .BUFFER_DATA_TYPE value
    let dataType_ := number value
    let value := getMetaItem transMeta .VIDEO_PIXEL_FORMAT value
    let format_ := number value
    let value := getMetaItem transMeta .VIDEO_WIDTH value
    let width_ := number value
    let value := getMetaItem transMeta .VIDEO_HEIGHT value
    let height_ := number value
    let value := getMetaItem transMeta .PRE_TIMESTAMP value
    match Text.fromChars value with
    | some num =>
      { data, bufferMeta := .video { dataType_, format_, width_, height_, pts_ := num }, pts := num }
    | none => { data, bufferMeta := .video { dataType_, format_, width_, height_ } }

/-- `TransBuffer2HiSBuffer`. -/
def transBuffer2HiSBuffer (transBuffer : AVTransBuffer) : Option HiSBuffer :=
  match transBuffer.data_ with
  | [] => none
  | data :: _ => some (convert2HiSBufferMeta transBuffer.meta_ [data])

/-- `Convert2TransBufferMeta`. -/
def convert2TransBufferMeta (hisBuffer : HiSBuffer) : TransBufferMeta :=
  match hisBuffer.bufferMeta with
  | .audio hisAMeta =>
    let transAMeta : TransBufferMeta := { type_ := .audio }
    let transAMeta := setMetaItem .BUFFER_DATA_TYPE hisAMeta.dataType_.toNat.repr transAMeta
    let transAMeta := setMetaItem .AUDIO_SAMPLE_FORMAT hisAMeta.format_.toNat.repr transAMeta
    setMetaItem .AUDIO_SAMPLE_RATE hisAMeta.sampleRate_.toNat.repr transAMeta
  | .video hisVMeta =>
    let transVMeta : TransBufferMeta := { type_ := .video }
    let transVMeta := setMetaItem .BUFFER_DATA_TYPE hisVMeta.dataType_.toNat.repr transVMeta
    let transVMeta := setMetaItem .VIDEO_PIXEL_FORMAT hisVMeta.format_.toNat.repr transVMeta
    let transVMeta := setMetaItem .VIDEO_WIDTH hisVMeta.width_.toNat.repr transVMeta
    let transVMeta := setMetaItem .VIDEO_HEIGHT hisVMeta.height_.toNat.repr transVMeta
    setMetaItem .PRE_TIMESTAMP hisVMeta.pts_.toInt.repr transVMeta

/-- `WrapBufferData`, for a buffer without data. -/
def wrapBufferData (data : BufferData) : List BufferData :=
  if BUFFER_MAX_CAPACITY < data.capacity_ then [] else [data]

theorem capacity_le_wrapBufferData (memory : BufferData) :
    ∀ data ∈ wrapBufferData memory, data.capacity_ ≤ BUFFER_MAX_CAPACITY := by
  unfold wrapBufferData
  split_ifs with hcapacity
  · exact fun _ h => absurd h List.not_mem_nil
  · intro data hdata
    rw [List.mem_singleton.1 hdata]
    exact not_lt.1 hcapacity

/-- `HiSBuffer2TransBuffer`. -/
def hiSBuffer2TransBuffer (hisBuffer : HiSBuffer) : Option AVTransBuffer :=
  match hisBuffer.data with
  | [] => none
  | memory :: _ => some
    { data_ := wrapBufferData memory
      meta_ := convert2TransBufferMeta hisBuffer
      capacity_le := capacity_le_wrapBufferData memory }

/-! ## What it is for -/

/-- The tags of a meta, in the order in which they are read. -/
def tags : MetaType → List AVTransTag
  | .audio => [.BUFFER_DATA_TYPE, .AUDIO_SAMPLE_FORMAT, .AUDIO_SAMPLE_RATE]
  | .video => [.BUFFER_DATA_TYPE, .VIDEO_PIXEL_FORMAT, .VIDEO_WIDTH, .VIDEO_HEIGHT, .PRE_TIMESTAMP]

/-- The field of a tag. -/
def field (hisBuffer : HiSBuffer) (tag : AVTransTag) : ℤ :=
  match hisBuffer.bufferMeta, tag with
  | .audio hisAMeta, .BUFFER_DATA_TYPE => hisAMeta.dataType_.toNat
  | .audio hisAMeta, .AUDIO_SAMPLE_FORMAT => hisAMeta.format_.toNat
  | .audio hisAMeta, .AUDIO_SAMPLE_RATE => hisAMeta.sampleRate_.toNat
  | .video hisVMeta, .BUFFER_DATA_TYPE => hisVMeta.dataType_.toNat
  | .video hisVMeta, .VIDEO_PIXEL_FORMAT => hisVMeta.format_.toNat
  | .video hisVMeta, .VIDEO_WIDTH => hisVMeta.width_.toNat
  | .video hisVMeta, .VIDEO_HEIGHT => hisVMeta.height_.toNat
  | .video hisVMeta, .PRE_TIMESTAMP => hisVMeta.pts_.toInt
  | _, _ => 0

/-- The number of an item. -/
def item (transMeta : TransBufferMeta) (tag : AVTransTag) : Option ℤ :=
  (transMeta.tagMap_ tag).bind Text.decimal?

/-- The numbers that a field can have, and `atoi` can read. -/
def Fits (tag : AVTransTag) (n : ℤ) : Prop :=
  match tag with
  | .AUDIO_SAMPLE_FORMAT => 0 ≤ n ∧ n < 256
  | .PRE_TIMESTAMP => -9223372036854775808 ≤ n ∧ n < 9223372036854775808
  | _ => 0 ≤ n ∧ n < 2147483648

/-- The items are decimal numbers in range. -/
def InRange (transMeta : TransBufferMeta) : Prop :=
  ∀ tag ∈ tags transMeta.type_, ∀ text, transMeta.tagMap_ tag = some text →
    ∃ n, Text.decimal? text = some n ∧ Fits tag n

/-- The buffer without items. -/
def plain (transBuffer : AVTransBuffer) : AVTransBuffer :=
  { transBuffer with meta_ := { type_ := transBuffer.meta_.type_ } }

/-- Each field has the value of its own item, and without one it has what it has in a buffer without
items. All items come back, with the bytes. -/
structure KeepsItems (transBuffer : AVTransBuffer) (hisBuffer : HiSBuffer) : Prop where
  own : ∀ tag ∈ tags transBuffer.meta_.type_, ∀ n, item transBuffer.meta_ tag = some n →
    field hisBuffer tag = n
  missing : ∀ tag ∈ tags transBuffer.meta_.type_, transBuffer.meta_.tagMap_ tag = none →
    ∀ hisBuffer' ∈ transBuffer2HiSBuffer (plain transBuffer),
      field hisBuffer tag = field hisBuffer' tag
  pts : hisBuffer.pts = Int64.ofInt (field hisBuffer .PRE_TIMESTAMP)
  back : ∃ transBuffer' ∈ hiSBuffer2TransBuffer hisBuffer,
    transBuffer'.data_ = transBuffer.data_ ∧
      transBuffer'.meta_.type_ = transBuffer.meta_.type_ ∧
        ∀ tag ∈ tags transBuffer.meta_.type_, ∀ n, item transBuffer.meta_ tag = some n →
          item transBuffer'.meta_ tag = some n ∧
            (transBuffer.meta_.tagMap_ tag = some n.repr →
              transBuffer'.meta_.tagMap_ tag = some n.repr)

/-- The tags that are read before a tag. -/
def before (type_ : MetaType) (tag : AVTransTag) : List AVTransTag :=
  (tags type_).takeWhile (· ≠ tag)

/-- What the field of a tag makes of a number. -/
def cut (tag : AVTransTag) (n : ℤ) : ℤ :=
  match tag with
  | .AUDIO_SAMPLE_FORMAT => n % 256
  | _ => n

/-- For each missing item, the last one that is present before it counts as 0, if there is one. -/
def Clean (transMeta : TransBufferMeta) : Prop :=
  ∀ tag ∈ tags transMeta.type_, transMeta.tagMap_ tag = none →
    ∀ n ∈ ((before transMeta.type_ tag).filterMap (item transMeta)).getLast?, cut tag n = 0

/-! ## Reading a number -/

section Proofs

variable {transMeta : TransBufferMeta} {transBuffer : AVTransBuffer} {hisBuffer : HiSBuffer}
variable {tag : AVTransTag} {text : String} {n : ℤ}

/-- What the field of a tag reads from a text. -/
def reading (tag : AVTransTag) (text : String) : ℤ :=
  match tag with
  | .PRE_TIMESTAMP => ((Text.fromChars text).getD 0).toInt
  | .AUDIO_SAMPLE_FORMAT => (number text).toUInt8.toNat
  | _ => (number text).toNat

theorem number_of_decimal (h : Text.decimal? text = some n) (hmin : 0 ≤ n) (hmax : n < 2147483648) :
    ((number text).toNat : ℤ) = n := by
  rw [number, Text.atoi, Text.atoll_of_decimal h, Int64.toInt32_ofInt, ← Int32.toNat_toBitVec,
    Int32.toBitVec_ofInt]
  simp only [BitVec.toNat_ofInt]
  omega

/-- A small number is read as it is, but for the width of the field. -/
theorem reading_of_decimal (h : Text.decimal? text = some n) (hmin : 0 ≤ n) (hmax : n < 2147483648) :
    reading tag text = cut tag n := by
  have hnumber := number_of_decimal h hmin hmax
  cases tag with
  | PRE_TIMESTAMP =>
    have hpts : Text.fromChars text = some (Int64.ofInt n) :=
      Text.fromChars_of_decimal h (by omega) (by omega)
    rw [reading, hpts, Option.getD_some, Int64.toInt_ofInt_of_le (by omega) (by omega)]
    rfl
  | AUDIO_SAMPLE_FORMAT =>
    rw [reading, UInt32.toNat_toUInt8, cut, ← hnumber]
    rfl
  | _ => exact hnumber

/-- An item in range is read as it is. -/
theorem reading_own (h : Text.decimal? text = some n) (hfits : Fits tag n) :
    reading tag text = n := by
  cases tag with
  | PRE_TIMESTAMP =>
    have hpts : Text.fromChars text = some (Int64.ofInt n) :=
      Text.fromChars_of_decimal h hfits.1 hfits.2
    rw [reading, hpts, Option.getD_some, Int64.toInt_ofInt_of_le hfits.1 hfits.2]
  | AUDIO_SAMPLE_FORMAT =>
    obtain ⟨hmin, hmax⟩ := hfits
    rw [reading_of_decimal h hmin (by omega), cut, Int.emod_eq_of_lt hmin hmax]
  | _ =>
    rw [reading_of_decimal h hfits.1 hfits.2]
    rfl

theorem reading_empty (tag : AVTransTag) : reading tag "" = 0 := by
  have hnumber : number "" = 0 := by decide
  have hpts : Text.fromChars "" = none := by decide
  cases tag with
  | PRE_TIMESTAMP =>
    rw [reading, hpts]
    rfl
  | AUDIO_SAMPLE_FORMAT =>
    rw [reading, hnumber]
    rfl
  | _ => exact congrArg (fun k : UInt32 => (k.toNat : ℤ)) hnumber

/-! ## One variable for all items -/

/-- The variable after some items. -/
def scratch (transMeta : TransBufferMeta) (tags : List AVTransTag) : String :=
  tags.foldl (fun value tag => getMetaItem transMeta tag value) ""

theorem scratch_concat (ts : List AVTransTag) (tag : AVTransTag) :
    scratch transMeta (ts ++ [tag]) = (transMeta.tagMap_ tag).getD (scratch transMeta ts) :=
  List.foldl_concat _ _ _ _

/-- The variable has the last item that is present, if there is one. -/
theorem scratch_cases (hrange : InRange transMeta) (ts : List AVTransTag)
    (hts : ∀ tag ∈ ts, tag ∈ tags transMeta.type_) :
    ((ts.filterMap (item transMeta)).getLast? = none ∧ scratch transMeta ts = "") ∨
      ∃ tag ∈ ts, ∃ n, (ts.filterMap (item transMeta)).getLast? = some n ∧
        Text.decimal? (scratch transMeta ts) = some n ∧ Fits tag n := by
  induction ts using List.reverseRecOn with
  | nil => exact .inl ⟨rfl, rfl⟩
  | append_singleton ts tag ih =>
    rw [scratch_concat, List.filterMap_append]
    cases htext : transMeta.tagMap_ tag with
    | none =>
      have hitem : [tag].filterMap (item transMeta) = [] := by simp [item, htext]
      rw [hitem, List.append_nil, Option.getD_none]
      refine (ih fun t ht => hts t (List.mem_append_left _ ht)).imp id ?_
      exact fun ⟨t, ht, hn⟩ => ⟨t, List.mem_append_left _ ht, hn⟩
    | some text =>
      have hmem : tag ∈ ts ++ [tag] := List.mem_append_right _ (List.mem_singleton_self _)
      obtain ⟨n, hn, hfits⟩ := hrange tag (hts tag hmem) text htext
      have hitem : [tag].filterMap (item transMeta) = [n] := by simp [item, htext, hn]
      rw [hitem, List.getLast?_concat]
      exact .inr ⟨tag, hmem, n, rfl, hn, hfits⟩

/-- The field of a tag is read from its own item, or from what the variable has before it. -/
theorem field_eq (htag : tag ∈ tags transMeta.type_) (data : List BufferData) :
    field (convert2HiSBufferMeta transMeta data) tag =
      reading tag (getMetaItem transMeta tag (scratch transMeta (before transMeta.type_ tag))) := by
  unfold convert2HiSBufferMeta
  cases htype : transMeta.type_ with
  | audio =>
    rw [htype] at htag
    simp only [tags, List.mem_cons, List.not_mem_nil, or_false] at htag
    rcases htag with rfl | rfl | rfl <;> rfl
  | video =>
    rw [htype] at htag
    simp only [tags, List.mem_cons, List.not_mem_nil, or_false] at htag
    dsimp only
    split
    · next num hpts =>
      rcases htag with rfl | rfl | rfl | rfl | rfl
      · rfl
      · rfl
      · rfl
      · rfl
      · exact congrArg (fun pts => (pts.getD 0).toInt) hpts.symm
    · next hpts =>
      rcases htag with rfl | rfl | rfl | rfl | rfl
      · rfl
      · rfl
      · rfl
      · rfl
      · exact congrArg (fun pts => (pts.getD 0).toInt) hpts.symm

theorem pts_eq (data : List BufferData) :
    (convert2HiSBufferMeta transMeta data).pts =
      Int64.ofInt (field (convert2HiSBufferMeta transMeta data) .PRE_TIMESTAMP) := by
  unfold convert2HiSBufferMeta
  cases transMeta.type_ with
  | audio => rfl
  | video =>
    dsimp only
    split
    · exact (Int64.ofInt_toInt _).symm
    · rfl

theorem before_subset {type_ : MetaType} {t : AVTransTag} (h : t ∈ before type_ tag) :
    t ∈ tags type_ :=
  (List.takeWhile_sublist _).subset h

/-- The time is the last item that is read. -/
theorem ne_of_mem_before {type_ : MetaType} {t : AVTransTag} (htag : tag ∈ tags type_)
    (h : t ∈ before type_ tag) : t ≠ .PRE_TIMESTAMP := by
  rintro rfl
  cases type_ with
  | audio => exact absurd (before_subset h) (by decide)
  | video =>
    simp only [tags, List.mem_cons, List.not_mem_nil, or_false] at htag
    revert h
    rcases htag with rfl | rfl | rfl | rfl | rfl <;> decide

theorem Fits.of_ne (h : Fits tag n) (hne : tag ≠ .PRE_TIMESTAMP) : 0 ≤ n ∧ n < 2147483648 := by
  cases tag with
  | PRE_TIMESTAMP => exact absurd rfl hne
  | AUDIO_SAMPLE_FORMAT =>
    obtain ⟨hmin, hmax⟩ := h
    exact ⟨hmin, by omega⟩
  | _ => exact h

theorem field_own (hrange : InRange transMeta) (htag : tag ∈ tags transMeta.type_)
    (hitem : item transMeta tag = some n) (data : List BufferData) :
    field (convert2HiSBufferMeta transMeta data) tag = n := by
  obtain ⟨text, htext, hn⟩ := Option.bind_eq_some_iff.1 hitem
  obtain ⟨m, hm, hfits⟩ := hrange tag htag text htext
  obtain rfl : n = m := Option.some.inj (hn.symm.trans hm)
  rw [field_eq htag, getMetaItem, htext, Option.getD_some, reading_own hn hfits]

/-- Without items, all fields are 0. -/
theorem field_plain {type_ : MetaType} (htag : tag ∈ tags type_) (data : List BufferData) :
    field (convert2HiSBufferMeta { type_ } data) tag = 0 := by
  have hscratch : ∀ ts, scratch { type_ } ts = "" := fun ts => by
    induction ts using List.reverseRecOn with
    | nil => rfl
    | append_singleton ts t ih =>
      rw [scratch_concat, ih]
      rfl
  rw [field_eq htag, hscratch]
  exact reading_empty tag

/-- A field without an item is 0 if what is left in the variable counts as 0. -/
theorem field_missing_iff (hrange : InRange transMeta) (htag : tag ∈ tags transMeta.type_)
    (hmissing : transMeta.tagMap_ tag = none) (data : List BufferData) :
    field (convert2HiSBufferMeta transMeta data) tag = 0 ↔
      ∀ n ∈ ((before transMeta.type_ tag).filterMap (item transMeta)).getLast?, cut tag n = 0 := by
  rw [field_eq htag, getMetaItem, hmissing, Option.getD_none]
  rcases scratch_cases hrange _ fun t ht => before_subset ht with ⟨hlast, hempty⟩ |
    ⟨t, ht, n, hlast, hn, hfits⟩
  · rw [hlast, hempty, reading_empty]
    exact iff_of_true rfl fun n hn => nomatch hn
  · obtain ⟨hmin, hmax⟩ := hfits.of_ne (ne_of_mem_before htag ht)
    rw [hlast, reading_of_decimal hn hmin hmax]
    exact ⟨fun h m hm => Option.some.inj hm ▸ h, fun h => h n rfl⟩

/-! ## The way back -/

theorem tagMap_back (htag : tag ∈ tags (convert2TransBufferMeta hisBuffer).type_) :
    (convert2TransBufferMeta hisBuffer).tagMap_ tag = some (field hisBuffer tag).repr := by
  obtain ⟨data, bufferMeta, pts⟩ := hisBuffer
  cases bufferMeta with
  | audio hisAMeta =>
    change tag ∈ tags .audio at htag
    simp only [tags, List.mem_cons, List.not_mem_nil, or_false] at htag
    rcases htag with rfl | rfl | rfl <;> rfl
  | video hisVMeta =>
    change tag ∈ tags .video at htag
    simp only [tags, List.mem_cons, List.not_mem_nil, or_false] at htag
    rcases htag with rfl | rfl | rfl | rfl | rfl <;> rfl

theorem type_back (data : List BufferData) :
    (convert2TransBufferMeta (convert2HiSBufferMeta transMeta data)).type_ = transMeta.type_ := by
  unfold convert2HiSBufferMeta
  cases transMeta.type_ with
  | audio => rfl
  | video =>
    dsimp only
    split <;> rfl

/-- A present item comes back with its number, and so with its text if that is the usual one. -/
theorem item_back (hrange : InRange transMeta) (htag : tag ∈ tags transMeta.type_)
    (hitem : item transMeta tag = some n) (data : List BufferData) :
    (convert2TransBufferMeta (convert2HiSBufferMeta transMeta data)).tagMap_ tag =
      some n.repr := by
  rw [tagMap_back (by rwa [type_back]), field_own hrange htag hitem]

/-- Only the first block is taken along. -/
theorem convert_of_cons {data : BufferData} {rest : List BufferData}
    (hdata : transBuffer.data_ = data :: rest) :
    transBuffer2HiSBuffer transBuffer =
      some (convert2HiSBufferMeta transBuffer.meta_ [data]) := by
  unfold transBuffer2HiSBuffer
  split
  · next hnil => exact absurd (hnil.symm.trans hdata) (List.cons_ne_nil _ _).symm
  · next hcons =>
    obtain ⟨rfl, -⟩ := List.cons.inj (hcons.symm.trans hdata)
    rfl

theorem data_convert (data : List BufferData) :
    (convert2HiSBufferMeta transMeta data).data = data := by
  unfold convert2HiSBufferMeta
  cases transMeta.type_ with
  | audio => rfl
  | video =>
    dsimp only
    split <;> rfl

end Proofs

/-- **Each field keeps to itself.** -/
theorem keepsItems_iff (transBuffer : AVTransBuffer) (hrange : InRange transBuffer.meta_)
    (hisBuffer : HiSBuffer) (hconvert : transBuffer2HiSBuffer transBuffer = some hisBuffer) :
    KeepsItems transBuffer hisBuffer ↔
      Clean transBuffer.meta_ ∧ transBuffer.data_.length = 1 := by
  cases hdata : transBuffer.data_ with
  | nil =>
    rw [transBuffer2HiSBuffer, hdata] at hconvert
    cases hconvert
  | cons data rest =>
    obtain rfl := Option.some.inj ((convert_of_cons hdata).symm.trans hconvert)
    have hplain : transBuffer2HiSBuffer (plain transBuffer) =
        some (convert2HiSBufferMeta { type_ := transBuffer.meta_.type_ } [data]) :=
      convert_of_cons hdata
    have hwrap : wrapBufferData data = [data] :=
      if_neg (transBuffer.capacity_le data (hdata ▸ List.mem_cons_self)).not_gt
    constructor
    · intro h
      refine ⟨fun tag htag hmissing => ?_, ?_⟩
      · refine (field_missing_iff hrange htag hmissing [data]).1 ?_
        rw [h.missing tag htag hmissing _ hplain, field_plain htag]
      · obtain ⟨transBuffer', hback, hbytes, -⟩ := h.back
        rw [hiSBuffer2TransBuffer, data_convert] at hback
        obtain rfl := Option.some.inj hback
        rw [← hdata, ← hbytes]
        exact congrArg List.length hwrap
    · rintro ⟨hclean, hlength⟩
      obtain rfl : rest = [] := List.length_eq_zero_iff.1 (Nat.succ.inj hlength)
      have hback := @item_back transBuffer.meta_
      refine ⟨fun tag htag n hn => field_own hrange htag hn _, ?_, pts_eq _, ?_⟩
      · intro tag htag hmissing hisBuffer' hhis
        obtain rfl := Option.some.inj (hplain.symm.trans hhis)
        rw [field_plain htag]
        exact (field_missing_iff hrange htag hmissing [data]).2 (hclean tag htag hmissing)
      · refine ⟨_, by rw [hiSBuffer2TransBuffer, data_convert]; rfl, hwrap.trans hdata.symm,
          type_back _, fun tag htag n hn => ⟨?_, fun _ => hback hrange htag hn _⟩⟩
        change ((convert2TransBufferMeta _).tagMap_ tag).bind Text.decimal? = some n
        rw [hback hrange htag hn]
        exact Text.decimal_intRepr n

/-- A frame of 640 by 480, which may have a time. -/
def screen (time : Option ℤ) : AVTransBuffer where
  data_ := [⟨10, 10, some 1⟩]
  meta_ :=
    { type_ := .video
      tagMap_ := fun tag => match tag with
        | .BUFFER_DATA_TYPE => some (1 : ℤ).repr
        | .VIDEO_PIXEL_FORMAT => some (3 : ℤ).repr
        | .VIDEO_WIDTH => some (640 : ℤ).repr
        | .VIDEO_HEIGHT => some (480 : ℤ).repr
        | .PRE_TIMESTAMP => time.map Int.repr
        | _ => none }
  capacity_le := by decide

theorem inRange_screen (time : Option ℤ) (htime : ∀ n ∈ time, Fits .PRE_TIMESTAMP n) :
    InRange (screen time).meta_ := by
  intro tag htag text htext
  change tag ∈ tags .video at htag
  simp only [tags, List.mem_cons, List.not_mem_nil, or_false] at htag
  rcases htag with rfl | rfl | rfl | rfl | rfl
  · exact ⟨1, Option.some.inj htext ▸ Text.decimal_intRepr _, by decide, by decide⟩
  · exact ⟨3, Option.some.inj htext ▸ Text.decimal_intRepr _, by decide, by decide⟩
  · exact ⟨640, Option.some.inj htext ▸ Text.decimal_intRepr _, by decide, by decide⟩
  · exact ⟨480, Option.some.inj htext ▸ Text.decimal_intRepr _, by decide, by decide⟩
  · obtain ⟨n, hn, rfl⟩ := Option.map_eq_some_iff.1 htext
    exact ⟨n, Text.decimal_intRepr n, htime n hn⟩

/-- With all of its items. -/
theorem keepsItems_screen :
    KeepsItems (screen (some 40))
      (convert2HiSBufferMeta (screen (some 40)).meta_ [⟨10, 10, some 1⟩]) := by
  have hrange : InRange (screen (some 40)).meta_ :=
    inRange_screen (some 40) fun n hn => by
      obtain rfl := Option.some.inj hn
      exact ⟨by decide, by decide⟩
  refine (keepsItems_iff (screen (some 40)) hrange _ rfl).2 ⟨fun tag htag hmissing => ?_, rfl⟩
  change tag ∈ tags .video at htag
  simp only [tags, List.mem_cons, List.not_mem_nil, or_false] at htag
  rcases htag with rfl | rfl | rfl | rfl | rfl <;> cases hmissing

/-- A frame without a time gets its height as its time. -/
theorem not_keepsItems : ¬∀ (transBuffer : AVTransBuffer) (hisBuffer : HiSBuffer),
    InRange transBuffer.meta_ → transBuffer2HiSBuffer transBuffer = some hisBuffer →
      KeepsItems transBuffer hisBuffer := by
  intro h
  have hrange : InRange (screen none).meta_ := inRange_screen none fun n hn => nomatch hn
  have htag : AVTransTag.PRE_TIMESTAMP ∈ tags (screen none).meta_.type_ := by decide
  have hkeeps := h (screen none) _ hrange rfl
  have htime := hkeeps.missing .PRE_TIMESTAMP htag rfl _ rfl
  have hzero := (field_missing_iff hrange htag rfl [⟨10, 10, some 1⟩]).1
    (htime.trans (field_plain htag _))
  exact absurd (hzero 480 (by decide)) (by decide)

end BufferItems

end DHFwk
