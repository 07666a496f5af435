import DHFwk.Json

/-!
# Metadata of video frames

What a video frame carries besides its data travels as a JSON text inside a JSON text : the
presentation time, the frame number, and the time and number of the frame of another stream, if
they are set. The receiver checks `valuedouble`, and reads `valueint`, which has 32 bits.

So a frame keeps its metadata exactly if none of the four is above `INT32_MAX`
(`frame_survives_iff`); a time in nanoseconds is cut after two seconds.
-/

set_option linter.unusedSectionVars false

namespace DHFwk

open Json

abbrev META_DATA_TYPE : String := "meta_data_type"
abbrev META_TIMESTAMP : String := "meta_timestamp"
abbrev META_FRAME_NUMBER : String := "meta_frame_number"
abbrev META_EXT_TIMESTAMP : String := "meta_ext_timestamp"
abbrev META_EXT_FRAME_NUMBER : String := "meta_ext_frame_number"
abbrev AVT_DATA_META_TYPE : String := "avtrans_data_meta_type"
abbrev AVT_DATA_PARAM : String := "avtrans_data_param"

abbrev UINT32_MAX : ℤ := 4294967295
abbrev INT64_MAX : ℤ := 9223372036854775807
abbrev INT64_MIN : ℤ := -9223372036854775808

/-- Integers up to here are kept by `valuedouble`. -/
abbrev MAX_EXACT : ℤ := 2 ^ 53

namespace AVTransUtils

/-- `IsUInt32`. -/
def isUInt32 (jsonObj : Json) (key : String) : Bool :=
  match jsonObj.getObjectItemCaseSensitive key with
  | some (.number n) => 0 ≤ (Json.number n).valueint ∧ (Json.number n).valueint ≤ UINT32_MAX
  | _ => false

/-- `IsInt64`, which looks at `valuedouble`. -/
def isInt64 (jsonObj : Json) (key : String) : Bool :=
  match jsonObj.getObjectItemCaseSensitive key with
  | some (.number n) => n ≤ INT64_MAX ∧ INT64_MIN ≤ n
  | _ => false

end AVTransUtils

/-- `valueint` of a member, 0 if there is none. -/
def memberInt (jsonObj : Json) (key : String) : ℤ :=
  ((jsonObj.getObjectItemCaseSensitive key).map Json.valueint).getD 0

/-! ## Numbers -/

/-- A number of 64 bits, written and read as `valueint`. -/
def cut64 (n : Int64) : Int64 :=
  Int64.ofInt (Json.number n.toInt).valueint

/-- A number of 32 bits, written and read as `valueint`. -/
def cut32 (n : UInt32) : UInt32 :=
  UInt32.ofNat (Json.number n.toNat).valueint.toNat

theorem toInt_ofInt_valueint (n : ℤ) :
    (Int64.ofInt (Json.number n).valueint).toInt = (Json.number n).valueint := by
  refine Int64.toInt_ofInt_of_le ?_ ?_
  · simp only [valueint, INT32_MIN, INT32_MAX]
    omega
  · exact (valueint_le _).trans_lt (by decide)

theorem toInt_cut64 (n : Int64) : (cut64 n).toInt = (Json.number n.toInt).valueint :=
  toInt_ofInt_valueint n.toInt

theorem toNat_cut32 (n : UInt32) :
    ((cut32 n).toNat : ℤ) = (Json.number n.toNat).valueint := by
  have hnonneg : 0 ≤ (Json.number n.toNat).valueint := valueint_nonneg (Int.natCast_nonneg _)
  have hlt : (Json.number n.toNat).valueint.toNat < UInt32.size :=
    (Int.toNat_lt hnonneg).2 ((valueint_le _).trans_lt (by decide))
  rw [cut32, UInt32.toNat_ofNat_of_lt' hlt, Int.toNat_of_nonneg hnonneg]

/-- A number is read as it was written if it fits. -/
theorem cut64_eq_iff {n : Int64} (h : 0 ≤ n.toInt) : cut64 n = n ↔ n.toInt ≤ INT32_MAX := by
  rw [← Int64.toInt_inj, toInt_cut64]
  refine ⟨fun hcut => ?_, valueint_of_le h⟩
  rw [← hcut]
  exact valueint_le _

theorem cut32_eq_iff {n : UInt32} : cut32 n = n ↔ (n.toNat : ℤ) ≤ INT32_MAX := by
  rw [← UInt32.toNat_inj, ← Int.natCast_inj, toNat_cut32]
  refine ⟨fun hcut => ?_, valueint_of_le (Int.natCast_nonneg _)⟩
  rw [← hcut]
  exact valueint_le _

theorem cut64_pos_iff {n : Int64} (h : 0 ≤ n.toInt) : 0 < (cut64 n).toInt ↔ 0 < n.toInt := by
  rw [toInt_cut64]
  simp only [valueint, INT32_MIN, INT32_MAX]
  omega

theorem cut32_pos_iff {n : UInt32} : 0 < (cut32 n).toNat ↔ 0 < n.toNat := by
  have hcut := toNat_cut32 n
  simp only [valueint, INT32_MIN, INT32_MAX] at hcut
  omega

/-! ## The metadata as a document -/

/-- `BufferDataType::VIDEO_STREAM`. -/
abbrev VIDEO_STREAM : UInt32 := 1

/-- `AVTransVideoBufferMeta`. -/
structure AVTransVideoBufferMeta where
  pts_ : Int64 := 0
  frameNum_ : UInt32 := 0
  extPts_ : Int64 := 0
  extFrameNum_ : UInt32 := 0
  dataType_ : UInt32 := VIDEO_STREAM
  deriving DecidableEq

namespace AVTransVideoBufferMeta

def toJson (m : AVTransVideoBufferMeta) : Json :=
  .object ([(META_DATA_TYPE, .number m.dataType_.toNat), (META_TIMESTAMP, .number m.pts_.toInt),
      (META_FRAME_NUMBER, .number m.frameNum_.toNat)] ++
    (if 0 < m.extPts_.toInt then [(META_EXT_TIMESTAMP, .number m.extPts_.toInt)] else []) ++
    (if 0 < m.extFrameNum_.toNat then [(META_EXT_FRAME_NUMBER, .number m.extFrameNum_.toNat)]
      else []))

def marshalVideoMeta (cJSON : Codec) (m : AVTransVideoBufferMeta) : String :=
  cJSON.printUnformatted m.toJson

/-- The fields that `UnmarshalVideoMeta` reads from a document. -/
def fromJson (metaJson : Json) (m : AVTransVideoBufferMeta) : AVTransVideoBufferMeta where
  dataType_ :=
    if AVTransUtils.isUInt32 metaJson META_DATA_TYPE then
      UInt32.ofNat (memberInt metaJson META_DATA_TYPE).toNat
    else m.dataType_
  pts_ :=
    if AVTransUtils.isInt64 metaJson META_TIMESTAMP then
      Int64.ofInt (memberInt metaJson META_TIMESTAMP)
    else m.pts_
  frameNum_ :=
    if AVTransUtils.isUInt32 metaJson META_FRAME_NUMBER then
      UInt32.ofNat (memberInt metaJson META_FRAME_NUMBER).toNat
    else m.frameNum_
  extPts_ :=
    if AVTransUtils.isInt64 metaJson META_EXT_TIMESTAMP then
      Int64.ofInt (memberInt metaJson META_EXT_TIMESTAMP)
    else m.extPts_
  extFrameNum_ :=
    if AVTransUtils.isUInt32 metaJson META_EXT_FRAME_NUMBER then
      UInt32.ofNat (memberInt metaJson META_EXT_FRAME_NUMBER).toNat
    else m.extFrameNum_

def unmarshalVideoMeta (cJSON : Codec) (jsonStr : String) (m : AVTransVideoBufferMeta) :
    Option AVTransVideoBufferMeta :=
  (cJSON.parse jsonStr).map fun metaJson => fromJson metaJson m

theorem memberInt_of_item {jsonObj : Json} {key : String} {n : ℤ}
    (h : jsonObj.getObjectItemCaseSensitive key = some (.number n)) :
    memberInt jsonObj key = (Json.number n).valueint := by
  rw [memberInt, h]
  rfl

theorem isUInt32_of_item {jsonObj : Json} {key : String} {n : UInt32}
    (h : jsonObj.getObjectItemCaseSensitive key = some (.number n.toNat)) :
    AVTransUtils.isUInt32 jsonObj key = true := by
  rw [AVTransUtils.isUInt32, h]
  exact decide_eq_true ⟨valueint_nonneg (Int.natCast_nonneg _),
    (valueint_le _).trans (by decide)⟩

theorem isInt64_of_item {jsonObj : Json} {key : String} {n : Int64}
    (h : jsonObj.getObjectItemCaseSensitive key = some (.number n.toInt)) :
    AVTransUtils.isInt64 jsonObj key = true := by
  rw [AVTransUtils.isInt64, h]
  exact decide_eq_true ⟨Int.le_of_lt_add_one n.toInt_lt, n.le_toInt⟩

/-- What is read of a document that was written. -/
theorem fromJson_toJson (m : AVTransVideoBufferMeta) :
    fromJson m.toJson {} = {
      pts_ := cut64 m.pts_
      frameNum_ := cut32 m.frameNum_
      extPts_ := if 0 < m.extPts_.toInt then cut64 m.extPts_ else 0
      extFrameNum_ := if 0 < m.extFrameNum_.toNat then cut32 m.extFrameNum_ else 0
      dataType_ := cut32 m.dataType_ } := by
  have htype : m.toJson.getObjectItemCaseSensitive META_DATA_TYPE =
      some (.number m.dataType_.toNat) := rfl
  have hpts : m.toJson.getObjectItemCaseSensitive META_TIMESTAMP =
      some (.number m.pts_.toInt) := rfl
  have hframe : m.toJson.getObjectItemCaseSensitive META_FRAME_NUMBER =
      some (.number m.frameNum_.toNat) := rfl
  have hextPts : m.toJson.getObjectItemCaseSensitive META_EXT_TIMESTAMP =
      if 0 < m.extPts_.toInt then some (.number m.extPts_.toInt) else none := by
    rw [toJson, getObjectItemCaseSensitive]
    split_ifs <;> rfl
  have hextFrame : m.toJson.getObjectItemCaseSensitive META_EXT_FRAME_NUMBER =
      if 0 < m.extFrameNum_.toNat then some (.number m.extFrameNum_.toNat) else none := by
    rw [toJson, getObjectItemCaseSensitive]
    split_ifs <;> rfl
  rw [fromJson, isUInt32_of_item htype, isInt64_of_item hpts, isUInt32_of_item hframe,
    memberInt_of_item htype, memberInt_of_item hpts, memberInt_of_item hframe]
  congr 1
  · by_cases hpos : 0 < m.extPts_.toInt
    · rw [if_pos hpos] at hextPts ⊢
      rw [isInt64_of_item hextPts, memberInt_of_item hextPts]
      rfl
    · rw [if_neg hpos] at hextPts ⊢
      rw [AVTransUtils.isInt64, hextPts]
      rfl
  · by_cases hpos : 0 < m.extFrameNum_.toNat
    · rw [if_pos hpos] at hextFrame ⊢
      rw [isUInt32_of_item hextFrame, memberInt_of_item hextFrame]
      rfl
    · rw [if_neg hpos] at hextFrame ⊢
      rw [AVTransUtils.isUInt32, hextFrame]
      rfl

end AVTransVideoBufferMeta

/-! ## Buffers -/

/-- The meta of a buffer, with the tags that a frame is sent with. -/
structure BufferMeta where
  metaType : UInt32
  USER_FRAME_NUMBER : Option UInt32 := none
  MEDIA_START_TIME : Option Int64 := none
  AUDIO_SAMPLE_PER_FRAME : Option UInt32 := none
  deriving DecidableEq

structure Buffer where
  pts : Int64
  bufferMeta : Option BufferMeta
  memory : Option (List UInt8)
  deriving DecidableEq

/-- The media engine : the code of a video, the buffer that it makes of a type and a capacity, and
how much the memory of such a buffer takes of some data, if there is memory. -/
structure MediaEngine where
  VIDEO : UInt32
  createDefaultBuffer : UInt32 → ℕ → Buffer
  write : ℕ → List UInt8 → Option ℕ

/-- A new buffer has no tags, and takes as much data as it is made for. -/
structure MediaEngine.Regular (media : MediaEngine) : Prop where
  fresh : ∀ metaType capacity,
    (media.createDefaultBuffer metaType capacity).bufferMeta = some { metaType := metaType }
  writes : ∀ data, media.write data.length data = some data.length

/-- The message that goes with a frame. -/
def messageJson (cJSON : Codec) (metaType : UInt32) (m : AVTransVideoBufferMeta) : Json :=
  .object [(AVT_DATA_META_TYPE, .number metaType.toNat),
    (AVT_DATA_PARAM, .string (m.marshalVideoMeta cJSON))]

namespace Buffer

/-- What a buffer is sent with. A tag that is there is read. -/
def hisAMeta (pts : Int64) (frameNum : UInt32) (bufferMeta : BufferMeta) :
    AVTransVideoBufferMeta where
  frameNum_ := frameNum
  pts_ := pts
  extPts_ := bufferMeta.MEDIA_START_TIME.getD 0
  extFrameNum_ := bufferMeta.AUDIO_SAMPLE_PER_FRAME.getD 0

/-- `DsoftbusOutputPlugin::SendDataToSoftbus` : the data and the message that are sent. Without a
frame number the cast fails. -/
def sendDataToSoftbus (media : MediaEngine) (cJSON : Codec) (buffer : Option Buffer) :
    Option (List UInt8 × String) := do
  let buffer ← buffer
  let bufferMeta ← buffer.bufferMeta
  let memory ← buffer.memory
  if bufferMeta.metaType ≠ media.VIDEO then none
  else
    let frameNum ← bufferMeta.USER_FRAME_NUMBER
    some (memory, cJSON.printUnformatted
      (messageJson cJSON bufferMeta.metaType (hisAMeta buffer.pts frameNum bufferMeta)))

/-- The meta that was read is put into a buffer. -/
def setMeta (m : AVTransVideoBufferMeta) (buffer : Buffer) : Buffer where
  pts := m.pts_
  bufferMeta := buffer.bufferMeta.map fun bufferMeta =>
    let bufferMeta := { bufferMeta with USER_FRAME_NUMBER := some m.frameNum_ }
    if 0 < m.extFrameNum_.toNat ∧ 0 < m.extPts_.toInt then
      { bufferMeta with
        MEDIA_START_TIME := some m.extPts_
        AUDIO_SAMPLE_PER_FRAME := some m.extFrameNum_ }
    else bufferMeta
  memory := buffer.memory

/-- `DsoftbusInputPlugin::CreateBuffer`. -/
def createBuffer (media : MediaEngine) (cJSON : Codec) (metaType : UInt32)
    (data : Option (List UInt8)) (resMsg : Json) : Option Buffer := do
  let data ← data
  let buffer := media.createDefaultBuffer metaType data.length
  let writeSize ← media.write data.length data
  let buffer := { buffer with memory := some (data.take writeSize) }
  if writeSize ≠ data.length then some buffer
  else
    match resMsg.getObjectItem AVT_DATA_PARAM with
    | some (.string valuestring) =>
      let m ← AVTransVideoBufferMeta.unmarshalVideoMeta cJSON valuestring {}
      some (buffer.setMeta m)
    | _ => none

/-- `DsoftbusInputPlugin::OnStreamReceived` : the buffer that is put into the queue. -/
def onStreamReceived (media : MediaEngine) (cJSON : Codec) (data : Option (List UInt8))
    (ext : Option String) : Option Buffer := do
  let message ← ext
  let resMsg ← cJSON.parse message
  if ¬AVTransUtils.isUInt32 resMsg AVT_DATA_META_TYPE then none
  else
    match resMsg.getObjectItem AVT_DATA_META_TYPE with
    | some (.number n) =>
      createBuffer media cJSON (UInt32.ofNat (Json.number n).valueint.toNat) data resMsg
    | _ => none

/-- The presentation time, the frame number, and the time and number of the other stream. -/
def tags (buffer : Buffer) : Int64 × Option (Option UInt32 × Option Int64 × Option UInt32) :=
  (buffer.pts, buffer.bufferMeta.map fun m =>
    (m.USER_FRAME_NUMBER, m.MEDIA_START_TIME, m.AUDIO_SAMPLE_PER_FRAME))

/-- A video buffer, with or without the time and number of a frame of another stream. -/
def video (media : MediaEngine) (data : List UInt8) (pts : Int64) (frameNum : UInt32)
    (ext : Option (Int64 × UInt32)) : Buffer where
  pts := pts
  bufferMeta := some {
    metaType := media.VIDEO
    USER_FRAME_NUMBER := some frameNum
    MEDIA_START_TIME := ext.map Prod.fst
    AUDIO_SAMPLE_PER_FRAME := ext.map Prod.snd }
  memory := some data

/-- What a video buffer is sent with. -/
def videoMeta (pts : Int64) (frameNum : UInt32) (ext : Option (Int64 × UInt32)) :
    AVTransVideoBufferMeta where
  pts_ := pts
  frameNum_ := frameNum
  extPts_ := (ext.map Prod.fst).getD 0
  extFrameNum_ := (ext.map Prod.snd).getD 0

/-- A buffer is sent, and what arrives is put into a buffer. -/
def transport (media : MediaEngine) (cJSON : Codec) (buffer : Buffer) : Option Buffer :=
  (sendDataToSoftbus media cJSON (some buffer)).bind fun sent =>
    onStreamReceived media cJSON (some sent.1) (some sent.2)

variable {media : MediaEngine} {cJSON : Codec}

/-- What arrives of a message. -/
theorem onStreamReceived_message (hmedia : media.Regular) {metaType : UInt32}
    {m : AVTransVideoBufferMeta} (hinner : cJSON.Faithful m.toJson)
    (houter : cJSON.Faithful (messageJson cJSON metaType m)) (data : List UInt8) :
    onStreamReceived media cJSON (some data)
      (some (cJSON.printUnformatted (messageJson cJSON metaType m))) =
        some (setMeta (AVTransVideoBufferMeta.fromJson m.toJson {})
          { media.createDefaultBuffer (cut32 metaType) data.length with
            memory := some (data.take data.length) }) := by
  have htype : (messageJson cJSON metaType m).getObjectItemCaseSensitive AVT_DATA_META_TYPE =
      some (.number metaType.toNat) := rfl
  have hitem : (messageJson cJSON metaType m).getObjectItem AVT_DATA_META_TYPE =
      some (.number metaType.toNat) := by
    simp [messageJson, getObjectItem]
  have hparam : (messageJson cJSON metaType m).getObjectItem AVT_DATA_PARAM =
      some (.string (m.marshalVideoMeta cJSON)) := by
    have hname : sameName AVT_DATA_PARAM AVT_DATA_META_TYPE = false := by decide
    simp [messageJson, getObjectItem, hname]
  have hparse : cJSON.parse (m.marshalVideoMeta cJSON) = some m.toJson := hinner
  unfold Codec.Faithful at houter
  simp only [onStreamReceived, houter, AVTransVideoBufferMeta.isUInt32_of_item htype, hitem,
    createBuffer, hmedia.writes, hparam, AVTransVideoBufferMeta.unmarshalVideoMeta, hparse,
    Option.bind_eq_bind, Option.bind_some, Option.map_some, not_true_eq_false, if_false, ne_eq]
  rfl

/-- What arrives of a video buffer. -/
theorem transport_video (hmedia : media.Regular) (data : List UInt8) (pts : Int64)
    (frameNum : UInt32) (ext : Option (Int64 × UInt32))
    (hinner : cJSON.Faithful (videoMeta pts frameNum ext).toJson)
    (houter : cJSON.Faithful (messageJson cJSON media.VIDEO (videoMeta pts frameNum ext))) :
    transport media cJSON (video media data pts frameNum ext) =
      some (setMeta (AVTransVideoBufferMeta.fromJson (videoMeta pts frameNum ext).toJson {})
        { media.createDefaultBuffer (cut32 media.VIDEO) data.length with
          memory := some (data.take data.length) }) := by
  have hsent : sendDataToSoftbus media cJSON (some (video media data pts frameNum ext)) =
      some (data, cJSON.printUnformatted
        (messageJson cJSON media.VIDEO (videoMeta pts frameNum ext))) :=
    if_neg (not_not.2 rfl)
  rw [transport, hsent]
  exact onStreamReceived_message hmedia hinner houter data

/-- The times and numbers that a frame of another stream comes with are cut, both or none. -/
theorem tags_transport_video (hmedia : media.Regular) (data : List UInt8) (pts : Int64)
    (frameNum : UInt32) (ext : Option (Int64 × UInt32))
    (hext : ∀ e ∈ ext, 0 < e.1.toInt ∧ 0 < e.2.toNat)
    (hinner : cJSON.Faithful (videoMeta pts frameNum ext).toJson)
    (houter : cJSON.Faithful (messageJson cJSON media.VIDEO (videoMeta pts frameNum ext))) :
    (transport media cJSON (video media data pts frameNum ext)).map tags =
      some (cut64 pts, some (some (cut32 frameNum), ext.map fun e => cut64 e.1,
        ext.map fun e => cut32 e.2)) := by
  rw [transport_video hmedia data pts frameNum ext hinner houter,
    AVTransVideoBufferMeta.fromJson_toJson]
  simp only [Option.map_some, tags, setMeta, hmedia.fresh]
  cases ext with
  | none => rfl
  | some e =>
    obtain ⟨hpts, hframe⟩ := hext e rfl
    have hpts' := (cut64_pos_iff hpts.le).2 hpts
    have hframe' := cut32_pos_iff.2 hframe
    simp only [videoMeta, Option.map_some, Option.getD_some, hpts, hframe, hpts', hframe',
      and_self, if_true]

/-- A video buffer, with times that `valuedouble` keeps, arrives with the metadata that it was sent
with exactly if its presentation time and frame number, and those of the other stream, fit into
`valueint`. -/
theorem frame_survives_iff (media : MediaEngine) (cJSON : Codec) (hmedia : media.Regular)
    (data : List UInt8) (pts : Int64) (frameNum : UInt32) (ext : Option (Int64 × UInt32))
    (hpts : 0 ≤ pts.toInt ∧ pts.toInt ≤ MAX_EXACT)
    (hext : ∀ e ∈ ext, (0 < e.1.toInt ∧ e.1.toInt ≤ MAX_EXACT) ∧ 0 < e.2.toNat)
    (hinner : cJSON.Faithful (videoMeta pts frameNum ext).toJson)
    (houter : cJSON.Faithful (messageJson cJSON media.VIDEO (videoMeta pts frameNum ext))) :
    (∃ buffer, transport media cJSON (video media data pts frameNum ext) = some buffer ∧
        buffer.tags = (video media data pts frameNum ext).tags) ↔
      pts.toInt ≤ INT32_MAX ∧ (frameNum.toNat : ℤ) ≤ INT32_MAX ∧
        ∀ e ∈ ext, e.1.toInt ≤ INT32_MAX ∧ (e.2.toNat : ℤ) ≤ INT32_MAX := by
  rw [← Option.map_eq_some_iff, tags_transport_video hmedia data pts frameNum ext
    (fun e he => ⟨(hext e he).1.1, (hext e he).2⟩) hinner houter, ← cut64_eq_iff hpts.1,
    ← cut32_eq_iff]
  simp only [video, tags, Option.map_some, Option.some_inj, Prod.mk.injEq]
  refine and_congr_right fun _ => and_congr_right fun _ => ?_
  cases ext with
  | none => simp
  | some e =>
    have hpos := (hext e rfl).1.1.le
    simp [cut64_eq_iff hpos, cut32_eq_iff]

/-- cJSON on the documents of a frame, with their texts. -/
def frameCodec (m : AVTransVideoBufferMeta) (metaType : UInt32) (text message : String) :
    Codec where
  printUnformatted
    | .object members => if members.length = 2 then message else text
    | _ => ""
  parse s :=
    if s = text then some m.toJson
    else if s = message then
      some (.object [(AVT_DATA_META_TYPE, .number metaType.toNat), (AVT_DATA_PARAM, .string text)])
    else none

theorem length_toJson (m : AVTransVideoBufferMeta) :
    ∃ members, m.toJson = .object members ∧ members.length ≠ 2 := by
  refine ⟨_, rfl, ?_⟩
  split_ifs <;> simp

theorem frameCodec_faithful (m : AVTransVideoBufferMeta) (metaType : UInt32)
    {text message : String} (h : message ≠ text) :
    (frameCodec m metaType text message).Faithful m.toJson ∧
      (frameCodec m metaType text message).Faithful
        (messageJson (frameCodec m metaType text message) metaType m) := by
  obtain ⟨members, hm, hlength⟩ := length_toJson m
  have hprint : (frameCodec m metaType text message).printUnformatted m.toJson = text := by
    rw [hm]
    exact if_neg hlength
  refine ⟨?_, ?_⟩
  · unfold Codec.Faithful
    rw [hprint]
    exact if_pos rfl
  · unfold Codec.Faithful
    rw [messageJson, AVTransVideoBufferMeta.marshalVideoMeta, hprint]
    exact (if_neg h).trans (if_pos rfl)

/-- Buffers that have memory, of an engine whose code of a video is 1. -/
def plainEngine : MediaEngine where
  VIDEO := 1
  createDefaultBuffer metaType capacity := {
    pts := 0
    bufferMeta := some { metaType := metaType }
    memory := some (List.replicate capacity 0) }
  write capacity data := some (min capacity data.length)

theorem plainEngine_regular : plainEngine.Regular where
  fresh _ _ := rfl
  writes data := congrArg some (Nat.min_self data.length)

def soundText : String :=
  "\x7b\"meta_data_type\":1,\"meta_timestamp\":40000000,\"meta_frame_number\":7," ++
    "\"meta_ext_timestamp\":39000000,\"meta_ext_frame_number\":6\x7d"

def soundMessage : String :=
  "\x7b\"avtrans_data_meta_type\":1,\"avtrans_data_param\":\"" ++
    "\x7b\\\"meta_data_type\\\":1,\\\"meta_timestamp\\\":40000000," ++
    "\\\"meta_frame_number\\\":7,\\\"meta_ext_timestamp\\\":39000000," ++
    "\\\"meta_ext_frame_number\\\":6\x7d\"\x7d"

/-- A frame after 40 milliseconds, with a sound after 39. -/
theorem frame_survives_sound :
    ∃ buffer, transport plainEngine
        (frameCodec (videoMeta 40000000 7 (some (39000000, 6))) 1 soundText soundMessage)
        (video plainEngine [1, 2] 40000000 7 (some (39000000, 6))) = some buffer ∧
      buffer.tags = (video plainEngine [1, 2] 40000000 7 (some (39000000, 6))).tags :=
  have hne : soundMessage ≠ soundText := by decide +kernel
  have hfaithful := frameCodec_faithful (videoMeta 40000000 7 (some (39000000, 6))) 1 hne
  -- The pair is named, as `decide` would go through all pairs.
  (frame_survives_iff plainEngine _ plainEngine_regular [1, 2] 40000000 7 (some (39000000, 6))
    (by decide) (fun e he => Option.mem_some_iff.1 he ▸ by decide) hfaithful.1 hfaithful.2).2
    ⟨by decide, by decide, fun e he => Option.mem_some_iff.1 he ▸ by decide⟩

def lateText : String :=
  "\x7b\"meta_data_type\":1,\"meta_timestamp\":3000000000,\"meta_frame_number\":7\x7d"

def lateMessage : String :=
  "\x7b\"avtrans_data_meta_type\":1,\"avtrans_data_param\":\"" ++
    "\x7b\\\"meta_data_type\\\":1,\\\"meta_timestamp\\\":3000000000," ++
    "\\\"meta_frame_number\\\":7\x7d\"\x7d"

/-- A frame after three seconds arrives as one after little more than two. -/
theorem frame_not_survives :
    (frameCodec (videoMeta 3000000000 7 none) 1 lateText lateMessage).Faithful
        (videoMeta 3000000000 7 none).toJson ∧
      (frameCodec (videoMeta 3000000000 7 none) 1 lateText lateMessage).Faithful
        (messageJson (frameCodec (videoMeta 3000000000 7 none) 1 lateText lateMessage)
          plainEngine.VIDEO (videoMeta 3000000000 7 none)) ∧
      (transport plainEngine (frameCodec (videoMeta 3000000000 7 none) 1 lateText lateMessage)
        (video plainEngine [1, 2] 3000000000 7 none)).map Buffer.pts = some 2147483647 ∧
      ¬∃ buffer, transport plainEngine
          (frameCodec (videoMeta 3000000000 7 none) 1 lateText lateMessage)
          (video plainEngine [1, 2] 3000000000 7 none) = some buffer ∧
        buffer.tags = (video plainEngine [1, 2] 3000000000 7 none).tags := by
  have hne : lateMessage ≠ lateText := by decide +kernel
  obtain ⟨hinner, houter⟩ := frameCodec_faithful (videoMeta 3000000000 7 none) 1 hne
  have htags := tags_transport_video plainEngine_regular [1, 2] 3000000000 7 none nofun hinner
    houter
  refine ⟨hinner, houter, ?_, ?_⟩
  · obtain ⟨buffer, hbuffer, hall⟩ := Option.map_eq_some_iff.1 htags
    rw [hbuffer, Option.map_some, show buffer.pts = buffer.tags.1 from rfl, hall]
    decide +kernel
  · rintro ⟨buffer, hbuffer, hall⟩
    rw [hbuffer, Option.map_some, hall] at htags
    exact absurd htags (by decide +kernel)

end Buffer

end DHFwk
