import DHFwk.Text
import DHFwk.FrameMeta

/-!
# Metadata of audio frames

An audio frame is sent with two times, each a decimal text in a JSON text inside a JSON text ;
the presentation time also goes as a number, which a double holds. The receiver reads the number,
then the text in its place, then the special time.

A frame that is sent comes out with both of its times, as texts keep all 64 bits. A message whose
metadata is turned down half way is pushed all the same, with the presentation time that was read
and no special time (`audio_meta_kept_iff`).
-/

set_option linter.unusedSectionVars false

namespace DHFwk

namespace AudioMeta

open Json

abbrev META_TIMESTAMP_STRING : String := "meta_timestamp_string"
abbrev META_TIMESTAMP_SPECIAL : String := "meta_timestamp_special"
abbrev MAX_MESSAGES_LEN : ℕ := 40 * 1024 * 1024

/-- The tags of a buffer that the filters use. -/
structure Meta where
  USER_FRAME_PTS : Option Int64 := none
  AUDIO_OBJECT_NUMBER : Option UInt32 := none
  deriving DecidableEq

structure AVBuffer where
  pts_ : Int64
  meta_ : Option Meta
  memory_ : Option (List UInt8)
  deriving DecidableEq

/-- `AVBufferQueueProducer` : the buffer that a request for some bytes gives, if any, and what the
memory of a buffer holds after data is written into it. -/
structure Producer where
  requestBuffer : ℕ → Option AVBuffer
  write : List UInt8 → List UInt8 → List UInt8

/-! ## Sending -/

/-- What `MarshalAudioMeta` prints. `double` is how a double holds a number of 64 bits. -/
def audioMetaJson (double : ℤ → ℤ) (dataType : UInt32) (pts ptsSpecial : Int64)
    (frameNumber : UInt32) : Json :=
  .object [(META_DATA_TYPE, .number dataType.toNat), (META_TIMESTAMP, .number (double pts.toInt)),
    (META_FRAME_NUMBER, .number frameNumber.toNat),
    (META_TIMESTAMP_STRING, .string pts.toInt.repr),
    (META_TIMESTAMP_SPECIAL, .string ptsSpecial.toInt.repr)]

def marshalAudioMeta (cJSON : Codec) (double : ℤ → ℤ) (dataType : UInt32)
    (pts ptsSpecial : Int64) (frameNumber : UInt32) : String :=
  cJSON.printUnformatted (audioMetaJson double dataType pts ptsSpecial frameNumber)

/-- The message that goes with a frame. -/
def extJson (dataType : UInt32) (dataParam : String) : Json :=
  .object [(AVT_DATA_META_TYPE, .number dataType.toInt32.toInt),
    (AVT_DATA_PARAM, .string dataParam)]

/-- `DSoftbusOutputFilter::ProcessAndSendBuffer` : the data and the message that are sent. `meta_`
is the data type that the meta of the filter gives, if the filter has a meta. -/
def processAndSendBuffer (cJSON : Codec) (double : ℤ → ℤ) (meta_ : Option UInt32)
    (buffer : Option AVBuffer) : Option (List UInt8 × String) := do
  let buffer ← buffer
  let bufferData ← buffer.memory_
  let bufferMeta ← buffer.meta_
  let dataType ← meta_
  let ptsSpecial := bufferMeta.USER_FRAME_PTS.getD 0
  let frameNumber := bufferMeta.AUDIO_OBJECT_NUMBER.getD 0
  let dataParam := marshalAudioMeta cJSON double dataType buffer.pts_ ptsSpecial frameNumber
  some (bufferData, cJSON.printUnformatted (extJson dataType dataParam))

/-! ## Receiving -/

/-- `IsUInt32` of the filter. A `uint32_t` is not above `UINT32_MAX`. -/
def isUInt32 (jsonObj : Json) (key : String) : Bool :=
  match jsonObj.getObjectItemCaseSensitive key with
  | some (.number n) => ((BitVec.ofInt 32 (Json.number n).valueint).toNat : ℤ) ≤ UINT32_MAX
  | _ => false

/-- `UnmarshalAudioMeta` : whether the metadata is accepted, and what `pts` and `ptsSpecial` are
then. -/
def unmarshalAudioMeta (cJSON : Codec) (jsonStr : String) (pts ptsSpecial : Int64) :
    Bool × Int64 × Int64 :=
  match cJSON.parse jsonStr with
  | none => (false, pts, ptsSpecial)
  | some metaJson =>
    match metaJson.getObjectItemCaseSensitive META_TIMESTAMP with
    | some (.number n) =>
      let pts := Int64.ofInt (Json.number n).valueint
      match metaJson.getObjectItemCaseSensitive META_TIMESTAMP_STRING with
      | some (.string ptsStr) =>
        if ptsStr = "" then (false, pts, ptsSpecial)
        else
          let pts := Text.atoll ptsStr
          match metaJson.getObjectItemCaseSensitive META_TIMESTAMP_SPECIAL with
          | some (.string ptsSpecialStr) =>
            if ptsSpecialStr = "" then (false, pts, ptsSpecial)
            else (true, pts, Text.atoll ptsSpecialStr)
          | _ => (false, pts, ptsSpecial)
      | _ => (false, pts, ptsSpecial)
    | _ => (false, pts, ptsSpecial)

/-- The times of a buffer, as they are set before it is pushed. -/
def AVBuffer.setTimes (buffer : AVBuffer) (pts ptsSpecial : Int64) (memory : List UInt8) :
    AVBuffer where
  pts_ := pts
  meta_ := buffer.meta_.map fun bufferMeta => { bufferMeta with USER_FRAME_PTS := some ptsSpecial }
  memory_ := some memory

/-- `StreamDataEnqueue` : the buffers that are pushed, and whether they are available. What
`UnmarshalAudioMeta` returns is not looked at. -/
def streamDataEnqueue (cJSON : Codec) (producer : Option Producer) (data : Option (List UInt8))
    (extMsg : Json) : List (AVBuffer × Bool) :=
  match producer, data with
  | some producer, some data =>
    match producer.requestBuffer data.length with
    | none => []
    | some outBuffer =>
      match outBuffer.memory_, outBuffer.meta_ with
      | none, _ => []
      | some _, none => [(outBuffer, false)]
      | some memory, some _ =>
        match extMsg.getObjectItem AVT_DATA_PARAM with
        | some (.string paramItem) =>
          let (_, ptsValue, ptsSpecialValue) := unmarshalAudioMeta cJSON paramItem 0 0
          [(outBuffer.setTimes ptsValue ptsSpecialValue (producer.write memory data), true)]
        | _ => []
  | _, _ => []

/-- The checks of `OnStreamReceived` : the document that is handed on. -/
def acceptMessage (cJSON : Codec) (ext : Option String) : Option Json := do
  let message ← ext
  if message.utf8ByteSize > MAX_MESSAGES_LEN then none
  else
    let resMsg ← cJSON.parse message
    if ¬isUInt32 resMsg AVT_DATA_META_TYPE then none else some resMsg

/-- `OnStreamReceived`. -/
def onStreamReceived (cJSON : Codec) (producer : Option Producer) (data : Option (List UInt8))
    (ext : Option String) : List (AVBuffer × Bool) :=
  match acceptMessage cJSON ext with
  | none => []
  | some resMsg => streamDataEnqueue cJSON producer data resMsg

/-! ## What is read -/

/-- Every number passes the check. -/
theorem isUInt32_iff (jsonObj : Json) (key : String) :
    isUInt32 jsonObj key = true ↔
      ∃ n, jsonObj.getObjectItemCaseSensitive key = some (.number n) := by
  unfold isUInt32
  split
  · rename_i n hitem
    have hlt := (BitVec.ofInt 32 (Json.number n).valueint).isLt
    refine iff_of_true (decide_eq_true ?_) ⟨n, hitem⟩
    rw [UINT32_MAX]
    omega
  · rename_i hitem
    refine iff_of_false Bool.false_ne_true ?_
    rintro ⟨n, h⟩
    exact hitem n h

variable {cJSON : Codec} {double : ℤ → ℤ}

/-- The times are read as they were written. -/
theorem unmarshal_marshal {dataType frameNumber : UInt32} {pts ptsSpecial : Int64}
    (h : cJSON.Faithful (audioMetaJson double dataType pts ptsSpecial frameNumber))
    (p q : Int64) :
    unmarshalAudioMeta cJSON
      (marshalAudioMeta cJSON double dataType pts ptsSpecial frameNumber) p q =
        (true, pts, ptsSpecial) := by
  have hparse : cJSON.parse (marshalAudioMeta cJSON double dataType pts ptsSpecial frameNumber) =
      some (audioMetaJson double dataType pts ptsSpecial frameNumber) := h
  have hnumber : (audioMetaJson double dataType pts ptsSpecial
      frameNumber).getObjectItemCaseSensitive META_TIMESTAMP = some (.number (double pts.toInt)) :=
    rfl
  have hstring : (audioMetaJson double dataType pts ptsSpecial
      frameNumber).getObjectItemCaseSensitive META_TIMESTAMP_STRING =
        some (.string pts.toInt.repr) := rfl
  have hspecial : (audioMetaJson double dataType pts ptsSpecial
      frameNumber).getObjectItemCaseSensitive META_TIMESTAMP_SPECIAL =
        some (.string ptsSpecial.toInt.repr) := rfl
  simp only [unmarshalAudioMeta, hparse, hnumber, hstring, hspecial, Text.repr_ne_empty, if_false,
    Text.atoll_repr]

/-- The message of a frame is far below the limit. -/
theorem utf8ByteSize_ext_le {dataType frameNumber : UInt32} {pts ptsSpecial : Int64}
    (hinner : cJSON.Compact (audioMetaJson double dataType pts ptsSpecial frameNumber))
    (houter : cJSON.Compact (extJson dataType
      (marshalAudioMeta cJSON double dataType pts ptsSpecial frameNumber))) :
    (cJSON.printUnformatted (extJson dataType (marshalAudioMeta cJSON double dataType pts ptsSpecial
      frameNumber))).utf8ByteSize ≤ MAX_MESSAGES_LEN := by
  have hpts := Text.utf8ByteSize_repr_le pts
  have hptsSpecial := Text.utf8ByteSize_repr_le ptsSpecial
  have hparam : (marshalAudioMeta cJSON double dataType pts ptsSpecial frameNumber).utf8ByteSize ≤
      2000 := by
    refine hinner.trans ?_
    simp only [audioMetaJson, printBound, membersBound]
    have hnames : META_DATA_TYPE.utf8ByteSize = 14 ∧ META_TIMESTAMP.utf8ByteSize = 14 ∧
        META_FRAME_NUMBER.utf8ByteSize = 17 ∧ META_TIMESTAMP_STRING.utf8ByteSize = 21 ∧
        META_TIMESTAMP_SPECIAL.utf8ByteSize = 22 := by decide
    omega
  refine houter.trans ?_
  simp only [extJson, printBound, membersBound, MAX_MESSAGES_LEN]
  have hnames : AVT_DATA_META_TYPE.utf8ByteSize = 22 ∧ AVT_DATA_PARAM.utf8ByteSize = 18 := by decide
  omega

/-- The message of a frame is accepted. -/
theorem acceptMessage_ext {dataType frameNumber : UInt32} {pts ptsSpecial : Int64}
    (hinner : cJSON.Compact (audioMetaJson double dataType pts ptsSpecial frameNumber))
    (houter : cJSON.Compact (extJson dataType
      (marshalAudioMeta cJSON double dataType pts ptsSpecial frameNumber)))
    (h : cJSON.Faithful (extJson dataType
      (marshalAudioMeta cJSON double dataType pts ptsSpecial frameNumber))) :
    acceptMessage cJSON (some (cJSON.printUnformatted (extJson dataType
      (marshalAudioMeta cJSON double dataType pts ptsSpecial frameNumber)))) =
        some (extJson dataType
          (marshalAudioMeta cJSON double dataType pts ptsSpecial frameNumber)) := by
  have hlen := utf8ByteSize_ext_le hinner houter
  have htype : isUInt32 (extJson dataType
      (marshalAudioMeta cJSON double dataType pts ptsSpecial frameNumber)) AVT_DATA_META_TYPE =
        true := (isUInt32_iff _ _).2 ⟨_, rfl⟩
  unfold Codec.Faithful at h
  simp only [acceptMessage, Option.bind_eq_bind, Option.bind_some, if_neg (Nat.not_lt.2 hlen), h,
    htype, not_true_eq_false, if_false]

/-- `AVT_DATA_PARAM` is found behind the type. -/
theorem getObjectItem_param (dataType : UInt32) (dataParam : String) :
    (extJson dataType dataParam).getObjectItem AVT_DATA_PARAM = some (.string dataParam) := by
  have hname : sameName AVT_DATA_PARAM AVT_DATA_META_TYPE = false := by decide
  simp [extJson, getObjectItem, hname]

/-! ## Metadata that is turned down -/

/-- A member that is a text and not empty. -/
def memberText (jsonObj : Json) (key : String) : Option String :=
  match jsonObj.getObjectItemCaseSensitive key with
  | some (.string s) => if s = "" then none else some s
  | _ => none

/-- The metadata has no number as its time, or it has both texts, or its time is 0 : that of the
text, or that of the number if there is no text. -/
def Whole (metaJson : Json) : Prop :=
  ∀ n, metaJson.getObjectItemCaseSensitive META_TIMESTAMP = some (.number n) →
    match memberText metaJson META_TIMESTAMP_STRING, memberText metaJson META_TIMESTAMP_SPECIAL with
    | some _, some _ => True
    | some ptsStr, none => Text.atoll ptsStr = 0
    | none, _ => n = 0

/-- The producer has a buffer with memory and meta for the data. -/
def HasBuffer (producer : Option Producer) (data : Option (List UInt8)) : Prop :=
  ∃ p ∈ producer, ∃ d ∈ data, ∃ b ∈ p.requestBuffer d.length, b.memory_.isSome ∧ b.meta_.isSome

/-- The metadata text of a message that passes the checks of `OnStreamReceived`. -/
def paramOf (cJSON : Codec) (ext : Option String) : Option String :=
  (acceptMessage cJSON ext).bind fun resMsg =>
    match resMsg.getObjectItem AVT_DATA_PARAM with
    | some (.string paramItem) => some paramItem
    | _ => none

/-- Both times of a buffer. -/
def AVBuffer.times (buffer : AVBuffer) : Int64 × Option Int64 :=
  (buffer.pts_, buffer.meta_.bind Meta.USER_FRAME_PTS)

theorem ofInt_valueint_eq_zero_iff (n : ℤ) :
    Int64.ofInt (Json.number n).valueint = 0 ↔ n = 0 := by
  rw [← Int64.toInt_inj, toInt_ofInt_valueint, Int64.toInt_zero]
  simp only [valueint, INT32_MIN, INT32_MAX]
  omega

/-- What is read of metadata that has a number as its time. -/
theorem unmarshal_of_number {jsonStr : String} {metaJson : Json} {n : ℤ}
    (hparse : cJSON.parse jsonStr = some metaJson)
    (hnumber : metaJson.getObjectItemCaseSensitive META_TIMESTAMP = some (.number n))
    (p q : Int64) :
    unmarshalAudioMeta cJSON jsonStr p q =
      match memberText metaJson META_TIMESTAMP_STRING,
        memberText metaJson META_TIMESTAMP_SPECIAL with
      | some ptsStr, some ptsSpecialStr => (true, Text.atoll ptsStr, Text.atoll ptsSpecialStr)
      | some ptsStr, none => (false, Text.atoll ptsStr, q)
      | none, _ => (false, Int64.ofInt (Json.number n).valueint, q) := by
  simp only [unmarshalAudioMeta, hparse, hnumber, memberText]
  split
  · split_ifs
    · rfl
    · split
      · split_ifs <;> rfl
      · rfl
  · rfl

/-- Metadata that is turned down leaves both times as they were if it is whole. -/
theorem unmarshal_rejected_iff (jsonStr : String) :
    ((unmarshalAudioMeta cJSON jsonStr 0 0).1 = false →
        (unmarshalAudioMeta cJSON jsonStr 0 0).2 = (0, 0)) ↔
      ∀ metaJson ∈ cJSON.parse jsonStr, Whole metaJson := by
  cases hparse : cJSON.parse jsonStr with
  | none => simp [unmarshalAudioMeta, hparse]
  | some metaJson =>
    simp only [Option.mem_some_iff, forall_eq']
    by_cases hnumber :
        ∃ n, metaJson.getObjectItemCaseSensitive META_TIMESTAMP = some (.number n)
    · obtain ⟨n, hnumber⟩ := hnumber
      have hwhole : Whole metaJson ↔
          match memberText metaJson META_TIMESTAMP_STRING,
            memberText metaJson META_TIMESTAMP_SPECIAL with
          | some _, some _ => True
          | some ptsStr, none => Text.atoll ptsStr = 0
          | none, _ => n = 0 := by
        refine ⟨fun h => h n hnumber, fun h m hm => ?_⟩
        obtain rfl := Json.number.inj (Option.some.inj (hnumber.symm.trans hm))
        exact h
      rw [unmarshal_of_number hparse hnumber, hwhole]
      cases memberText metaJson META_TIMESTAMP_STRING with
      | none => simp [ofInt_valueint_eq_zero_iff]
      | some ptsStr =>
        cases memberText metaJson META_TIMESTAMP_SPECIAL with
        | none => simp
        | some ptsSpecialStr => simp
    · -- Nothing is read.
      have hread : unmarshalAudioMeta cJSON jsonStr 0 0 = (false, 0, 0) := by
        simp only [unmarshalAudioMeta, hparse]
        split
        · exact absurd ⟨_, ‹_›⟩ hnumber
        · rfl
      refine iff_of_true (fun _ => by rw [hread]) fun n hn => absurd ⟨n, hn⟩ hnumber

/-- The buffers that are pushed as available. -/
theorem mem_onStreamReceived_iff {producer : Option Producer} {data : Option (List UInt8)}
    {ext : Option String} {out : AVBuffer} :
    (out, true) ∈ onStreamReceived cJSON producer data ext ↔
      ∃ paramItem ∈ paramOf cJSON ext, ∃ p ∈ producer, ∃ d ∈ data,
        ∃ b ∈ p.requestBuffer d.length, ∃ memory ∈ b.memory_, b.meta_.isSome ∧
          out = b.setTimes (unmarshalAudioMeta cJSON paramItem 0 0).2.1
            (unmarshalAudioMeta cJSON paramItem 0 0).2.2 (p.write memory d) := by
  unfold onStreamReceived paramOf
  cases acceptMessage cJSON ext with
  | none => simp
  | some resMsg =>
    simp only [Option.bind_some]
    unfold streamDataEnqueue
    cases producer with
    | none => simp
    | some p =>
      cases data with
      | none => simp
      | some d =>
        cases hb : p.requestBuffer d.length with
        | none => simp [hb]
        | some b =>
          simp only [hb]
          cases hmemory : b.memory_ with
          | none => simp [hb, hmemory]
          | some memory =>
            cases hmeta : b.meta_ with
            | none => simp [hb, hmeta]
            | some m =>
              cases resMsg.getObjectItem AVT_DATA_PARAM with
              | none => simp [hb, hmemory, hmeta]
              | some item => cases item <;> simp [hb, hmemory, hmeta]

/-! ## Frames -/

/-- An audio buffer. -/
def AVBuffer.audio (memory : List UInt8) (pts ptsSpecial : Int64) (frameNumber : UInt32) :
    AVBuffer where
  pts_ := pts
  meta_ := some { USER_FRAME_PTS := some ptsSpecial, AUDIO_OBJECT_NUMBER := some frameNumber }
  memory_ := some memory

/-- A frame that is sent is accepted, and pushed with both of its times. -/
theorem audio_meta_received {producer : Option Producer} {dataType frameNumber : UInt32}
    {pts ptsSpecial : Int64} {memory : List UInt8}
    (hinner : cJSON.Faithful (audioMetaJson double dataType pts ptsSpecial frameNumber))
    (houter : cJSON.Faithful (extJson dataType
      (marshalAudioMeta cJSON double dataType pts ptsSpecial frameNumber)))
    (hinnerLen : cJSON.Compact (audioMetaJson double dataType pts ptsSpecial frameNumber))
    (houterLen : cJSON.Compact (extJson dataType
      (marshalAudioMeta cJSON double dataType pts ptsSpecial frameNumber)))
    (hbuffer : HasBuffer producer (some memory)) :
    ∃ ext, processAndSendBuffer cJSON double (some dataType)
          (some (.audio memory pts ptsSpecial frameNumber)) = some (memory, ext) ∧
      ext.utf8ByteSize ≤ MAX_MESSAGES_LEN ∧ (acceptMessage cJSON (some ext)).isSome ∧
      ∃ out, onStreamReceived cJSON producer (some memory) (some ext) = [(out, true)] ∧
        out.times = (pts, some ptsSpecial) := by
  have haccept := acceptMessage_ext hinnerLen houterLen houter
  refine ⟨_, rfl, utf8ByteSize_ext_le hinnerLen houterLen, Option.isSome_of_eq_some haccept, ?_⟩
  obtain ⟨p, rfl, d, hd, b, hb, hmemory, hmeta⟩ := hbuffer
  obtain rfl := Option.mem_some_iff.1 hd
  obtain ⟨bufferMemory, hmemory⟩ := Option.isSome_iff_exists.1 hmemory
  obtain ⟨bufferMeta, hmeta⟩ := Option.isSome_iff_exists.1 hmeta
  have hread := unmarshal_marshal hinner 0 0
  refine ⟨b.setTimes pts ptsSpecial (p.write bufferMemory memory), ?_, ?_⟩
  · simp only [AVBuffer.audio, onStreamReceived, Option.getD_some, haccept, streamDataEnqueue,
      Option.mem_def.1 hb, hmemory, hmeta, getObjectItem_param, hread]
  · simp only [AVBuffer.times, AVBuffer.setTimes, hmeta, Option.map_some, Option.bind_some]

/-- What a pushed buffer holds of metadata that is turned down. -/
theorem rejected_iff (producer : Option Producer) (data : Option (List UInt8))
    (ext : Option String) :
    (∀ paramItem ∈ paramOf cJSON ext, (unmarshalAudioMeta cJSON paramItem 0 0).1 = false →
        ∀ out, (out, true) ∈ onStreamReceived cJSON producer data ext → out.times = (0, some 0)) ↔
      (HasBuffer producer data → ∀ paramItem ∈ paramOf cJSON ext,
        ∀ metaJson ∈ cJSON.parse paramItem, Whole metaJson) := by
  constructor
  · rintro h ⟨p, hp, d, hd, b, hb, hmemory, hmeta⟩ paramItem hparam
    obtain ⟨memory, hmemory⟩ := Option.isSome_iff_exists.1 hmemory
    refine (unmarshal_rejected_iff paramItem).1 fun hreject => ?_
    have htimes := h paramItem hparam hreject _ (mem_onStreamReceived_iff.2
      ⟨paramItem, hparam, p, hp, d, hd, b, hb, memory, hmemory, hmeta, rfl⟩)
    obtain ⟨bufferMeta, hmeta⟩ := Option.isSome_iff_exists.1 hmeta
    simp only [AVBuffer.times, AVBuffer.setTimes, hmeta, Option.map_some, Option.bind_some,
      Prod.mk.injEq, Option.some_inj] at htimes
    exact Prod.ext htimes.1 htimes.2
  · intro h paramItem hparam hreject out hout
    obtain ⟨paramItem', hparam', p, hp, d, hd, b, hb, memory, hmemory, hmeta, rfl⟩ :=
      mem_onStreamReceived_iff.1 hout
    obtain rfl : paramItem' = paramItem := Option.mem_unique hparam' hparam
    have hbuffer : HasBuffer producer data :=
      ⟨p, hp, d, hd, b, hb, Option.isSome_of_eq_some hmemory, hmeta⟩
    have hsame := (unmarshal_rejected_iff paramItem').2 (h hbuffer paramItem' hparam') hreject
    obtain ⟨bufferMeta, hmeta⟩ := Option.isSome_iff_exists.1 hmeta
    simp only [AVBuffer.times, AVBuffer.setTimes, hmeta, Option.map_some, Option.bind_some, hsame]

/-- A frame that is sent comes out with both of its times. A message whose metadata is turned down
comes out with no part of it exactly if the metadata is whole, or no buffer is there for it. -/
theorem audio_meta_kept_iff (cJSON : Codec) (double : ℤ → ℤ) (producer : Option Producer)
    (dataType frameNumber : UInt32) (pts ptsSpecial : Int64) (memory : List UInt8)
    (hinner : cJSON.Faithful (audioMetaJson double dataType pts ptsSpecial frameNumber))
    (houter : cJSON.Faithful (extJson dataType
      (marshalAudioMeta cJSON double dataType pts ptsSpecial frameNumber)))
    (hinnerLen : cJSON.Compact (audioMetaJson double dataType pts ptsSpecial frameNumber))
    (houterLen : cJSON.Compact (extJson dataType
      (marshalAudioMeta cJSON double dataType pts ptsSpecial frameNumber)))
    (hbuffer : HasBuffer producer (some memory)) (data : Option (List UInt8))
    (message : Option String) :
    (∃ ext, processAndSendBuffer cJSON double (some dataType)
          (some (.audio memory pts ptsSpecial frameNumber)) = some (memory, ext) ∧
        ext.utf8ByteSize ≤ MAX_MESSAGES_LEN ∧ (acceptMessage cJSON (some ext)).isSome ∧
        ∃ out, onStreamReceived cJSON producer (some memory) (some ext) = [(out, true)] ∧
          out.times = (pts, some ptsSpecial)) ∧
      ((∀ paramItem ∈ paramOf cJSON message,
          (unmarshalAudioMeta cJSON paramItem 0 0).1 = false →
            ∀ out, (out, true) ∈ onStreamReceived cJSON producer data message →
              out.times = (0, some 0)) ↔
        (HasBuffer producer data → ∀ paramItem ∈ paramOf cJSON message,
          ∀ metaJson ∈ cJSON.parse paramItem, Whole metaJson)) :=
  ⟨audio_meta_received hinner houter hinnerLen houterLen hbuffer,
    rejected_iff producer data message⟩

/-- cJSON on the two documents of a message, with their texts. -/
def audioCodec (metaJson : Json) (dataType : UInt32) (text message : String) : Codec where
  printUnformatted
    | .object members => if members.length = 2 then message else text
    | _ => ""
  parse s :=
    if s = text then some metaJson
    else if s = message then some (extJson dataType text)
    else none

theorem audioCodec_faithful {double : ℤ → ℤ} {dataType frameNumber : UInt32}
    {pts ptsSpecial : Int64} {text message : String} (h : message ≠ text) :
    let cJSON := audioCodec (audioMetaJson double dataType pts ptsSpecial frameNumber) dataType text
      message
    cJSON.Faithful (audioMetaJson double dataType pts ptsSpecial frameNumber) ∧
      cJSON.Faithful (extJson dataType
        (marshalAudioMeta cJSON double dataType pts ptsSpecial frameNumber)) :=
  ⟨if_pos rfl, (if_neg h).trans (if_pos rfl)⟩

/-- Buffers that have memory and meta. -/
def plainProducer : Producer where
  requestBuffer size := some {
    pts_ := 0
    meta_ := some {}
    memory_ := some (List.replicate size 0) }
  write _ data := data

def earlyText : String :=
  "\x7b\"meta_data_type\":0,\"meta_timestamp\":-9.2233720368547758e+18," ++
    "\"meta_frame_number\":3,\"meta_timestamp_string\":\"-9223372036854775808\"," ++
    "\"meta_timestamp_special\":\"-1\"\x7d"

def earlyMessage : String :=
  "\x7b\"avtrans_data_meta_type\":0,\"avtrans_data_param\":\"" ++
    "\x7b\\\"meta_data_type\\\":0,\\\"meta_timestamp\\\":-9.2233720368547758e+18," ++
    "\\\"meta_frame_number\\\":3,\\\"meta_timestamp_string\\\":\\\"-9223372036854775808\\\"," ++
    "\\\"meta_timestamp_special\\\":\\\"-1\\\"\x7d\"\x7d"

/-- cJSON on a frame of the earliest time there is, which a double holds. -/
def earlyCodec : Codec :=
  audioCodec (audioMetaJson id 0 (-9223372036854775808) (-1) 3) 0 earlyText earlyMessage

/-- A frame of the earliest time, and its message once more. -/
theorem audio_meta_kept_early :
    (∃ ext, processAndSendBuffer earlyCodec id (some 0)
          (some (.audio [1, 2] (-9223372036854775808) (-1) 3)) = some ([1, 2], ext) ∧
        ext.utf8ByteSize ≤ MAX_MESSAGES_LEN ∧ (acceptMessage earlyCodec (some ext)).isSome ∧
        ∃ out, onStreamReceived earlyCodec (some plainProducer) (some [1, 2]) (some ext) =
            [(out, true)] ∧
          out.times = (-9223372036854775808, some (-1))) ∧
      ((∀ paramItem ∈ paramOf earlyCodec (some earlyMessage),
          (unmarshalAudioMeta earlyCodec paramItem 0 0).1 = false →
            ∀ out, (out, true) ∈ onStreamReceived earlyCodec (some plainProducer) (some [1, 2])
                (some earlyMessage) →
              out.times = (0, some 0)) ↔
        (HasBuffer (some plainProducer) (some [1, 2]) →
          ∀ paramItem ∈ paramOf earlyCodec (some earlyMessage),
            ∀ metaJson ∈ earlyCodec.parse paramItem, Whole metaJson)) :=
  have hne : earlyMessage ≠ earlyText := by decide +kernel
  have hfaithful := audioCodec_faithful hne
  audio_meta_kept_iff earlyCodec id (some plainProducer) 0 3 (-9223372036854775808) (-1) [1, 2]
    hfaithful.1 hfaithful.2 (by unfold Codec.Compact; decide +kernel)
    (by unfold Codec.Compact; decide +kernel) ⟨_, rfl, _, rfl, _, rfl, rfl, rfl⟩ (some [1, 2])
    (some earlyMessage)

def halfText : String :=
  "\x7b\"meta_timestamp\":40,\"meta_timestamp_string\":\"40\"\x7d"

def halfMessage : String :=
  "\x7b\"avtrans_data_meta_type\":0,\"avtrans_data_param\":\"" ++
    "\x7b\\\"meta_timestamp\\\":40,\\\"meta_timestamp_string\\\":\\\"40\\\"\x7d\"\x7d"

abbrev halfJson : Json :=
  .object [(META_TIMESTAMP, .number 40), (META_TIMESTAMP_STRING, .string "40")]

/-- Metadata without a special time is turned down, and its presentation time is pushed. -/
theorem audio_meta_half :
    paramOf (audioCodec halfJson 0 halfText halfMessage) (some halfMessage) = some halfText ∧
      (unmarshalAudioMeta (audioCodec halfJson 0 halfText halfMessage) halfText 0 0).1 = false ∧
      (onStreamReceived (audioCodec halfJson 0 halfText halfMessage) (some plainProducer)
        (some [1, 2]) (some halfMessage)).map (fun out => (out.1.times, out.2)) =
          [((40, some 0), true)] := by
  decide +kernel

end AudioMeta

end DHFwk
