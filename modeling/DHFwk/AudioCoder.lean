import DHFwk.Table
import DHFwk.Ledger

/-!
# The audio filters that decode and encode

Two filters of one make : `processInputBuffer` puts frames into a queue, the codec reports its
own buffers for input, and a thread takes one of each and pushes the frame into the codec. What
the codec puts out is written into a buffer of the next filter. Only how a frame keeps its time
on the way differs (`stampIn`, `stampOut`).

The thread, the callbacks of the codec and one caller of `start`, `stop` and `release` take turns
in `AudioCoder.step`; a stop waits for the thread. The state also keeps the books :
what was acquired and released, requested and pushed, reported and freed, the frames that are in
the codec, and the times that were pushed.
-/

namespace DHFwk

/-- Which of the two filters. -/
inductive Coder
  | decoder
  | encoder
  deriving DecidableEq, Repr

namespace AudioCoder

/-- `AUDIO_DECODER_QUEUE_MAX` and `AUDIO_ENCODER_QUEUE_MAX`. -/
abbrev AUDIO_QUEUE_MAX : ℕ := 100
abbrev INDEX_FLAG : ℕ := 15
abbrev FRAME_OUTINDEX_FLAG : ℕ := 16

inductive Status
  | OK
  | ERROR_INVALID_OPERATION
  | ERROR_NULL_POINTER
  deriving DecidableEq, Repr

/-- An input buffer : whether it has memory and meta, its time, and the tag of its meta. -/
structure Frame where
  memory_ : Bool
  meta_ : Bool
  pts_ : Int64
  USER_FRAME_PTS : Option Int64 := none
  deriving DecidableEq, Repr

/-- A frame with the number of its acquisition. -/
structure InBuffer extends Frame where
  id : ℕ
  deriving DecidableEq, Repr

/-- A buffer that the next filter gives. Its time is from its last use. -/
structure OutBuffer where
  memory_ : Bool
  meta_ : Bool
  pts_ : Int64
  deriving DecidableEq, Repr

/-- What was pushed : the time of the buffer, its tag, and the time of the frame that the codec
made it from. -/
structure Pushed where
  pts_ : Int64
  USER_FRAME_PTS : Option Int64
  source : Option Int64
  deriving DecidableEq, Repr

/-- Where the thread is : there is none to join, at the condition of its loop, waiting for work,
with a frame, or at its end. `codecMem` tells whether the buffer of the codec is valid. -/
inductive Worker
  | none
  | check
  | wait
  | holding (audioData : Option InBuffer) (index : UInt32) (codecMem : Bool)
  | ended
  deriving DecidableEq, Repr

/-- A call that waits for the thread. -/
inductive Call
  | stop
  | release
  deriving DecidableEq, Repr

end AudioCoder

open AudioCoder

/-- `AudioDecoderFilter` and `AudioEncoderFilter`. The codec and the next queue are there or not,
and the queues of the codec's indices and of its buffers are one, as they change together.
`terminated` : a thread was assigned over one that is not joined. -/
structure AudioCoder where
  audioCodec_ : Bool := true
  isRunning_ : Bool := false
  isStoped_ : Bool := false
  outputProducer_ : Bool := true
  thread_ : Worker := .none
  inputDataBufferQueue_ : List (Option InBuffer) := []
  codecBufQueue_ : List (UInt32 × Bool) := []
  ptsMap_ : Table ℕ Int64 := ∅
  frameInIndex_ : ℕ := 0
  frameOutIndex_ : ℕ := 0
  call : Option Call := none
  terminated : Bool := false
  inputs : Ledger := {}
  outputs : Ledger := {}
  indices : Ledger := {}
  inFlight : List Int64 := []
  pushed : List Pushed := []
  destroyedEarly : Bool := false

namespace AudioCoder

/-- What happens next. A frame that is acquired may be null, a buffer of the codec null or
invalid. `copied` is the result of `memcpy_s`, and `pushed` that of `PushInputBuffer`. `start`
has the access decision and the result of the codec, and `joined` is the rest of a stop or a
release, with those of `Flush` and `Stop`. -/
inductive Label
  | processInputBuffer (acquired : Option (Option Frame))
  | onInputBufferAvailable (index : UInt32) (buffer : Option Bool)
  | onOutputBufferAvailable (buffer : Bool) (request : Option OutBuffer)
  | onError
  | check
  | take
  | process (copied pushed : Bool)
  | start (granted started : Bool)
  | stop
  | release
  | joined (flushed stopped : Bool)
  deriving DecidableEq, Repr

/-! ## Frames that come in -/

/-- `ReleaseBuffer`. -/
def releaseBuffer (buffer : Option InBuffer) (inputs : Ledger) : Ledger :=
  match buffer with
  | none => inputs
  | some b => inputs.give b.id

/-- The front of a queue that is too long is released. -/
def evict : List (Option InBuffer) → Ledger → List (Option InBuffer) × Ledger
  | [], inputs => ([], inputs)
  | front :: queue, inputs =>
    if AUDIO_QUEUE_MAX < (front :: queue).length then evict queue (releaseBuffer front inputs)
    else (front :: queue, inputs)

/-- `DoProcessInputBuffer`. -/
def processInputBuffer (acquired : Option (Option Frame)) (s : AudioCoder) : AudioCoder :=
  match acquired with
  | none => s
  | some none =>
    let (queue, inputs) := evict s.inputDataBufferQueue_ s.inputs
    { s with inputDataBufferQueue_ := queue ++ [none], inputs := inputs }
  | some (some frame) =>
    let (queue, inputs) := evict s.inputDataBufferQueue_ s.inputs.issue
    { s with
      inputDataBufferQueue_ := queue ++ [some { frame with id := s.inputs.issued }]
      inputs := inputs }

/-- `OnDecInputBufferAvailable` and `OnEncInputBufferAvailable`. -/
def onInputBufferAvailable (index : UInt32) (buffer : Option Bool) (s : AudioCoder) : AudioCoder :=
  match buffer with
  | none => s
  | some valid =>
    { s with
      codecBufQueue_ :=
        s.codecBufQueue_.drop (s.codecBufQueue_.length - AUDIO_QUEUE_MAX) ++ [(index, valid)] }

/-! ## The time stamps -/

/-- How `ProcessData` enters the time of a frame. -/
def stampIn (coder : Coder) (audioData : Frame) (s : AudioCoder) : AudioCoder :=
  match coder with
  | .decoder =>
    let ptsMap := s.ptsMap_.set s.frameInIndex_ audioData.pts_
    if s.frameInIndex_ + 1 = INDEX_FLAG then
      { s with
        ptsMap_ := ptsMap.set INDEX_FLAG (audioData.USER_FRAME_PTS.getD audioData.pts_)
        frameInIndex_ := 0 }
    else { s with ptsMap_ := ptsMap, frameInIndex_ := s.frameInIndex_ + 1 }
  | .encoder =>
    { s with
      ptsMap_ := s.ptsMap_.set s.frameInIndex_ (audioData.USER_FRAME_PTS.getD 0)
      frameInIndex_ :=
        if (s.frameInIndex_ + 1) % FRAME_OUTINDEX_FLAG = 0 then 0 else s.frameInIndex_ + 1 }

/-- The time and the tag of what is put out. -/
def stampOut (coder : Coder) (s : AudioCoder) : (Int64 × Int64) × AudioCoder :=
  let pts := (s.ptsMap_.lookup s.frameOutIndex_).getD 0
  let s := { s with
    ptsMap_ := s.ptsMap_.remove s.frameOutIndex_
    frameOutIndex_ := s.frameOutIndex_ + 1 }
  if s.frameOutIndex_ ≠ INDEX_FLAG then ((pts, pts), s)
  else
    match coder, s.ptsMap_.lookup INDEX_FLAG with
    | .decoder, none => ((pts, pts), s)
    | .decoder, some special => ((pts, special), { s with frameOutIndex_ := 0 })
    | .encoder, none => ((pts, pts), { s with frameOutIndex_ := 0 })
    | .encoder, some special =>
      ((pts, special), { s with ptsMap_ := s.ptsMap_.remove INDEX_FLAG, frameOutIndex_ := 0 })

/-! ## The thread -/

/-- `ProcessData`. -/
def processData (coder : Coder) (audioData : Option InBuffer) (codecMem copied pushed : Bool)
    (s : AudioCoder) : Status × AudioCoder :=
  if ¬s.audioCodec_ ∨ ¬s.isRunning_ then (.ERROR_INVALID_OPERATION, s)
  else if ¬codecMem then (.ERROR_NULL_POINTER, s)
  else
    match audioData with
    | none => (.ERROR_NULL_POINTER, s)
    | some b =>
      if ¬b.memory_ ∨ ¬b.meta_ then (.ERROR_NULL_POINTER, s)
      else if ¬copied then (.ERROR_INVALID_OPERATION, s)
      else
        let s := s.stampIn coder b.toFrame
        if ¬pushed then (.ERROR_INVALID_OPERATION, s)
        else (.OK, { s with inFlight := s.inFlight ++ [b.pts_] })

/-- The condition of the loop of `InputDecodeAudioData` and `InputEncodeAudioData`. -/
def check (s : AudioCoder) : AudioCoder :=
  match s.thread_ with
  | .check => { s with thread_ := if s.isRunning_ then .wait else .ended }
  | _ => s

/-- A frame and a buffer of the codec are taken if there are both. -/
def take (s : AudioCoder) : AudioCoder :=
  match s.thread_ with
  | .wait =>
    match s.inputDataBufferQueue_, s.codecBufQueue_ with
    | audioData :: queue, (index, codecMem) :: bufs =>
      { s with
        thread_ := .holding audioData index codecMem
        inputDataBufferQueue_ := queue
        codecBufQueue_ := bufs }
    | _, _ => { s with thread_ := .check }
  | _ => s

/-- A frame is released only if it was processed. -/
def process (coder : Coder) (copied pushed : Bool) (s : AudioCoder) : AudioCoder :=
  match s.thread_ with
  | .holding audioData _ codecMem =>
    match s.processData coder audioData codecMem copied pushed with
    | (.OK, s) => { s with thread_ := .check, inputs := releaseBuffer audioData s.inputs }
    | (.ERROR_INVALID_OPERATION, s) => { s with thread_ := .ended }
    | (.ERROR_NULL_POINTER, s) => { s with thread_ := .check }
  | _ => s

/-! ## What the codec puts out -/

/-- The body of `OnDecOutputBufferAvailable` and `OnEncOutputBufferAvailable`. `source` is the
time of the frame that the output is made from. -/
def output (coder : Coder) (buffer : Bool) (request : Option OutBuffer) (source : Option Int64)
    (s : AudioCoder) : AudioCoder :=
  if ¬s.audioCodec_ ∨ ¬s.isRunning_ then s
  else
    let s := { s with indices := s.indices.issue }
    if ¬buffer ∨ ¬s.outputProducer_ then s
    else
      match request with
      | none => s
      | some outBuffer =>
        let s := { s with outputs := s.outputs.issue }
        if ¬outBuffer.memory_ then s
        else if ¬outBuffer.meta_ then
          { s with
            outputs := s.outputs.give (s.outputs.issued - 1)
            pushed := s.pushed ++ [⟨outBuffer.pts_, none, source⟩] }
        else
          let ((pts, special), s) := s.stampOut coder
          { s with
            outputs := s.outputs.give (s.outputs.issued - 1)
            pushed := s.pushed ++ [⟨pts, some special, source⟩]
            indices := s.indices.give (s.indices.issued - 1) }

def onOutputBufferAvailable (coder : Coder) (buffer : Bool) (request : Option OutBuffer)
    (s : AudioCoder) : AudioCoder :=
  { s with inFlight := s.inFlight.tail }.output coder buffer request s.inFlight.head?

/-- `OnDecError` and `OnEncError`. -/
def onError (s : AudioCoder) : AudioCoder := { s with isRunning_ := false }

/-! ## Start, stop and release -/

/-- `StartInputThread`. -/
def startInputThread (s : AudioCoder) : AudioCoder :=
  match s.thread_ with
  | .none => { s with isRunning_ := true, thread_ := .check }
  | _ => { s with isRunning_ := true, terminated := true }

/-- `StartAudioCodec`. -/
def startAudioCodec (granted started : Bool) (s : AudioCoder) : AudioCoder :=
  if ¬s.audioCodec_ ∨ ¬granted ∨ ¬started then s else s.startInputThread

/-- The begin of `StopAudioCodec` : the thread is told to stop. -/
def stopAudioCodec (s : AudioCoder) : AudioCoder :=
  { s with isRunning_ := false, call := some .stop }

/-- `OH_AudioCodec_Destroy`, at the end of `ReleaseAudioCodec`. -/
def destroy (s : AudioCoder) : AudioCoder :=
  { s with
    audioCodec_ := false
    destroyedEarly := s.destroyedEarly || s.thread_ ≠ .none
    inFlight := []
    call := none }

/-- `ReleaseAudioCodec`, up to its end or to where it waits for the thread. -/
def releaseAudioCodec (s : AudioCoder) : AudioCoder :=
  if ¬s.audioCodec_ then s
  else if s.isStoped_ then s.destroy
  else { s with isRunning_ := false, call := some .release }

/-- The rest of `StopInputThread` : the thread is joined, and the queues are emptied. -/
def joinThread (s : AudioCoder) : AudioCoder :=
  { s with
    thread_ := .none
    codecBufQueue_ := []
    inputDataBufferQueue_ := []
    inputs := s.inputDataBufferQueue_.foldl (fun inputs buffer => releaseBuffer buffer inputs)
      s.inputs }

/-- The rest of `StopAudioCodec`. Either call makes the codec discard what it holds. -/
def flushAndStop (flushed stopped : Bool) (s : AudioCoder) : AudioCoder :=
  if ¬s.audioCodec_ then s
  else
    { s with
      isStoped_ := s.isStoped_ || (flushed && stopped)
      inFlight := if flushed || stopped then [] else s.inFlight }

/-- A stop or a release goes on once the thread has ended. -/
def joined (flushed stopped : Bool) (s : AudioCoder) : AudioCoder :=
  if s.thread_ ≠ .none ∧ s.thread_ ≠ .ended then s
  else
    match s.call with
    | none => s
    | some .stop => { s.joinThread.flushAndStop flushed stopped with call := none }
    | some .release => (s.joinThread.flushAndStop flushed stopped).destroy

/-- One step. While a call waits there is no other, and after `std::terminate` nothing happens. -/
def step (coder : Coder) (s : AudioCoder) (l : Label) : AudioCoder :=
  if s.terminated then s
  else
    match l with
    | .processInputBuffer acquired => s.processInputBuffer acquired
    | .onInputBufferAvailable index buffer => s.onInputBufferAvailable index buffer
    | .onOutputBufferAvailable buffer request => s.onOutputBufferAvailable coder buffer request
    | .onError => s.onError
    | .check => s.check
    | .take => s.take
    | .process copied pushed => s.process coder copied pushed
    | .start granted started => if s.call.isSome then s else s.startAudioCodec granted started
    | .stop => if s.call.isSome then s else s.stopAudioCodec
    | .release => if s.call.isSome then s else s.releaseAudioCodec
    | .joined flushed stopped => s.joined flushed stopped

/-- A filter with a codec, which is not started yet. -/
def prepared (outputProducer : Bool) : AudioCoder := { outputProducer_ := outputProducer }

/-! ## What the time stamps change -/

theorem stampIn_eq (coder : Coder) (audioData : Frame) (s : AudioCoder) :
    ∃ ptsMap frameIn,
      s.stampIn coder audioData = { s with ptsMap_ := ptsMap, frameInIndex_ := frameIn } := by
  cases coder with
  | decoder =>
    unfold stampIn
    dsimp only
    split_ifs <;> exact ⟨_, _, rfl⟩
  | encoder => exact ⟨_, _, rfl⟩

theorem stampOut_eq (coder : Coder) (s : AudioCoder) :
    ∃ ptsMap frameOut,
      (s.stampOut coder).2 = { s with ptsMap_ := ptsMap, frameOutIndex_ := frameOut } := by
  unfold stampOut
  dsimp only
  split_ifs
  · exact ⟨_, _, rfl⟩
  · cases coder <;> split <;> exact ⟨_, _, rfl⟩

/-- `ProcessData` changes the times, and what is in the codec. -/
theorem processData_eq (coder : Coder) (audioData : Option InBuffer)
    (codecMem copied pushed : Bool) (s : AudioCoder) :
    ∃ ptsMap frameIn inFlight, (s.processData coder audioData codecMem copied pushed).2 =
      { s with ptsMap_ := ptsMap, frameInIndex_ := frameIn, inFlight := inFlight } := by
  cases audioData with
  | none =>
    unfold processData
    split_ifs <;> exact ⟨_, _, _, rfl⟩
  | some b =>
    obtain ⟨ptsMap, frameIn, hstamp⟩ := stampIn_eq coder b.toFrame s
    unfold processData
    dsimp only
    rw [hstamp]
    split_ifs <;> exact ⟨_, _, _, rfl⟩

end AudioCoder

end DHFwk
