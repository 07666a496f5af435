import DHFwk.ClockRing
import DHFwk.OutputController

/-!
# The handover of the shared memory for clocks

The receiver creates shared memory for the clocks of the audio stream, and hands it as a document to
the plugin that writes the clocks and to the controller that reads them. The document has the
descriptor, the size and the name, but not the address, and whoever takes it maps nothing. A write
wants an address, and a read wants one and four bytes more than the creator allots.

So no clock gets from the one to the other (`clock_never_handed_over`).
-/

set_option linter.unusedSectionVars false

namespace DHFwk

open Json

abbrev KEY_SHARED_MEM_FD : String := "sharedMemoryFd"
abbrev KEY_SHARED_MEM_SIZE : String := "sharedMemorySize"
abbrev KEY_SHARED_MEM_NAME : String := "sharedMemoryName"

/-- The system with what it answers to one who creates memory. -/
structure MemorySystem extends Ashmem where
  AshmemCreate : String → ℕ → ℤ
  mmap : ℤ → ℕ → Option ℕ
  memset_s : Bool

/-! ## The code -/

/-- `CreateAVTransSharedMemory`. -/
def createAVTransSharedMemory (sys : MemorySystem) (name : String) (size : ℕ) :
    AVTransSharedMemory :=
  let fd := sys.AshmemCreate name size
  if fd ≤ 0 then ⟨0, 0, name, none⟩
  else if sys.AshmemSetProt fd < 0 then ⟨0, 0, name, none⟩
  else
    match sys.mmap fd size with
    | none => ⟨0, 0, name, none⟩
    | some addr => if ¬sys.memset_s then ⟨0, 0, name, none⟩ else ⟨fd, size, name, some addr⟩

/-- What `EnableReceiverAVSync` creates. -/
def enableReceiverAVSync (sys : MemorySystem) : AVTransSharedMemory :=
  createAVTransSharedMemory sys "sinkSharedMemory" (unitSize * MAX_CLOCK_UNIT_COUNT.toNat)

/-- The document of `MarshalSharedMemory`. -/
def sharedMemoryJson (memory : AVTransSharedMemory) : Json :=
  .object
    [(KEY_SHARED_MEM_FD, .number memory.fd),
      (KEY_SHARED_MEM_SIZE, .number memory.size),
      (KEY_SHARED_MEM_NAME, .string (cStr memory.name))]

/-- `MarshalSharedMemory`. -/
def marshalSharedMemory (cJSON : Codec) (memory : AVTransSharedMemory) : String :=
  cJSON.printUnformatted (sharedMemoryJson memory)

/-- `UnmarshalSharedMemory`. The address that it does not name is null. -/
def unmarshalSharedMemory (cJSON : Codec) (jsonStr : String) : AVTransSharedMemory :=
  match cJSON.parse jsonStr with
  | none => ⟨0, 0, "", none⟩
  | some paramJson =>
    match paramJson.getObjectItemCaseSensitive KEY_SHARED_MEM_FD with
    | some (.number fd) =>
      match paramJson.getObjectItemCaseSensitive KEY_SHARED_MEM_SIZE with
      | some (.number size) =>
        match paramJson.getObjectItemCaseSensitive KEY_SHARED_MEM_NAME with
        | some (.string name) =>
          ⟨(Json.number fd).valueint, (Json.number size).valueint, name, none⟩
        | _ => ⟨0, 0, "", none⟩
      | _ => ⟨0, 0, "", none⟩
    | _ => ⟨0, 0, "", none⟩

/-- The tags of a frame that the audio plugin looks at. -/
structure MasterMeta where
  USER_FRAME_NUMBER : Option UInt32
  USER_FRAME_PTS : Option Int64
  deriving DecidableEq

/-- The audio plugin. -/
structure DaudioOutputPlugin where
  sharedMemory_ : AVTransSharedMemory := ⟨0, 0, "", none⟩
  smIndex_ : UInt32 := 0
  deriving DecidableEq

/-- `WriteMasterClockToMemory`, with what the write returns if there is one. A buffer is null, or
it has metadata or none. -/
def writeMasterClockToMemory (ashmem : Ashmem) (buffer : Option (Option MasterMeta))
    (s : DaudioOutputPlugin) (mem : Bytes) : Option Int × DaudioOutputPlugin × Bytes :=
  if s.sharedMemory_.fd ≤ 0 ∨ s.sharedMemory_.size ≤ 0 ∨ s.sharedMemory_.name = "" then
    (none, s, mem)
  else
    match buffer with
    | some (some ⟨some frameNum, some pts⟩) =>
      let (ret, clockUnit, mem) :=
        writeClockUnitToMemory ashmem s.sharedMemory_ ⟨s.smIndex_, frameNum, pts⟩ mem
      (some ret, if ret = DH_AVT_SUCCESS then { s with smIndex_ := clockUnit.index } else s, mem)
    | _ => (none, s, mem)

/-- The frames of the audio stream one after the other, with what their writes return. -/
def writeMasterClocks (ashmem : Ashmem) :
    List (Option (Option MasterMeta)) → DaudioOutputPlugin → Bytes →
      List (Option Int) × DaudioOutputPlugin × Bytes
  | [], s, mem => ([], s, mem)
  | buffer :: buffers, s, mem =>
    let (ret, s, mem) := writeMasterClockToMemory ashmem buffer s mem
    let (rets, s, mem) := writeMasterClocks ashmem buffers s mem
    (ret :: rets, s, mem)

/-- What the controller of the video stream knows of the clock. -/
structure SyncClockReader where
  sharedMem_ : AVTransSharedMemory := ⟨0, 0, "", none⟩
  clockUnit_ : AVSyncClockUnit := ⟨0, 0, 0⟩
  clockTime_ : Int64 := 0
  deriving DecidableEq

/-- `AcquireSyncClockTime`. It copies the memory but for the address, which has any value. -/
def acquireSyncClockTime (ashmem : Ashmem) (addr : Option ℕ) (data : Option Buffer)
    (s : SyncClockReader) (mem : Bytes) : Int × SyncClockReader :=
  match data.bind Buffer.bufferMeta with
  | none => (ERR_DH_AVT_INVALID_PARAM, s)
  | some bufferMeta =>
    if s.sharedMem_.fd ≤ 0 ∨ s.sharedMem_.size ≤ 0 ∨ s.sharedMem_.name = "" then
      (ERR_DH_AVT_SHARED_MEMORY_FAILED, s)
    else
      let sharedMem : AVTransSharedMemory := { s.sharedMem_ with addr }
      let clockUnit : AVSyncClockUnit :=
        ⟨0, bufferMeta.AUDIO_SAMPLE_PER_FRAME.getD 0, OutputController.INVALID_TIMESTAMP⟩
      let (ret, clockUnit) := readClockUnitFromMemory ashmem sharedMem clockUnit mem
      if ret = DH_AVT_SUCCESS then
        if clockUnit.pts = OutputController.INVALID_TIMESTAMP then
          (ERR_DH_AVT_SHARED_MEMORY_FAILED, s)
        else
          (ret, { s with
            clockUnit_ := { s.clockUnit_ with pts := clockUnit.pts, frameNum := clockUnit.frameNum }
            clockTime_ := clockUnit.pts })
      else (ret, s)

/-! ## The chain -/

/-- The memory that the plugin and the controller get. -/
def handedOver (sys : MemorySystem) (cJSON : Codec) : AVTransSharedMemory :=
  unmarshalSharedMemory cJSON (marshalSharedMemory cJSON (enableReceiverAVSync sys))

/-- The clock reaches the controller : each frame is written, and the controller reads one of the
clocks. -/
def ClockReaches (sys : MemorySystem) (cJSON : Codec) (addr : Option ℕ)
    (buffers : List (Option (Option MasterMeta))) (data : Option Buffer) : Prop :=
  let (rets, _, mem) :=
    writeMasterClocks sys.toAshmem buffers { sharedMemory_ := handedOver sys cJSON } zeros
  let (ret, reader) :=
    acquireSyncClockTime sys.toAshmem addr data { sharedMem_ := handedOver sys cJSON } mem
  (∀ ret ∈ rets, ret = some DH_AVT_SUCCESS) ∧ ret = DH_AVT_SUCCESS ∧
    some (some ⟨some reader.clockUnit_.frameNum, some reader.clockTime_⟩) ∈ buffers

variable {sys : MemorySystem} {ashmem : Ashmem} {cJSON : Codec} {memory : AVTransSharedMemory}
variable {mem : Bytes} {s : DaudioOutputPlugin} {reader : SyncClockReader} {addr : Option ℕ}
variable {data : Option Buffer} {clockUnit : AVSyncClockUnit}

/-- The document does not carry the address. -/
theorem addr_unmarshalSharedMemory (jsonStr : String) :
    (unmarshalSharedMemory cJSON jsonStr).addr = none := by
  rw [unmarshalSharedMemory]
  repeat' split
  all_goals rfl

/-- Memory has the size that was asked for, or none. -/
theorem size_createAVTransSharedMemory (sys : MemorySystem) (name : String) (size : ℕ) :
    (createAVTransSharedMemory sys name size).size = size ∨
      (createAVTransSharedMemory sys name size).size = 0 := by
  unfold createAVTransSharedMemory
  dsimp only
  split
  · exact .inr rfl
  · split
    · exact .inr rfl
    · split
      · exact .inr rfl
      · split
        · exact .inr rfl
        · exact .inl rfl

/-- The creator allots the units and nothing else. -/
theorem size_enableReceiverAVSync_lt (sys : MemorySystem) :
    (enableReceiverAVSync sys).size < 604 := by
  have h600 : ((unitSize * MAX_CLOCK_UNIT_COUNT.toNat : ℕ) : ℤ) = 600 := rfl
  rcases size_createAVTransSharedMemory sys "sinkSharedMemory"
    (unitSize * MAX_CLOCK_UNIT_COUNT.toNat) with h | h
  · rw [enableReceiverAVSync, h, h600]
    decide
  · rw [enableReceiverAVSync, h]
    decide

/-- What is parsed is the descriptor, the size and the name. -/
theorem size_handedOver (hcodec : cJSON.Faithful (sharedMemoryJson (enableReceiverAVSync sys))) :
    (handedOver sys cJSON).size = (Json.number (enableReceiverAVSync sys).size).valueint := by
  have hparse : cJSON.parse (marshalSharedMemory cJSON (enableReceiverAVSync sys)) =
      some (sharedMemoryJson (enableReceiverAVSync sys)) := hcodec
  rw [handedOver, unmarshalSharedMemory, hparse]
  rfl

/-! ## What the stages reject -/

theorem invalid_of_addr (h : memory.addr = none) : isInValidSharedMemory memory = true :=
  decide_eq_true (.inr (.inr (.inr h)))

theorem write_of_addr (h : memory.addr = none) :
    writeClockUnitToMemory ashmem memory clockUnit mem =
      (ERR_DH_AVT_INVALID_PARAM, clockUnit, mem) := by
  rw [writeClockUnitToMemory, if_pos (invalid_of_addr h)]

/-- Without an address a frame is not written, and nothing changes. -/
theorem writeMasterClock_of_addr (ashmem : Ashmem) (mem : Bytes) (h : s.sharedMemory_.addr = none)
    (buffer : Option (Option MasterMeta)) :
    ∃ ret, writeMasterClockToMemory ashmem buffer s mem = (ret, s, mem) ∧
      (ret = none ∨ ret = some ERR_DH_AVT_INVALID_PARAM) := by
  unfold writeMasterClockToMemory
  split
  · exact ⟨none, rfl, .inl rfl⟩
  · split
    · rw [write_of_addr h]
      exact ⟨_, rfl, .inr rfl⟩
    · exact ⟨none, rfl, .inl rfl⟩

/-- So none of a run is written. -/
theorem writeMasterClocks_of_addr (ashmem : Ashmem) (mem : Bytes)
    (h : s.sharedMemory_.addr = none) :
    ∀ buffers : List (Option (Option MasterMeta)),
    ∃ rets, writeMasterClocks ashmem buffers s mem = (rets, s, mem) ∧
      rets.length = buffers.length ∧
      ∀ ret ∈ rets, ret = none ∨ ret = some ERR_DH_AVT_INVALID_PARAM
  | [] => ⟨[], rfl, rfl, fun _ hret => absurd hret List.not_mem_nil⟩
  | buffer :: buffers => by
    obtain ⟨ret, hwrite, hret⟩ := writeMasterClock_of_addr ashmem mem h buffer
    obtain ⟨rets, hwrites, hlen, hrets⟩ := writeMasterClocks_of_addr ashmem mem h buffers
    refine ⟨ret :: rets, ?_, congrArg (· + 1) hlen, List.forall_mem_cons.2 ⟨hret, hrets⟩⟩
    simp only [writeMasterClocks, hwrite, hwrites]

theorem read_of_size (memory : AVTransSharedMemory) (h : memory.size < 604) :
    readClockUnitFromMemory ashmem memory clockUnit mem =
      (ERR_DH_AVT_INVALID_PARAM, clockUnit) := by
  have hsize : memory.size < unitSize * MAX_CLOCK_UNIT_COUNT.toNat + 4 := h
  rw [readClockUnitFromMemory, if_pos hsize, ite_self]

/-- Whatever the address is, memory without the four bytes is not read. -/
theorem acquire_of_size (reader : SyncClockReader) (h : reader.sharedMem_.size < 604) :
    acquireSyncClockTime ashmem addr data reader mem = (ERR_DH_AVT_INVALID_PARAM, reader) ∨
      acquireSyncClockTime ashmem addr data reader mem =
        (ERR_DH_AVT_SHARED_MEMORY_FAILED, reader) := by
  unfold acquireSyncClockTime
  split
  · exact .inl rfl
  · split
    · exact .inr rfl
    · left
      dsimp only
      rw [read_of_size { reader.sharedMem_ with addr } h]
      rfl

/-- No stage takes what the one before it makes : each write of the plugin is rejected and leaves
the memory empty, and the controller gets no clock. -/
theorem clock_never_handed_over (sys : MemorySystem) (cJSON : Codec)
    (hcodec : cJSON.Faithful (sharedMemoryJson (enableReceiverAVSync sys)))
    (addr : Option ℕ) (buffers : List (Option (Option MasterMeta))) (data : Option Buffer)
    (hne : buffers ≠ []) :
    ¬ClockReaches sys cJSON addr buffers data ∧
      (∀ ret ∈ (writeMasterClocks sys.toAshmem buffers
          { sharedMemory_ := handedOver sys cJSON } zeros).1,
        ret ≠ some DH_AVT_SUCCESS) ∧
      ∀ mem, (acquireSyncClockTime sys.toAshmem addr data
        { sharedMem_ := handedOver sys cJSON } mem).1 ≠ DH_AVT_SUCCESS := by
  have haddr : ({ sharedMemory_ := handedOver sys cJSON } : DaudioOutputPlugin).sharedMemory_.addr =
      none := addr_unmarshalSharedMemory _
  obtain ⟨rets, hwrites, hlen, hrets⟩ :=
    writeMasterClocks_of_addr sys.toAshmem zeros haddr buffers
  have hfail : ∀ ret ∈ rets, ret ≠ some DH_AVT_SUCCESS := by
    intro ret hret hsuccess
    rcases hrets ret hret with h | h <;>
      exact absurd (h.symm.trans hsuccess) (by decide)
  have hacquire : ∀ mem, (acquireSyncClockTime sys.toAshmem addr data
      { sharedMem_ := handedOver sys cJSON } mem).1 ≠ DH_AVT_SUCCESS := by
    intro mem
    have hsize : (handedOver sys cJSON).size < 604 := by
      rw [size_handedOver hcodec]
      have hlt := size_enableReceiverAVSync_lt sys
      simp only [valueint, INT32_MIN, INT32_MAX]
      omega
    rcases acquire_of_size { sharedMem_ := handedOver sys cJSON } hsize with h | h
    · rw [h]
      exact show ERR_DH_AVT_INVALID_PARAM ≠ DH_AVT_SUCCESS by decide
    · rw [h]
      exact show ERR_DH_AVT_SHARED_MEMORY_FAILED ≠ DH_AVT_SUCCESS by decide
  refine ⟨fun hreaches => ?_, by rwa [hwrites], hacquire⟩
  obtain ⟨ret, hret⟩ := List.exists_mem_of_length_pos
    (hlen ▸ List.length_pos_iff.2 hne : 0 < rets.length)
  simp only [ClockReaches, hwrites] at hreaches
  exact hfail ret hret (hreaches.1 ret hret)

/-- A system in which nothing fails. -/
def someSystem : MemorySystem where
  AshmemGetSize _ := 600
  AshmemSetProt _ := 0
  AshmemCreate _ _ := 3
  mmap _ _ := some 4096
  memset_s := true

/-- The document of the memory that it creates, as text. -/
def sinkText : String :=
  "\x7b\"sharedMemoryFd\":3,\"sharedMemorySize\":600," ++
    "\"sharedMemoryName\":\"sinkSharedMemory\"\x7d"

def sinkCodec : Codec where
  printUnformatted _ := sinkText
  parse text :=
    if text = sinkText then some (sharedMemoryJson ⟨3, 600, "sinkSharedMemory", none⟩) else none

theorem faithful_sinkCodec :
    sinkCodec.Faithful (sharedMemoryJson (enableReceiverAVSync someSystem)) := by
  have hmemory : sharedMemoryJson (enableReceiverAVSync someSystem) =
      sharedMemoryJson ⟨3, 600, "sinkSharedMemory", none⟩ := rfl
  rw [Codec.Faithful, hmemory]
  simp [sinkCodec]

/-- A frame of the audio stream, and one of the video stream that waits for its clock. -/
def masterFrames : List (Option (Option MasterMeta)) := [some (some ⟨some 1, some 900⟩)]

def slaveFrame : Buffer where
  pts := 1000
  bufferMeta := some
    { metaType := 0, MEDIA_START_TIME := some 900, AUDIO_SAMPLE_PER_FRAME := some 1024 }
  memory := none

theorem clock_never_handed_over_some :
    ¬ClockReaches someSystem sinkCodec none masterFrames (some slaveFrame) :=
  (clock_never_handed_over someSystem sinkCodec faithful_sinkCodec none masterFrames
    (some slaveFrame) (by decide)).1

/-- The memory is created, but no clock is written and none is read. -/
theorem clock_rejected :
    (enableReceiverAVSync someSystem).fd = 3 ∧
      someSystem.AshmemGetSize 3 = (enableReceiverAVSync someSystem).size ∧
      (writeMasterClocks someSystem.toAshmem masterFrames
        { sharedMemory_ := handedOver someSystem sinkCodec } zeros).1 =
        [some ERR_DH_AVT_INVALID_PARAM] ∧
      (acquireSyncClockTime someSystem.toAshmem (some 4096) (some slaveFrame)
        { sharedMem_ := handedOver someSystem sinkCodec } zeros).1 = ERR_DH_AVT_INVALID_PARAM ∧
      ¬ClockReaches someSystem sinkCodec none masterFrames (some slaveFrame) := by
  have hwrites : (writeMasterClocks someSystem.toAshmem masterFrames
      { sharedMemory_ := handedOver someSystem sinkCodec } zeros).1 =
      [some ERR_DH_AVT_INVALID_PARAM] := by
    decide +kernel
  refine ⟨rfl, rfl, hwrites, by decide +kernel, fun h => ?_⟩
  have hret := h.1 (some ERR_DH_AVT_INVALID_PARAM) (hwrites ▸ List.mem_singleton_self _)
  exact absurd hret (by decide)

end DHFwk
