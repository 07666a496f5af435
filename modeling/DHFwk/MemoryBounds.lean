import DHFwk.ClockRing
import DHFwk.LoggedMemory

/-!
# Accesses to the shared memory

The functions on shared memory again, now with a log of the bytes that they access. Without the log
they are those of the ring (`writeClockUnitToMemory_eq`, `readClockUnitFromMemory_eq`).

Each of them checks the size before it touches the memory, and so stays inside, with one exception :
a clock unit is written at its index, but only the size of one unit is asked for. It is written
outside exactly if the memory ends before this unit does (`accesses_inside_iff`).
-/

set_option linter.unusedSectionVars false

namespace DHFwk

namespace Logged

section

variable (offset : ℕ) (m : LoggedMemory)

/-- `U32ToU8`, for an array that is not null and long enough. -/
def u32ToU8 (value : UInt32) : LoggedMemory := m.write 4 offset value.toNat

/-- `U64ToU8`. -/
def u64ToU8 (value : UInt64) : LoggedMemory := m.write 8 offset value.toNat

/-- `U8ToU32`. -/
def u8ToU32 : UInt32 × LoggedMemory :=
  let result := m.read 4 offset
  (UInt32.ofNat result.1, result.2)

/-- `U8ToU64`. -/
def u8ToU64 : UInt64 × LoggedMemory :=
  let result := m.read 8 offset
  (UInt64.ofNat result.1, result.2)

end

section

variable (ashmem : Ashmem) (memory : AVTransSharedMemory) (m : LoggedMemory)

/-- `WriteClockUnitToMemory`. -/
def writeClockUnitToMemory (clockUnit : AVSyncClockUnit) : Int × AVSyncClockUnit × LoggedMemory :=
  if isInValidSharedMemory memory then (ERR_DH_AVT_INVALID_PARAM, clockUnit, m)
  else if memory.size < 12 then (ERR_DH_AVT_INVALID_PARAM, clockUnit, m)
  else if isInValidClockUnit clockUnit then (ERR_DH_AVT_INVALID_PARAM, clockUnit, m)
  else if ashmem.AshmemGetSize memory.fd ≠ memory.size then
    (ERR_DH_AVT_SHARED_MEMORY_FAILED, clockUnit, m)
  else if ashmem.AshmemSetProt memory.fd < 0 then (ERR_DH_AVT_SHARED_MEMORY_FAILED, clockUnit, m)
  else
    let fOffset := unitSize * clockUnit.index.toNat
    let tOffset := fOffset + 4
    let m := u64ToU8 tOffset m clockUnit.pts.toUInt64
    let m := u32ToU8 fOffset m clockUnit.frameNum
    let index := clockUnit.index + 1
    (DH_AVT_SUCCESS,
      { clockUnit with index := if index = MAX_CLOCK_UNIT_COUNT then 0 else index }, m)

/-- One unit of the loop in `ReadClockUnitFromMemory`, with `latestPts`. -/
def readUnit (latest : (Int64 × AVSyncClockUnit) × LoggedMemory) (index : ℕ) :
    (Int64 × AVSyncClockUnit) × LoggedMemory :=
  let frameNum := u8ToU32 (index * unitSize) latest.2
  let pts := u8ToU64 (index * unitSize + 4) frameNum.2
  (if pts.1.toInt64 > latest.1.1 then
    (pts.1.toInt64, { latest.1.2 with pts := pts.1.toInt64, frameNum := frameNum.1 })
    else latest.1, pts.2)

/-- `ReadClockUnitFromMemory`. -/
def readClockUnitFromMemory (clockUnit : AVSyncClockUnit) : Int × AVSyncClockUnit × LoggedMemory :=
  if isInValidSharedMemory memory then (ERR_DH_AVT_INVALID_PARAM, clockUnit, m)
  else if memory.size < unitSize * MAX_CLOCK_UNIT_COUNT.toNat + 4 then
    (ERR_DH_AVT_INVALID_PARAM, clockUnit, m)
  else if clockUnit.frameNum = 0 then (ERR_DH_AVT_INVALID_PARAM, clockUnit, m)
  else if ashmem.AshmemGetSize memory.fd ≠ memory.size then
    (ERR_DH_AVT_SHARED_MEMORY_FAILED, clockUnit, m)
  else if ashmem.AshmemSetProt memory.fd < 0 then (ERR_DH_AVT_SHARED_MEMORY_FAILED, clockUnit, m)
  else
    let firstUnit := u8ToU32 0 m
    if firstUnit.1 = 0 then (ERR_DH_AVT_MASTER_NOT_READY, clockUnit, firstUnit.2)
    else
      let latest :=
        (List.range MAX_CLOCK_UNIT_COUNT.toNat).foldl readUnit ((0, clockUnit), firstUnit.2)
      (DH_AVT_SUCCESS, latest.1.2, latest.2)

/-- `WriteFrameInfoToMemory`. -/
def writeFrameInfoToMemory (frameNum : UInt32) (timestamp : Int64) : Int × LoggedMemory :=
  if isInValidSharedMemory memory then (ERR_DH_AVT_INVALID_PARAM, m)
  else if memory.size < 12 then (ERR_DH_AVT_INVALID_PARAM, m)
  else if frameNum = 0 then (ERR_DH_AVT_INVALID_PARAM, m)
  else if ashmem.AshmemGetSize memory.fd ≠ memory.size then (ERR_DH_AVT_SHARED_MEMORY_FAILED, m)
  else if ashmem.AshmemSetProt memory.fd < 0 then (ERR_DH_AVT_SHARED_MEMORY_FAILED, m)
  else
    let m := u32ToU8 0 m frameNum
    let m := u64ToU8 4 m timestamp.toUInt64
    (DH_AVT_SUCCESS, m)

/-- `ReadFrameInfoFromMemory`, with the frame number and the time that it was called with. -/
def readFrameInfoFromMemory (frameNum : UInt32) (timestamp : Int64) :
    Int × UInt32 × Int64 × LoggedMemory :=
  if isInValidSharedMemory memory then (ERR_DH_AVT_INVALID_PARAM, frameNum, timestamp, m)
  else if memory.size < 12 then (ERR_DH_AVT_INVALID_PARAM, frameNum, timestamp, m)
  else if ashmem.AshmemGetSize memory.fd ≠ memory.size then
    (ERR_DH_AVT_SHARED_MEMORY_FAILED, frameNum, timestamp, m)
  else if ashmem.AshmemSetProt memory.fd < 0 then
    (ERR_DH_AVT_SHARED_MEMORY_FAILED, frameNum, timestamp, m)
  else
    let frameNum := u8ToU32 0 m
    let timestamp := u8ToU64 4 frameNum.2
    if frameNum.1 = 0 then
      (ERR_DH_AVT_MASTER_NOT_READY, frameNum.1, timestamp.1.toInt64, timestamp.2)
    else (DH_AVT_SUCCESS, frameNum.1, timestamp.1.toInt64, timestamp.2)

/-- `ResetSharedMemory`. `memset_s` tells whether the size is one that it takes. -/
def resetSharedMemory (memset_s : ℤ → Bool) : Int × LoggedMemory :=
  if isInValidSharedMemory memory then (ERR_DH_AVT_INVALID_PARAM, m)
  else
    let size := ashmem.AshmemGetSize memory.fd
    if size ≠ memory.size then (ERR_DH_AVT_SHARED_MEMORY_FAILED, m)
    else if ashmem.AshmemSetProt memory.fd < 0 then (ERR_DH_AVT_SHARED_MEMORY_FAILED, m)
    else if ¬memset_s size then (ERR_DH_AVT_SHARED_MEMORY_FAILED, m)
    else (DH_AVT_SUCCESS, m.fill size.toNat 0)

end

/-- A call of one of the functions. -/
inductive MemoryCall
  | writeClockUnit (clockUnit : AVSyncClockUnit)
  | readClockUnit (clockUnit : AVSyncClockUnit)
  | writeFrameInfo (frameNum : UInt32) (timestamp : Int64)
  | readFrameInfo (frameNum : UInt32) (timestamp : Int64)
  | reset (memset_s : ℤ → Bool)

section

variable (ashmem : Ashmem) (memory : AVTransSharedMemory) (mem : Bytes)

/-- The memory behind a call. -/
def MemoryCall.run (m : LoggedMemory) : MemoryCall → LoggedMemory
  | .writeClockUnit clockUnit => (writeClockUnitToMemory ashmem memory m clockUnit).2.2
  | .readClockUnit clockUnit => (readClockUnitFromMemory ashmem memory m clockUnit).2.2
  | .writeFrameInfo frameNum timestamp =>
    (writeFrameInfoToMemory ashmem memory m frameNum timestamp).2
  | .readFrameInfo frameNum timestamp =>
    (readFrameInfoFromMemory ashmem memory m frameNum timestamp).2.2.2
  | .reset memset_s => (resetSharedMemory ashmem memory m memset_s).2

/-- The offsets of the bytes that a call reads or writes. -/
def accesses (call : MemoryCall) : List ℕ := (call.run ashmem memory ⟨mem, []⟩).log

/-- A clock unit is written that the memory ends before. -/
def Overruns : MemoryCall → Prop
  | .writeClockUnit clockUnit =>
    Usable ashmem memory ∧ 12 ≤ memory.size ∧ isInValidClockUnit clockUnit = false ∧
      memory.size < unitSize * (clockUnit.index.toNat + 1)
  | _ => False

end

/-! ## The log changes nothing -/

section

variable {ashmem : Ashmem} {memory : AVTransSharedMemory} {m : LoggedMemory} {offset size : ℕ}
variable {clockUnit : AVSyncClockUnit}

theorem u8ToU32_eq (offset : ℕ) (m : LoggedMemory) : (u8ToU32 offset m).1 = DHFwk.u8ToU32 m.mem offset ∧
    (u8ToU32 offset m).2.mem = m.mem := by
  rw [u8ToU32, LoggedMemory.read_eq]
  exact ⟨rfl, rfl⟩

theorem u8ToU64_eq (offset : ℕ) (m : LoggedMemory) : (u8ToU64 offset m).1 = DHFwk.u8ToU64 m.mem offset ∧
    (u8ToU64 offset m).2.mem = m.mem := by
  rw [u8ToU64, LoggedMemory.read_eq]
  exact ⟨rfl, rfl⟩

theorem writeClockUnitToMemory_eq (clockUnit : AVSyncClockUnit) :
    ((writeClockUnitToMemory ashmem memory m clockUnit).1,
      (writeClockUnitToMemory ashmem memory m clockUnit).2.1,
      (writeClockUnitToMemory ashmem memory m clockUnit).2.2.mem) =
        DHFwk.writeClockUnitToMemory ashmem memory clockUnit m.mem := by
  unfold writeClockUnitToMemory DHFwk.writeClockUnitToMemory
  dsimp only
  split_ifs
  all_goals rfl

theorem readUnit_eq (latest : (Int64 × AVSyncClockUnit) × LoggedMemory) (index : ℕ) :
    (readUnit latest index).1 = DHFwk.readUnit latest.2.mem latest.1 index ∧
      (readUnit latest index).2.mem = latest.2.mem := by
  obtain ⟨hframeNum, hmem⟩ := u8ToU32_eq (index * unitSize) latest.2
  obtain ⟨hpts, hmem'⟩ := u8ToU64_eq (index * unitSize + 4)
    (u8ToU32 (index * unitSize) latest.2).2
  rw [hmem] at hpts hmem'
  unfold readUnit DHFwk.readUnit
  dsimp only
  rw [hframeNum, hpts]
  exact ⟨rfl, hmem'⟩

theorem foldl_readUnit_eq : ∀ (indices : List ℕ) (latest : (Int64 × AVSyncClockUnit) × LoggedMemory),
    (indices.foldl readUnit latest).1 =
        indices.foldl (DHFwk.readUnit latest.2.mem) latest.1 ∧
      (indices.foldl readUnit latest).2.mem = latest.2.mem
  | [], _ => ⟨rfl, rfl⟩
  | index :: indices, latest => by
    obtain ⟨hunit, hmem⟩ := readUnit_eq latest index
    obtain ⟨hunits, hmem'⟩ := foldl_readUnit_eq indices (readUnit latest index)
    rw [hunit, hmem] at hunits
    exact ⟨hunits, hmem'.trans hmem⟩

theorem readClockUnitFromMemory_eq (clockUnit : AVSyncClockUnit) :
    ((readClockUnitFromMemory ashmem memory m clockUnit).1,
      (readClockUnitFromMemory ashmem memory m clockUnit).2.1) =
        DHFwk.readClockUnitFromMemory ashmem memory clockUnit m.mem ∧
      (readClockUnitFromMemory ashmem memory m clockUnit).2.2.mem = m.mem := by
  obtain ⟨hfirst, hmem⟩ := u8ToU32_eq 0 m
  unfold readClockUnitFromMemory DHFwk.readClockUnitFromMemory
  dsimp only
  generalize List.range MAX_CLOCK_UNIT_COUNT.toNat = units
  obtain ⟨hunits, hmem'⟩ := foldl_readUnit_eq units ((0, clockUnit), (u8ToU32 0 m).2)
  rw [hmem] at hunits hmem'
  rw [hfirst]
  split_ifs
  all_goals first
    | exact ⟨by rw [hunits], hmem'⟩
    | exact ⟨rfl, hmem⟩

/-! ## Inside -/

theorem within_u32ToU8_iff (value : UInt32) :
    (u32ToU8 offset m value).Within size ↔ m.Within size ∧ offset + 4 ≤ size :=
  LoggedMemory.within_write_iff (by decide)

theorem within_u64ToU8_iff (value : UInt64) :
    (u64ToU8 offset m value).Within size ↔ m.Within size ∧ offset + 8 ≤ size :=
  LoggedMemory.within_write_iff (by decide)

theorem within_u8ToU32 (h : m.Within size) (hend : offset + 4 ≤ size) :
    (u8ToU32 offset m).2.Within size :=
  h.read hend

theorem within_u8ToU64 (h : m.Within size) (hend : offset + 8 ≤ size) :
    (u8ToU64 offset m).2.Within size :=
  h.read hend

/-- A unit is read inside if it ends inside. -/
theorem within_readUnit {latest : (Int64 × AVSyncClockUnit) × LoggedMemory} {index : ℕ}
    (h : latest.2.Within size) (hend : unitSize * (index + 1) ≤ size) :
    (readUnit latest index).2.Within size := by
  rw [unitSize] at hend
  have hframeNum : (u8ToU32 (index * unitSize) latest.2).2.Within size :=
    within_u8ToU32 h (by rw [unitSize]; omega)
  exact within_u8ToU64 hframeNum (by rw [unitSize]; omega)

theorem within_foldl_readUnit {latest : (Int64 × AVSyncClockUnit) × LoggedMemory} {count : ℕ}
    (h : latest.2.Within size) (hend : unitSize * count ≤ size) :
    ((List.range count).foldl readUnit latest).2.Within size := by
  induction count with
  | zero => exact h
  | succ count ih =>
    rw [List.range_succ, List.foldl_append]
    exact within_readUnit (ih (le_trans (Nat.mul_le_mul_left _ count.le_succ) hend)) hend

/-- The whole ring is asked for before it is read. -/
theorem within_readClockUnitFromMemory (h : m.Within memory.size.toNat) :
    (readClockUnitFromMemory ashmem memory m clockUnit).2.2.Within memory.size.toNat := by
  unfold readClockUnitFromMemory
  dsimp only
  split_ifs with hinvalid hsize
  · exact h
  · exact h
  · exact h
  · exact h
  · exact h
  · have hring : ¬memory.size < 604 := hsize
    exact within_u8ToU32 h (by omega)
  · have hring : ¬memory.size < 604 := hsize
    have hfirst : (u8ToU32 0 m).2.Within memory.size.toNat := within_u8ToU32 h (by omega)
    have hunits : 600 ≤ memory.size.toNat := by omega
    exact within_foldl_readUnit hfirst hunits

theorem within_writeFrameInfoToMemory (frameNum : UInt32) (timestamp : Int64)
    (h : m.Within memory.size.toNat) :
    (writeFrameInfoToMemory ashmem memory m frameNum timestamp).2.Within memory.size.toNat := by
  unfold writeFrameInfoToMemory
  dsimp only
  split_ifs with hinvalid hsize
  · exact h
  · exact h
  · exact h
  · exact h
  · exact h
  have hframeNum : (u32ToU8 0 m frameNum).Within memory.size.toNat :=
    (within_u32ToU8_iff frameNum).2 ⟨h, by omega⟩
  exact (within_u64ToU8_iff _).2 ⟨hframeNum, by omega⟩

theorem within_readFrameInfoFromMemory (frameNum : UInt32) (timestamp : Int64)
    (h : m.Within memory.size.toNat) :
    (readFrameInfoFromMemory ashmem memory m frameNum timestamp).2.2.2.Within
      memory.size.toNat := by
  unfold readFrameInfoFromMemory
  dsimp only
  split_ifs with hinvalid hsize
  · exact h
  · exact h
  · exact h
  · exact h
  all_goals
    have hframeNum : (u8ToU32 0 m).2.Within memory.size.toNat := within_u8ToU32 h (by omega)
    exact within_u8ToU64 hframeNum (by omega)

/-- The memory is reset as far as the system says that it goes, and this is its size. -/
theorem within_resetSharedMemory (memset_s : ℤ → Bool) (h : m.Within memory.size.toNat) :
    (resetSharedMemory ashmem memory m memset_s).2.Within memory.size.toNat := by
  unfold resetSharedMemory
  dsimp only
  split_ifs with hinvalid hsize
  all_goals first
    | exact h
    | skip
  rw [not_ne_iff.1 hsize]
  exact h.fill

/-- A clock unit is written inside exactly if no check passes a memory that ends before it. -/
theorem within_writeClockUnitToMemory_iff (h : m.Within memory.size.toNat) :
    (writeClockUnitToMemory ashmem memory m clockUnit).2.2.Within memory.size.toNat ↔
      ¬Overruns ashmem memory (.writeClockUnit clockUnit) := by
  unfold writeClockUnitToMemory Overruns
  simp only [apply_ite Prod.snd]
  split_ifs with hvalid hsize hunit hget hprot
  · exact iff_of_true h fun hover => by simp [hover.1.valid] at hvalid
  · exact iff_of_true h fun hover => absurd hsize hover.2.1.not_gt
  · exact iff_of_true h fun hover => by simp [hover.2.2.1] at hunit
  · exact iff_of_true h fun hover => hget hover.1.getSize
  · exact iff_of_true h fun hover => absurd hprot hover.1.setProt.not_gt
  · have husable : Usable ashmem memory :=
      ⟨by simpa using hvalid, not_ne_iff.1 hget, not_lt.1 hprot⟩
    rw [within_u32ToU8_iff, within_u64ToU8_iff, unitSize]
    constructor
    · rintro ⟨⟨-, htime⟩, -⟩ hover
      have hshort : memory.size < 12 * (clockUnit.index.toNat + 1) := hover.2.2.2
      omega
    · intro hover
      have hend : ¬memory.size < 12 * (clockUnit.index.toNat + 1) := fun hshort =>
        hover ⟨husable, not_lt.1 hsize, by simpa using hunit, hshort⟩
      exact ⟨⟨h, by omega⟩, by omega⟩

theorem within_run_iff (call : MemoryCall) (mem : Bytes) :
    (call.run ashmem memory ⟨mem, []⟩).Within memory.size.toNat ↔
      ¬Overruns ashmem memory call := by
  have hnil : (⟨mem, []⟩ : LoggedMemory).Within memory.size.toNat :=
    LoggedMemory.within_nil mem
  cases call with
  | writeClockUnit clockUnit => exact within_writeClockUnitToMemory_iff hnil
  | readClockUnit clockUnit => exact iff_of_true (within_readClockUnitFromMemory hnil) id
  | writeFrameInfo frameNum timestamp =>
    exact iff_of_true (within_writeFrameInfoToMemory frameNum timestamp hnil) id
  | readFrameInfo frameNum timestamp =>
    exact iff_of_true (within_readFrameInfoFromMemory frameNum timestamp hnil) id
  | reset memset_s => exact iff_of_true (within_resetSharedMemory memset_s hnil) id

/-- Every byte that a call reads or writes is inside the memory, unless a clock unit is written
that the memory ends before. -/
theorem accesses_inside_iff (ashmem : Ashmem) (memory : AVTransSharedMemory) (mem : Bytes)
    (call : MemoryCall) :
    (∀ offset ∈ accesses ashmem memory mem call, (offset : ℤ) < memory.size) ↔
      ¬Overruns ashmem memory call := by
  rw [← within_run_iff call mem]
  exact forall₂_congr fun offset _ => Int.lt_toNat.symm

/-- A memory for one unit is taken for the second one as well. -/
theorem accesses_outside : ¬∀ (ashmem : Ashmem) (memory : AVTransSharedMemory) (mem : Bytes)
    (call : MemoryCall), ∀ offset ∈ accesses ashmem memory mem call,
      (offset : ℤ) < memory.size := by
  intro h
  have hlast := h ⟨fun _ => 12, fun _ => 0⟩ ⟨3, 12, "clock", some 0⟩ (fun _ => 0)
    (.writeClockUnit ⟨1, 1, 40⟩) 16 (by decide)
  exact absurd hlast (by decide)

end

end Logged

end DHFwk
