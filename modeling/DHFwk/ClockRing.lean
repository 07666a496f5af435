import DHFwk.AVTypes
import DHFwk.LastWrites
import DHFwk.LittleEndian

/-!
# The ring of clocks in shared memory

The audio stream writes its clock into shared memory, the number and the time of a frame, into one
of 50 units after the other. The video stream reads all of them and takes the one with the latest
time. There is no clock as long as the first unit has no number.

What is read is the latest of the last 50 clocks that were written, for any number of them and in
any order of their times (`read_returns_latest`).
-/

set_option linter.unusedSectionVars false

namespace DHFwk

abbrev ERR_DH_AVT_SHARED_MEMORY_FAILED : Int := -80023
abbrev ERR_DH_AVT_MASTER_NOT_READY : Int := -80024

abbrev MAX_CLOCK_UNIT_COUNT : UInt32 := 50

/-- `sizeof(uint32_t) + sizeof(int64_t)`. -/
abbrev unitSize : ℕ := 12

/-- The bytes behind an address. -/
abbrev Bytes := ℕ → UInt8

/-- Shared memory, as it is known to one who uses it. -/
structure AVTransSharedMemory where
  fd : ℤ
  size : ℤ
  name : String
  addr : Option ℕ := none
  deriving DecidableEq

structure AVSyncClockUnit where
  index : UInt32
  frameNum : UInt32
  pts : Int64
  deriving DecidableEq

/-- What the system says of a descriptor. -/
structure Ashmem where
  AshmemGetSize : ℤ → ℤ
  AshmemSetProt : ℤ → ℤ

/-! ## The code -/

section

variable (mem : Bytes)

/-- `U32ToU8`, for an array that is not null and long enough. -/
def u32ToU8 (offset : ℕ) (value : UInt32) : Bytes := LittleEndian.write 4 offset value.toNat mem

/-- `U64ToU8`. -/
def u64ToU8 (offset : ℕ) (value : UInt64) : Bytes := LittleEndian.write 8 offset value.toNat mem

/-- `U8ToU32`. -/
def u8ToU32 (offset : ℕ) : UInt32 := UInt32.ofNat (LittleEndian.read 4 offset mem)

/-- `U8ToU64`. -/
def u8ToU64 (offset : ℕ) : UInt64 := UInt64.ofNat (LittleEndian.read 8 offset mem)

end

/-- `IsInValidSharedMemory`. -/
def isInValidSharedMemory (memory : AVTransSharedMemory) : Bool :=
  memory.fd ≤ 0 ∨ memory.size ≤ 0 ∨ memory.name = "" ∨ memory.addr = none

/-- `IsInValidClockUnit`. -/
def isInValidClockUnit (clockUnit : AVSyncClockUnit) : Bool :=
  clockUnit.index ≥ MAX_CLOCK_UNIT_COUNT ∨ clockUnit.frameNum = 0 ∨ clockUnit.pts ≤ 0

section

variable (ashmem : Ashmem) (memory : AVTransSharedMemory) (clockUnit : AVSyncClockUnit)
variable (mem : Bytes)

/-- `WriteClockUnitToMemory`. -/
def writeClockUnitToMemory : Int × AVSyncClockUnit × Bytes :=
  if isInValidSharedMemory memory then (ERR_DH_AVT_INVALID_PARAM, clockUnit, mem)
  else if memory.size < 12 then (ERR_DH_AVT_INVALID_PARAM, clockUnit, mem)
  else if isInValidClockUnit clockUnit then (ERR_DH_AVT_INVALID_PARAM, clockUnit, mem)
  else if ashmem.AshmemGetSize memory.fd ≠ memory.size then
    (ERR_DH_AVT_SHARED_MEMORY_FAILED, clockUnit, mem)
  else if ashmem.AshmemSetProt memory.fd < 0 then (ERR_DH_AVT_SHARED_MEMORY_FAILED, clockUnit, mem)
  else
    let fOffset := unitSize * clockUnit.index.toNat
    let tOffset := fOffset + 4
    let mem := u64ToU8 mem tOffset clockUnit.pts.toUInt64
    let mem := u32ToU8 mem fOffset clockUnit.frameNum
    let index := clockUnit.index + 1
    (DH_AVT_SUCCESS,
      { clockUnit with index := if index = MAX_CLOCK_UNIT_COUNT then 0 else index }, mem)

/-- One unit of the loop in `ReadClockUnitFromMemory`, with `latestPts`. -/
def readUnit (latest : Int64 × AVSyncClockUnit) (index : ℕ) : Int64 × AVSyncClockUnit :=
  let frameNum := u8ToU32 mem (index * unitSize)
  let pts := (u8ToU64 mem (index * unitSize + 4)).toInt64
  if pts > latest.1 then (pts, { latest.2 with pts, frameNum }) else latest

/-- `ReadClockUnitFromMemory`. -/
def readClockUnitFromMemory : Int × AVSyncClockUnit :=
  if isInValidSharedMemory memory then (ERR_DH_AVT_INVALID_PARAM, clockUnit)
  else if memory.size < unitSize * MAX_CLOCK_UNIT_COUNT.toNat + 4 then
    (ERR_DH_AVT_INVALID_PARAM, clockUnit)
  else if clockUnit.frameNum = 0 then (ERR_DH_AVT_INVALID_PARAM, clockUnit)
  else if ashmem.AshmemGetSize memory.fd ≠ memory.size then
    (ERR_DH_AVT_SHARED_MEMORY_FAILED, clockUnit)
  else if ashmem.AshmemSetProt memory.fd < 0 then (ERR_DH_AVT_SHARED_MEMORY_FAILED, clockUnit)
  else if u8ToU32 mem 0 = 0 then (ERR_DH_AVT_MASTER_NOT_READY, clockUnit)
  else (DH_AVT_SUCCESS,
    ((List.range MAX_CLOCK_UNIT_COUNT.toNat).foldl (readUnit mem) (0, clockUnit)).2)

end

/-- A clock of the audio stream : a frame and its time. -/
structure Clock where
  frameNum : UInt32
  pts : Int64
  deriving DecidableEq

/-- Writes one after the other, each with the index that the one before returned. There is no
result if one of them fails. -/
def writeAll (ashmem : Ashmem) (memory : AVTransSharedMemory) :
    List Clock → UInt32 → Bytes → Option (UInt32 × Bytes)
  | [], index, mem => some (index, mem)
  | clock :: clocks, index, mem =>
    let (ret, clockUnit, mem) :=
      writeClockUnitToMemory ashmem memory ⟨index, clock.frameNum, clock.pts⟩ mem
    if ret = DH_AVT_SUCCESS then writeAll ashmem memory clocks clockUnit.index mem else none

/-! ## Units -/

/-- The clock in a unit. -/
def unitAt (mem : Bytes) (index : ℕ) : Clock :=
  ⟨u8ToU32 mem (index * unitSize), (u8ToU64 mem (index * unitSize + 4)).toInt64⟩

/-- Memory that can be written and read. -/
structure Usable (ashmem : Ashmem) (memory : AVTransSharedMemory) : Prop where
  valid : isInValidSharedMemory memory = false
  getSize : ashmem.AshmemGetSize memory.fd = memory.size
  setProt : 0 ≤ ashmem.AshmemSetProt memory.fd

variable {ashmem : Ashmem} {memory : AVTransSharedMemory} {clockUnit unit' : AVSyncClockUnit}
variable {mem mem' : Bytes} {ret : Int} {clock : Clock} {clocks : List Clock} {index i : ℕ}

theorem u8ToU32_u32ToU8 (offset : ℕ) (value : UInt32) :
    u8ToU32 (u32ToU8 mem offset value) offset = value := by
  rw [u8ToU32, u32ToU8, LittleEndian.read_write_of_lt value.toNat_lt, UInt32.ofNat_toNat]

theorem u8ToU64_u64ToU8 (offset : ℕ) (value : UInt64) :
    u8ToU64 (u64ToU8 mem offset value) offset = value := by
  rw [u8ToU64, u64ToU8, LittleEndian.read_write_of_lt value.toNat_lt, UInt64.ofNat_toNat]

/-- A unit that is written, the time first. -/
def setUnit (mem : Bytes) (index : ℕ) (clock : Clock) : Bytes :=
  u32ToU8 (u64ToU8 mem (unitSize * index + 4) clock.pts.toUInt64) (unitSize * index) clock.frameNum

theorem unitAt_setUnit_self : unitAt (setUnit mem index clock) index = clock := by
  have hpts : u8ToU64 (setUnit mem index clock) (unitSize * index + 4) = clock.pts.toUInt64 := by
    rw [setUnit, u8ToU64, u32ToU8, LittleEndian.read_write_of_disjoint (.inr le_rfl)]
    exact u8ToU64_u64ToU8 _ _
  rw [unitAt, Nat.mul_comm index, hpts, setUnit, u8ToU32_u32ToU8, Int64.toInt64_toUInt64]

theorem unitAt_setUnit_ne (h : i ≠ index) : unitAt (setUnit mem index clock) i = unitAt mem i := by
  simp only [unitAt, setUnit, u8ToU32, u8ToU64, u32ToU8, u64ToU8, unitSize]
  rw [LittleEndian.read_write_of_disjoint (by omega),
    LittleEndian.read_write_of_disjoint (by omega),
    LittleEndian.read_write_of_disjoint (by omega),
    LittleEndian.read_write_of_disjoint (by omega)]

/-- No byte behind the units is written. -/
theorem setUnit_of_le (hindex : index < MAX_CLOCK_UNIT_COUNT.toNat)
    (h : unitSize * MAX_CLOCK_UNIT_COUNT.toNat ≤ i) : setUnit mem index clock i = mem i := by
  have hcount : MAX_CLOCK_UNIT_COUNT.toNat = 50 := rfl
  simp only [setUnit, u32ToU8, u64ToU8, unitSize] at h ⊢
  rw [LittleEndian.write_of_ne (by omega), LittleEndian.write_of_ne (by omega)]

/-! ## Writes -/

/-- A write that succeeds : the memory is usable, the unit valid, and it is set. -/
structure FrameWritten (ashmem : Ashmem) (memory : AVTransSharedMemory)
    (clockUnit : AVSyncClockUnit) (mem : Bytes) (unit' : AVSyncClockUnit) (mem' : Bytes) :
    Prop where
  usable : Usable ashmem memory
  index_lt : clockUnit.index.toNat < MAX_CLOCK_UNIT_COUNT.toNat
  frameNum_ne : clockUnit.frameNum ≠ 0
  pts_pos : 0 < clockUnit.pts
  mem_eq : mem' = setUnit mem clockUnit.index.toNat ⟨clockUnit.frameNum, clockUnit.pts⟩
  next : unit'.index.toNat = (clockUnit.index.toNat + 1) % MAX_CLOCK_UNIT_COUNT.toNat

theorem isInValidClockUnit_eq_false_iff :
    isInValidClockUnit clockUnit = false ↔
      clockUnit.index.toNat < MAX_CLOCK_UNIT_COUNT.toNat ∧ clockUnit.frameNum ≠ 0 ∧
        0 < clockUnit.pts := by
  rw [isInValidClockUnit, decide_eq_false_iff_not, not_or, not_or, ge_iff_le, UInt32.not_le,
    UInt32.lt_iff_toNat_lt, Int64.not_le]

/-- The index goes on by one, and on at 0 behind the last unit. -/
theorem next_index {index : UInt32} (h : index.toNat < MAX_CLOCK_UNIT_COUNT.toNat) :
    (if index + 1 = MAX_CLOCK_UNIT_COUNT then 0 else index + 1).toNat =
      (index.toNat + 1) % MAX_CLOCK_UNIT_COUNT.toNat := by
  have hcount : MAX_CLOCK_UNIT_COUNT.toNat = 50 := rfl
  have hnext : (index + 1).toNat = index.toNat + 1 := by
    rw [UInt32.toNat_add]
    exact Nat.mod_eq_of_lt (by simp; omega)
  split_ifs with hlast
  · rw [← UInt32.toNat_inj, hnext] at hlast
    rw [hlast, Nat.mod_self]
    rfl
  · rw [← UInt32.toNat_inj, hnext] at hlast
    rw [hnext, Nat.mod_eq_of_lt (by omega)]

theorem written_of_success
    (h : writeClockUnitToMemory ashmem memory clockUnit mem = (DH_AVT_SUCCESS, unit', mem')) :
    FrameWritten ashmem memory clockUnit mem unit' mem' := by
  rw [writeClockUnitToMemory] at h
  split_ifs at h with hvalid hsize hunit hget hprot
  iterate 5 exact absurd (Prod.mk.inj h).1 (by decide)
  obtain ⟨hindex, hframe, hpts⟩ :=
    isInValidClockUnit_eq_false_iff.1 (Bool.eq_false_of_not_eq_true hunit)
  obtain ⟨-, hrest⟩ := Prod.mk.inj h
  obtain ⟨rfl, rfl⟩ := Prod.mk.inj hrest
  exact ⟨⟨Bool.eq_false_of_not_eq_true hvalid, not_not.1 hget, not_lt.1 hprot⟩, hindex, hframe,
    hpts, rfl, next_index hindex⟩

/-- In usable memory a valid unit is written. -/
theorem success_of_usable (mem : Bytes) (hmemory : Usable ashmem memory) (hsize : 12 ≤ memory.size)
    (hunit : isInValidClockUnit clockUnit = false) :
    (writeClockUnitToMemory ashmem memory clockUnit mem).1 = DH_AVT_SUCCESS := by
  rw [writeClockUnitToMemory, if_neg (by rw [hmemory.valid]; decide), if_neg hsize.not_gt,
    if_neg (by rw [hunit]; decide), if_neg (not_not.2 hmemory.getSize),
    if_neg hmemory.setProt.not_gt]

/-- The units have the last clocks, and the next index is the number of all clocks. -/
structure RingOf (init : Bytes) (clocks : List Clock) (index : UInt32) (mem : Bytes) : Prop where
  units : LastWrites.Holds MAX_CLOCK_UNIT_COUNT.toNat (unitAt init) (unitAt mem) clocks
  index_eq : index.toNat = clocks.length % MAX_CLOCK_UNIT_COUNT.toNat
  valid : ∀ clock ∈ clocks, clock.frameNum ≠ 0 ∧ 0 < clock.pts

theorem ringOf_nil {init : Bytes} : RingOf init [] 0 init :=
  ⟨LastWrites.holds_nil _ _, rfl, fun _ h => absurd h List.not_mem_nil⟩

/-- A write adds its clock. -/
theorem RingOf.write {init : Bytes} {index : UInt32}
    (h : RingOf init clocks index mem)
    (hwrite : FrameWritten ashmem memory ⟨index, clock.frameNum, clock.pts⟩ mem unit' mem') :
    RingOf init (clocks ++ [clock]) unit'.index mem' where
  units := by
    have hmem : mem' = setUnit mem index.toNat clock := hwrite.mem_eq
    refine h.units.push ?_ fun i _ hne => ?_
    · rw [hmem, ← h.index_eq, unitAt_setUnit_self]
    · rw [hmem, unitAt_setUnit_ne (h.index_eq ▸ hne)]
  index_eq := by
    rw [hwrite.next, h.index_eq, Nat.mod_add_mod, List.length_append, List.length_singleton]
  valid clock' hclock' := by
    rcases List.mem_append.1 hclock' with hold | hnew
    · exact h.valid clock' hold
    · rw [List.mem_singleton.1 hnew]
      exact ⟨hwrite.frameNum_ne, hwrite.pts_pos⟩

/-- So the ring has the clocks of a whole run of writes. -/
theorem RingOf.writeAll {init : Bytes} : ∀ {clocks' clocks : List Clock} {index : UInt32}
    {mem : Bytes} {index' : UInt32} {mem' : Bytes}, RingOf init clocks index mem →
    DHFwk.writeAll ashmem memory clocks' index mem = some (index', mem') →
    RingOf init (clocks ++ clocks') index' mem'
  | [], clocks, _, _, _, _, h, hrun => by
    obtain ⟨rfl, rfl⟩ := Prod.mk.inj (Option.some.inj hrun)
    rwa [List.append_nil]
  | clock :: clocks', clocks, index, mem, _, _, h, hrun => by
    obtain ⟨⟨ret, unit', mem''⟩, hwrite⟩ :
        ∃ result, writeClockUnitToMemory ashmem memory ⟨index, clock.frameNum, clock.pts⟩ mem =
          result := ⟨_, rfl⟩
    simp only [DHFwk.writeAll, hwrite] at hrun
    split_ifs at hrun with hret
    have hnext := h.write (written_of_success (hret ▸ hwrite))
    have hrest := RingOf.writeAll hnext hrun
    rwa [List.append_assoc, List.singleton_append] at hrest

/-- Valid clocks are all written, each in turn. -/
theorem writeAll_isSome (hmemory : Usable ashmem memory) (hsize : 12 ≤ memory.size) :
    ∀ {clocks : List Clock} {index : UInt32} {mem : Bytes},
    index.toNat < MAX_CLOCK_UNIT_COUNT.toNat →
    (∀ clock ∈ clocks, clock.frameNum ≠ 0 ∧ 0 < clock.pts) →
    (writeAll ashmem memory clocks index mem).isSome
  | [], _, _, _, _ => rfl
  | clock :: clocks, index, mem, hindex, hvalid => by
    obtain ⟨⟨ret, unit', mem'⟩, hwrite⟩ :
        ∃ result, writeClockUnitToMemory ashmem memory ⟨index, clock.frameNum, clock.pts⟩ mem =
          result := ⟨_, rfl⟩
    have hunit : isInValidClockUnit ⟨index, clock.frameNum, clock.pts⟩ = false :=
      isInValidClockUnit_eq_false_iff.2 ⟨hindex, hvalid clock List.mem_cons_self⟩
    have hret : ret = DH_AVT_SUCCESS := by
      rw [← success_of_usable mem hmemory hsize hunit, hwrite]
    have hwritten := written_of_success (hret ▸ hwrite)
    simp only [writeAll, hwrite, if_pos hret]
    refine writeAll_isSome hmemory hsize ?_ fun clock' h => hvalid clock' (List.mem_cons_of_mem _ h)
    rw [hwritten.next]
    exact Nat.mod_lt _ (by decide)

/-! ## Reads -/

/-- Of the units that were looked at, `latestPts` is the latest time, or all are without a time and
the unit is as it was passed. -/
structure Latest (mem : Bytes) (clockUnit : AVSyncClockUnit) (count : ℕ)
    (latest : Int64 × AVSyncClockUnit) : Prop where
  le : ∀ i < count, (unitAt mem i).pts ≤ latest.1
  index_eq : latest.2.index = clockUnit.index
  at_unit : latest = (0, clockUnit) ∨
    latest.2.pts = latest.1 ∧ ∃ i < count, unitAt mem i = ⟨latest.2.frameNum, latest.2.pts⟩

theorem latest_zero : Latest mem clockUnit 0 (0, clockUnit) :=
  ⟨fun _ hi => absurd hi (Nat.not_lt_zero _), rfl, .inl rfl⟩

/-- The loop looks at one more unit. -/
theorem Latest.readUnit {count : ℕ} {latest : Int64 × AVSyncClockUnit}
    (h : Latest mem clockUnit count latest) :
    Latest mem clockUnit (count + 1) (DHFwk.readUnit mem latest count) := by
  have hread : DHFwk.readUnit mem latest count =
      if latest.1 < (unitAt mem count).pts then
        ((unitAt mem count).pts,
          { latest.2 with pts := (unitAt mem count).pts, frameNum := (unitAt mem count).frameNum })
      else latest := rfl
  rw [hread]
  split_ifs with hlater
  · refine ⟨fun i hi => ?_, h.index_eq, .inr ⟨rfl, count, Nat.lt_succ_self count, rfl⟩⟩
    rcases Nat.lt_succ_iff_lt_or_eq.1 hi with hlt | rfl
    · exact Int64.le_of_lt (Int64.lt_of_le_of_lt (h.le i hlt) hlater)
    · exact Int64.le_refl _
  · refine ⟨fun i hi => ?_, h.index_eq, h.at_unit.imp_right fun hat => ⟨hat.1, ?_⟩⟩
    · rcases Nat.lt_succ_iff_lt_or_eq.1 hi with hlt | rfl
      · exact h.le i hlt
      · exact Int64.not_lt.1 hlater
    · obtain ⟨i, hi, hunit⟩ := hat.2
      exact ⟨i, Nat.lt_succ_of_lt hi, hunit⟩

theorem latest_foldl (count : ℕ) :
    Latest mem clockUnit count
      ((List.range count).foldl (DHFwk.readUnit mem) (0, clockUnit)) := by
  induction count with
  | zero => exact latest_zero
  | succ count ih =>
    rw [List.range_succ, List.foldl_append]
    exact ih.readUnit

/-- What a read returns in usable memory of enough size. -/
theorem read_of_usable (hmemory : Usable ashmem memory)
    (hsize : unitSize * MAX_CLOCK_UNIT_COUNT.toNat + 4 ≤ memory.size) :
    readClockUnitFromMemory ashmem memory clockUnit mem =
      if clockUnit.frameNum = 0 then (ERR_DH_AVT_INVALID_PARAM, clockUnit)
      else if (unitAt mem 0).frameNum = 0 then (ERR_DH_AVT_MASTER_NOT_READY, clockUnit)
      else (DH_AVT_SUCCESS, ((List.range MAX_CLOCK_UNIT_COUNT.toNat).foldl (readUnit mem)
        (0, clockUnit)).2) := by
  have hfirst : (unitAt mem 0).frameNum = u8ToU32 mem 0 := rfl
  rw [readClockUnitFromMemory, if_neg (by rw [hmemory.valid]; decide), if_neg hsize.not_gt,
    if_neg (not_not.2 hmemory.getSize), if_neg hmemory.setProt.not_gt, hfirst]

/-- Memory that has nothing in it. -/
def zeros : Bytes := fun _ => 0

theorem unitAt_zeros (i : ℕ) : unitAt zeros i = ⟨0, 0⟩ := by
  have h32 : u8ToU32 zeros (i * unitSize) = 0 := by
    rw [u8ToU32, LittleEndian.read_zeros fun _ _ => rfl]
    rfl
  have h64 : u8ToU64 zeros (i * unitSize + 4) = 0 := by
    rw [u8ToU64, LittleEndian.read_zeros fun _ _ => rfl]
    rfl
  rw [unitAt, h32, h64]
  rfl

/-- A ring that was empty at first has one of its last clocks with the latest time, and no unit has
a later one. -/
theorem RingOf.latest {index : UInt32} (h : RingOf zeros clocks index mem) (hne : clocks ≠ [])
    {latest : Int64 × AVSyncClockUnit}
    (hlatest : Latest mem clockUnit MAX_CLOCK_UNIT_COUNT.toNat latest) :
    ∃ clock ∈ clocks.drop (clocks.length - MAX_CLOCK_UNIT_COUNT.toNat),
      latest.2 = ⟨clockUnit.index, clock.frameNum, clock.pts⟩ ∧
        ∀ other ∈ clocks.drop (clocks.length - MAX_CLOCK_UNIT_COUNT.toNat),
          other.pts ≤ clock.pts := by
  have hle : ∀ other ∈ clocks.drop (clocks.length - MAX_CLOCK_UNIT_COUNT.toNat),
      other.pts ≤ latest.1 := by
    intro other hother
    obtain ⟨i, hi, rfl⟩ := h.units.slot_of_mem (by decide) hother
    exact hlatest.le i hi
  have hpos : 0 < latest.1 := by
    have hlen : 0 < clocks.length := List.length_pos_iff.2 hne
    have hcount : 0 < MAX_CLOCK_UNIT_COUNT.toNat := by decide
    obtain ⟨clock, hclock⟩ := List.exists_mem_of_ne_nil
      (clocks.drop (clocks.length - MAX_CLOCK_UNIT_COUNT.toNat))
      (by rw [ne_eq, List.drop_eq_nil_iff]; omega)
    exact Int64.lt_of_lt_of_le (h.valid _ (List.mem_of_mem_drop hclock)).2 (hle _ hclock)
  rcases hlatest.at_unit with rfl | ⟨hpts, i, hi, hunit⟩
  · exact absurd hpos Int64.lt_irrefl
  · rcases h.units.mem_or_init hi with hmem | hinit
    · rw [hunit] at hmem
      refine ⟨_, hmem, ?_, fun other hother => hpts ▸ hle other hother⟩
      rw [← hlatest.index_eq]
    · rw [hunit, unitAt_zeros] at hinit
      rw [← hpts, (Clock.mk.inj hinit).2] at hpos
      exact absurd hpos (by decide)

/-- In usable memory with room for the units, and with nothing in it at first, a read with a frame
number returns the latest of the last 50 clocks that were written, whatever the order of their
times, and fails before the first. A read without a frame number is refused. -/
theorem read_returns_latest (ashmem : Ashmem) (memory : AVTransSharedMemory)
    (hmemory : Usable ashmem memory)
    (hsize : unitSize * MAX_CLOCK_UNIT_COUNT.toNat + 4 ≤ memory.size)
    (clocks : List Clock) (index : UInt32) (mem : Bytes)
    (hrun : writeAll ashmem memory clocks 0 zeros = some (index, mem))
    (clockUnit : AVSyncClockUnit) :
    (clockUnit.frameNum = 0 →
      readClockUnitFromMemory ashmem memory clockUnit mem =
        (ERR_DH_AVT_INVALID_PARAM, clockUnit)) ∧
    (clockUnit.frameNum ≠ 0 → clocks = [] →
      readClockUnitFromMemory ashmem memory clockUnit mem =
        (ERR_DH_AVT_MASTER_NOT_READY, clockUnit)) ∧
    (clockUnit.frameNum ≠ 0 → clocks ≠ [] →
      ∃ clock ∈ clocks.drop (clocks.length - MAX_CLOCK_UNIT_COUNT.toNat),
        readClockUnitFromMemory ashmem memory clockUnit mem =
            (DH_AVT_SUCCESS, ⟨clockUnit.index, clock.frameNum, clock.pts⟩) ∧
          ∀ other ∈ clocks.drop (clocks.length - MAX_CLOCK_UNIT_COUNT.toNat),
            other.pts ≤ clock.pts) := by
  have hring : RingOf zeros clocks index mem := ringOf_nil.writeAll hrun
  rw [read_of_usable hmemory hsize]
  refine ⟨fun hframe => if_pos hframe, fun hframe hnil => ?_, fun hframe hne => ?_⟩
  · subst hnil
    obtain ⟨rfl, rfl⟩ := Prod.mk.inj (Option.some.inj hrun)
    rw [if_neg hframe, if_pos (by rw [unitAt_zeros])]
  · have hfirst : (unitAt mem 0).frameNum ≠ 0 :=
      (hring.valid _ (hring.units.first_mem (by decide) hne)).1
    rw [if_neg hframe, if_neg hfirst]
    obtain ⟨clock, hclock, hunit, hlatest⟩ := hring.latest hne (latest_foldl _)
    exact ⟨clock, hclock, by rw [hunit], hlatest⟩

/-- Shared memory of the smallest size that is read. -/
def someMemory : AVTransSharedMemory := ⟨3, 604, "sinkSharedMemory", some 4096⟩

/-- A system that knows its size. -/
def someAshmem : Ashmem := ⟨fun _ => 604, fun _ => 0⟩

theorem usable_someMemory : Usable someAshmem someMemory :=
  ⟨by decide, by decide, by decide⟩

/-- A later clock with an earlier time does not count. -/
def twoClocks : List Clock := [⟨1, 900⟩, ⟨2, 700⟩]

theorem read_returns_latest_two :
    ∃ index mem, writeAll someAshmem someMemory twoClocks 0 zeros = some (index, mem) ∧
      ∃ clock ∈ twoClocks, (readClockUnitFromMemory someAshmem someMemory ⟨0, 1, 0⟩ mem).2 =
        ⟨0, clock.frameNum, clock.pts⟩ := by
  obtain ⟨⟨index, mem⟩, hrun⟩ := Option.isSome_iff_exists.1
    (show (writeAll someAshmem someMemory twoClocks 0 zeros).isSome from
      writeAll_isSome usable_someMemory (by decide) (by decide) (by decide))
  obtain ⟨clock, hclock, hread, -⟩ := (read_returns_latest someAshmem someMemory usable_someMemory
    (by decide) twoClocks index mem hrun ⟨0, 1, 0⟩).2.2 (by decide) (by decide)
  exact ⟨index, mem, hrun, clock, List.mem_of_mem_drop hclock, by rw [hread]⟩

/-- A clock is there, but a read that passes no frame number does not get it. -/
theorem read_without_frameNum_fails :
    Usable someAshmem someMemory ∧
      ∃ index mem, writeAll someAshmem someMemory [⟨1, 900⟩] 0 zeros = some (index, mem) ∧
        readClockUnitFromMemory someAshmem someMemory ⟨0, 0, 0⟩ mem =
          (ERR_DH_AVT_INVALID_PARAM, ⟨0, 0, 0⟩) :=
  ⟨⟨by decide, by decide, by decide⟩, 1, _, rfl, by decide⟩

end DHFwk
