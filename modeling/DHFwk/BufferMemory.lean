import DHFwk.BufferItems
import DHFwk.CheckedCopy
import DHFwk.Runs
import Mathlib.Data.UInt
import Mathlib.Tactic.SplitIfs

/-!
# Accesses to the memory of a buffer

A block of a buffer has a capacity, an address and a size. Data is written at a position, or
without one behind the size, and the size is moved to its end ; and data is read from a position, or
from the front, up to the size. The size can be set to anything.

A position is cut to the capacity before data is written there, but the size is not when data is
written behind it ; and nothing that is read is compared with the capacity. Blocks of more than
`CAPACITY_MAX_LENGTH` bytes are made without memory, and what is written at a position of such a
block is written at that address. `touches_inside_iff` : all accesses are inside exactly if none of
this happens.
-/

set_option linter.unusedSectionVars false

namespace DHFwk

open CheckedCopy Runs

namespace BufferMemory

/-- `size_t` has 64 bits. -/
abbrev INVALID_POSITION : UInt64 := -1

abbrev BUFFER_MAX_CAPACITY : UInt64 := 104857600
abbrev CAPACITY_MAX_LENGTH : UInt64 := 8192

/-- The largest size that `memcpy_s` takes. -/
abbrev SECUREC_MEM_MAX_LEN : ℕ := 0x7fffffff

/-! ## The code -/

/-- A block of data. The address 0 is `nullptr`. -/
structure BufferData where
  capacity_ : UInt64
  size_ : UInt64
  address_ : ℕ
  deriving DecidableEq, Repr

/-- `BufferData(capacity)`, with the memory that it gets if it asks for some. -/
def newBufferData (capacity : UInt64) (memory : ℕ) : BufferData where
  capacity_ := capacity
  size_ := 0
  address_ := if capacity ≤ CAPACITY_MAX_LENGTH then memory else 0

/-- `BufferData(capacity, bufData)`. -/
def ofBufData (capacity : UInt64) (bufData : ℕ) : BufferData where
  capacity_ := capacity
  size_ := 0
  address_ := bufData

/-- What `memcpy_s` makes of its arguments. -/
abbrev Memcpy := ℕ → ℕ → ℕ → ℕ → Outcome

/-- What `Write` and `Read` return, the block behind the call, and what was done to memory. -/
structure Result where
  ret : UInt64
  block : BufferData
  effect : Effect UInt8

namespace BufferData

/-- `SetPosition`. -/
def setPosition (pos : UInt64) (b : BufferData) : BufferData := { b with size_ := pos }

/-- `ResetPosition`. -/
def resetPosition (b : BufferData) : BufferData := { b with size_ := 0 }

/-- Where `Write` starts. -/
def writeStart (position : UInt64) (b : BufferData) : UInt64 :=
  if position = INVALID_POSITION then b.size_ else min position b.capacity_

/-- Where `Read` starts. -/
def readStart (position : UInt64) (b : BufferData) : UInt64 :=
  if position = INVALID_POSITION then 0 else min position b.size_

section

variable (memcpy_s : Memcpy) (b : BufferData) (mem : ℕ → UInt8)

/-- `Write`, of the bytes at the address `input`. -/
def write (input : ℕ) (writeSize position : UInt64) : Result :=
  let start := b.writeStart position
  let length := min writeSize (b.capacity_ - start)
  let dest := b.address_ + start.toNat
  let outcome := memcpy_s dest length.toNat input length.toNat
  let effect := outcome.effect dest input length.toNat mem length.toNat
  if outcome ≠ .copied then { ret := 0, block := b, effect }
  else { ret := length, block := { b with size_ := start + length }, effect }

/-- `Read`, to the address `out`. -/
def read (out : ℕ) (readSize position : UInt64) : Result :=
  let start := b.readStart position
  let maxLength := if position = INVALID_POSITION then b.size_ else b.size_ - start
  let length := min readSize maxLength
  let src := b.address_ + start.toNat
  let outcome := memcpy_s out length.toNat src length.toNat
  let effect := outcome.effect out src length.toNat mem length.toNat
  if outcome ≠ .copied then { ret := 0, block := b, effect }
  else { ret := length, block := b, effect }

end

end BufferData

/-- `CreateBufferData`, what it returns. -/
def createBufferData (capacity : UInt64) (memory : ℕ) : Option BufferData :=
  if capacity > BUFFER_MAX_CAPACITY then none else some (newBufferData capacity memory)

/-- `WrapBufferData`, what it returns. -/
def wrapBufferData (data : ℕ) (capacity size : UInt64) : Option BufferData :=
  if capacity > BUFFER_MAX_CAPACITY then none else some ((ofBufData capacity data).setPosition size)

/-- A block as a buffer makes it. What `new` gives is not `nullptr`. -/
inductive Made : BufferData → Prop
  | create {capacity : UInt64} {memory : ℕ} {b : BufferData} (hmemory : memory ≠ 0)
      (hb : createBufferData capacity memory = some b) : Made b
  | wrap {data : ℕ} {capacity size : UInt64} {b : BufferData}
      (hb : wrapBufferData data capacity size = some b) : Made b

/-- A call, and what is in memory when it is made. -/
inductive Call
  | write (mem : ℕ → UInt8) (input : ℕ) (writeSize position : UInt64)
  | read (mem : ℕ → UInt8) (out : ℕ) (readSize position : UInt64)
  | setPosition (pos : UInt64)
  | resetPosition

/-- The block behind a call. -/
def step (memcpy_s : Memcpy) (b : BufferData) : Call → BufferData
  | .write mem input writeSize position => (b.write memcpy_s mem input writeSize position).block
  | .read mem out readSize position => (b.read memcpy_s mem out readSize position).block
  | .setPosition pos => b.setPosition pos
  | .resetPosition => b.resetPosition

/-! ## What it is for -/

namespace BufferData

/-- An address in the memory of a block, at an offset below its capacity. -/
def Inside (b : BufferData) (a : ℕ) : Prop :=
  b.address_ ≠ 0 ∧ ∃ offset < b.capacity_.toNat, a = b.address_ + offset

section

variable (memcpy_s : Memcpy) (b : BufferData) (mem : ℕ → UInt8) (input : ℕ)
  (writeSize position : UInt64)

/-- If a `Write` succeeds, a `Read` of the same size gives back what was written. It is a `Read` at
the position where the bytes are, or at the one of the `Write` ; but without a position it reads from
the front, which is where an empty block is written. -/
def ReadsBack : Prop :=
  let w := b.write memcpy_s mem input writeSize position
  w.ret ≠ 0 → ∀ (out : ℕ) (pos : UInt64),
    pos = b.writeStart position ∨ pos = position ∧ (position = INVALID_POSITION → b.size_ = 0) →
    out ≠ 0 → out + w.ret.toNat ≤ b.address_ + (b.writeStart position).toNat ∨
      b.address_ + (b.writeStart position).toNat + w.ret.toNat ≤ out →
    let r := w.block.read memcpy_s w.effect.mem out writeSize pos
    r.ret = w.ret ∧ ∀ i < w.ret.toNat, r.effect.mem (out + i) = mem (input + i)

end

/-- A call stores and loads inside the block, no length underflows, and what is written can be read
back. -/
def Safe (memcpy_s : Memcpy) (b : BufferData) : Call → Prop
  | .write mem input writeSize position =>
    b.writeStart position ≤ b.capacity_ ∧
      (∀ a ∈ (b.write memcpy_s mem input writeSize position).effect.stores, b.Inside a) ∧
      b.ReadsBack memcpy_s mem input writeSize position
  | .read mem out readSize position =>
    b.readStart position ≤ b.size_ ∧
      ∀ a ∈ (b.read memcpy_s mem out readSize position).effect.loads, b.Inside a
  | .setPosition _ => True
  | .resetPosition => True

/-- Where a `Read` is asked to start. -/
def readFrom (position : UInt64) : ℕ := if position = INVALID_POSITION then 0 else position.toNat

/-- Something is copied to `out`. -/
def Copies (memcpy_s : Memcpy) (b : BufferData) (out : ℕ) (readSize position : UInt64) : Prop :=
  let length := (min readSize (b.size_ - b.readStart position)).toNat
  memcpy_s out length (b.address_ + (b.readStart position).toNat) length = .copied

/-- Without a position, data is written behind a size that is in the block. A block without memory
is written at its front, at its end or not at all. And if something is read, the block has memory,
and its size or what is asked for is in the block. -/
def Bounded (memcpy_s : Memcpy) (b : BufferData) : Call → Prop
  | .write _ _ writeSize position =>
    (position = INVALID_POSITION → b.size_ ≤ b.capacity_) ∧
      (b.address_ = 0 → writeSize = 0 ∨ b.writeStart position = 0 ∨
        b.writeStart position = b.capacity_)
  | .read _ out readSize position =>
    b.Copies memcpy_s out readSize position → b.address_ ≠ 0 ∧
      (b.size_ ≤ b.capacity_ ∨ readFrom position + readSize.toNat ≤ b.capacity_.toNat)
  | .setPosition _ => True
  | .resetPosition => True

end BufferData

/-! ## One call -/

namespace BufferData

variable {memcpy_s : Memcpy} {b : BufferData} {mem : ℕ → UInt8} {input out : ℕ}
  {writeSize readSize position pos : UInt64}

/-- How much is written. -/
def writeLength (writeSize position : UInt64) (b : BufferData) : UInt64 :=
  min writeSize (b.capacity_ - b.writeStart position)

/-- How much is read. -/
def readLength (readSize position : UInt64) (b : BufferData) : UInt64 :=
  min readSize (b.size_ - b.readStart position)

/-- What becomes of a `Write`. -/
def writeOutcome (memcpy_s : Memcpy) (input : ℕ) (writeSize position : UInt64) (b : BufferData) :
    Outcome :=
  memcpy_s (b.address_ + (b.writeStart position).toNat) (b.writeLength writeSize position).toNat
    input (b.writeLength writeSize position).toNat

/-- What becomes of a `Read`. -/
def readOutcome (memcpy_s : Memcpy) (out : ℕ) (readSize position : UInt64) (b : BufferData) :
    Outcome :=
  memcpy_s out (b.readLength readSize position).toNat (b.address_ + (b.readStart position).toNat)
    (b.readLength readSize position).toNat

/-- What a `Write` does to memory. -/
def writeEffect (memcpy_s : Memcpy) (mem : ℕ → UInt8) (input : ℕ) (writeSize position : UInt64)
    (b : BufferData) : Effect UInt8 :=
  (b.writeOutcome memcpy_s input writeSize position).effect
    (b.address_ + (b.writeStart position).toNat) input (b.writeLength writeSize position).toNat mem
    (b.writeLength writeSize position).toNat

/-- What a `Read` does to memory. -/
def readEffect (memcpy_s : Memcpy) (mem : ℕ → UInt8) (out : ℕ) (readSize position : UInt64)
    (b : BufferData) : Effect UInt8 :=
  (b.readOutcome memcpy_s out readSize position).effect out
    (b.address_ + (b.readStart position).toNat) (b.readLength readSize position).toNat mem
    (b.readLength readSize position).toNat

theorem write_eq : b.write memcpy_s mem input writeSize position =
    if b.writeOutcome memcpy_s input writeSize position ≠ .copied then
      { ret := 0, block := b, effect := b.writeEffect memcpy_s mem input writeSize position }
    else
      { ret := b.writeLength writeSize position
        block := b.setPosition (b.writeStart position + b.writeLength writeSize position)
        effect := b.writeEffect memcpy_s mem input writeSize position } :=
  rfl

/-- Without a position, `Read` goes up to the size from the front. -/
theorem read_eq : b.read memcpy_s mem out readSize position =
    { ret := if b.readOutcome memcpy_s out readSize position ≠ .copied then 0
        else b.readLength readSize position
      block := b
      effect := b.readEffect memcpy_s mem out readSize position } := by
  have hmax : (if position = INVALID_POSITION then b.size_ else b.size_ - b.readStart position) =
      b.size_ - b.readStart position := by
    split_ifs with hposition
    · rw [readStart, if_pos hposition, UInt64.sub_zero]
    · rfl
  rw [read, hmax]
  by_cases hcopied : b.readOutcome memcpy_s out readSize position ≠ .copied
  · rw [if_pos hcopied]
    exact if_pos hcopied
  · rw [if_neg hcopied]
    exact if_neg hcopied

theorem effect_write : (b.write memcpy_s mem input writeSize position).effect =
    b.writeEffect memcpy_s mem input writeSize position := by
  rw [write_eq]
  split_ifs
  · rfl
  · rfl

theorem copied_of_ret_ne_zero (h : (b.write memcpy_s mem input writeSize position).ret ≠ 0) :
    b.writeOutcome memcpy_s input writeSize position = .copied := by
  by_contra hnot
  rw [write_eq, if_pos hnot] at h
  exact h rfl

theorem readStart_le : b.readStart position ≤ b.size_ := by
  rw [readStart]
  split_ifs
  · exact UInt64.zero_le
  · rw [UInt64.le_iff_toNat_le, UInt64.toNat_min]
    exact Nat.min_le_right _ _

theorem toNat_readLength : (b.readLength readSize position).toNat =
    min readSize.toNat (b.size_.toNat - (b.readStart position).toNat) := by
  rw [readLength, UInt64.toNat_min, UInt64.toNat_sub_of_le _ _ readStart_le]

theorem toNat_writeLength (writeSize : UInt64) (h : b.writeStart position ≤ b.capacity_) :
    (b.writeLength writeSize position).toNat =
      min writeSize.toNat (b.capacity_.toNat - (b.writeStart position).toNat) := by
  rw [writeLength, UInt64.toNat_min, UInt64.toNat_sub_of_le _ _ h]

/-- The end of what is written does not wrap. -/
theorem toNat_writeEnd (writeSize : UInt64) (h : b.writeStart position ≤ b.capacity_) :
    (b.writeStart position + b.writeLength writeSize position).toNat =
      (b.writeStart position).toNat + (b.writeLength writeSize position).toNat := by
  have hlt := b.capacity_.toNat_lt
  have hlength := toNat_writeLength writeSize h
  rw [UInt64.le_iff_toNat_le] at h
  rw [UInt64.toNat_add, Nat.mod_eq_of_lt (by omega)]

theorem writeStart_le_iff : b.writeStart position ≤ b.capacity_ ↔
    (position = INVALID_POSITION → b.size_ ≤ b.capacity_) := by
  rw [writeStart]
  split_ifs with hposition
  · exact ⟨fun h _ => h, fun h => h hposition⟩
  · refine iff_of_true ?_ fun h => absurd h hposition
    rw [UInt64.le_iff_toNat_le, UInt64.toNat_min]
    exact Nat.min_le_right _ _

/-- The addresses that a `Write` stores at. -/
theorem mem_stores_iff {a : ℕ} :
    a ∈ (b.write memcpy_s mem input writeSize position).effect.stores ↔
      b.writeOutcome memcpy_s input writeSize position ≠ .refused ∧
        ∃ i < (b.writeLength writeSize position).toNat,
          a = b.address_ + (b.writeStart position).toNat + i := by
  rw [effect_write, writeEffect, Outcome.stores_effect]
  split_ifs with hrefused
  · exact iff_of_false List.not_mem_nil fun h => h.1 hrefused
  · rw [and_iff_right hrefused, List.mem_range']
    simp only [Nat.one_mul]

/-- The addresses that a `Read` loads from. -/
theorem mem_loads_iff {a : ℕ} : a ∈ (b.read memcpy_s mem out readSize position).effect.loads ↔
    b.Copies memcpy_s out readSize position ∧
      ∃ i < (b.readLength readSize position).toNat,
        a = b.address_ + (b.readStart position).toNat + i := by
  rw [read_eq, readEffect, Outcome.loads_effect]
  split_ifs with hcopied
  · rw [and_iff_right (show b.Copies memcpy_s out readSize position from hcopied), List.mem_range']
    simp only [Nat.one_mul]
  · exact iff_of_false List.not_mem_nil fun h => hcopied h.1

/-- All of a range is inside if the block has memory and does not end before it. -/
theorem forall_inside_iff {start length : ℕ} (hpos : 0 < length) :
    (∀ i < length, b.Inside (b.address_ + start + i)) ↔
      b.address_ ≠ 0 ∧ start + length ≤ b.capacity_.toNat := by
  constructor
  · intro h
    obtain ⟨hmemory, offset, hoffset, ha⟩ := h (length - 1) (by omega)
    exact ⟨hmemory, by omega⟩
  · rintro ⟨hmemory, hend⟩ i hi
    exact ⟨hmemory, start + i, by omega, Nat.add_assoc _ _ _⟩

theorem toNat_readStart : (b.readStart position).toNat = min (readFrom position) b.size_.toNat := by
  rw [readStart, readFrom]
  split_ifs
  · exact (Nat.zero_min _).symm
  · exact UInt64.toNat_min _ _

/-- A `Read` is inside the block exactly if the size is, or all that is asked for. -/
theorem safe_read_iff (hmem : Lawful memcpy_s SECUREC_MEM_MAX_LEN) :
    b.Safe memcpy_s (.read mem out readSize position) ↔
      b.Bounded memcpy_s (.read mem out readSize position) := by
  refine (and_iff_right readStart_le).trans ⟨fun h hcopies => ?_, fun h a ha => ?_⟩
  · have hpos : 0 < (b.readLength readSize position).toNat := by
      have houtcome : b.readOutcome memcpy_s out readSize position = .copied := hcopies
      exact (hmem.of_taken (ne_of_eq_of_ne houtcome (by decide))).2
    obtain ⟨hmemory, hend⟩ := (forall_inside_iff hpos).1 fun i hi =>
      h _ (mem_loads_iff.2 ⟨hcopies, i, hi, rfl⟩)
    refine ⟨hmemory, ?_⟩
    rw [toNat_readLength, toNat_readStart] at hend
    rw [UInt64.le_iff_toNat_le]
    omega
  · obtain ⟨hcopies, i, hi, rfl⟩ := mem_loads_iff.1 ha
    obtain ⟨hmemory, hend⟩ := h hcopies
    refine (forall_inside_iff (Nat.zero_lt_of_lt hi)).2 ⟨hmemory, ?_⟩ i hi
    rw [toNat_readLength, toNat_readStart] at hi ⊢
    rw [UInt64.le_iff_toNat_le] at hend
    omega

/-- What is written is inside the block exactly if it has memory, or nothing is written. -/
theorem forall_stores_iff (hmem : Lawful memcpy_s SECUREC_MEM_MAX_LEN)
    (hcap : b.capacity_ ≤ BUFFER_MAX_CAPACITY) (hstart : b.writeStart position ≤ b.capacity_) :
    (∀ a ∈ (b.write memcpy_s mem input writeSize position).effect.stores, b.Inside a) ↔
      (b.address_ = 0 → writeSize = 0 ∨ b.writeStart position = 0 ∨
        b.writeStart position = b.capacity_) := by
  have hlength : (b.writeLength writeSize position).toNat =
      min writeSize.toNat (b.capacity_.toNat - (b.writeStart position).toNat) :=
    toNat_writeLength writeSize hstart
  rw [UInt64.le_iff_toNat_le] at hstart hcap
  simp only [← UInt64.toNat_inj, UInt64.toNat_zero]
  constructor
  · intro h hnull
    by_contra hnone
    have hpos : 0 < (b.writeLength writeSize position).toNat := by omega
    have htaken : b.writeOutcome memcpy_s input writeSize position ≠ .refused := by
      refine hmem.taken _ _ _ _ (by omega) hpos ?_
      have hmax : BUFFER_MAX_CAPACITY.toNat ≤ SECUREC_MEM_MAX_LEN := by decide
      omega
    exact (h _ (mem_stores_iff.2 ⟨htaken, 0, hpos, rfl⟩)).1 hnull
  · intro h a ha
    obtain ⟨htaken, i, hi, rfl⟩ := mem_stores_iff.1 ha
    have hdest := (hmem.of_taken htaken).1
    refine (forall_inside_iff (Nat.zero_lt_of_lt hi)).2 ⟨fun hnull => ?_, by omega⟩ i hi
    have hnone := h hnull
    omega

/-- A `Read` at the position where bytes were written starts there, and so does one at the position
of the `Write`. -/
theorem readFrom_eq (hcap : b.capacity_ ≤ BUFFER_MAX_CAPACITY)
    (hstart : b.writeStart position < b.capacity_)
    (hpos : pos = b.writeStart position ∨
      pos = position ∧ (position = INVALID_POSITION → b.size_ = 0)) :
    readFrom pos = (b.writeStart position).toNat := by
  have hvalid : b.writeStart position ≠ INVALID_POSITION := fun heq =>
    absurd (UInt64.lt_of_lt_of_le (heq ▸ hstart) hcap) (by decide)
  rcases hpos with rfl | ⟨rfl, hempty⟩
  · rw [readFrom, if_neg hvalid]
  · rw [readFrom]
    split_ifs with hposition
    · rw [writeStart, if_pos hposition, hempty hposition]
      rfl
    · rw [writeStart, if_neg hposition] at hstart ⊢
      rw [UInt64.lt_iff_toNat_lt, UInt64.toNat_min] at hstart
      rw [UInt64.toNat_min]
      omega

/-- A `Write` that succeeds moves the size behind the bytes that it writes. -/
theorem write_spec (hmem : Lawful memcpy_s SECUREC_MEM_MAX_LEN)
    (hret : (b.write memcpy_s mem input writeSize position).ret ≠ 0) :
    let w := b.write memcpy_s mem input writeSize position
    w.ret = b.writeLength writeSize position ∧
      w.block = b.setPosition (b.writeStart position + b.writeLength writeSize position) ∧
      b.address_ + (b.writeStart position).toNat ≠ 0 ∧
      0 < (b.writeLength writeSize position).toNat ∧
      ∀ i < (b.writeLength writeSize position).toNat,
        w.effect.mem (b.address_ + (b.writeStart position).toNat + i) = mem (input + i) := by
  have hcopied := copied_of_ret_ne_zero hret
  obtain ⟨hdest, hpos⟩ := hmem.of_taken (ne_of_eq_of_ne hcopied (by decide))
  rw [write_eq, if_neg (not_not_intro hcopied)]
  refine ⟨rfl, rfl, hdest, hpos, fun i hi => ?_⟩
  rw [writeEffect, hcopied]
  exact copy_apply hi

/-- A `Read` to memory that does not overlap with the block gives the bytes from where it starts. -/
theorem read_spec (hmem : Lawful memcpy_s SECUREC_MEM_MAX_LEN) (hout : out ≠ 0)
    (hsrc : b.address_ + (b.readStart position).toNat ≠ 0)
    (hpos : 0 < (b.readLength readSize position).toNat)
    (hmax : (b.readLength readSize position).toNat ≤ SECUREC_MEM_MAX_LEN)
    (hdisjoint : out + (b.readLength readSize position).toNat ≤
        b.address_ + (b.readStart position).toNat ∨
      b.address_ + (b.readStart position).toNat + (b.readLength readSize position).toNat ≤ out) :
    let r := b.read memcpy_s mem out readSize position
    r.ret = b.readLength readSize position ∧
      ∀ i < (b.readLength readSize position).toNat,
        r.effect.mem (out + i) = mem (b.address_ + (b.readStart position).toNat + i) := by
  have hcopied : b.readOutcome memcpy_s out readSize position = .copied :=
    hmem.copied _ _ _ _ hout hsrc hpos (Nat.le_refl _) hmax hdisjoint.symm
  rw [read_eq, hcopied]
  refine ⟨rfl, fun i hi => ?_⟩
  rw [readEffect, hcopied]
  exact copy_apply hi

/-- What was written is read back. -/
theorem readsBack (hmem : Lawful memcpy_s SECUREC_MEM_MAX_LEN)
    (hcap : b.capacity_ ≤ BUFFER_MAX_CAPACITY) (hstart : b.writeStart position ≤ b.capacity_) :
    b.ReadsBack memcpy_s mem input writeSize position := by
  intro hret out pos hpos hout hdisjoint
  obtain ⟨hwret, hblock, hdest, hlt, hwritten⟩ := write_spec hmem hret
  have hlength := toNat_writeLength writeSize hstart
  have hend := toNat_writeEnd writeSize hstart
  rw [hwret] at hdisjoint ⊢
  rw [hblock]
  generalize hb' : b.setPosition (b.writeStart position + b.writeLength writeSize position) = b'
  have haddress : b'.address_ = b.address_ := hb' ▸ rfl
  have hsize : b'.size_.toNat = (b.writeStart position).toNat +
      (b.writeLength writeSize position).toNat := hb' ▸ hend
  have hfrom : readFrom pos = (b.writeStart position).toNat := by
    refine readFrom_eq hcap (UInt64.lt_iff_toNat_lt.2 ?_) hpos
    omega
  have hreadStart : b'.readStart pos = b.writeStart position := by
    rw [← UInt64.toNat_inj, toNat_readStart, hfrom, hsize]
    omega
  have hreadLength : b'.readLength writeSize pos = b.writeLength writeSize position := by
    rw [← UInt64.toNat_inj, toNat_readLength, hreadStart, hsize]
    omega
  have hmax : BUFFER_MAX_CAPACITY.toNat ≤ SECUREC_MEM_MAX_LEN := by decide
  rw [UInt64.le_iff_toNat_le] at hcap
  rw [← haddress, ← hreadStart] at hdest hdisjoint hwritten
  rw [← hreadLength] at hlt hlength hdisjoint hwritten ⊢
  obtain ⟨hrret, hread⟩ := read_spec hmem hout hdest hlt (by omega) hdisjoint
  exact ⟨hrret, fun i hi => (hread i hi).trans (hwritten i hi)⟩

/-- Behind something, `Read` without a position does not start where `Write` without one did. It
gives back what was written only if all of it fitted in, and the block begins with the same bytes. -/
theorem reads_append_iff (hmem : Lawful memcpy_s SECUREC_MEM_MAX_LEN)
    (hcap : b.capacity_ ≤ BUFFER_MAX_CAPACITY) (hsize : b.size_ ≤ b.capacity_)
    (hbehind : b.size_ ≠ 0) (hmemory : b.address_ ≠ 0) (hout : out ≠ 0)
    (hdisjoint : out + b.capacity_.toNat ≤ b.address_ ∨ b.address_ + b.capacity_.toNat ≤ out)
    (hret : (b.write memcpy_s mem input writeSize INVALID_POSITION).ret ≠ 0) :
    let w := b.write memcpy_s mem input writeSize INVALID_POSITION
    let r := w.block.read memcpy_s w.effect.mem out writeSize INVALID_POSITION
    (r.ret = w.ret ∧ ∀ i < w.ret.toNat, r.effect.mem (out + i) = mem (input + i)) ↔
      writeSize ≤ b.capacity_ - b.size_ ∧
        ∀ i < writeSize.toNat, w.effect.mem (b.address_ + i) = mem (input + i) := by
  obtain ⟨hwret, hblock, -, hlt, -⟩ := write_spec hmem hret
  have hstart : b.writeStart INVALID_POSITION ≤ b.capacity_ := hsize
  have hlength : (b.writeLength writeSize INVALID_POSITION).toNat =
      min writeSize.toNat (b.capacity_.toNat - b.size_.toNat) :=
    toNat_writeLength writeSize hstart
  have hend := toNat_writeEnd writeSize hstart
  dsimp only
  rw [hwret, hblock]
  generalize hb' : b.setPosition (b.writeStart INVALID_POSITION +
    b.writeLength writeSize INVALID_POSITION) = b'
  have haddress : b'.address_ = b.address_ := hb' ▸ rfl
  have hfront : b'.address_ + (b'.readStart INVALID_POSITION).toNat = b.address_ := haddress
  have hreadLength : (b'.readLength writeSize INVALID_POSITION).toNat = min writeSize.toNat
      (b.size_.toNat + (b.writeLength writeSize INVALID_POSITION).toNat) := by
    rw [toNat_readLength, ← hb']
    exact congrArg (min writeSize.toNat) hend
  have hmax : BUFFER_MAX_CAPACITY.toNat ≤ SECUREC_MEM_MAX_LEN := by decide
  rw [UInt64.le_iff_toNat_le] at hsize hcap
  rw [Ne, ← UInt64.toNat_inj, UInt64.toNat_zero] at hbehind
  generalize (b.write memcpy_s mem input writeSize INVALID_POSITION).effect.mem = mem'
  obtain ⟨hrret, hread⟩ : (b'.read memcpy_s mem' out writeSize INVALID_POSITION).ret =
      b'.readLength writeSize INVALID_POSITION ∧
        ∀ i < (b'.readLength writeSize INVALID_POSITION).toNat,
          (b'.read memcpy_s mem' out writeSize INVALID_POSITION).effect.mem (out + i) =
            mem' (b'.address_ + (b'.readStart INVALID_POSITION).toNat + i) :=
    read_spec hmem hout (hfront ▸ hmemory) (by omega) (by omega) (by omega)
  rw [hfront] at hread
  rw [hrret, ← UInt64.toNat_inj, UInt64.le_iff_toNat_le,
    UInt64.toNat_sub_of_le _ _ (UInt64.le_iff_toNat_le.2 hsize)]
  constructor
  · rintro ⟨hsame, hback⟩
    have hfits : writeSize.toNat ≤ b.capacity_.toNat - b.size_.toNat := by omega
    exact ⟨hfits, fun i hi => (hread i (by omega)).symm.trans (hback i (by omega))⟩
  · rintro ⟨hfits, hback⟩
    exact ⟨by omega, fun i hi => (hread i (by omega)).trans (hback i (by omega))⟩

/-- A call is safe exactly if it is bounded. -/
theorem safe_iff (hmem : Lawful memcpy_s SECUREC_MEM_MAX_LEN)
    (hcap : b.capacity_ ≤ BUFFER_MAX_CAPACITY) :
    ∀ call : Call, b.Safe memcpy_s call ↔ b.Bounded memcpy_s call
  | .write mem input writeSize position => by
    rw [Safe, Bounded, ← writeStart_le_iff]
    refine and_congr_right fun hstart => ?_
    rw [forall_stores_iff hmem hcap hstart]
    exact and_iff_left (readsBack hmem hcap hstart)
  | .read mem out readSize position => safe_read_iff hmem
  | .setPosition _ => Iff.rfl
  | .resetPosition => Iff.rfl

/-- A block with memory, and a size that is in it. -/
structure Fits (b : BufferData) : Prop where
  capacity_le : b.capacity_ ≤ BUFFER_MAX_CAPACITY
  memory : b.address_ ≠ 0
  size_le : b.size_ ≤ b.capacity_

/-- A block that fits takes every call. -/
theorem Fits.bounded (h : b.Fits) : ∀ call : Call, b.Bounded memcpy_s call
  | .write _ _ _ _ => ⟨fun _ => h.size_le, fun hnull => absurd hnull h.memory⟩
  | .read _ _ _ _ => fun _ => ⟨h.memory, .inl h.size_le⟩
  | .setPosition _ => trivial
  | .resetPosition => trivial

end BufferData

/-- A size that is set is in the capacity. -/
def Call.SetsUpTo (capacity : UInt64) : Call → Prop
  | .setPosition pos => pos ≤ capacity
  | _ => True

/-! ## Runs -/

section

variable {memcpy_s : Memcpy} {b : BufferData}

/-- A block as the conversion of buffers has it. -/
def BufferData.item (b : BufferData) : BufferItems.BufferData where
  capacity_ := b.capacity_.toNat
  size_ := b.size_.toNat
  address_ := if b.address_ = 0 then none else some b.address_

/-- It is wrapped there as it is here. -/
theorem item_wrapBufferData (b : BufferData) :
    (wrapBufferData b.address_ b.capacity_ b.size_).toList.map BufferData.item =
      BufferItems.wrapBufferData b.item := by
  have hcapacity : b.capacity_ > BUFFER_MAX_CAPACITY ↔
      BufferItems.BUFFER_MAX_CAPACITY < b.item.capacity_ := UInt64.lt_iff_toNat_lt
  rw [wrapBufferData, BufferItems.wrapBufferData]
  simp only [hcapacity]
  split_ifs
  · rfl
  · rfl

/-- A buffer makes no block that is too large. -/
theorem Made.capacity_le (h : Made b) : b.capacity_ ≤ BUFFER_MAX_CAPACITY := by
  cases h with
  | create hmemory hb =>
    rw [createBufferData] at hb
    split_ifs at hb with hcapacity
    obtain rfl := Option.some.inj hb
    exact UInt64.not_lt.1 hcapacity
  | wrap hb =>
    rw [wrapBufferData] at hb
    split_ifs at hb with hcapacity
    obtain rfl := Option.some.inj hb
    exact UInt64.not_lt.1 hcapacity

/-- No call changes the capacity or the address. -/
theorem step_frame (memcpy_s : Memcpy) (b : BufferData) (call : Call) :
    (step memcpy_s b call).capacity_ = b.capacity_ ∧
      (step memcpy_s b call).address_ = b.address_ := by
  cases call with
  | write mem input writeSize position =>
    rw [step, BufferData.write_eq]
    split_ifs
    · exact ⟨rfl, rfl⟩
    · exact ⟨rfl, rfl⟩
  | read mem out readSize position =>
    rw [step, BufferData.read_eq]
    exact ⟨rfl, rfl⟩
  | setPosition pos => exact ⟨rfl, rfl⟩
  | resetPosition => exact ⟨rfl, rfl⟩

/-- A block that fits does so behind every call that sets no size above the capacity. -/
theorem BufferData.Fits.step (h : b.Fits) {call : Call} (hcall : call.SetsUpTo b.capacity_) :
    (step memcpy_s b call).Fits := by
  obtain ⟨hcapacity, haddress⟩ := step_frame memcpy_s b call
  refine ⟨hcapacity ▸ h.capacity_le, haddress ▸ h.memory, hcapacity ▸ ?_⟩
  cases call with
  | write mem input writeSize position =>
    rw [BufferMemory.step, BufferData.write_eq]
    split_ifs
    · exact h.size_le
    · have hstart : b.writeStart position ≤ b.capacity_ :=
        writeStart_le_iff.2 fun _ => h.size_le
      have hend := toNat_writeEnd writeSize hstart
      have hlength := toNat_writeLength writeSize hstart
      rw [UInt64.le_iff_toNat_le] at hstart ⊢
      exact hend.trans_le (by omega)
  | read mem out readSize position =>
    rw [BufferMemory.step, BufferData.read_eq]
    exact h.size_le
  | setPosition pos => exact hcall
  | resetPosition => exact UInt64.zero_le

/-- As long as no size above the capacity is set, every call of a block that fits is safe. -/
theorem BufferData.Fits.along_safe (hmem : Lawful memcpy_s SECUREC_MEM_MAX_LEN) :
    ∀ {b : BufferData} {calls : List Call}, b.Fits → (∀ call ∈ calls, call.SetsUpTo b.capacity_) →
      Along (BufferMemory.step memcpy_s) (BufferData.Safe memcpy_s) b calls
  | _, [], _, _ => trivial
  | b, call :: calls, h, hcalls => by
    refine ⟨(safe_iff hmem h.capacity_le call).2 (h.bounded call), ?_⟩
    refine along_safe hmem (h.step (hcalls call List.mem_cons_self)) fun call' hcall' => ?_
    rw [(step_frame memcpy_s b call).1]
    exact hcalls call' (List.mem_cons_of_mem call hcall')

/-- In a run, every call stores and loads inside the block, no length underflows and what is written
can be read back, exactly if every call is bounded. -/
theorem touches_inside_iff (hmem : Lawful memcpy_s SECUREC_MEM_MAX_LEN) (hb : Made b)
    (calls : List Call) :
    Along (step memcpy_s) (BufferData.Safe memcpy_s) b calls ↔
      Along (step memcpy_s) (BufferData.Bounded memcpy_s) b calls :=
  along_congr (fun b call hcap _ => (step_frame memcpy_s b call).1 ▸ hcap)
    (fun _ call hcap => BufferData.safe_iff hmem hcap call) calls hb.capacity_le

end

instance (memcpy_s : Memcpy) (b : BufferData) : DecidablePred (b.Bounded memcpy_s)
  | .write _ _ writeSize position =>
    inferInstanceAs (Decidable ((position = INVALID_POSITION → b.size_ ≤ b.capacity_) ∧
      (b.address_ = 0 → writeSize = 0 ∨ b.writeStart position = 0 ∨
        b.writeStart position = b.capacity_)))
  | .read _ out readSize position =>
    have : Decidable (b.Copies memcpy_s out readSize position) :=
      inferInstanceAs (Decidable (_ = Outcome.copied))
    inferInstanceAs (Decidable (b.Copies memcpy_s out readSize position → b.address_ ≠ 0 ∧
      (b.size_ ≤ b.capacity_ ∨
        BufferData.readFrom position + readSize.toNat ≤ b.capacity_.toNat)))
  | .setPosition _ => inferInstanceAs (Decidable True)
  | .resetPosition => inferInstanceAs (Decidable True)

theorem touches_inside_created :
    Along (step (checked SECUREC_MEM_MAX_LEN)) (BufferData.Safe (checked SECUREC_MEM_MAX_LEN))
      ⟨16, 0, 4096⟩ [.write (fun _ => 0) 8192 8 INVALID_POSITION, .setPosition 12,
        .write (fun _ => 0) 8192 8 INVALID_POSITION, .read (fun _ => 0) 8200 8 12] :=
  (touches_inside_iff (lawful_checked _) (.create (show 4096 ≠ 0 by decide)
    (show createBufferData 16 4096 = some _ from rfl)) _).2 (by decide)

/-- A block of 16 bytes that is wrapped with a size of 32 is read up to 32 ; one whose size is set
to 17 is written behind that ; and one that is too large for memory is written at the address 1. -/
theorem not_touches_inside :
    (Made ⟨16, 32, 4096⟩ ∧
      ¬Along (step (checked SECUREC_MEM_MAX_LEN)) (BufferData.Safe (checked SECUREC_MEM_MAX_LEN))
        ⟨16, 32, 4096⟩ [.read (fun _ => 0) 8192 32 INVALID_POSITION]) ∧
    (Made ⟨16, 0, 4096⟩ ∧
      ¬Along (step (checked SECUREC_MEM_MAX_LEN)) (BufferData.Safe (checked SECUREC_MEM_MAX_LEN))
        ⟨16, 0, 4096⟩ [.setPosition 17, .write (fun _ => 0) 8192 1 INVALID_POSITION]) ∧
    (Made ⟨9000, 0, 0⟩ ∧
      ¬Along (step (checked SECUREC_MEM_MAX_LEN)) (BufferData.Safe (checked SECUREC_MEM_MAX_LEN))
        ⟨9000, 0, 0⟩ [.write (fun _ => 0) 8192 1 1]) := by
  have hsafe : ∀ {b : BufferData} {call : Call}, b.capacity_ ≤ BUFFER_MAX_CAPACITY →
      ¬b.Bounded (checked SECUREC_MEM_MAX_LEN) call → ¬b.Safe (checked SECUREC_MEM_MAX_LEN) call :=
    fun hcap hnot h => hnot ((BufferData.safe_iff (lawful_checked _) hcap _).1 h)
  refine ⟨⟨?_, fun h => ?_⟩, ⟨?_, fun h => ?_⟩, ⟨?_, fun h => ?_⟩⟩
  · exact .wrap (show wrapBufferData 4096 16 32 = some _ from rfl)
  · exact hsafe (by decide) (by decide) h.1
  · exact .create (show 4096 ≠ 0 by decide) (show createBufferData 16 4096 = some _ from rfl)
  · exact hsafe (by decide) (by decide) h.2.1
  · exact .create (show 4096 ≠ 0 by decide) (show createBufferData 9000 4096 = some _ from rfl)
  · exact hsafe (by decide) (by decide) h.1

end BufferMemory

end DHFwk
