import DHFwk.LittleEndian

/-!
# Memory with a log

A `LoggedMemory` keeps the offsets at which it is read and written, one after the other. Numbers are
read and written in it byte by byte, as they are without a log, and the log has the offsets of their
bytes behind what it had before.
-/

/-- A byte for each offset, and the offsets that were accessed. -/
structure LoggedMemory where
  mem : ℕ → UInt8
  log : List ℕ := []

namespace LoggedMemory

/-- Read a byte. -/
def load (offset : ℕ) (m : LoggedMemory) : UInt8 × LoggedMemory :=
  (m.mem offset, { m with log := m.log ++ [offset] })

/-- Write a byte. -/
def store (offset : ℕ) (b : UInt8) (m : LoggedMemory) : LoggedMemory where
  mem := Function.update m.mem offset b
  log := m.log ++ [offset]

/-- A number of `w` bytes is written at an offset. -/
def write (w offset n : ℕ) (m : LoggedMemory) : LoggedMemory :=
  (List.range w).foldl (fun m i => m.store (offset + i) (LittleEndian.byte n i)) m

/-- One byte of a number. -/
def readByte (offset : ℕ) (result : ℕ × LoggedMemory) (i : ℕ) : ℕ × LoggedMemory :=
  let b := result.2.load (offset + i)
  (result.1 ||| (b.1.toNat &&& 0xff) <<< (i * 8), b.2)

/-- The number in the `w` bytes at an offset. -/
def read (w offset : ℕ) (m : LoggedMemory) : ℕ × LoggedMemory :=
  (List.range w).foldl (readByte offset) (0, m)

/-- The first `size` bytes are set. -/
def fill (size : ℕ) (b : UInt8) (m : LoggedMemory) : LoggedMemory :=
  (List.range size).foldl (fun m i => m.store i b) m

/-- Every access was below `size`. -/
def Within (size : ℕ) (m : LoggedMemory) : Prop := ∀ offset ∈ m.log, offset < size

variable {m : LoggedMemory} {w offset n size : ℕ} {b : UInt8}

theorem write_eq (w : ℕ) : m.write w offset n =
    ⟨LittleEndian.write w offset n m.mem, m.log ++ List.range' offset w⟩ := by
  induction w with
  | zero => simp [write]
  | succ w ih =>
    have hstep : m.write (w + 1) offset n =
        (m.write w offset n).store (offset + w) (LittleEndian.byte n w) := by
      rw [write, List.range_succ, List.foldl_append]
      rfl
    rw [hstep, ih, LittleEndian.write_succ, List.range'_1_concat, ← List.append_assoc]
    rfl

theorem read_eq (w : ℕ) : m.read w offset =
    (LittleEndian.read w offset m.mem, { m with log := m.log ++ List.range' offset w }) := by
  induction w with
  | zero => simp [read]
  | succ w ih =>
    have hstep : m.read (w + 1) offset = readByte offset (m.read w offset) w := by
      rw [read, List.range_succ, List.foldl_append]
      rfl
    rw [hstep, ih, LittleEndian.read_succ, List.range'_1_concat, ← List.append_assoc]
    rfl

theorem log_fill (size : ℕ) : (m.fill size b).log = m.log ++ List.range size := by
  induction size with
  | zero => simp [fill]
  | succ size ih =>
    have hstep : m.fill (size + 1) b = (m.fill size b).store size b := by
      rw [fill, List.range_succ, List.foldl_append]
      rfl
    rw [hstep, List.range_succ, ← List.append_assoc, ← ih]
    rfl

theorem within_nil (mem : ℕ → UInt8) : Within size ⟨mem, []⟩ :=
  fun _ h => absurd h List.not_mem_nil

/-- A number is written below `size` if all of its bytes are. -/
theorem within_write_iff (hw : 0 < w) :
    (m.write w offset n).Within size ↔ m.Within size ∧ offset + w ≤ size := by
  simp only [Within, write_eq, List.mem_append, List.mem_range'_1]
  constructor
  · intro h
    refine ⟨fun o ho => h o (.inl ho), ?_⟩
    have hlast := h (offset + (w - 1)) (.inr ⟨Nat.le_add_right _ _, by omega⟩)
    omega
  · rintro ⟨hlog, hend⟩ o (ho | ⟨-, ho⟩)
    · exact hlog o ho
    · omega

theorem Within.read (h : m.Within size) (hend : offset + w ≤ size) :
    (m.read w offset).2.Within size := by
  intro o ho
  simp only [read_eq, List.mem_append, List.mem_range'_1] at ho
  rcases ho with ho | ⟨-, ho⟩
  · exact h o ho
  · omega

theorem Within.fill (h : m.Within size) : (m.fill size b).Within size := by
  intro o ho
  rw [log_fill, List.mem_append, List.mem_range] at ho
  exact ho.elim (h o) id

end LoggedMemory
