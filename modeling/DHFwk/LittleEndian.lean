import Mathlib.Algebra.Order.Ring.Nat
import Mathlib.Data.Nat.Bitwise
import Mathlib.Logic.Function.Basic

/-!
# Numbers in memory, the low byte first

A memory is a byte for each offset. A number is written byte by byte, by a shift and a mask, and
read by the reverse of both. What is read where a number was written is the number, as far as the
bytes reach, and other offsets keep what they had.
-/

namespace LittleEndian

/-- Byte `i` of a number. -/
def byte (n i : ℕ) : UInt8 := UInt8.ofNat ((n >>> (i * 8)) &&& 0xff)

/-- A number of `w` bytes is written at an offset. -/
def write (w offset n : ℕ) (mem : ℕ → UInt8) : ℕ → UInt8 :=
  (List.range w).foldl (fun mem i => Function.update mem (offset + i) (byte n i)) mem

/-- The number in the `w` bytes at an offset. -/
def read (w offset : ℕ) (mem : ℕ → UInt8) : ℕ :=
  (List.range w).foldl
    (fun result i => result ||| ((mem (offset + i)).toNat &&& 0xff) <<< (i * 8)) 0

variable {w offset n k : ℕ} {mem mem' : ℕ → UInt8}

@[simp] theorem write_zero : write 0 offset n mem = mem :=
  rfl

theorem write_succ :
    write (w + 1) offset n mem =
      Function.update (write w offset n mem) (offset + w) (byte n w) := by
  rw [write, List.range_succ, List.foldl_append]
  rfl

@[simp] theorem read_zero : read 0 offset mem = 0 :=
  rfl

theorem read_succ :
    read (w + 1) offset mem =
      read w offset mem ||| ((mem (offset + w)).toNat &&& 0xff) <<< (w * 8) := by
  rw [read, List.range_succ, List.foldl_append]
  rfl

/-- Each byte of the number is where it belongs. -/
theorem write_at (h : k < w) : write w offset n mem (offset + k) = byte n k := by
  induction w with
  | zero => exact absurd h (Nat.not_lt_zero k)
  | succ w ih =>
    rw [write_succ]
    rcases Nat.lt_succ_iff_lt_or_eq.1 h with hlt | rfl
    · rw [Function.update_of_ne (by omega), ih hlt]
    · rw [Function.update_self]

/-- The bytes before and behind the number stay. -/
theorem write_of_ne (h : k < offset ∨ offset + w ≤ k) : write w offset n mem k = mem k := by
  induction w with
  | zero => rfl
  | succ w ih => rw [write_succ, Function.update_of_ne (by omega), ih (by omega)]

/-- Only the bytes of the number are read. -/
theorem read_congr (h : ∀ i < w, mem (offset + i) = mem' (offset + i)) :
    read w offset mem = read w offset mem' := by
  induction w with
  | zero => rfl
  | succ w ih =>
    rw [read_succ, read_succ, ih fun i hi => h i (Nat.lt_succ_of_lt hi), h w (Nat.lt_succ_self w)]

theorem read_zeros (h : ∀ i < w, mem (offset + i) = 0) : read w offset mem = 0 := by
  induction w with
  | zero => rfl
  | succ w ih =>
    rw [read_succ, ih fun i hi => h i (Nat.lt_succ_of_lt hi), h w (Nat.lt_succ_self w)]
    simp

theorem toNat_byte (n i : ℕ) : (byte n i).toNat &&& 0xff = n / 2 ^ (i * 8) % 2 ^ 8 := by
  have hlt : (n >>> (i * 8)) &&& 0xff < 2 ^ 8 := Nat.and_lt_two_pow _ (by decide)
  rw [byte, UInt8.toNat_ofNat_of_lt' hlt, Nat.and_assoc, Nat.and_self,
    show 0xff = 2 ^ 8 - 1 from rfl, Nat.and_two_pow_sub_one_eq_mod, Nat.shiftRight_eq_div_pow]

/-- A low part and the byte above it. -/
theorem mod_or_shiftLeft (n k : ℕ) :
    n % 2 ^ k ||| (n / 2 ^ k % 2 ^ 8) <<< k = n % 2 ^ (k + 8) := by
  have hlow : n % 2 ^ k < 2 ^ k := Nat.mod_lt _ (Nat.two_pow_pos k)
  rw [Nat.or_comm, ← Nat.shiftLeft_add_eq_or_of_lt hlow, Nat.shiftLeft_eq, Nat.add_comm,
    Nat.mul_comm, pow_add, Nat.mod_mul]

/-- What is read back is the number, as far as `w` bytes reach. -/
theorem read_write (w offset n : ℕ) (mem : ℕ → UInt8) :
    read w offset (write w offset n mem) = n % 2 ^ (w * 8) := by
  induction w with
  | zero => simp [Nat.mod_one]
  | succ w ih =>
    have hrest : read w offset (write (w + 1) offset n mem) =
        read w offset (write w offset n mem) := by
      refine read_congr fun i hi => ?_
      rw [write_at (Nat.lt_succ_of_lt hi), write_at hi]
    rw [read_succ, hrest, ih, write_at (Nat.lt_succ_self w), toNat_byte, mod_or_shiftLeft,
      Nat.succ_mul]

theorem read_write_of_lt (h : n < 2 ^ (w * 8)) : read w offset (write w offset n mem) = n := by
  rw [read_write, Nat.mod_eq_of_lt h]

/-- A write that does not meet the bytes of a number leaves it. -/
theorem read_write_of_disjoint {v o : ℕ} (h : offset + w ≤ o ∨ o + v ≤ offset) :
    read w offset (write v o n mem) = read w offset mem :=
  read_congr fun i hi => write_of_ne (by omega)

end LittleEndian
