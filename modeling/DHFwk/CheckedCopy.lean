import Mathlib.Algebra.Notation.Defs
import Mathlib.Data.Nat.Basic
import Mathlib.Tactic.SplitIfs

/-!
# Copies with checks

Memory has a value at every address, and 0 is the address of no memory. A copy with checks is told
where to copy to and how much fits there, where to copy from and how much. It copies, clears
the destination, or leaves everything as it is, and the `Effect` has the addresses that it reads and
writes on the way.

Of such a function one may rely on this (`Lawful`) : it touches nothing if there is no destination
or nothing fits there, it does something to every destination of a usual size, and it copies between
memories that do not overlap.
-/

namespace CheckedCopy

variable {β : Type*}

/-- What becomes of a call. -/
inductive Outcome
  | copied
  | cleared
  | refused
  deriving DecidableEq, Repr

/-- The memory after a call, and the addresses that it read and wrote. -/
structure Effect (β : Type*) where
  mem : ℕ → β
  loads : List ℕ
  stores : List ℕ

section

variable (dest src count : ℕ) (mem : ℕ → β)

/-- `count` values are copied. -/
def copy : ℕ → β := fun a =>
  if dest ≤ a ∧ a < dest + count then mem (src + (a - dest)) else mem a

/-- `count` values are set to 0. -/
def clear [Zero β] : ℕ → β := fun a =>
  if dest ≤ a ∧ a < dest + count then 0 else mem a

/-- The effect of a call. -/
def Outcome.effect [Zero β] (destMax : ℕ) : Outcome → Effect β
  | .copied => ⟨copy dest src count mem, List.range' src count, List.range' dest count⟩
  | .cleared => ⟨clear dest destMax mem, [], List.range' dest destMax⟩
  | .refused => ⟨mem, [], []⟩

end

variable {dest src count : ℕ} {mem : ℕ → β}

theorem copy_apply {i : ℕ} (hi : i < count) :
    copy dest src count mem (dest + i) = mem (src + i) := by
  rw [copy, if_pos ⟨Nat.le_add_right dest i, Nat.add_lt_add_left hi dest⟩, Nat.add_sub_cancel_left]

/-- With a destination that takes just as much, all of it is written. -/
theorem Outcome.stores_effect [Zero β] (o : Outcome) : (o.effect dest src count mem count).stores =
    if o = .refused then [] else List.range' dest count := by
  cases o
  · rfl
  · rfl
  · rfl

theorem Outcome.loads_effect [Zero β] (o : Outcome) : (o.effect dest src count mem count).loads =
    if o = .copied then List.range' src count else [] := by
  cases o
  · rfl
  · rfl
  · rfl

/-- What one may rely on : of the arguments `dest`, `destMax`, `src` and `count`, with
`maxLength` the largest size. -/
structure Lawful (f : ℕ → ℕ → ℕ → ℕ → Outcome) (maxLength : ℕ) : Prop where
  null : ∀ destMax src count, f 0 destMax src count = .refused
  empty : ∀ dest src count, f dest 0 src count = .refused
  taken : ∀ dest destMax src count, dest ≠ 0 → 0 < destMax → destMax ≤ maxLength →
    f dest destMax src count ≠ .refused
  copied : ∀ dest destMax src count, dest ≠ 0 → src ≠ 0 → 0 < count → count ≤ destMax →
    destMax ≤ maxLength → src + count ≤ dest ∨ dest + count ≤ src →
      f dest destMax src count = .copied

/-- Something is done to a destination only, and only if something fits there. -/
theorem Lawful.of_taken {f : ℕ → ℕ → ℕ → ℕ → Outcome} {maxLength destMax : ℕ}
    (hf : Lawful f maxLength) (h : f dest destMax src count ≠ .refused) :
    dest ≠ 0 ∧ 0 < destMax := by
  constructor
  · rintro rfl
    exact h (hf.null destMax src count)
  · refine Nat.pos_of_ne_zero ?_
    rintro rfl
    exact h (hf.empty dest src count)

/-- The destination is checked, then the source, then whether the two overlap. A copy onto itself
counts as one. -/
def checked (maxLength dest destMax src count : ℕ) : Outcome :=
  if dest = 0 ∨ destMax = 0 ∨ maxLength < destMax then .refused
  else if src = 0 ∨ destMax < count then .cleared
  else if src < dest ∧ dest < src + count ∨ dest < src ∧ src < dest + count then .cleared
  else .copied

theorem lawful_checked (maxLength : ℕ) : Lawful (checked maxLength) maxLength where
  null _ _ _ := if_pos (.inl rfl)
  empty _ _ _ := if_pos (.inr (.inl rfl))
  taken dest destMax src count hdest hpos hmax := by
    rw [checked, if_neg (by omega)]
    split_ifs
    all_goals decide
  copied dest destMax src count hdest hsrc hpos hfits hmax hdisjoint := by
    rw [checked, if_neg (by omega), if_neg (by omega), if_neg (by omega)]

end CheckedCopy
