import Mathlib.Algebra.BigOperators.Group.List.Basic

/-!
# Intervals between samples

Samples come one after the other, and an interval is the difference of two neighbours. Where some
samples are skipped, the intervals that begin at them are left out (`kept`).

A new sample adds one interval at the end, or none after a sample that is skipped. If only the last
sample is skipped, or none, the sum of the intervals is the last sample less the first
(`sum_kept`), and there is one interval less than there are samples (`length_kept`).
-/

namespace Intervals

variable {α : Type*} (skip : α → Prop) [DecidablePred skip]

/-- The intervals between neighbours that do not begin at a skipped sample. -/
def kept [Sub α] : List α → List α
  | [] => []
  | [_] => []
  | a :: b :: l => if skip a then kept (b :: l) else (b - a) :: kept (b :: l)

variable {skip}

section

variable [Sub α] {a b : α}

/-- After a skipped sample, or none at all, a sample adds no interval. -/
theorem kept_concat_of_skip : ∀ {l : List α}, (∀ a ∈ l.getLast?, skip a) →
    kept skip (l ++ [b]) = kept skip l
  | [], _ => rfl
  | [_], h => if_pos (h _ rfl)
  | a :: c :: l, h => by
    have hrest : kept skip (c :: l ++ [b]) = kept skip (c :: l) :=
      kept_concat_of_skip fun x hx => h x (by rwa [List.getLast?_cons_cons])
    rw [List.cons_append, List.cons_append, kept, ← List.cons_append, hrest, kept]

/-- After a sample that is not skipped, a sample adds the interval from it. -/
theorem kept_concat : ∀ {l : List α}, l.getLast? = some a → ¬skip a →
    kept skip (l ++ [b]) = kept skip l ++ [b - a]
  | [x], hlast, ha => by
    obtain rfl : x = a := Option.some.inj hlast
    exact if_neg ha
  | x :: c :: l, hlast, ha => by
    have hrest : kept skip (c :: l ++ [b]) = kept skip (c :: l) ++ [b - a] :=
      kept_concat (by rwa [List.getLast?_cons_cons] at hlast) ha
    rw [List.cons_append, List.cons_append, kept, ← List.cons_append, hrest, kept]
    split_ifs
    · rfl
    · rfl

/-- A sample takes no interval away. -/
theorem kept_prefix (l : List α) (b : α) : kept skip l <+: kept skip (l ++ [b]) := by
  by_cases hskip : ∀ a ∈ l.getLast?, skip a
  · exact (kept_concat_of_skip hskip).symm ▸ List.prefix_rfl
  · push Not at hskip
    obtain ⟨a, hlast, ha⟩ := hskip
    rw [kept_concat hlast ha]
    exact List.prefix_append _ _

theorem length_kept_le : ∀ l : List α, (kept skip l).length ≤ l.length - 1
  | [] => Nat.le_refl 0
  | [_] => Nat.le_refl 0
  | a :: b :: l => by
    have hrest : (kept skip (b :: l)).length ≤ l.length := length_kept_le (b :: l)
    rw [kept]
    split_ifs
    · exact Nat.le_succ_of_le hrest
    · exact Nat.succ_le_succ hrest

/-- If at most the last sample is skipped, every other one begins an interval. -/
theorem length_kept : ∀ {l : List α}, (∀ a ∈ l.dropLast, ¬skip a) →
    (kept skip l).length = l.length - 1
  | [], _ => rfl
  | [_], _ => rfl
  | a :: b :: l, h => by
    have hrest : (kept skip (b :: l)).length = (b :: l).length - 1 :=
      length_kept fun x hx => h x (List.mem_cons_of_mem a hx)
    rw [kept, if_neg (h a List.mem_cons_self), List.length_cons, hrest]
    rfl

end

/-- If at most the last sample is skipped, the intervals lead from the first to the last one. -/
theorem sum_kept [AddCommGroup α] : ∀ {a : α} {l : List α}, (∀ x ∈ (a :: l).dropLast, ¬skip x) →
    (kept skip (a :: l)).sum = (a :: l).getLast (List.cons_ne_nil a l) - a
  | a, [], _ => (sub_self a).symm
  | a, b :: l, h => by
    have hrest : (kept skip (b :: l)).sum = (b :: l).getLast (List.cons_ne_nil b l) - b :=
      sum_kept fun x hx => h x (List.mem_cons_of_mem a hx)
    rw [kept, if_neg (h a List.mem_cons_self), List.sum_cons, hrest, add_comm, sub_add_sub_cancel]
    rfl

end Intervals
