import Mathlib.Data.List.Basic
import Mathlib.Data.Nat.Basic
import Mathlib.Tactic.SplitIfs

/-!
# Entries that are due later

An event queue keeps its entries in the order in which they are due, and those that are due at the
same time in the order in which they came. `DelayQueue.insert` puts a new entry into its place, and
`pairwise_insert` says what holds between the entries behind it.
-/

namespace DelayQueue

variable {E : Type*} (due : E → ℕ)

/-- A new entry comes in front of the first one that is due later. -/
def insert (e : E) : List E → List E
  | [] => [e]
  | e' :: queue => if due e < due e' then e :: e' :: queue else e' :: insert e queue

/-- The entries are in the order in which they are due. -/
def Sorted (queue : List E) : Prop := queue.Pairwise fun e e' => due e ≤ due e'

variable {due} {e e' : E} {queue : List E} {R : E → E → Prop}

theorem mem_insert : ∀ {queue : List E}, e' ∈ insert due e queue ↔ e' = e ∨ e' ∈ queue
  | [] => List.mem_singleton.trans (or_iff_left List.not_mem_nil).symm
  | x :: queue => by
    unfold insert
    split_ifs
    · rw [List.mem_cons]
    · rw [List.mem_cons, mem_insert, List.mem_cons, or_left_comm]

/-- A relation is kept if the new entry has it to those around its place. -/
theorem pairwise_insert (hsorted : Sorted due queue) (h : queue.Pairwise R)
    (hbefore : ∀ e' ∈ queue, due e' ≤ due e → R e' e)
    (hafter : ∀ e' ∈ queue, due e < due e' → R e e') : (insert due e queue).Pairwise R := by
  induction queue with
  | nil => exact List.pairwise_singleton R e
  | cons x queue ih =>
    obtain ⟨hx, hsorted⟩ := List.pairwise_cons.1 hsorted
    obtain ⟨hR, h⟩ := List.pairwise_cons.1 h
    unfold insert
    split_ifs with hlt
    · refine List.pairwise_cons.2 ⟨fun e' he' => hafter e' he' ?_, List.pairwise_cons.2 ⟨hR, h⟩⟩
      rcases List.mem_cons.1 he' with rfl | he'
      · exact hlt
      · exact Nat.lt_of_lt_of_le hlt (hx e' he')
    · refine List.pairwise_cons.2 ⟨fun e' he' => ?_, ih hsorted h ?_ ?_⟩
      · rcases mem_insert.1 he' with rfl | he'
        · exact hbefore x List.mem_cons_self (not_lt.1 hlt)
        · exact hR e' he'
      · exact fun e' he' => hbefore e' (List.mem_cons_of_mem x he')
      · exact fun e' he' => hafter e' (List.mem_cons_of_mem x he')

theorem Sorted.insert (h : Sorted due queue) : Sorted due (insert due e queue) :=
  pairwise_insert h h (fun _ _ hle => hle) fun _ _ hlt => Nat.le_of_lt hlt

end DelayQueue
