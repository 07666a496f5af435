import DHFwk.Table
import Mathlib.Data.Nat.ModEq

/-!
# A queue in a table, under indices that wrap

The items of a queue are entered into a table under the next index, and taken out under the first,
with indices below `n` that go on at 0. `Ring.Holds n t first items` says that the
table has the items under the indices from `first` on. It holds no more than `n` items, as one
more would be entered over the first.
-/

namespace Ring

variable {V : Type*} {n first : ℕ} {t t' : Table ℕ V} {items : List V} {v : V}

/-- The table has the items, from the index `first` on. -/
structure Holds (n : ℕ) (t : Table ℕ V) (first : ℕ) (items : List V) : Prop where
  length_le : items.length ≤ n
  lookup : ∀ k (hk : k < items.length), t.lookup ((first + k) % n) = some items[k]

theorem holds_nil (n : ℕ) (t : Table ℕ V) (first : ℕ) : Holds n t first [] :=
  ⟨Nat.zero_le n, fun k hk => absurd hk (Nat.not_lt_zero k)⟩

/-- Two of the next `n` indices are different. -/
theorem index_ne {j k : ℕ} (hj : j < n) (hk : k < n) (hne : j ≠ k) :
    (first + j) % n ≠ (first + k) % n := by
  intro h
  have hmod : j ≡ k [MOD n] := Nat.ModEq.add_left_cancel' first h
  exact hne (hmod.eq_of_lt_of_lt hj hk)

/-- Only the indices below `n` count. -/
theorem Holds.of_agree (h : Holds n t first items) (ht : ∀ k < n, t'.lookup k = t.lookup k) :
    Holds n t' first items where
  length_le := h.length_le
  lookup k hk := by
    have hn : 0 < n := (Nat.zero_le k).trans_lt (hk.trans_le h.length_le)
    rw [ht _ (Nat.mod_lt _ hn)]
    exact h.lookup k hk

theorem Holds.push (h : Holds n t first items) (hlen : items.length < n) (v : V) :
    Holds n (t.set ((first + items.length) % n) v) first (items ++ [v]) where
  length_le := by
    rw [List.length_append, List.length_singleton]
    exact hlen
  lookup k hk := by
    rw [List.length_append, List.length_singleton] at hk
    rcases Nat.lt_succ_iff_lt_or_eq.1 hk with hlt | rfl
    · rw [Table.lookup_set_ne _ (index_ne (hlt.trans hlen) hlen hlt.ne),
        List.getElem_append_left hlt]
      exact h.lookup k hlt
    · simp

theorem Holds.head (h : Holds n t first (v :: items)) (hfirst : first < n) :
    t.lookup first = some v := by
  have hhead := h.lookup 0 (Nat.zero_lt_succ _)
  rwa [Nat.add_zero, Nat.mod_eq_of_lt hfirst] at hhead

theorem Holds.pop (h : Holds n t first (v :: items)) (hfirst : first < n) :
    Holds n (t.remove first) ((first + 1) % n) items where
  length_le := (Nat.le_succ _).trans h.length_le
  lookup k hk := by
    have hlen : k + 1 < n := (Nat.succ_lt_succ hk).trans_le h.length_le
    have hindex : ((first + 1) % n + k) % n = (first + (k + 1)) % n := by
      rw [Nat.mod_add_mod, Nat.add_assoc, Nat.add_comm 1 k]
    have hne : (first + (k + 1)) % n ≠ first := by
      have h0 : (first + (k + 1)) % n ≠ (first + 0) % n :=
        index_ne hlen ((Nat.zero_le _).trans_lt hlen) (Nat.succ_ne_zero k)
      simpa only [Nat.add_zero, Nat.mod_eq_of_lt hfirst] using h0
    rw [hindex, Table.lookup_remove_ne _ hne]
    exact h.lookup (k + 1) (Nat.succ_lt_succ hk)

end Ring
