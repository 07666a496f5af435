import Mathlib.Data.List.Basic
import Mathlib.Data.Nat.ModEq

/-!
# The last entries, under indices that wrap

Entries are written one after the other into `n` slots, from slot 0 on and on at 0 behind the last.
`LastWrites.Holds` says what the slots have : each of the last `n` entries under its number modulo
`n`, and what was there before in the slots that were not reached. The entry that is overwritten is
the oldest.
-/

namespace LastWrites

variable {V : Type*} {n i : ℕ} {init slots slots' : ℕ → V} {entries : List V} {v : V}

/-- The slots have the last `n` of the entries. -/
structure Holds (n : ℕ) (init slots : ℕ → V) (entries : List V) : Prop where
  last : ∀ j (hj : j < entries.length), entries.length ≤ j + n → slots (j % n) = entries[j]
  rest : ∀ i < n, entries.length ≤ i → slots i = init i

theorem holds_nil (n : ℕ) (init : ℕ → V) : Holds n init init [] :=
  ⟨fun j hj => absurd hj (Nat.not_lt_zero j), fun _ _ _ => rfl⟩

/-- One more entry comes into the slot of its number, the other slots stay. -/
theorem Holds.push (h : Holds n init slots entries) (hnew : slots' (entries.length % n) = v)
    (hold : ∀ i < n, i ≠ entries.length % n → slots' i = slots i) :
    Holds n init slots' (entries ++ [v]) where
  last j hj hlast := by
    rw [List.length_append, List.length_singleton] at hj hlast
    rcases Nat.lt_succ_iff_lt_or_eq.1 hj with hlt | rfl
    · have hn : 0 < n := by omega
      have hne : j % n ≠ entries.length % n := by
        intro heq
        have hdvd : n ∣ entries.length - j := (Nat.modEq_iff_dvd' hlt.le).1 heq
        exact absurd (Nat.le_of_dvd (by omega) hdvd) (by omega)
      rw [hold _ (Nat.mod_lt j hn) hne, List.getElem_append_left hlt]
      exact h.last j hlt (by omega)
    · simpa using hnew
  rest i hi hlen := by
    rw [List.length_append, List.length_singleton] at hlen
    have hlt : entries.length < i := hlen
    rw [hold i hi (by rw [Nat.mod_eq_of_lt (hlt.trans hi)]; exact hlt.ne')]
    exact h.rest i hi hlt.le

/-- Each of the last entries is in a slot. -/
theorem Holds.slot_of_mem (h : Holds n init slots entries) (hn : 0 < n)
    (hv : v ∈ entries.drop (entries.length - n)) : ∃ i < n, slots i = v := by
  obtain ⟨k, hk, rfl⟩ := List.mem_iff_getElem.1 hv
  rw [List.length_drop] at hk
  refine ⟨(entries.length - n + k) % n, Nat.mod_lt _ hn, ?_⟩
  rw [List.getElem_drop]
  exact h.last _ (by omega) (by omega)

/-- The last number below a count that falls into a slot. -/
theorem exists_last {count : ℕ} (hi : i < n) (hcount : i < count) :
    ∃ j < count, count ≤ j + n ∧ j % n = i := by
  refine ⟨(count - 1 - i) / n * n + i, ?_, ?_, ?_⟩
  · have hle := Nat.div_mul_le_self (count - 1 - i) n
    omega
  · have hlt := Nat.lt_div_mul_add (a := count - 1 - i) ((Nat.zero_le i).trans_lt hi)
    omega
  · rw [Nat.mul_add_mod_self_right, Nat.mod_eq_of_lt hi]

/-- A slot has one of the last entries, or what it had before. -/
theorem Holds.mem_or_init (h : Holds n init slots entries) (hi : i < n) :
    slots i ∈ entries.drop (entries.length - n) ∨ slots i = init i := by
  rcases Nat.lt_or_ge i entries.length with hlt | hge
  · left
    obtain ⟨j, hj, hlast, hmod⟩ := exists_last hi hlt
    rw [← hmod, h.last j hj hlast]
    refine List.mem_iff_getElem.2 ⟨j - (entries.length - n), ?_, ?_⟩
    · rw [List.length_drop]
      omega
    · rw [List.getElem_drop]
      congr 1
      omega
  · exact .inr (h.rest i hi hge)

/-- The first slot has an entry as soon as there is one. -/
theorem Holds.first_mem (h : Holds n init slots entries) (hn : 0 < n) (hne : entries ≠ []) :
    slots 0 ∈ entries := by
  obtain ⟨j, hj, hlast, hmod⟩ := exists_last hn (List.length_pos_iff.2 hne)
  rw [← hmod, h.last j hj hlast]
  exact List.getElem_mem hj

end LastWrites
