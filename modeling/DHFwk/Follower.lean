import Mathlib.Data.List.Basic

/-!
# A copy that follows a register

A register is written by its owner and by others. The owner keeps a copy of what he reads in it.
Of what others write he is told later, in the order in which it was written, and does with the
copy what he likes.

`Sound` is what should hold meanwhile : once there is nothing left to tell, the copy is what the
register reads as, if there is one, and what is told last is what the register has. Others who
write leave it so, and of the two things that the owner does from there each one exactly if it is
`GoodTold` and `GoodOwn` (`sound_told_iff`, `sound_own_iff`).
-/

/-- The value of a register, the values that were written by others and of which its owner was not
told yet, the oldest first, and his copy. -/
structure Follower (V C : Type*) where
  value : V
  untold : List V
  copy : Option C

namespace Follower

variable {V C : Type*} (read : V → Option C)

/-- Another writes. -/
def written (s : Follower V C) (v : V) : Follower V C :=
  { s with value := v, untold := s.untold ++ [v] }

/-- The owner is told, and sets his copy. -/
def told (s : Follower V C) (c : Option C) : Follower V C :=
  { s with untold := s.untold.tail, copy := c }

/-- The owner writes, and sets his copy. -/
def own (s : Follower V C) (v : V) (c : Option C) : Follower V C :=
  { s with value := v, copy := c }

/-- A copy is what the value reads as, if there is one. -/
def Reads (v : V) (c : Option C) : Prop :=
  c = none ∨ c = read v

/-- With nothing left to tell, the copy is right; what is told last is what the register has. -/
structure Sound (s : Follower V C) : Prop where
  fresh : s.untold = [] → Reads read s.value s.copy
  current : ∀ v ∈ s.untold.getLast?, v = s.value

/-- The copy is right, unless there is more to tell. -/
def GoodTold (s : Follower V C) (c : Option C) : Prop :=
  s.untold.length ≤ 1 → Reads read s.value c

/-- The copy is right, unless there is something to tell, and then that ends with the value. -/
structure GoodOwn (s : Follower V C) (v : V) (c : Option C) : Prop where
  fresh : s.untold = [] → Reads read v c
  current : ∀ u ∈ s.untold.getLast?, u = v

variable {read} {s : Follower V C} {v : V} {c : Option C}

theorem reads_none (v : V) : Reads read v none :=
  .inl rfl

theorem reads_read (v : V) : Reads read v (read v) :=
  .inr rfl

theorem reads_some_iff {r : C} : Reads read v (some r) ↔ read v = some r := by
  rw [Reads, eq_comm (a := some r) (b := read v)]
  exact or_iff_right (Option.some_ne_none r)

/-- What others write leaves something to tell. -/
theorem sound_written (s : Follower V C) (v : V) : Sound read (s.written v) where
  fresh hnil := absurd hnil (by simp [Follower.written])
  current u hu := by
    have hlast : (s.written v).untold.getLast? = some v := List.getLast?_concat
    rw [hlast, Option.mem_some_iff] at hu
    exact hu.symm

/-- What is left to tell ends as before. -/
theorem getLast?_tail_eq {vs : List V} (h : vs.tail ≠ []) : vs.tail.getLast? = vs.getLast? := by
  match vs, h with
  | _ :: _ :: _, _ => exact (List.getLast?_cons_cons ..).symm

theorem tail_eq_nil_iff {vs : List V} : vs.tail = [] ↔ vs.length ≤ 1 := by
  rw [← List.length_eq_zero_iff, List.length_tail]
  omega

/-- **Being told.** The owner stays sound exactly if he then has the right copy, or will be told
more. -/
theorem sound_told_iff (h : Sound read s) : Sound read (s.told c) ↔ GoodTold read s c := by
  constructor
  · intro hsound hlen
    exact hsound.fresh (tail_eq_nil_iff.2 hlen)
  · intro hgood
    refine ⟨fun hnil => hgood (tail_eq_nil_iff.1 hnil), fun u hu => ?_⟩
    have hne : s.untold.tail ≠ [] := by
      rintro hnil
      rw [Follower.told, hnil] at hu
      cases hu
    exact h.current u (getLast?_tail_eq hne ▸ hu)

/-- **Writing.** The owner stays sound exactly if he then has the right copy of what he wrote, and
is told nothing else last. -/
theorem sound_own_iff : Sound read (s.own v c) ↔ GoodOwn read s v c :=
  ⟨fun h => ⟨h.fresh, h.current⟩, fun h => ⟨h.fresh, h.current⟩⟩

/-- An owner who does not write keeps sound if his copy is right or stays as it was. -/
theorem Sound.copied (h : Sound read s) (hc : c = s.copy ∨ Reads read s.value c) :
    Sound read (s.own s.value c) where
  fresh hnil := hc.elim (fun heq => heq ▸ h.fresh hnil) id
  current := h.current

/-- What is told is what the register has, if nothing else is left to tell. -/
theorem Sound.told_eq (h : Sound read s) {vs : List V} (huntold : s.untold = v :: vs)
    (hlen : s.untold.length ≤ 1) : v = s.value := by
  rw [huntold, List.length_cons] at hlen
  obtain rfl : vs = [] := List.length_eq_zero_iff.1 (by omega)
  exact h.current v (by rw [huntold]; rfl)

end Follower
