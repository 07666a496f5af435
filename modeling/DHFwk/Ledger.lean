import Mathlib.Data.List.Range
import Mathlib.Data.List.Nodup
import Mathlib.Data.List.Perm.Subperm

/-!
# What is handed out and given back

A `Ledger` has the things that were handed out, under numbers in their order, and those that were
given back. `Sound g out` : nothing is given back twice, or given back and still `out`. Then
`Settled g out` says by counting that what was handed out is given back or still out, and
each thing once (`Sound.perm_range`).

A step of a system `Keeps` a ledger if it hands out, gives back or passes on, and `Loses` from it
if it forgets a thing. What is lost stays lost.
-/

structure Ledger where
  issued : ℕ := 0
  given : List ℕ := []
  deriving DecidableEq

namespace Ledger

/-- The number of the next thing is `issued`. -/
def issue (g : Ledger) : Ledger := { g with issued := g.issued + 1 }

def give (i : ℕ) (g : Ledger) : Ledger := { g with given := i :: g.given }

structure Sound (g : Ledger) (out : List ℕ) : Prop where
  nodup : (g.given ++ out).Nodup
  lt : ∀ i ∈ g.given ++ out, i < g.issued

def Settled (g : Ledger) (out : List ℕ) : Prop :=
  (g.given ++ out).length = g.issued

instance (g : Ledger) (out : List ℕ) : Decidable (Settled g out) :=
  inferInstanceAs (Decidable (_ = _))

variable {g g' g'' : Ledger} {out out' out'' : List ℕ} {i : ℕ}

theorem sound_empty : Sound {} [] := ⟨List.nodup_nil, by simp⟩

theorem Sound.of_perm (h : Sound g out) (hp : out.Perm out') : Sound g out' where
  nodup := ((hp.append_left g.given).nodup_iff).1 h.nodup
  lt i hi := h.lt i ((hp.append_left g.given).mem_iff.2 hi)

/-- Things are handed out in the order of their numbers. -/
theorem Sound.subperm (h : Sound g out) : (g.given ++ out).Subperm (List.range g.issued) :=
  List.subperm_of_subset h.nodup fun i hi => List.mem_range.2 (h.lt i hi)

theorem Sound.length_le (h : Sound g out) : (g.given ++ out).length ≤ g.issued := by
  simpa using h.subperm.length_le

/-- What was handed out is given back or out, each thing once. -/
theorem Sound.perm_range (h : Sound g out) :
    Settled g out ↔ (g.given ++ out).Perm (List.range g.issued) := by
  constructor
  · intro hs
    refine h.subperm.perm_of_length_le ?_
    rw [List.length_range]
    exact hs.ge
  · intro hp
    exact hp.length_eq.trans List.length_range

/-- The ledger stays sound, and nothing is lost. -/
def Keeps (g : Ledger) (out : List ℕ) (g' : Ledger) (out' : List ℕ) : Prop :=
  Sound g out → Sound g' out' ∧ (Settled g' out' ↔ Settled g out)

/-- The ledger stays sound, and something is lost. -/
def Loses (g : Ledger) (out : List ℕ) (g' : Ledger) (out' : List ℕ) : Prop :=
  Sound g out → Sound g' out' ∧ ¬Settled g' out'

theorem Keeps.refl (g : Ledger) (out : List ℕ) : Keeps g out g out := fun h => ⟨h, Iff.rfl⟩

theorem Keeps.trans (h : Keeps g out g' out') (h' : Keeps g' out' g'' out'') :
    Keeps g out g'' out'' := by
  intro hs
  obtain ⟨hs', hiff⟩ := h hs
  obtain ⟨hs'', hiff'⟩ := h' hs'
  exact ⟨hs'', hiff'.trans hiff⟩

theorem Keeps.loses (h : Keeps g out g' out') (h' : Loses g' out' g'' out'') :
    Loses g out g'' out'' := fun hs => h' (h hs).1

theorem Keeps.of_perm (g : Ledger) (hp : out.Perm out') : Keeps g out g out' := by
  intro hs
  refine ⟨hs.of_perm hp, ?_⟩
  unfold Settled
  rw [List.length_append, List.length_append, hp.length_eq]

theorem Keeps.issue (g : Ledger) (out : List ℕ) : Keeps g out g.issue (g.issued :: out) := by
  intro hs
  have hnew : g.issued ∉ g.given ++ out := fun hmem => Nat.lt_irrefl _ (hs.lt _ hmem)
  refine ⟨⟨?_, ?_⟩, ?_⟩
  · rw [Ledger.issue, List.perm_middle.nodup_iff, List.nodup_cons]
    exact ⟨hnew, hs.nodup⟩
  · intro i hi
    rw [Ledger.issue, List.perm_middle.mem_iff, List.mem_cons] at hi
    rcases hi with rfl | hi
    · exact Nat.lt_succ_self _
    · exact Nat.lt_succ_of_lt (hs.lt i hi)
  · simp only [Settled, Ledger.issue, List.length_append, List.length_cons]
    omega

theorem Keeps.give (g : Ledger) (i : ℕ) (out : List ℕ) : Keeps g (i :: out) (g.give i) out := by
  intro hs
  have hp : (g.given ++ i :: out).Perm ((g.give i).given ++ out) := List.perm_middle
  refine ⟨⟨hp.nodup_iff.1 hs.nodup, fun j hj => hs.lt j (hp.mem_iff.2 hj)⟩, ?_⟩
  unfold Settled
  rw [hp.length_eq]
  rfl

theorem Loses.drop (g : Ledger) (i : ℕ) (out : List ℕ) : Loses g (i :: out) g out := by
  intro hs
  have hsub : (g.given ++ out).Sublist (g.given ++ i :: out) :=
    (List.sublist_cons_self i out).append_left g.given
  refine ⟨⟨hs.nodup.sublist hsub, fun j hj => hs.lt j (hsub.subset hj)⟩, fun hset => ?_⟩
  have hle := hs.length_le
  simp only [Settled, List.length_append, List.length_cons] at hset hle
  omega

/-- A thing is handed out and given back at once. -/
theorem Keeps.issue_give (g : Ledger) (out : List ℕ) :
    Keeps g out (g.issue.give (g.issue.issued - 1)) out :=
  (Keeps.issue g out).trans (Keeps.give g.issue g.issued out)

/-- A thing is handed out and forgotten. -/
theorem Loses.issue (g : Ledger) (out : List ℕ) : Loses g out g.issue out :=
  (Keeps.issue g out).loses (Loses.drop g.issue g.issued out)

end Ledger
