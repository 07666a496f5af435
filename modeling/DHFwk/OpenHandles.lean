import Mathlib.Algebra.Order.Group.Int
import Mathlib.Data.List.Count

/-!
# What is opened and what holds it

A handle that is opened may be the one that an earlier opening gave, and is then open twice. The
record keeps what is open, and what was closed without being open. It `Accounts` for a count of the
holders of each handle if every handle is open as often as it is held, and nothing else was closed.
-/

structure OpenHandles (H : Type*) where
  opened : List H := []
  stray : List H := []

namespace OpenHandles

variable {H : Type*} [DecidableEq H]

/-- A handle is opened, if there is one. -/
def acquire (handle : Option H) (g : OpenHandles H) : OpenHandles H :=
  { g with opened := handle.toList ++ g.opened }

/-- A handle is to be closed, which may fail. -/
def close (h : H) (closed : Bool) (g : OpenHandles H) : OpenHandles H where
  opened := if closed then g.opened.erase h else g.opened
  stray := if h ∈ g.opened then g.stray else h :: g.stray

/-- How often a place holds a handle. -/
def holds (place : Option H) (h : H) : ℤ :=
  if place = some h then 1 else 0

structure Accounts (g : OpenHandles H) (held : H → ℤ) : Prop where
  stray_eq : g.stray = []
  count_eq : ∀ h, (g.opened.count h : ℤ) = held h

variable {g : OpenHandles H} {held held' : H → ℤ} {h : H}

theorem holds_nonneg (place : Option H) (h : H) : 0 ≤ holds place h := by
  unfold holds
  split_ifs <;> omega

theorem holds_none (h : H) : holds none h = 0 :=
  rfl

theorem holds_self (h : H) : holds (some h) h = 1 :=
  if_pos rfl

theorem holds_inj {place place' : Option H} : (∀ h, holds place h = holds place' h) ↔
    place = place' := by
  constructor
  · intro heq
    ext h
    have hh := heq h
    unfold holds at hh
    split_ifs at hh <;> simp_all
  · rintro rfl h
    rfl

theorem accounts_empty : Accounts ({} : OpenHandles H) fun _ => 0 :=
  ⟨rfl, fun _ => rfl⟩

/-- What is held is all that matters. -/
theorem Accounts.iff (ha : Accounts g held) : Accounts g held' ↔ ∀ h, held' h = held h :=
  ⟨fun ha' h => (ha'.count_eq h).symm.trans (ha.count_eq h),
    fun heq => ⟨ha.stray_eq, fun h => (ha.count_eq h).trans (heq h).symm⟩⟩

theorem Accounts.acquire (ha : Accounts g held) (handle : Option H) :
    Accounts (g.acquire handle) fun h => held h + holds handle h where
  stray_eq := ha.stray_eq
  count_eq h := by
    rw [OpenHandles.acquire, List.count_append, Int.natCast_add, ha.count_eq, add_comm]
    cases handle with
    | none => rfl
    | some h' =>
      by_cases hh : h' = h
      · subst hh
        simp [holds]
      · simp [holds, hh]

theorem Accounts.mem (ha : Accounts g held) (hheld : 0 < held h) : h ∈ g.opened := by
  rw [← ha.count_eq] at hheld
  exact List.count_pos_iff.1 (Int.natCast_pos.1 hheld)

/-- What is held is open, so it can be closed. -/
theorem Accounts.close (ha : Accounts g held) (hheld : 0 < held h) (closed : Bool) :
    Accounts (g.close h closed) fun h' => held h' - if closed then holds (some h) h' else 0 where
  stray_eq := (if_pos (ha.mem hheld)).trans ha.stray_eq
  count_eq h' := by
    rw [← ha.count_eq, OpenHandles.close]
    cases closed with
    | false => simp
    | true =>
      have hpos : 0 < g.opened.count h := List.count_pos_iff.2 (ha.mem hheld)
      by_cases hh : h = h'
      · subst hh
        simp only [holds, if_true, List.count_erase_self]
        omega
      · simp [holds, hh, List.count_erase_of_ne (Ne.symm hh)]

end OpenHandles
