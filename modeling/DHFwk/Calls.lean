import Mathlib.Logic.Basic
import Mathlib.Tactic.SplitIfs

/-!
# Calls that report a code

A `Call W` runs on a world `W` and returns a code, `0` for success, with the world it
leaves. A sequence that returns at the first failing code is `andThen`, a call whose
failure is cleaned up after is `orUndo`, a call whose code nobody reads is `ignoring`, one
whose failure gets another code is `orCode`, and a wait that answers a truth value becomes
a call through `ofBool`.

`Triple P m Q E` says that from a world in `P` the call `m` ends in `Q` if it succeeds and
in `E` if it fails. Each combinator has its rule.
-/

/-- A call : what it does to the world, and the code it returns. -/
abbrev Call (W : Type*) := W → Int × W

namespace Call

variable {W : Type*}

/-- Return success, touch nothing. -/
def success : Call W := fun w => (0, w)

/-- `m`, then `k` if `m` succeeded; else the code of `m`. -/
def andThen (m k : Call W) : Call W := fun w =>
  if (m w).1 = 0 then k (m w).2 else m w

/-- `m`; if it fails, `undo`, whose own code is dropped, and then the code of `m`. -/
def orUndo (m undo : Call W) : Call W := fun w =>
  if (m w).1 = 0 then m w else ((m w).1, (undo (m w).2).2)

/-- `m`, whose code is dropped, then `k`. -/
def ignoring (m k : Call W) : Call W := fun w => k (m w).2

/-- `m`, with the code `err` for every failure. -/
def orCode (m : Call W) (err : Int) : Call W := fun w =>
  (if (m w).1 = 0 then 0 else err, (m w).2)

/-- A truth value as a code : `err` for false. -/
def ofBool (b : W → Bool × W) (err : Int) : Call W := fun w =>
  (if (b w).1 then 0 else err, (b w).2)

/-- `m` on a world that has something beside it, which is left as it is. -/
def beside {N : Type*} (m : Call W) : Call (N × W) := fun s => ((m s.2).1, s.1, (m s.2).2)

/-! ## When a sequence succeeds -/

theorem andThen_fst_eq_zero {m k : Call W} {w : W} :
    (m.andThen k w).1 = 0 ↔ (m w).1 = 0 ∧ (k (m w).2).1 = 0 := by
  unfold andThen
  split_ifs with h <;> simp [h]

theorem andThen_of_eq_zero {m : Call W} {w : W} (h : (m w).1 = 0) (k : Call W) :
    m.andThen k w = k (m w).2 :=
  if_pos h

theorem andThen_of_ne_zero {m : Call W} {w : W} (h : (m w).1 ≠ 0) (k : Call W) :
    m.andThen k w = m w :=
  if_neg h

/-! ## Rules -/

/-- From `P` the call ends in `Q` if it succeeds and in `E` if it fails. -/
def Triple (P : W → Prop) (m : Call W) (Q E : W → Prop) : Prop :=
  ∀ w, P w → if (m w).1 = 0 then Q (m w).2 else E (m w).2

namespace Triple

variable {P P' Q Q' R E E' : W → Prop} {m k undo : Call W}

theorem of_success {w : W} (h : Triple P m Q E) (hw : P w) (hm : (m w).1 = 0) : Q (m w).2 := by
  have := h w hw
  rwa [if_pos hm] at this

theorem of_failure {w : W} (h : Triple P m Q E) (hw : P w) (hm : (m w).1 ≠ 0) : E (m w).2 := by
  have := h w hw
  rwa [if_neg hm] at this

/-- A triple from the two ways a call may end. -/
theorem of_codes (hQ : ∀ w, P w → (m w).1 = 0 → Q (m w).2)
    (hE : ∀ w, P w → (m w).1 ≠ 0 → E (m w).2) : Triple P m Q E := fun w hw => by
  split_ifs with h
  · exact hQ w hw h
  · exact hE w hw h

/-- A call that ends in `Q` whatever its code. -/
theorem of_forall (h : ∀ w, P w → Q (m w).2) : Triple P m Q Q := fun w hw => by
  rw [ite_self]
  exact h w hw

/-- A call that ends in `Q` whatever its code. -/
theorem snd {w : W} (h : Triple P m Q Q) (hw : P w) : Q (m w).2 := by
  have := h w hw
  rwa [ite_self] at this

/-- What two triples say of the success and of the failure. -/
theorem andFailure (h : Triple P m Q E) (h' : Triple P m Q' E') : Triple P m Q E' :=
  of_codes (fun _ hw => h.of_success hw) fun _ hw => h'.of_failure hw

theorem conseq (h : Triple P m Q E) (hP : ∀ w, P' w → P w) (hQ : ∀ w, Q w → Q' w)
    (hE : ∀ w, E w → E' w) : Triple P' m Q' E' := fun w hw => by
  have := h w (hP w hw)
  split_ifs at this ⊢
  · exact hQ _ this
  · exact hE _ this

theorem success : Triple P Call.success P E := fun _ hw => hw

theorem beside {N : Type*} {P : N → Prop} (m : Call W) :
    Triple (fun s : N × W => P s.1) m.beside (fun s => P s.1) (fun s => P s.1) :=
  of_forall fun _ h => h

theorem andThen (hm : Triple P m Q E) (hk : Triple Q k R E) : Triple P (m.andThen k) R E :=
  fun w hw => by
    by_cases h : (m w).1 = 0
    · rw [andThen_of_eq_zero h]
      exact hk _ (hm.of_success hw h)
    · rw [andThen_of_ne_zero h, if_neg h]
      exact hm.of_failure hw h

theorem orUndo (hm : Triple P m Q E) (hu : Triple E undo E' E') :
    Triple P (m.orUndo undo) Q E' := fun w hw => by
  by_cases h : (m w).1 = 0
  · simp only [Call.orUndo, if_pos h]
    exact hm.of_success hw h
  · simp only [Call.orUndo, if_neg h]
    exact hu.snd (hm.of_failure hw h)

theorem ignoring (hm : Triple P m Q Q) (hk : Triple Q k R E) :
    Triple P (m.ignoring k) R E := fun w hw => by
  exact hk _ (hm.snd hw)

theorem orCode {err : Int} (hm : Triple P m Q E) (herr : err ≠ 0) :
    Triple P (m.orCode err) Q E := fun w hw => by
  have := hm w hw
  by_cases h : (m w).1 = 0
  · simpa [Call.orCode, h] using this
  · simpa [Call.orCode, h, herr] using this

theorem ofBool {b : W → Bool × W} {err : Int} (herr : err ≠ 0)
    (hb : ∀ w, P w → if (b w).1 then Q (b w).2 else E (b w).2) :
    Triple P (Call.ofBool b err) Q E := fun w hw => by
  have := hb w hw
  simp only [Call.ofBool]
  by_cases h : (b w).1 = true
  · simpa [h] using this
  · simpa [h, herr] using this

end Triple

end Call
