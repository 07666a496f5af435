import Mathlib.Data.List.Basic

/-!
# Runs and the conditions their steps meet

A system is a step function on states and labels; a label names who moves and what the
environment answers, so a list of labels is one interleaving. `Along step ok s ls` says
that every step of the run `ls` from `s` meets `ok`, a condition on the state before the
step and its label.

`Along.invariant` is the induction over runs : a predicate that every step meeting the
condition keeps holds at the end of every run all of whose steps meet it (`foldl_invariant`, if
every step keeps it). Since a prefix
of such a run is one too (`Along.of_append`), it holds in every state the run reaches. Where
no other step keeps it, a run meets the condition exactly if the predicate holds in every
state it reaches (`along_iff`), or, where it is not regained, in the last one (`foldl_iff_along`).
`along_iff_view` is the same for a second system that says what the states should look like.
-/

namespace Runs

variable {S L : Type*}

/-- Every step of the run `ls` from `s` meets `ok`. -/
def Along (step : S → L → S) (ok : S → L → Prop) : S → List L → Prop
  | _, [] => True
  | s, l :: ls => ok s l ∧ Along step ok (step s l) ls

variable {step : S → L → S} {ok : S → L → Prop}

instance Along.decidable [∀ s l, Decidable (ok s l)] :
    ∀ (s : S) (ls : List L), Decidable (Along step ok s ls)
  | _, [] => inferInstanceAs (Decidable True)
  | s, l :: ls =>
    have := Along.decidable (step s l) ls
    inferInstanceAs (Decidable (ok s l ∧ Along step ok (step s l) ls))

/-- A predicate kept by every step that meets the condition holds at the end of every
run whose steps all meet it. -/
theorem Along.invariant {Inv : S → Prop} (hstep : ∀ s l, Inv s → ok s l → Inv (step s l)) :
    ∀ {s : S} {ls : List L}, Inv s → Along step ok s ls → Inv (ls.foldl step s)
  | _, [], h0, _ => h0
  | s, l :: ls, h0, ⟨hl, hls⟩ =>
    show Inv (ls.foldl step (step s l)) from Along.invariant hstep (hstep s l h0 hl) hls

/-- A predicate kept by every step holds at the end of every run. -/
theorem foldl_invariant {P : S → Prop} (hstep : ∀ s l, P s → P (step s l)) :
    ∀ (ls : List L) {s : S}, P s → P (ls.foldl step s)
  | [], _, h => h
  | l :: ls, s, h => foldl_invariant hstep ls (hstep s l h)

/-- A prefix of a run whose steps meet the condition meets it too. -/
theorem Along.of_append : ∀ {s : S} {ls ls' : List L},
    Along step ok s (ls ++ ls') → Along step ok s ls ∧ Along step ok (ls.foldl step s) ls'
  | _, [], _, h => ⟨trivial, h⟩
  | _, _ :: _, _, ⟨hl, h⟩ => ⟨⟨hl, h.of_append.1⟩, h.of_append.2⟩

theorem Along.and {ok' : S → L → Prop} : ∀ {s : S} {ls : List L}, Along step ok s ls →
    Along step ok' s ls → Along step (fun s l => ok s l ∧ ok' s l) s ls
  | _, [], _, _ => trivial
  | _, _ :: _, ⟨hl, h⟩, ⟨hl', h'⟩ => ⟨⟨hl, hl'⟩, h.and h'⟩

/-- The condition is met wherever a step is taken. -/
theorem along_iff_forall : ∀ {s : S} (ls : List L), Along step ok s ls ↔
    ∀ pre l post, ls = pre ++ l :: post → ok (pre.foldl step s) l
  | s, [] => iff_of_true trivial fun pre l post h => by simp at h
  | s, l :: ls => by
    constructor
    · rintro ⟨hl, hls⟩ pre l' post h
      cases pre with
      | nil =>
        obtain ⟨rfl, -⟩ := List.cons.inj h
        exact hl
      | cons l'' pre =>
        obtain ⟨rfl, rfl⟩ := List.cons.inj h
        exact (along_iff_forall _).1 hls pre l' post rfl
    · intro h
      refine ⟨h [] l ls rfl, (along_iff_forall ls).2 ?_⟩
      rintro pre l' post rfl
      exact h (l :: pre) l' post rfl

/-- Two conditions that agree on the states of a run, as long as the first one is met. -/
theorem along_congr {ok' : S → L → Prop} {J : S → Prop} (hJ : ∀ s l, J s → ok s l → J (step s l))
    (h : ∀ s l, J s → (ok s l ↔ ok' s l)) :
    ∀ {s : S} (ls : List L), J s → (Along step ok s ls ↔ Along step ok' s ls)
  | _, [], _ => Iff.rfl
  | s, l :: ls, hj => by
    refine (and_congr_right fun hl => along_congr hJ h ls (hJ s l hj hl)).trans ?_
    exact and_congr_left fun _ => h s l hj

/-- If, where `P` holds, a step keeps `P` exactly if it meets the condition, then a run meets
the condition exactly if `P` holds in every state it reaches. `J` is what the steps that meet
it keep. -/
theorem along_iff_of_kept {J P : S → Prop} (hJ : ∀ s l, J s → ok s l → J (step s l))
    (hP : ∀ s l, J s → P s → (P (step s l) ↔ ok s l)) :
    ∀ {s : S} (ls : List L), J s → P s →
      (Along step ok s ls ↔ ∀ pre post, ls = pre ++ post → P (pre.foldl step s))
  | s, [], _, hs => by
    refine iff_of_true trivial fun pre post h => ?_
    rw [(List.append_eq_nil_iff.1 h.symm).1]
    exact hs
  | s, l :: ls, hj, hs => by
    constructor
    · rintro ⟨hl, h⟩ pre post hp
      cases pre with
      | nil => exact hs
      | cons l' pre =>
        obtain ⟨rfl, rfl⟩ := List.cons.inj hp
        have hnext := (hP s l hj hs).2 hl
        exact (along_iff_of_kept hJ hP (pre ++ post) (hJ s l hj hl) hnext).1 h pre post rfl
    · intro h
      have hnext : P (step s l) := h [l] ls rfl
      have hl := (hP s l hj hs).1 hnext
      refine ⟨hl, (along_iff_of_kept hJ hP ls (hJ s l hj hl) hnext).2 ?_⟩
      rintro pre post rfl
      exact h (l :: pre) post rfl

/-- `along_iff_of_kept`, where every step keeps `J`. -/
theorem along_iff {J P : S → Prop} (hJ : ∀ s l, J s → J (step s l))
    (hP : ∀ s l, J s → P s → (P (step s l) ↔ ok s l)) {s : S} (ls : List L) (hj : J s)
    (hs : P s) : Along step ok s ls ↔ ∀ pre post, ls = pre ++ post → P (pre.foldl step s) :=
  along_iff_of_kept (fun s l hj _ => hJ s l hj) hP ls hj hs

/-- A run meets the condition exactly if in every state it reaches what `view` sees of the state
is what `spec` makes of the labels so far, if the same holds of each step. -/
theorem along_iff_view {T : Type*} (view : S → T) (spec : T → L → T)
    (h : ∀ s l, view (step s l) = spec (view s) l ↔ ok s l) : ∀ {s : S} (ls : List L),
      Along step ok s ls ↔
        ∀ pre post, ls = pre ++ post → view (pre.foldl step s) = pre.foldl spec (view s)
  | s, [] => by
    refine iff_of_true trivial fun pre post hp => ?_
    rw [(List.append_eq_nil_iff.1 hp.symm).1]
    rfl
  | s, l :: ls => by
    constructor
    · rintro ⟨hl, hls⟩ pre post hp
      cases pre with
      | nil => rfl
      | cons l' pre =>
        obtain ⟨rfl, rfl⟩ := List.cons.inj hp
        have hrun := (along_iff_view view spec h (pre ++ post)).1 hls pre post rfl
        rwa [(h s l).2 hl] at hrun
    · intro hview
      have hl : view (step s l) = spec (view s) l := hview [l] ls rfl
      refine ⟨(h s l).1 hl, (along_iff_view view spec h ls).2 ?_⟩
      rintro pre post rfl
      rw [hl]
      exact hview (l :: pre) post rfl

/-- If a step has `P` behind it exactly if it has `P` before it and meets the condition, then a
run ends with `P` exactly if it begins with `P` and all its steps meet the condition. -/
theorem foldl_iff_along {J P : S → Prop} (hJ : ∀ s l, J s → J (step s l))
    (hP : ∀ s l, J s → (P (step s l) ↔ P s ∧ ok s l)) :
    ∀ {s : S} (ls : List L), J s → (P (ls.foldl step s) ↔ P s ∧ Along step ok s ls)
  | _, [], _ => (and_iff_left trivial).symm
  | s, l :: ls, hj => by
    rw [List.foldl_cons, foldl_iff_along hJ hP ls (hJ s l hj), hP s l hj, and_assoc]
    rfl

end Runs
