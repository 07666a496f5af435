import Mathlib.Data.List.Basic

/-!
# Relays that may lose things

Things are put in at one end of a relay and are in it, in order, until they come out at the other;
`content` is what came out and then what is still in it. A step `Cuts` the content if it puts new
things in at the end and takes out at most one run of things that stand together. Then what is in a
relay is always in the order in which it was put in (`Relays.sublist`), and what was put in is in it
or was lost, each thing once (`Relays.perm`).

`push` is the queue with a bound whose oldest things make room for new ones.
-/

namespace Relay

open scoped List

variable {α S L : Type*}

/-- `after` is `before` without `lost`. -/
def Cuts (before after lost : List α) : Prop :=
  ∃ a b, before = a ++ lost ++ b ∧ after = a ++ b

theorem Cuts.refl (before : List α) : Cuts before before [] := ⟨before, [], by simp⟩

theorem Cuts.all (lost : List α) : Cuts lost [] lost := ⟨[], [], by simp⟩

theorem Cuts.append_left {before after lost : List α} (h : Cuts before after lost)
    (c : List α) : Cuts (c ++ before) (c ++ after) lost := by
  obtain ⟨a, b, hbefore, hafter⟩ := h
  exact ⟨c ++ a, b, by rw [hbefore]; simp only [List.append_assoc],
    by rw [hafter, List.append_assoc]⟩

theorem Cuts.append_right {before after lost : List α} (h : Cuts before after lost)
    (c : List α) : Cuts (before ++ c) (after ++ c) lost := by
  obtain ⟨a, b, hbefore, hafter⟩ := h
  exact ⟨a, b ++ c, by rw [hbefore, List.append_assoc], by rw [hafter, List.append_assoc]⟩

theorem Cuts.filterMap {β : Type*} (f : α → Option β) {before after lost : List α}
    (h : Cuts before after lost) :
    Cuts (before.filterMap f) (after.filterMap f) (lost.filterMap f) := by
  obtain ⟨a, b, rfl, rfl⟩ := h
  exact ⟨a.filterMap f, b.filterMap f, by simp only [List.filterMap_append],
    List.filterMap_append⟩

theorem Cuts.sublist {before after lost : List α} (h : Cuts before after lost) :
    after.Sublist before := by
  obtain ⟨a, b, rfl, rfl⟩ := h
  exact (List.sublist_append_left a lost).append_right b

theorem Cuts.perm {before after lost : List α} (h : Cuts before after lost) :
    (after ++ lost).Perm before := by
  obtain ⟨a, b, rfl, rfl⟩ := h
  rw [List.append_assoc, List.append_assoc]
  exact List.perm_append_comm.append_left a

/-! ## Runs -/

/-- What each step of a relay puts in and loses. -/
structure Relays (step : S → L → S) (accepted content : S → List α) (lost : S → L → List α) :
    Prop where
  cuts : ∀ s l, ∃ new, accepted (step s l) = accepted s ++ new ∧
    Cuts (content s ++ new) (content (step s l)) (lost s l)

/-- What a run loses. -/
def lostAlong (step : S → L → S) (lost : S → L → List α) : S → List L → List α
  | _, [] => []
  | s, l :: ls => lost s l ++ lostAlong step lost (step s l) ls

variable {step : S → L → S} {accepted content : S → List α} {lost : S → L → List α}

theorem Relays.sublist (h : Relays step accepted content lost) :
    ∀ (ls : List L) {s : S}, (content s).Sublist (accepted s) →
      (content (ls.foldl step s)).Sublist (accepted (ls.foldl step s))
  | [], _, hs => hs
  | l :: ls, s, hs => by
    obtain ⟨new, haccepted, hcuts⟩ := h.cuts s l
    refine h.sublist ls (hcuts.sublist.trans ?_)
    rw [haccepted]
    exact hs.append_right new

/-- `x` is what was lost before. -/
theorem Relays.perm_of_lost (h : Relays step accepted content lost) :
    ∀ (ls : List L) {s : S} {x : List α}, (content s ++ x).Perm (accepted s) →
      (content (ls.foldl step s) ++ (x ++ lostAlong step lost s ls)).Perm
        (accepted (ls.foldl step s))
  | [], s, x, hs => by
    rw [lostAlong, List.append_nil]
    exact hs
  | l :: ls, s, x, hs => by
    obtain ⟨new, haccepted, hcuts⟩ := h.cuts s l
    rw [lostAlong, ← List.append_assoc x]
    refine h.perm_of_lost ls ?_
    rw [haccepted]
    calc content (step s l) ++ (x ++ lost s l)
        _ ~ content (step s l) ++ (lost s l ++ x) := List.perm_append_comm.append_left _
        _ = content (step s l) ++ lost s l ++ x := (List.append_assoc ..).symm
        _ ~ content s ++ new ++ x := hcuts.perm.append_right x
        _ = content s ++ (new ++ x) := List.append_assoc ..
        _ ~ content s ++ (x ++ new) := List.perm_append_comm.append_left _
        _ = content s ++ x ++ new := (List.append_assoc ..).symm
        _ ~ accepted s ++ new := hs.append_right new

theorem Relays.perm (h : Relays step accepted content lost) (ls : List L) {s : S}
    (hs : content s = accepted s) :
    (content (ls.foldl step s) ++ lostAlong step lost s ls).Perm (accepted (ls.foldl step s)) :=
  h.perm_of_lost ls (by rw [List.append_nil, hs])

/-! ## A queue with a bound -/

/-- The oldest go until there is room for one more. -/
def makeRoom (max : ℕ) : List α → List α
  | [] => []
  | a :: queue => if max ≤ queue.length + 1 then makeRoom max queue else a :: queue

def push (max : ℕ) (queue : List α) (a : α) : List α := makeRoom max queue ++ [a]

/-- What goes for one more. -/
def evicted (max : ℕ) (queue : List α) : List α :=
  queue.take (queue.length - (makeRoom max queue).length)

theorem makeRoom_suffix (max : ℕ) : ∀ queue : List α, makeRoom max queue <:+ queue
  | [] => List.suffix_refl _
  | a :: queue => by
    rw [makeRoom]
    split
    · exact (makeRoom_suffix max queue).trans (List.suffix_cons a queue)
    · exact List.suffix_refl _

theorem evicted_append (max : ℕ) (queue : List α) :
    evicted max queue ++ makeRoom max queue = queue := by
  obtain ⟨gone, h⟩ := makeRoom_suffix max queue
  have hlength : queue.length - (makeRoom max queue).length = gone.length := by
    have := congrArg List.length h
    rw [List.length_append] at this
    omega
  have htake : queue.take gone.length = gone := by
    rw [← h]
    exact List.take_left
  rw [evicted, hlength, htake, h]

theorem length_makeRoom_lt {max : ℕ} (hmax : 0 < max) :
    ∀ queue : List α, (makeRoom max queue).length < max
  | [] => hmax
  | a :: queue => by
    rw [makeRoom]
    split
    · exact length_makeRoom_lt hmax queue
    · rename_i h
      rw [List.length_cons]
      omega

theorem length_push_le {max : ℕ} (hmax : 0 < max) (queue : List α) (a : α) :
    (push max queue a).length ≤ max := by
  rw [push, List.length_append, List.length_singleton]
  exact length_makeRoom_lt hmax queue

theorem push_cuts (max : ℕ) (queue : List α) (a : α) :
    Cuts (queue ++ [a]) (push max queue a) (evicted max queue) :=
  ⟨[], makeRoom max queue ++ [a], by
    rw [List.nil_append, ← List.append_assoc, evicted_append], rfl⟩

end Relay
