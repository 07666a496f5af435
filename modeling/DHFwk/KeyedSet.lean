import Mathlib.Data.List.Basic
import Mathlib.Data.List.Pairwise
import Mathlib.Data.Set.Insert
import Mathlib.Order.Defs.LinearOrder

/-!
# Sets kept by a key

A `KeyedSet key` is an ordered set whose elements are compared by `key` alone : an element is not
inserted if one with its key is there, and `erase` takes out the element with a key.

What the elements stand for may be finer than the key. `names f` is the set of what they stand
for, if `f a` is what `a` stands for. `insert` adds the name of an element to it, and `erase` takes
it away, exactly if no element with the same key stands for something else (`names_insert_iff`,
`names_erase_iff`).
-/

/-- Elements in the order of their keys, no two with the same key. -/
structure KeyedSet {α κ : Type*} [LinearOrder κ] (key : α → κ) where
  elems : List α
  sorted : elems.Pairwise fun a b => key a < key b

namespace KeyedSet

variable {α κ ι : Type*} [LinearOrder κ] {key : α → κ}

instance : EmptyCollection (KeyedSet key) := ⟨[], List.Pairwise.nil⟩

@[simp] theorem elems_empty : (∅ : KeyedSet key).elems = [] := rfl

/-- No two elements have the same key. -/
theorem eq_of_key_eq (s : KeyedSet key) {a b : α} (ha : a ∈ s.elems) (hb : b ∈ s.elems)
    (h : key a = key b) : a = b := by
  by_contra hne
  have hkeys : s.elems.Pairwise fun a b => key a ≠ key b := s.sorted.imp fun hlt => hlt.ne
  have : Std.Symm fun a b : α => key a ≠ key b := ⟨fun _ _ hne => hne.symm⟩
  exact hkeys.forall ha hb hne h

/-- The elements with the key of an element are that element. -/
theorem filter_key (s : KeyedSet key) {a : α} (ha : a ∈ s.elems) :
    s.elems.filter (fun b => key b = key a) = [a] := by
  have hall : ∀ l : List α, (l.Pairwise fun a b => key a < key b) → a ∈ l →
      l.filter (fun b => key b = key a) = [a] := by
    intro l
    induction l with
    | nil => exact fun _ hmem => absurd hmem List.not_mem_nil
    | cons c l ih =>
      intro hsorted hmem
      obtain ⟨hlt, hsorted⟩ := List.pairwise_cons.1 hsorted
      obtain rfl | hmem := List.mem_cons.1 hmem
      · rw [List.filter_cons_of_pos (by simp), List.filter_eq_nil_iff.2]
        exact fun b hb => by simpa using (hlt b hb).ne'
      · rw [List.filter_cons_of_neg (by simpa using (hlt a hmem).ne)]
        exact ih hsorted hmem
  exact hall s.elems s.sorted ha

/-! ## Insertion and removal -/

/-- Put `a` in its place, if there is no element with its key. -/
def insert (s : KeyedSet key) (a : α) : KeyedSet key :=
  if ∃ b ∈ s.elems, key b = key a then s
  else
    { elems := s.elems.filter (fun b => key b < key a) ++
        a :: s.elems.filter fun b => key a < key b
      sorted := by
        refine List.pairwise_append.2 ⟨s.sorted.filter _, List.pairwise_cons.2
          ⟨fun b hb => by simpa using (List.mem_filter.1 hb).2, s.sorted.filter _⟩, ?_⟩
        intro b hb c hc
        have hba : key b < key a := by simpa using (List.mem_filter.1 hb).2
        rcases List.mem_cons.1 hc with rfl | hc
        · exact hba
        · exact hba.trans (by simpa using (List.mem_filter.1 hc).2) }

/-- Take out the element with the key `k`. -/
def erase (s : KeyedSet key) (k : κ) : KeyedSet key :=
  ⟨s.elems.filter fun a => key a ≠ k, s.sorted.filter _⟩

theorem insert_of_mem {s : KeyedSet key} {a b : α} (hb : b ∈ s.elems) (h : key b = key a) :
    s.insert a = s :=
  if_pos ⟨b, hb, h⟩

theorem mem_insert_of_new {s : KeyedSet key} {a : α} (h : ¬∃ b ∈ s.elems, key b = key a) {b : α} :
    b ∈ (s.insert a).elems ↔ b = a ∨ b ∈ s.elems := by
  have hlt : b ∈ s.elems → (key b < key a ∨ key a < key b) := fun hb =>
    lt_or_gt_of_ne fun heq => h ⟨b, hb, heq⟩
  simp only [insert, if_neg h, List.mem_append, List.mem_cons, List.mem_filter, decide_eq_true_eq]
  constructor
  · rintro (⟨hb, -⟩ | rfl | ⟨hb, -⟩)
    · exact Or.inr hb
    · exact Or.inl rfl
    · exact Or.inr hb
  · rintro (rfl | hb)
    · exact Or.inr (Or.inl rfl)
    · exact (hlt hb).imp (⟨hb, ·⟩) fun hgt => Or.inr ⟨hb, hgt⟩

theorem mem_erase {s : KeyedSet key} {k : κ} {a : α} :
    a ∈ (s.erase k).elems ↔ a ∈ s.elems ∧ key a ≠ k := by
  simp [erase]

theorem erase_of_forall_ne {s : KeyedSet key} {k : κ} (h : ∀ a ∈ s.elems, key a ≠ k) :
    s.erase k = s := by
  have helems : s.elems.filter (fun a => key a ≠ k) = s.elems :=
    List.filter_eq_self.2 fun a ha => by simpa using h a ha
  cases s
  simp only [erase, mk.injEq]
  exact helems

/-! ## What the elements stand for -/

/-- What the elements stand for. -/
def names (f : α → ι) (s : KeyedSet key) : Set ι := {i | ∃ a ∈ s.elems, f a = i}

/-- Every element with the key of `a` stands for what `a` stands for. -/
def Apart (f : α → ι) (s : KeyedSet key) (a : α) : Prop :=
  ∀ b ∈ s.elems, key b = key a → f b = f a

instance [DecidableEq ι] (f : α → ι) (s : KeyedSet key) (a : α) : Decidable (s.Apart f a) :=
  inferInstanceAs (Decidable (∀ b ∈ s.elems, key b = key a → f b = f a))

theorem names_empty (f : α → ι) : names f (∅ : KeyedSet key) = ∅ :=
  Set.eq_empty_of_forall_notMem fun _ ⟨_, ha, _⟩ => List.not_mem_nil ha

variable {f : α → ι} (hf : ∀ a b, f a = f b → key a = key b)
include hf

theorem names_insert_iff (s : KeyedSet key) (a : α) :
    names f (s.insert a) = Insert.insert (f a) (names f s) ↔ s.Apart f a := by
  constructor
  · intro h b hb hkey
    have hmem : f a ∈ names f (s.insert a) := h ▸ Set.mem_insert _ _
    rw [insert_of_mem hb hkey] at hmem
    obtain ⟨c, hc, hca⟩ := hmem
    rw [← s.eq_of_key_eq hc hb ((hf c a hca).trans hkey.symm), hca]
  · intro h
    by_cases hnew : ∃ b ∈ s.elems, key b = key a
    · obtain ⟨b, hb, hkey⟩ := hnew
      have hmem : f a ∈ names f s := ⟨b, hb, h b hb hkey⟩
      rw [insert_of_mem hb hkey, Set.insert_eq_of_mem hmem]
    · ext i
      simp only [names, mem_insert_of_new hnew, Set.mem_ofPred_eq, Set.mem_insert_iff]
      constructor
      · rintro ⟨b, rfl | hb, rfl⟩
        · exact Or.inl rfl
        · exact Or.inr ⟨b, hb, rfl⟩
      · rintro (rfl | ⟨b, hb, rfl⟩)
        · exact ⟨a, Or.inl rfl, rfl⟩
        · exact ⟨b, Or.inr hb, rfl⟩

theorem names_erase_iff (s : KeyedSet key) (a : α) :
    names f (s.erase (key a)) = names f s \ {f a} ↔ s.Apart f a := by
  constructor
  · intro h b hb hkey
    by_contra hne
    have hmem : f b ∈ names f s \ {f a} := ⟨⟨b, hb, rfl⟩, hne⟩
    rw [← h] at hmem
    obtain ⟨c, hc, hcb⟩ := hmem
    exact (mem_erase.1 hc).2 ((hf c b hcb).trans hkey)
  · intro h
    ext i
    constructor
    · rintro ⟨b, hb, rfl⟩
      obtain ⟨hb, hkey⟩ := mem_erase.1 hb
      exact ⟨⟨b, hb, rfl⟩, fun heq => hkey (hf b a heq)⟩
    · rintro ⟨⟨b, hb, rfl⟩, hne⟩
      exact ⟨b, mem_erase.2 ⟨hb, fun hkey => hne (h b hb hkey)⟩, rfl⟩

end KeyedSet
