import DHFwk.Parcel

/-!
# Messages of values of several kinds

A message is the list of the values in it, each with its kind. `Reading` is how a library reads
one : a value of the kind that is next is taken, an empty message reads as a default value, and
what a read of another kind does is left open. `writeItems` writes values one after the other, each
with an error of its own for the case that it does not fit.

A reader takes a form `enc` (`Takes`) if it reads back what `enc` made of its result and leaves
what stands behind.
-/

namespace Wire

variable {K : Type*} {Val : K → Type*} {ε α : Type*}

/-- A value and its kind. -/
abbrev Item (Val : K → Type*) := (k : K) × Val k

/-- The reads of a library. -/
structure Reading (Val : K → Type*) where
  unread : (k : K) → Val k
  read : (k : K) → List (Item Val) → Val k × List (Item Val)
  read_cons : ∀ (k : K) (v : Val k) (rest : List (Item Val)), read k (⟨k, v⟩ :: rest) = (v, rest)
  read_nil : ∀ k : K, read k [] = (unread k, [])

attribute [simp] Reading.read_cons Reading.read_nil

/-- A reader takes what `enc` makes of its result. -/
def Takes (r : List (Item Val) → α × List (Item Val)) (enc : α → List (Item Val)) : Prop :=
  ∀ (a : α) (rest : List (Item Val)), r (enc a ++ rest) = (a, rest)

theorem Takes.many {r : List (Item Val) → α × List (Item Val)} {enc : α → List (Item Val)}
    (h : Takes r enc) : ∀ (as : List α) (rest : List (Item Val)),
      Parcel.readMany r as.length (as.flatMap enc ++ rest) = (as, rest)
  | [], _ => rfl
  | a :: as, rest => by
    rw [List.flatMap_cons, List.append_assoc, List.length_cons, Parcel.readMany, h a]
    dsimp only
    rw [Takes.many h as rest]

/-! ## Writes -/

/-- Values one after the other, up to the first that does not fit. -/
def writeItems (fits : List (Item Val) → Item Val → Bool) :
    List (Item Val × ε) → List (Item Val) → Except ε (List (Item Val))
  | [], p => .ok p
  | (v, e) :: vs, p => if fits p v then writeItems fits vs (p ++ [v]) else .error e

/-- Every value finds room behind the ones before it. -/
def fitsItems (fits : List (Item Val) → Item Val → Bool) :
    List (Item Val) → List (Item Val) → Bool
  | [], _ => true
  | v :: vs, p => fits p v && fitsItems fits vs (p ++ [v])

variable {fits : List (Item Val) → Item Val → Bool}

theorem writeItems_eq (fits : List (Item Val) → Item Val → Bool) : ∀ (vs : List (Item Val × ε))
    (p : List (Item Val)), fitsItems fits (vs.map Prod.fst) p = true →
      writeItems fits vs p = .ok (p ++ vs.map Prod.fst)
  | [], p, _ => by rw [writeItems, List.map_nil, List.append_nil]
  | (v, e) :: vs, p, h => by
    rw [List.map_cons, fitsItems, Bool.and_eq_true] at h
    rw [writeItems, if_pos h.1, writeItems_eq fits vs _ h.2, List.append_assoc]
    rfl

/-- What does not fit is answered with the error of one of the values. -/
theorem writeItems_eq_error : ∀ {vs : List (Item Val × ε)} {p : List (Item Val)},
    fitsItems fits (vs.map Prod.fst) p = false →
      ∃ e, (∃ v, (v, e) ∈ vs) ∧ writeItems fits vs p = .error e
  | [], _, h => nomatch h
  | (v, e) :: vs, p, h => by
    by_cases hv : fits p v = true
    · rw [List.map_cons, fitsItems, hv, Bool.true_and] at h
      obtain ⟨e', ⟨v', hmem⟩, heq⟩ := writeItems_eq_error h
      exact ⟨e', ⟨v', List.mem_cons_of_mem _ hmem⟩, by rw [writeItems, if_pos hv, heq]⟩
    · exact ⟨e, ⟨v, List.mem_cons_self⟩, by rw [writeItems, if_neg hv]⟩

theorem fitsItems_append (fits : List (Item Val) → Item Val → Bool) :
    ∀ (vs ws : List (Item Val)) (p : List (Item Val)),
      fitsItems fits (vs ++ ws) p = (fitsItems fits vs p && fitsItems fits ws (p ++ vs))
  | [], _, p => by rw [fitsItems, Bool.true_and, List.append_nil, List.nil_append]
  | v :: vs, ws, p => by
    rw [List.cons_append, fitsItems, fitsItems, fitsItems_append fits vs ws, Bool.and_assoc,
      List.append_assoc]
    rfl

/-- Values that have the same error. -/
theorem writeItems_map (fits : List (Item Val) → Item Val → Bool) (e : ε) :
    ∀ (vs : List (Item Val)) (p : List (Item Val)),
      writeItems fits (vs.map (·, e)) p = if fitsItems fits vs p = true then .ok (p ++ vs) else .error e
  | [], p => by
    rw [List.append_nil]
    rfl
  | v :: vs, p => by
    rw [List.map_cons, writeItems, fitsItems]
    by_cases hv : fits p v = true
    · rw [if_pos hv, hv, Bool.true_and, writeItems_map fits e vs, List.append_assoc]
      rfl
    · rw [if_neg hv, eq_false_of_ne_true hv]
      rfl

theorem map_fst_map (e : ε) (vs : List (Item Val)) : (vs.map (·, e)).map Prod.fst = vs := by
  rw [List.map_map]
  exact List.map_id _

/-! ## A reading -/

/-- A read of another kind than the next one answers the default value and takes nothing. -/
def strict [DecidableEq K] (unread : (k : K) → Val k) : Reading Val where
  unread := unread
  read k
    | [] => (unread k, [])
    | ⟨k', v⟩ :: rest => if h : k' = k then (h ▸ v, rest) else (unread k, ⟨k', v⟩ :: rest)
  read_cons k v rest := by simp
  read_nil _ := rfl

end Wire
