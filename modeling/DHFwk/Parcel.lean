import Mathlib.Data.List.Basic

/-!
# Parcels

A parcel is written value by value, and read in the order in which it was written. What its
operations do otherwise (a read of another kind, say) is left open : `Lawful` only says that
a write appends its value, that a read of the kind that is next takes it, and that a read of
a parcel that is exhausted fails.

A reader and a writer of a format are for the same encoding if the one consumes it (`Reads`) and
the other appends it (`Writes`). Both go over to lists (`Reads.many`, `Writes.foldlM`).
-/

universe u

namespace Parcel

/-- What a parcel holds. -/
inductive Kind
  | token
  | int32
  | string
  | uint32
  deriving DecidableEq, Repr

abbrev Kind.Val : Kind → Type
  | .token => String
  | .int32 => Int32
  | .string => String
  | .uint32 => UInt32

abbrev Value : Type := (k : Kind) × k.Val

/-- The operations of a parcel ; both may fail. -/
structure Ops (P : Type*) where
  empty : P
  write : (k : Kind) → k.Val → P → Option P
  read : (k : Kind) → P → Option k.Val × P

variable {P : Type*}

/-- Values are read in the order of their writes, and none where there is none. -/
structure Lawful (ops : Ops P) (values : P → List Value) : Prop where
  values_empty : values ops.empty = []
  values_write : ∀ {k v p p'}, ops.write k v p = some p' → values p' = values p ++ [⟨k, v⟩]
  read_cons : ∀ {k v p rest}, values p = ⟨k, v⟩ :: rest →
    (ops.read k p).1 = some v ∧ values (ops.read k p).2 = rest
  read_nil : ∀ {k p}, values p = [] → (ops.read k p).1 = none ∧ values (ops.read k p).2 = []

variable {ops : Ops P} {values : P → List Value} {α ε : Type*}

/-- The reader `r` consumes what `enc` makes of its result. -/
def Reads (values : P → List Value) (r : P → α × P) (enc : α → List Value) : Prop :=
  ∀ (p : P) (a : α) (rest : List Value), values p = enc a ++ rest →
    (r p).1 = a ∧ values (r p).2 = rest

/-- The writer `w` appends what `enc` makes of its argument. -/
def Writes (values : P → List Value) (w : P → α → Except ε P) (enc : α → List Value) : Prop :=
  ∀ (p p' : P) (a : α), w p a = .ok p' → values p' = values p ++ enc a

/-- As many values as are announced, one after the other. -/
def readMany (r : P → α × P) : ℕ → P → List α × P
  | 0, p => ([], p)
  | n + 1, p =>
    let (a, p) := r p
    let (as, p) := readMany r n p
    (a :: as, p)

theorem Reads.many {r : P → α × P} {enc : α → List Value} (h : Reads values r enc) :
    ∀ {as : List α} {p : P} {rest : List Value}, values p = as.flatMap enc ++ rest →
      (readMany r as.length p).1 = as ∧ values (readMany r as.length p).2 = rest
  | [], _, _, hp => ⟨rfl, hp⟩
  | a :: as, p, rest, hp => by
    rw [List.flatMap_cons, List.append_assoc] at hp
    obtain ⟨ha, hrest⟩ := h p a _ hp
    obtain ⟨has, hend⟩ := Reads.many h hrest
    exact ⟨congrArg₂ List.cons ha has, hend⟩

/-- What succeeded, step by step. -/
theorem bind_eq_ok {α β : Type u} {x : Except ε α} {f : α → Except ε β} {b : β} :
    x >>= f = .ok b ↔ ∃ a, x = .ok a ∧ f a = .ok b := by
  cases x with
  | error e => exact iff_of_false (fun h => nomatch h) fun ⟨_, h, _⟩ => nomatch h
  | ok a => exact ⟨fun h => ⟨a, rfl, h⟩, fun ⟨_, h, hb⟩ => Except.ok.inj h ▸ hb⟩

theorem Writes.foldlM {w : P → α → Except ε P} {enc : α → List Value} (h : Writes values w enc) :
    ∀ {as : List α} {p p' : P}, as.foldlM w p = .ok p' →
      values p' = values p ++ as.flatMap enc
  | [], p, p', hp => by
    obtain rfl : p = p' := Except.ok.inj hp
    rw [List.flatMap_nil, List.append_nil]
  | a :: as, p, p', hp => by
    rw [List.foldlM_cons] at hp
    obtain ⟨q, hw, hrest⟩ := bind_eq_ok.1 hp
    rw [Writes.foldlM h hrest, h p q a hw, List.flatMap_cons, List.append_assoc]

/-! ## Writes one after the other -/

/-- Values are written one after the other. -/
def Ops.writeAll (ops : Ops P) (vs : List Value) (p : P) : Option P :=
  vs.foldlM (fun p v => ops.write v.1 v.2 p) p

theorem Ops.writeAll_cons (k : Kind) (v : k.Val) (vs : List Value) (p : P) :
    ops.writeAll (⟨k, v⟩ :: vs) p = (ops.write k v p).bind (ops.writeAll vs) := rfl

theorem Ops.writeAll_singleton (k : Kind) (v : k.Val) (p : P) :
    ops.writeAll [⟨k, v⟩] p = ops.write k v p :=
  (writeAll_cons k v [] p).trans (Option.bind_fun_some _)

theorem Ops.writeAll_append (vs vs' : List Value) (p : P) :
    ops.writeAll (vs ++ vs') p = (ops.writeAll vs p).bind (ops.writeAll vs') :=
  List.foldlM_append

/-- A list is written value by value if each of its members is. -/
theorem Ops.writeAll_flatMap (enc : α → List Value) : ∀ (as : List α) (p : P),
    ops.writeAll (as.flatMap enc) p = as.foldlM (fun p a => ops.writeAll (enc a) p) p
  | [], _ => rfl
  | a :: as, p => by
    rw [List.flatMap_cons, writeAll_append, List.foldlM_cons]
    exact congrArg _ (funext fun q => writeAll_flatMap enc as q)

theorem Lawful.values_writeAll (h : Lawful ops values) : ∀ {vs : List Value} {p p' : P},
    ops.writeAll vs p = some p' → values p' = values p ++ vs
  | [], p, p', hp => by
    obtain rfl : p = p' := Option.some.inj hp
    exact (List.append_nil _).symm
  | ⟨k, v⟩ :: vs, p, p', hp => by
    obtain ⟨q, hw, hrest⟩ := Option.bind_eq_some_iff.1 ((Ops.writeAll_cons k v vs p).symm.trans hp)
    rw [h.values_writeAll hrest, h.values_write hw, List.append_assoc]
    rfl

/-! ## Parcels as lists -/

/-- A parcel that is the list of its values. A read of another kind fails and takes nothing. -/
def listOps : Ops (List Value) where
  empty := []
  write k v p := some (p ++ [⟨k, v⟩])
  read k
    | [] => (none, [])
    | ⟨k', v⟩ :: rest => if h : k' = k then (some (h ▸ v), rest) else (none, ⟨k', v⟩ :: rest)

theorem lawful_listOps : Lawful listOps id where
  values_empty := rfl
  values_write h := (Option.some.inj h).symm
  read_cons h := by
    cases h
    simp [listOps]
  read_nil h := by
    cases h
    exact ⟨rfl, rfl⟩

end Parcel
