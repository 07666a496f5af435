import Mathlib.Data.Finset.Card
import Mathlib.Data.List.AList
import Mathlib.Data.List.Sort
import Mathlib.Algebra.BigOperators.Group.List.Basic
import Mathlib.Algebra.Order.BigOperators.Group.List
import Mathlib.Tactic.Abel

/-!
# Finite tables with a default value

A `Table K V` is a finite map from keys to values, an association list whose keys are
distinct. `get` reads a missing key as the default value, `set` writes a key, creating it
if needed, and `mapVals` rewrites every value in place.

`sum f` adds up a weight `f` over the entries and `count p` counts the entries that
satisfy `p`. When the default value weighs nothing, a missing entry and a default entry
are the same to a sum : writing a key changes the sum by the difference of the two
weights (`sum_set`), and erasing a key takes its weight away (`sum_erase`).
-/

/-- Finite maps : association lists with distinct keys. -/
abbrev Table (K V : Type*) := AList (fun _ : K => V)

namespace Table

variable {K V M : Type*} [DecidableEq K]

/-! ## Reading and writing -/

/-- The value at `k`, the default value if `k` is missing. -/
def get [Inhabited V] (t : Table K V) (k : K) : V :=
  (t.lookup k).getD default

/-- Write `v` at `k`. -/
def set (t : Table K V) (k : K) (v : V) : Table K V :=
  AList.insert k v t

/-- Take `k` out. -/
def remove (t : Table K V) (k : K) : Table K V :=
  AList.erase k t

/-- Take every key of the list out. -/
def removeAll (t : Table K V) (ks : List K) : Table K V :=
  ks.foldl remove t

/-- Rewrite every value. -/
def mapVals (f : K → V → V) (t : Table K V) : Table K V :=
  ⟨t.entries.map fun e => ⟨e.1, f e.1 e.2⟩, t.nodupKeys.map₂ f⟩

section Inhabited

variable [Inhabited V]

theorem get_of_lookup {t : Table K V} {k : K} {v : V} (h : t.lookup k = some v) :
    t.get k = v := by
  simp [get, h]

theorem get_of_lookup_none {t : Table K V} {k : K} (h : t.lookup k = none) :
    t.get k = default := by
  simp [get, h]

@[simp] theorem get_set_self (t : Table K V) (k : K) (v : V) : (t.set k v).get k = v := by
  simp [get, set]

theorem get_set_ne (t : Table K V) {k k' : K} (h : k' ≠ k) (v : V) :
    (t.set k v).get k' = t.get k' := by
  simp [get, set, AList.lookup_insert_ne h]

theorem get_set (t : Table K V) (k k' : K) (v : V) :
    (t.set k v).get k' = if k' = k then v else t.get k' := by
  split_ifs with h
  · rw [h, get_set_self]
  · exact get_set_ne t h v

@[simp] theorem get_remove_self (t : Table K V) (k : K) : (t.remove k).get k = default := by
  simp [get, remove]

theorem get_remove_ne (t : Table K V) {k k' : K} (h : k' ≠ k) :
    (t.remove k).get k' = t.get k' := by
  simp [get, remove, AList.lookup_erase_ne h]

theorem get_remove (t : Table K V) (k k' : K) :
    (t.remove k).get k' = if k' = k then default else t.get k' := by
  split_ifs with h
  · rw [h, get_remove_self]
  · exact get_remove_ne t h

end Inhabited

@[simp] theorem lookup_set_self (t : Table K V) (k : K) (v : V) :
    (t.set k v).lookup k = some v := by
  simp [set]

theorem lookup_set_ne (t : Table K V) {k k' : K} (h : k' ≠ k) (v : V) :
    (t.set k v).lookup k' = t.lookup k' := by
  simp [set, AList.lookup_insert_ne h]

@[simp] theorem lookup_remove_self (t : Table K V) (k : K) : (t.remove k).lookup k = none := by
  simp [remove]

theorem lookup_remove_ne (t : Table K V) {k k' : K} (h : k' ≠ k) :
    (t.remove k).lookup k' = t.lookup k' := by
  simp [remove, AList.lookup_erase_ne h]

theorem lookup_set (t : Table K V) (k k' : K) (v : V) :
    (t.set k v).lookup k' = if k' = k then some v else t.lookup k' := by
  split_ifs with h
  · rw [h, lookup_set_self]
  · exact lookup_set_ne t h v

theorem lookup_remove (t : Table K V) (k k' : K) :
    (t.remove k).lookup k' = if k' = k then none else t.lookup k' := by
  split_ifs with h
  · rw [h, lookup_remove_self]
  · exact lookup_remove_ne t h

theorem lookup_removeAll (t : Table K V) (ks : List K) (k : K) :
    (t.removeAll ks).lookup k = if k ∈ ks then none else t.lookup k := by
  induction ks generalizing t with
  | nil => simp [removeAll]
  | cons k' ks ih =>
    rw [removeAll, List.foldl_cons, ← removeAll, ih, lookup_remove]
    by_cases hk : k = k'
    · simp [hk]
    · simp [hk]

theorem mem_foldl_set {α : Type*} (f : α → K) (g : α → V) (k : K) : ∀ (l : List α) (t : Table K V),
    k ∈ l.foldl (fun t a => t.set (f a) (g a)) t ↔ (∃ a ∈ l, f a = k) ∨ k ∈ t
  | [], t => by simp
  | a :: l, t => by
    rw [List.foldl_cons, mem_foldl_set f g k l, set, AList.mem_insert]
    simp only [List.mem_cons, exists_eq_or_imp]
    rw [eq_comm, or_left_comm, or_assoc]

/-- What is there after a list was written is from the list, or was there before. -/
theorem mem_of_lookup_foldl_set {α : Type*} {f : α → K} {g : α → V} {k : K} {v : V} :
    ∀ {l : List α} {t : Table K V}, (l.foldl (fun t a => t.set (f a) (g a)) t).lookup k = some v →
      (∃ a ∈ l, f a = k ∧ g a = v) ∨ t.lookup k = some v
  | [], _, h => .inr h
  | a :: l, t, h => by
    obtain ⟨b, hb, heq⟩ | h := mem_of_lookup_foldl_set (l := l) h
    · exact .inl ⟨b, List.mem_cons_of_mem _ hb, heq⟩
    · rw [lookup_set] at h
      split_ifs at h with hk
      · exact .inl ⟨a, List.mem_cons_self, hk.symm, Option.some.inj h⟩
      · exact .inr h

theorem mem_removeAll (t : Table K V) (ks : List K) (k : K) :
    k ∈ t.removeAll ks ↔ k ∉ ks ∧ k ∈ t := by
  rw [← AList.lookup_isSome, ← AList.lookup_isSome, lookup_removeAll]
  by_cases hk : k ∈ ks <;> simp [hk]

theorem lookup_empty_ne_some (k : K) (v : V) : (∅ : Table K V).lookup k ≠ some v := by
  rw [AList.lookup_empty]
  exact (Option.some_ne_none v).symm

theorem remove_of_lookup_none {t : Table K V} {k : K} (h : t.lookup k = none) :
    t.remove k = t :=
  AList.ext (List.kerase_of_notMem_keys (List.dlookup_eq_none.1 h))

theorem lookup_mapVals (f : K → V → V) (t : Table K V) (k : K) :
    (mapVals f t).lookup k = (t.lookup k).map (f k) :=
  List.dlookup_map₂ k

theorem get_mapVals [Inhabited V] (f : K → V → V) (t : Table K V) {k : K}
    (hf : f k default = default) : (mapVals f t).get k = f k (t.get k) := by
  rw [get, lookup_mapVals, get]
  cases t.lookup k <;> simp [hf]

/-- A value that is there is rewritten, and a missing one would stay as it is. -/
theorem get_of_update [Inhabited V] {t t' : Table K V} {k : K} {f : V → V}
    (hf : f default = default) (hnone : t.lookup k = none → t' = t)
    (hsome : ∀ v, t.lookup k = some v → t' = t.set k (f v)) (k' : K) :
    t'.get k' = if k' = k then f (t.get k') else t.get k' := by
  cases h : t.lookup k with
  | none =>
    rw [hnone h]
    split_ifs with hk
    · rw [hk, get_of_lookup_none h, hf]
    · rfl
  | some v =>
    rw [hsome v h, get_set]
    split_ifs with hk
    · rw [hk, get_of_lookup h]
    · rfl

/-! ## The first key of a value -/

section FirstKey

variable {K : Type*} [LinearOrder K] [DecidableEq K] [DecidableEq V] {t : Table K V} {k : K}
  {v : V}

/-- The first key, in their order, under which `v` is. -/
def firstKey (v : V) (t : Table K V) : Option K :=
  ((t.entries.filter fun e => e.2 = v).map Sigma.fst).min?

theorem firstKey_eq_some_iff :
    t.firstKey v = some k ↔ t.lookup k = some v ∧ ∀ k', t.lookup k' = some v → k ≤ k' := by
  have hmem : ∀ k', k' ∈ (t.entries.filter fun e => e.2 = v).map Sigma.fst ↔
      t.lookup k' = some v := by
    intro k'
    rw [AList.lookup, ← Option.mem_def, List.mem_dlookup_iff t.nodupKeys]
    simp
  rw [firstKey, List.min?_eq_some_iff, hmem]
  exact and_congr_right fun _ => forall_congr' fun k' => by rw [hmem]

/-- The keys, in their order. -/
def sortedKeys (t : Table K V) : List K :=
  t.keys.insertionSort (· ≤ ·)

omit [DecidableEq V] in
theorem mem_sortedKeys : k ∈ t.sortedKeys ↔ ∃ v, t.lookup k = some v := by
  rw [sortedKeys, List.mem_insertionSort, ← AList.mem_keys, ← AList.lookup_isSome,
    Option.isSome_iff_exists]

omit [DecidableEq V] in
/-- The keys that are taken out are those of a kind. -/
theorem lookup_removeAll_filter (t : Table K V) (p : K → Bool) (k : K) :
    (t.removeAll (t.sortedKeys.filter p)).lookup k = if p k = true then none else t.lookup k := by
  rw [lookup_removeAll]
  cases hk : t.lookup k with
  | none => simp
  | some v =>
    have hmem : k ∈ t.sortedKeys := mem_sortedKeys.2 ⟨v, hk⟩
    simp [hmem]

end FirstKey

/-! ## Sums over the entries -/

/-- The sum of the weight `f` over the entries. -/
def sum [AddCommMonoid M] (f : K → V → M) (t : Table K V) : M :=
  (t.entries.map fun e => f e.1 e.2).sum

/-- The number of entries that satisfy `p`. -/
def count (p : K → V → Bool) (t : Table K V) : ℕ :=
  t.entries.countP fun e => p e.1 e.2

omit [DecidableEq K] in
theorem count_eq_sum (p : K → V → Bool) (t : Table K V) :
    (t.count p : ℤ) = t.sum fun k v => if p k v then 1 else 0 := by
  unfold count sum
  induction t.entries with
  | nil => rfl
  | cons e l ih =>
    rw [List.countP_cons, List.map_cons, List.sum_cons, ← ih, Nat.cast_add, add_comm]
    by_cases h : p e.1 e.2 = true <;> simp [h]

section Group

variable [AddCommGroup M] [Inhabited V] {f : K → V → M}

omit [Inhabited V] in
theorem sum_kerase (f : K → V → M) (k : K) :
    ∀ {l : List (Σ _ : K, V)} {v : V}, List.dlookup k l = some v →
      (l.map fun e => f e.1 e.2).sum = f k v + ((List.kerase k l).map fun e => f e.1 e.2).sum
  | [], _, h => by simp at h
  | e :: l, v, h => by
    by_cases he : k = e.1
    · obtain ⟨k', v'⟩ := e
      obtain rfl : k = k' := he
      rw [List.dlookup_cons_eq] at h
      obtain rfl := Option.some.inj h
      have hk : List.kerase k ((⟨k, v'⟩ : Σ _ : K, V) :: l) = l := List.kerase_cons_eq rfl
      rw [hk, List.map_cons, List.sum_cons]
    · rw [List.dlookup_cons_ne _ _ he] at h
      rw [List.kerase_cons_ne he, List.map_cons, List.map_cons, List.sum_cons, List.sum_cons,
        sum_kerase f k h]
      abel

/-- Erasing a key takes its weight away. -/
theorem sum_remove (hf : ∀ k, f k default = 0) (t : Table K V) (k : K) :
    (t.remove k).sum f = t.sum f - f k (t.get k) := by
  cases h : t.lookup k with
  | some v =>
    have hs : t.sum f = f k v + (t.remove k).sum f := sum_kerase f k h
    rw [get_of_lookup h, hs]
    abel
  | none =>
    have hk : k ∉ t.entries.keys := List.dlookup_eq_none.1 h
    have hs : (t.remove k).sum f = t.sum f := by
      have he : (t.remove k).entries = t.entries := List.kerase_of_notMem_keys hk
      rw [sum, sum, he]
    rw [get_of_lookup_none h, hs, hf]
    abel

/-- Writing a key changes the sum by the difference of the two weights. -/
theorem sum_set (hf : ∀ k, f k default = 0) (t : Table K V) (k : K) (v : V) :
    (t.set k v).sum f = t.sum f - f k (t.get k) + f k v := by
  have hs : (t.set k v).sum f = f k v + (t.remove k).sum f := rfl
  rw [hs, sum_remove hf]
  abel

omit [DecidableEq K] [Inhabited V] in
theorem sum_mapVals (g : K → V → V) (t : Table K V) :
    (mapVals g t).sum f = t.sum fun k v => f k (g k v) := by
  simp only [sum, mapVals, List.map_map]
  rfl

omit [DecidableEq K] [Inhabited V] in
theorem sum_eq_zero (t : Table K V) (hf : ∀ k v, f k v = 0) : t.sum f = 0 := by
  simp [sum, hf]

/-- A sum reads its weight on the entries only. -/
theorem sum_congr {g : K → V → M} (t : Table K V) (h : ∀ k, f k (t.get k) = g k (t.get k)) :
    t.sum f = t.sum g := by
  unfold sum
  congr 1
  refine List.map_congr_left fun e he => ?_
  have := h e.1
  rwa [get_of_lookup (List.mem_dlookup t.nodupKeys he)] at this

/-- If only one key weighs anything, its weight is the sum. -/
theorem sum_eq_single (hd : ∀ k, f k default = 0) (t : Table K V) (k : K)
    (h : ∀ k', k' ≠ k → f k' (t.get k') = 0) : t.sum f = f k (t.get k) := by
  have hrest : (t.remove k).sum f = 0 := by
    rw [sum_congr (g := fun _ _ => 0) (t.remove k), sum_eq_zero _ fun _ _ => rfl]
    intro k'
    rw [get_remove]
    split_ifs with hk
    · exact hd k'
    · exact h k' hk
  rw [sum_remove hd] at hrest
  exact sub_eq_zero.1 hrest

end Group

section Order

variable [Inhabited V] {f : K → V → ℤ}

theorem sum_nonneg (t : Table K V) (hf : ∀ k, 0 ≤ f k (t.get k)) : 0 ≤ t.sum f := by
  refine List.sum_nonneg fun x hx => ?_
  obtain ⟨e, he, rfl⟩ := List.mem_map.mp hx
  have := hf e.1
  rwa [get_of_lookup (List.mem_dlookup t.nodupKeys he)] at this

/-- One weight is at most the sum of nonnegative weights. -/
theorem le_sum (t : Table K V) (hd : ∀ k, f k default = 0) (hf : ∀ k, 0 ≤ f k (t.get k))
    (k : K) : f k (t.get k) ≤ t.sum f := by
  have h : 0 ≤ (t.remove k).sum f := by
    refine sum_nonneg _ fun k' => ?_
    rw [get_remove]
    split_ifs
    · rw [hd]
    · exact hf k'
  rw [sum_remove hd] at h
  omega

/-- Two weights are at most the sum of nonnegative weights. -/
theorem add_le_sum (t : Table K V) (hd : ∀ k, f k default = 0) (hf : ∀ k, 0 ≤ f k (t.get k))
    {k k' : K} (hk : k' ≠ k) : f k (t.get k) + f k' (t.get k') ≤ t.sum f := by
  have hf' : ∀ j, 0 ≤ f j ((t.remove k).get j) := fun j => by
    rw [get_remove]
    split_ifs
    · rw [hd]
    · exact hf j
  have h := le_sum (t.remove k) hd hf' k'
  rw [get_remove_ne t hk, sum_remove hd] at h
  omega

/-- A sum of nonnegative weights is positive exactly if one of them is. -/
theorem sum_pos_iff (t : Table K V) (hd : ∀ k, f k default = 0) (hf : ∀ k, 0 ≤ f k (t.get k)) :
    0 < t.sum f ↔ ∃ k, 0 < f k (t.get k) := by
  constructor
  · intro h
    by_contra hn
    have h0 : ∀ k, f k (t.get k) = 0 := fun k =>
      le_antisymm (not_lt.1 fun hk => hn ⟨k, hk⟩) (hf k)
    have hs : t.sum f = t.sum fun _ _ => 0 := sum_congr t h0
    rw [hs, sum_eq_zero t fun _ _ => rfl] at h
    exact lt_irrefl 0 h
  · rintro ⟨k, hk⟩
    exact hk.trans_le (le_sum t hd hf k)

end Order

/-! ## Counts -/

section Count

variable [Inhabited V] {p : K → V → Bool}

/-- Writing a key changes the count by the difference of the two truth values. -/
theorem count_set (hp : ∀ k, p k default = false) (t : Table K V) (k : K) (v : V) :
    ((t.set k v).count p : ℤ) =
      t.count p - (if p k (t.get k) then 1 else 0) + if p k v then 1 else 0 := by
  rw [count_eq_sum, count_eq_sum, sum_set fun k' => by simp [hp k']]

/-- A count reads its predicate on the entries only. -/
theorem count_congr {q : K → V → Bool} (t : Table K V)
    (h : ∀ k, p k (t.get k) = q k (t.get k)) : t.count p = t.count q := by
  have := sum_congr (f := fun k v => if p k v then (1 : ℤ) else 0)
    (g := fun k v => if q k v then 1 else 0) t fun k => by simp only [h k]
  rw [← count_eq_sum, ← count_eq_sum] at this
  exact_mod_cast this

/-- Writing a key, when the predicate may change at that key too. -/
theorem count_set_of_agree {q : K → V → Bool} (hp : ∀ k, p k default = false)
    (hq : ∀ k, q k default = false) (t : Table K V) (k : K) (v : V)
    (h : ∀ k', k' ≠ k → q k' (t.get k') = p k' (t.get k')) :
    ((t.set k v).count q : ℤ) =
      t.count p - (if p k (t.get k) then 1 else 0) + if q k v then 1 else 0 := by
  have hr : (t.remove k).count q = (t.remove k).count p := by
    refine count_congr _ fun k' => ?_
    rw [get_remove]
    split_ifs with hk
    · rw [hp, hq]
    · exact h k' hk
  have hpr := sum_remove (f := fun k v => if p k v then (1 : ℤ) else 0)
    (fun k' => by simp [hp k']) t k
  have hqr := sum_remove (f := fun k v => if q k v then (1 : ℤ) else 0)
    (fun k' => by simp [hq k']) t k
  rw [← count_eq_sum, ← count_eq_sum] at hpr hqr
  rw [count_set hq]
  omega

/-- The keys that satisfy `p`. -/
def keysOf (p : K → V → Bool) (t : Table K V) : Finset K :=
  ((t.entries.filter fun e => p e.1 e.2).map Sigma.fst).toFinset

omit [Inhabited V] in
theorem card_keysOf (p : K → V → Bool) (t : Table K V) : (t.keysOf p).card = t.count p := by
  have hn : ((t.entries.filter fun e => p e.1 e.2).map Sigma.fst).Nodup :=
    List.Nodup.sublist (List.filter_sublist.map _) t.nodupKeys
  rw [keysOf, List.toFinset_card_of_nodup hn, List.length_map, count, List.countP_eq_length_filter]

theorem mem_keysOf (t : Table K V) (hp : ∀ k, p k default = false) {k : K} :
    k ∈ t.keysOf p ↔ p k (t.get k) = true := by
  rw [keysOf, List.mem_toFinset, List.mem_map]
  constructor
  · rintro ⟨e, he, rfl⟩
    obtain ⟨he, hpe⟩ := List.mem_filter.1 he
    rwa [get_of_lookup (List.mem_dlookup t.nodupKeys he)]
  · intro hk
    cases h : t.lookup k with
    | none => simp [get_of_lookup_none h, hp] at hk
    | some v =>
      rw [get_of_lookup h] at hk
      exact ⟨⟨k, v⟩, List.mem_filter.2 ⟨AList.mem_lookup_iff.1 h, hk⟩, rfl⟩

/-- If the keys that satisfy `p` in one table satisfy `q` in another, they are at most as
many. -/
theorem count_le_count {q : K → V → Bool} {t t' : Table K V} (hp : ∀ k, p k default = false)
    (hq : ∀ k, q k default = false)
    (h : ∀ k, p k (t.get k) = true → q k (t'.get k) = true) : t.count p ≤ t'.count q := by
  rw [← card_keysOf, ← card_keysOf]
  refine Finset.card_le_card fun k hk => ?_
  rw [mem_keysOf t hp] at hk
  exact (mem_keysOf t' hq).2 (h k hk)

theorem count_eq_zero_of_forall (t : Table K V) (h : ∀ k, p k (t.get k) = false) :
    t.count p = 0 := by
  rw [count_congr (q := fun _ _ => false) t h]
  simp [count]

/-- A key that satisfies `p` counts. -/
theorem one_le_count (t : Table K V) (hp : ∀ k, p k default = false) {k : K}
    (h : p k (t.get k) = true) : 1 ≤ t.count p := by
  have := le_sum (f := fun k v => if p k v then 1 else 0) t (fun k => by simp [hp k])
    (fun _ => by split_ifs <;> omega) k
  rw [← count_eq_sum, if_pos h] at this
  exact_mod_cast this

/-- Two keys that satisfy `p` count twice. -/
theorem two_le_count (t : Table K V) (hp : ∀ k, p k default = false) {k k' : K} (hk : k' ≠ k)
    (h : p k (t.get k) = true) (h' : p k' (t.get k') = true) : 2 ≤ t.count p := by
  have := add_le_sum (f := fun k v => if p k v then 1 else 0) t (fun k => by simp [hp k])
    (fun _ => by split_ifs <;> omega) hk
  rw [← count_eq_sum, if_pos h, if_pos h'] at this
  exact_mod_cast this

end Count

end Table
