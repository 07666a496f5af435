import Mathlib.Data.List.Basic
import Mathlib.Data.List.TakeWhile

/-!
# The first occurrence of a separator, and the last, and decimal texts

`Text.find sep s` is where the list `sep` first occurs in `s`, as `std::string::find` tells
it. `find_eq_some_iff` says so without the recursion, and `take_find_iff` what is cut off at it in
any text that has one. `Text.afterLast c s` is what is behind the last `c` of `s`.

`Text.decimal?` is the number of a decimal text. `Text.atoll` and `Text.fromChars` read it
(`atoll_of_decimal`, `fromChars_of_decimal`), and the text of a number is one (`decimal_intRepr`).
-/

namespace Text

variable {α : Type*} [DecidableEq α]

/-- Where `sep` first occurs. -/
def find (sep : List α) : List α → Option ℕ
  | [] => if sep = [] then some 0 else none
  | c :: s => if sep <+: c :: s then some 0 else (find sep s).map (· + 1)

variable {sep s a b d : List α} {n : ℕ}

/-- The separator occurs where it is found, and nowhere before. -/
theorem find_eq_some_iff :
    find sep s = some n ↔ n ≤ s.length ∧ sep <+: s.drop n ∧ ∀ m < n, ¬ sep <+: s.drop m := by
  induction s generalizing n with
  | nil =>
    unfold find
    split_ifs with h
    · subst h
      constructor
      · intro hn
        obtain rfl := Option.some.inj hn
        exact ⟨Nat.le_refl _, List.nil_prefix, fun m hm => absurd hm (Nat.not_lt_zero m)⟩
      · rintro ⟨hn, -, -⟩
        rw [Nat.le_zero.1 hn]
    · refine iff_of_false (by simp) ?_
      rintro ⟨-, hp, -⟩
      exact h (by simpa using hp)
  | cons c s ih =>
    unfold find
    split_ifs with h
    · constructor
      · intro hn
        obtain rfl := Option.some.inj hn
        exact ⟨Nat.zero_le _, h, fun m hm => absurd hm (Nat.not_lt_zero m)⟩
      · rintro ⟨-, -, hfirst⟩
        rcases Nat.eq_zero_or_pos n with rfl | hpos
        · rfl
        · exact absurd h (hfirst 0 hpos)
    · rw [Option.map_eq_some_iff]
      constructor
      · rintro ⟨m, hm, rfl⟩
        obtain ⟨hle, hp, hfirst⟩ := ih.1 hm
        refine ⟨Nat.succ_le_succ hle, hp, fun i hi => ?_⟩
        cases i with
        | zero => exact h
        | succ i => exact hfirst i (Nat.lt_of_succ_lt_succ hi)
      · rintro ⟨hle, hp, hfirst⟩
        cases n with
        | zero => exact absurd hp h
        | succ m =>
          refine ⟨m, ih.2 ⟨Nat.le_of_succ_le_succ hle, hp, fun i hi => ?_⟩, rfl⟩
          exact hfirst (i + 1) (Nat.succ_lt_succ hi)

/-- A list with the separator found in it falls into three parts. -/
theorem append_of_find (h : find sep s = some n) : ∃ rest, s = s.take n ++ sep ++ rest := by
  obtain ⟨-, ⟨rest, hrest⟩, -⟩ := find_eq_some_iff.1 h
  refine ⟨rest, ?_⟩
  rw [List.append_assoc, hrest, List.take_append_drop]

omit [DecidableEq α] in
/-- An occurrence of `sep` in `a ++ sep ++ b` that is not behind `a` does not reach `b`. -/
theorem prefix_drop_append_iff {m : ℕ} (hm : m ≤ a.length) (b : List α) :
    sep <+: (a ++ sep ++ b).drop m ↔ sep <+: (a ++ sep).drop m := by
  have hlen : sep.length ≤ ((a ++ sep).drop m).length := by
    rw [List.length_drop, List.length_append]
    omega
  rw [List.drop_append_of_le_length (by rw [List.length_append] ; omega), List.prefix_iff_eq_take,
    List.prefix_iff_eq_take, List.take_append_of_le_length hlen]

/-- Where the separator is found does not depend on what is behind one. -/
theorem exists_find_append (sep : List α) :
    ∀ a : List α, ∃ n ≤ a.length, ∀ b, find sep (a ++ sep ++ b) = some n
  | [] => ⟨0, Nat.zero_le _, fun b => find_eq_some_iff.2
      ⟨Nat.zero_le _, List.prefix_append sep b, fun _ hm => absurd hm (Nat.not_lt_zero _)⟩⟩
  | c :: a => by
    by_cases hfirst : sep <+: c :: a ++ sep
    · refine ⟨0, Nat.zero_le _, fun b => find_eq_some_iff.2
        ⟨Nat.zero_le _, ?_, fun _ hm => absurd hm (Nat.not_lt_zero _)⟩⟩
      exact hfirst.trans (List.prefix_append _ b)
    · obtain ⟨n, hn, hfind⟩ := exists_find_append sep a
      refine ⟨n + 1, Nat.succ_le_succ hn, fun b => ?_⟩
      have hnot : ¬sep <+: c :: (a ++ sep ++ b) :=
        fun h => hfirst ((prefix_drop_append_iff (Nat.zero_le _) b).1 h)
      show find sep (c :: (a ++ sep ++ b)) = _
      rw [find, if_neg hnot, hfind b]
      rfl

theorem find_append_right (a b : List α) : find sep (a ++ sep ++ b) = find sep (a ++ sep) := by
  obtain ⟨n, -, hfind⟩ := exists_find_append sep a
  have hself := hfind []
  rw [List.append_nil] at hself
  rw [hfind b, hself]

/-- What is cut off at the first separator : it has none in it, and the separator follows. -/
theorem take_find_iff :
    (∃ n, find sep (a ++ sep ++ b) = some n ∧ (a ++ sep ++ b).take n = d) ↔
      find sep (d ++ sep) = some d.length ∧ d ++ sep <+: a ++ sep := by
  constructor
  · rintro ⟨n, hn, rfl⟩
    rw [find_append_right] at hn
    obtain ⟨hle, ⟨rest, hrest⟩, -⟩ := find_eq_some_iff.1 hn
    rw [List.take_append_of_le_length hle]
    have hsplit : (a ++ sep).take n ++ sep ++ rest = a ++ sep := by
      rw [List.append_assoc, hrest, List.take_append_drop]
    refine ⟨?_, rest, hsplit⟩
    rw [← find_append_right _ rest, hsplit, hn, List.length_take_of_le hle]
  · rintro ⟨hd, rest, hrest⟩
    refine ⟨d.length, ?_, ?_⟩
    · rw [find_append_right, ← hrest, find_append_right, hd]
    · rw [← hrest, List.append_assoc, List.append_assoc, List.take_left]

/-- A separator that follows is the first one exactly if none begins before it. -/
theorem find_append_self_iff (hsep : sep ≠ []) :
    find sep (d ++ sep) = some d.length ↔ ¬sep <:+: d ++ sep.dropLast := by
  have hlast : (d ++ sep).dropLast = d ++ sep.dropLast := List.dropLast_append_of_ne_nil hsep
  have hpos : 0 < sep.length := List.length_pos_iff.2 hsep
  rw [find_eq_some_iff, ← hlast]
  constructor
  · rintro ⟨-, -, hbefore⟩ ⟨front, back, hinfix⟩
    have hlength := congrArg List.length hinfix
    simp only [List.length_append, List.length_dropLast] at hlength
    refine hbefore front.length (by omega) ?_
    obtain ⟨rest, hrest⟩ := List.dropLast_prefix (d ++ sep)
    rw [← hrest, ← hinfix, List.append_assoc, List.append_assoc, List.drop_left]
    exact List.prefix_append _ _
  · intro hinfix
    refine ⟨by simp, by simp, fun m hm hat => hinfix ?_⟩
    obtain ⟨rest, hrest⟩ := hat
    have hsplit : d ++ sep = (d ++ sep).take m ++ sep ++ rest := by
      rw [List.append_assoc, hrest, List.take_append_drop]
    have hne : rest ≠ [] := by
      rintro rfl
      have hlength := congrArg List.length hrest
      simp only [List.append_nil, List.length_drop, List.length_append] at hlength
      omega
    refine ⟨(d ++ sep).take m, rest.dropLast, ?_⟩
    rw [← List.dropLast_append_of_ne_nil hne, ← hsplit]

/-- What is behind the last `c`. -/
def afterLast (c : α) : List α → Option (List α)
  | [] => none
  | x :: s => (afterLast c s).or (if x = c then some s else none)

variable {c : α}

theorem afterLast_eq_none_iff : afterLast c s = none ↔ c ∉ s := by
  induction s with
  | nil => simp [afterLast]
  | cons x s ih =>
    rw [afterLast, Option.or_eq_none_iff, ih,
      List.mem_cons, not_or, and_comm]
    refine and_congr_left fun _ => ?_
    by_cases h : x = c
    · simp [h]
    · simp [h, Ne.symm h]

/-- The last `c` is the one without a `c` behind it. -/
theorem afterLast_eq_some_iff : afterLast c s = some b ↔ (∃ a, s = a ++ c :: b) ∧ c ∉ b := by
  induction s with
  | nil => simp [afterLast]
  | cons x s ih =>
    rw [afterLast]
    cases h : afterLast c s with
    | some b' =>
      rw [h] at ih
      rw [Option.some_or, ih]
      refine and_congr_left fun hb => ⟨?_, ?_⟩
      · rintro ⟨a, rfl⟩
        exact ⟨x :: a, rfl⟩
      · rintro ⟨_ | ⟨y, a⟩, ha⟩
        · -- A `c` in front of `b` would not be the last one.
          obtain ⟨rfl, rfl⟩ := List.cons.inj ha
          rw [afterLast_eq_none_iff.2 hb] at h
          cases h
        · exact ⟨a, (List.cons.inj ha).2⟩
    | none =>
      have hs : c ∉ s := afterLast_eq_none_iff.1 h
      rw [Option.none_or]
      constructor
      · intro hif
        split_ifs at hif with hx
        obtain rfl := Option.some.inj hif
        exact ⟨⟨[], by rw [hx, List.nil_append]⟩, hs⟩
      · rintro ⟨⟨_ | ⟨y, a⟩, ha⟩, -⟩
        · obtain ⟨rfl, rfl⟩ := List.cons.inj ha
          rw [if_pos rfl]
        · refine absurd ?_ hs
          rw [(List.cons.inj ha).2]
          simp

/-! ## Decimal texts -/

/-- `isspace`. -/
def isSpace (c : Char) : Bool :=
  c = ' ' ∨ '\t' ≤ c ∧ c ≤ '\r'

/-- The number that a text begins with. -/
def leadingNat (cs : List Char) : ℕ :=
  Nat.ofDigitChars 10 (cs.takeWhile Char.isDigit) 0

/-- `atoll` : blanks, perhaps a sign, and digits. What is behind them is left out. -/
def atoll (s : String) : Int64 :=
  match s.toList.dropWhile isSpace with
  | '-' :: cs => Int64.ofInt (-leadingNat cs)
  | '+' :: cs => Int64.ofInt (leadingNat cs)
  | cs => Int64.ofInt (leadingNat cs)

/-- `atoi` : as `atoll`, cut to 32 bits. -/
def atoi (s : String) : Int32 := (atoll s).toInt32

/-- The number that digits spell, if there are any and nothing else. -/
def digits? (cs : List Char) : Option ℕ :=
  if cs ≠ [] ∧ cs.all Char.isDigit then some (leadingNat cs) else none

/-- The number of a decimal text : perhaps a minus sign, and digits. -/
def decimal? (s : String) : Option ℤ :=
  match s.toList with
  | '-' :: cs => (digits? cs).map fun n : ℕ => -(n : ℤ)
  | cs => (digits? cs).map fun n : ℕ => (n : ℤ)

/-- `std::from_chars` for 64 bits : perhaps a minus sign, and digits. There is no result without a
digit, or if the number is out of range. -/
def fromChars (s : String) : Option Int64 :=
  let fit (cs : List Char) (n : ℤ) : Option Int64 :=
    if cs.takeWhile Char.isDigit ≠ [] ∧
        -9223372036854775808 ≤ n ∧ n < 9223372036854775808 then some (Int64.ofInt n)
    else none
  match s.toList with
  | '-' :: cs => fit cs (-leadingNat cs)
  | cs => fit cs (leadingNat cs)

section

variable {s : String} {c : Char} {cs : List Char} {n : ℕ} {z : ℤ}

theorem leadingNat_toDigits (n : ℕ) : leadingNat (Nat.toDigits 10 n) = n := by
  have hdigits : (Nat.toDigits 10 n).takeWhile Char.isDigit = Nat.toDigits 10 n :=
    List.takeWhile_eq_self_iff.2 fun c hc => Nat.isDigit_of_mem_toDigits (by decide) (by decide) hc
  rw [leadingNat, hdigits, Nat.ofDigitChars_ten_toDigits]

/-- A digit is no blank and no sign. -/
theorem isSpace_of_isDigit (hc : c.isDigit = true) : isSpace c = false ∧ c ≠ '-' ∧ c ≠ '+' := by
  refine ⟨?_, ?_, ?_⟩
  · rw [isSpace, decide_eq_false_iff_not]
    rintro (rfl | ⟨-, hle⟩)
    · exact absurd hc (by decide)
    · simp only [Char.isDigit, Bool.and_eq_true, decide_eq_true_eq] at hc
      exact absurd (UInt32.le_trans hc.1 hle) (by decide)
  · rintro rfl
    exact absurd hc (by decide)
  · rintro rfl
    exact absurd hc (by decide)

theorem atoll_of_digit (hs : s.toList = c :: cs) (hc : c.isDigit = true) :
    atoll s = Int64.ofInt (leadingNat (c :: cs)) := by
  obtain ⟨hspace, hminus, hplus⟩ := isSpace_of_isDigit hc
  rw [atoll, hs, List.dropWhile_cons_of_neg (by simp [hspace])]
  split
  · exact absurd (List.cons.inj ‹_›).1 hminus
  · exact absurd (List.cons.inj ‹_›).1 hplus
  · rfl

theorem atoll_of_minus (hs : s.toList = '-' :: cs) : atoll s = Int64.ofInt (-leadingNat cs) := by
  rw [atoll, hs, List.dropWhile_cons_of_neg (by decide)]
  rfl

theorem digits_eq_some_iff :
    digits? cs = some n ↔ cs ≠ [] ∧ cs.all Char.isDigit = true ∧ n = leadingNat cs := by
  unfold digits?
  split_ifs with h
  · exact ⟨fun hn => ⟨h.1, h.2, (Option.some.inj hn).symm⟩, fun hn => congrArg some hn.2.2.symm⟩
  · exact iff_of_false (fun hn => nomatch hn) fun hn => h ⟨hn.1, hn.2.1⟩

/-- A decimal text is digits, or a minus sign and digits. -/
theorem decimal_cases (h : decimal? s = some z) :
    (∃ c cs, s.toList = c :: cs ∧ (c :: cs).all Char.isDigit = true ∧ z = leadingNat (c :: cs)) ∨
      ∃ c cs, s.toList = '-' :: c :: cs ∧ (c :: cs).all Char.isDigit = true ∧
        z = -leadingNat (c :: cs) := by
  unfold decimal? at h
  split at h
  · next cs hs =>
    obtain ⟨n, hn, rfl⟩ := Option.map_eq_some_iff.1 h
    obtain ⟨hne, hall, rfl⟩ := digits_eq_some_iff.1 hn
    obtain ⟨c, cs, rfl⟩ := List.exists_cons_of_ne_nil hne
    exact .inr ⟨c, cs, hs, hall, rfl⟩
  · obtain ⟨n, hn, rfl⟩ := Option.map_eq_some_iff.1 h
    obtain ⟨hne, hall, rfl⟩ := digits_eq_some_iff.1 hn
    obtain ⟨c, cs, hs⟩ := List.exists_cons_of_ne_nil hne
    exact .inl ⟨c, cs, hs, hs ▸ hall, hs ▸ rfl⟩

theorem isDigit_head (hall : (c :: cs).all Char.isDigit = true) : c.isDigit = true :=
  List.all_eq_true.1 hall c List.mem_cons_self

/-- A decimal text is read as its number. -/
theorem atoll_of_decimal (h : decimal? s = some z) : atoll s = Int64.ofInt z := by
  rcases decimal_cases h with ⟨c, cs, hs, hall, rfl⟩ | ⟨c, cs, hs, -, rfl⟩
  · exact atoll_of_digit hs (isDigit_head hall)
  · exact atoll_of_minus hs

theorem fromChars_of_decimal (h : decimal? s = some z) (hmin : -9223372036854775808 ≤ z)
    (hmax : z < 9223372036854775808) :
    fromChars s = some (Int64.ofInt z) := by
  have htake : ∀ {c cs}, (c :: cs).all Char.isDigit = true →
      (c :: cs).takeWhile Char.isDigit ≠ [] := by
    intro c cs hall
    rw [List.takeWhile_cons_of_pos (isDigit_head hall)]
    exact List.cons_ne_nil _ _
  rcases decimal_cases h with ⟨c, cs, hs, hall, rfl⟩ | ⟨c, cs, hs, hall, rfl⟩
  · rw [fromChars, hs]
    dsimp only
    split
    · exact absurd (List.cons.inj ‹_›).1 (isSpace_of_isDigit (isDigit_head hall)).2.1
    · rw [if_pos ⟨htake hall, hmin, hmax⟩]
  · rw [fromChars, hs]
    exact if_pos ⟨htake hall, hmin, hmax⟩

/-- The text of a number is decimal. -/
theorem decimal_natRepr (n : ℕ) : decimal? n.repr = some (n : ℤ) := by
  have hdigits : digits? (Nat.toDigits 10 n) = some n := by
    refine digits_eq_some_iff.2 ⟨Nat.toDigits_ne_nil, ?_, (leadingNat_toDigits n).symm⟩
    exact List.all_eq_true.2 fun c hc => Nat.isDigit_of_mem_toDigits (by decide) (by decide) hc
  rw [decimal?, Nat.toList_repr]
  split
  · next cs hcs =>
    have hminus : '-'.isDigit = true :=
      Nat.isDigit_of_mem_toDigits (by decide) (by decide) (hcs ▸ List.mem_cons_self)
    exact absurd hminus (by decide)
  · rw [hdigits]
    rfl

theorem decimal_intRepr (z : ℤ) : decimal? z.repr = some z := by
  rw [Int.repr_eq_if]
  split_ifs with h
  · rw [decimal_natRepr, Int.toNat_of_nonneg h]
  · have hlist : ("-" ++ (-z).toNat.repr).toList = '-' :: Nat.toDigits 10 (-z).toNat := by
      rw [String.toList_append, Nat.toList_repr]
      rfl
    have hdigits : digits? (Nat.toDigits 10 (-z).toNat) = some (-z).toNat := by
      refine digits_eq_some_iff.2 ⟨Nat.toDigits_ne_nil, ?_, (leadingNat_toDigits _).symm⟩
      exact List.all_eq_true.2 fun c hc => Nat.isDigit_of_mem_toDigits (by decide) (by decide) hc
    rw [decimal?, hlist]
    simp only [hdigits, Option.map_some, Option.some.injEq]
    omega

end

/-- A number is read as it was written. -/
theorem atoll_repr (n : Int64) : atoll n.toInt.repr = n := by
  rw [atoll_of_decimal (decimal_intRepr _), Int64.ofInt_toInt]

theorem repr_ne_empty (n : Int64) : n.toInt.repr ≠ "" := by
  rw [Int.repr_eq_if]
  split_ifs
  · exact Nat.repr_ne_empty
  · simp [← String.toList_inj]

theorem utf8ByteSize_le (s : String) : s.utf8ByteSize ≤ 4 * s.length := by
  obtain ⟨cs, rfl⟩ : ∃ cs, s = String.ofList cs := ⟨s.toList, (String.ofList_toList).symm⟩
  induction cs with
  | nil => simp
  | cons c cs ih =>
    have hone : (String.ofList [c]).utf8ByteSize = c.utf8Size := by
      rw [← String.singleton_eq_ofList, String.utf8ByteSize_singleton]
    have hc := c.utf8Size_le_four
    rw [← List.singleton_append, String.ofList_append, String.utf8ByteSize_append, hone,
      String.length_append, String.length_ofList, List.length_singleton]
    omega

/-- A number of 64 bits has at most 19 digits. -/
theorem utf8ByteSize_repr_le (n : Int64) : n.toInt.repr.utf8ByteSize ≤ 80 := by
  have hle := n.le_toInt
  have hlt := n.toInt_lt
  refine (utf8ByteSize_le _).trans (Nat.mul_le_mul_left 4 (?_ : _ ≤ 20))
  rw [Int.repr_eq_if]
  split_ifs
  · exact (Nat.length_repr_le_iff (by decide)).2 (by omega)
  · have hdigits : (-n.toInt).toNat.repr.length ≤ 19 :=
      (Nat.length_repr_le_iff (by decide)).2 (by omega)
    rw [String.length_append]
    exact Nat.add_le_add (Nat.le_refl 1) hdigits

end Text
