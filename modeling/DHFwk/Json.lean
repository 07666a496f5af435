import Mathlib.Data.List.Basic
import Mathlib.Data.List.Pairwise
import Mathlib.Data.List.TakeWhile
import Mathlib.Algebra.Order.Ring.Int
import Mathlib.Data.Rat.Cast.Order

/-!
# Documents, and records read from them

A `Json` is a document as cJSON holds it once it is parsed : strings are C strings, and of a
number only the integral part is kept, which `valueint` cuts to 32 bits. Members are found by
their name, without regard to case or with it.

A record is written as an object, one member for each `Member`. `readFields` reads the fields
back one after another and stops, without telling, at the first one that a check turns down;
`readEach` goes on behind it. A record comes back exactly if every field is read as it was
written, or was the default anyway, and only default fields follow one that is turned down
(`readFields_iff`, `readEach_iff`).
-/

/-- A parsed document. -/
inductive Json
  | null
  | bool (b : Bool)
  | number (n : ℤ)
  | string (s : String)
  | array (items : List Json)
  | object (members : List (String × Json))
  deriving Inhabited

namespace Json

abbrev INT32_MAX : ℤ := 2147483647
abbrev INT32_MIN : ℤ := -2147483648

/-- `c_str` : the characters before the first NUL. -/
def cStr (s : String) : String :=
  String.ofList (s.toList.takeWhile (· ≠ '\x00'))

theorem cStr_eq_self_iff {s : String} : cStr s = s ↔ '\x00' ∉ s.toList := by
  rw [cStr, ← String.toList_inj, String.toList_ofList, List.takeWhile_eq_self_iff]
  constructor
  · intro h hmem
    simpa using h _ hmem
  · intro h c hc
    have hne : c ≠ '\x00' := fun hzero => h (hzero ▸ hc)
    simpa using hne

/-- Names that differ in case only are the same. -/
def sameName (a b : String) : Bool :=
  a.toList.map Char.toLower == b.toList.map Char.toLower

@[simp] theorem sameName_self (a : String) : sameName a a = true :=
  beq_self_eq_true _

/-- `cJSON_GetObjectItem`. -/
def getObjectItem : Json → String → Option Json
  | .object members, name => (members.find? fun m => sameName name m.1).map Prod.snd
  | _, _ => none

/-- `cJSON_GetObjectItemCaseSensitive`. -/
def getObjectItemCaseSensitive : Json → String → Option Json
  | .object members, name => (members.find? fun m => name = m.1).map Prod.snd
  | _, _ => none

/-- `valuestring`. -/
def valuestring : Json → String
  | .string s => s
  | _ => ""

/-- `valueint`, cut to 32 bits. -/
def valueint : Json → ℤ
  | .number n => max INT32_MIN (min n INT32_MAX)
  | .bool b => if b then 1 else 0
  | _ => 0

theorem valueint_nonneg {n : ℤ} (h : 0 ≤ n) : 0 ≤ (number n).valueint := by
  simp only [valueint, INT32_MIN, INT32_MAX]
  omega

theorem valueint_le (n : ℤ) : (number n).valueint ≤ INT32_MAX := by
  simp only [valueint, INT32_MIN, INT32_MAX]
  omega

theorem valueint_of_le {n : ℤ} (h : 0 ≤ n) (hmax : n ≤ INT32_MAX) : (number n).valueint = n := by
  simp only [valueint, INT32_MIN, INT32_MAX] at *
  omega

/-- How documents are printed and parsed. -/
structure Codec where
  printUnformatted : Json → String
  parse : String → Option Json

/-- A document is parsed as it was printed. -/
def Codec.Faithful (cJSON : Codec) (j : Json) : Prop :=
  cJSON.parse (cJSON.printUnformatted j) = some j

theorem Codec.Faithful.eq_of_print {cJSON : Codec} {j j' : Json} (h : cJSON.Faithful j)
    (h' : cJSON.Faithful j') (heq : cJSON.printUnformatted j = cJSON.printUnformatted j') :
    j = j' :=
  Option.some_inj.1 (h.symm.trans ((congrArg cJSON.parse heq).trans h'))

mutual

/-- The bytes that a document takes at most when it is printed : no character of a string takes
more than six, and no number more than 26. -/
def printBound : Json → ℕ
  | .null => 4
  | .bool _ => 5
  | .number _ => 26
  | .string s => 6 * s.utf8ByteSize + 2
  | .array items => 2 + itemsBound items
  | .object members => 2 + membersBound members

def itemsBound : List Json → ℕ
  | [] => 0
  | item :: items => item.printBound + 1 + itemsBound items

def membersBound : List (String × Json) → ℕ
  | [] => 0
  | (name, item) :: members =>
    6 * name.utf8ByteSize + 4 + item.printBound + membersBound members

end

/-- A document does not take more bytes than it may. -/
def Codec.Compact (cJSON : Codec) (j : Json) : Prop :=
  (cJSON.printUnformatted j).utf8ByteSize ≤ j.printBound

/-! ## Fields -/

/-- A field of a record : its name, and how it is written and read. Reading it may fail. -/
structure Member (R : Type*) where
  {V : Type}
  name : String
  get : R → V
  set : V → R → R
  write : V → Json
  read : Json → Option V

variable {R : Type*}

namespace Member

/-- The field is read as it was written. -/
def Carries (f : Member R) (r : R) : Prop :=
  f.read (f.write (f.get r)) = some (f.get r)

/-- What was written is turned down. -/
def Stops (f : Member R) (r : R) : Prop :=
  f.read (f.write (f.get r)) = none

/-- The field is an empty text. -/
def IsEmpty (f : Member R) (r : R) : Prop :=
  f.write (f.get r) = .string ""

/-- `d` comes back in the field or is turned down, and of the values that come back or are
those of `d` the empty texts are turned down. -/
structure Regular (f : Member R) (d : R) : Prop where
  default : f.Carries d ∨ f.Stops d
  stops_iff : ∀ r, f.Carries r ∨ f.get r = f.get d → (f.Stops r ↔ f.IsEmpty r)

theorem Carries.not_stops {f : Member R} {r : R} (h : f.Carries r) : ¬ f.Stops r := by
  unfold Carries Stops at *
  simp [h]

end Member

/-- The members that the fields of a record are written as. -/
def writeFields (fs : List (Member R)) (r : R) : List (String × Json) :=
  fs.map fun f => (f.name, f.write (f.get r))

/-- Read the fields up to the first one that is turned down, and tell whether all were read. -/
def readFields : List (Member R) → Json → R → R × Bool
  | [], _, r => (r, true)
  | f :: fs, j, r =>
    match (j.getObjectItem f.name).bind f.read with
    | none => (r, false)
    | some v => readFields fs j (f.set v r)

/-- Read every field that is not turned down. -/
def readEach : List (Member R) → Json → R → R
  | [], _, r => r
  | f :: fs, j, r =>
    match (j.getObjectItem f.name).bind f.read with
    | none => readEach fs j r
    | some v => readEach fs j (f.set v r)

/-- Read the fields up to the first one that is turned down, where members are found by `find`. -/
def readFieldsBy (find : Json → String → Option Json) : List (Member R) → Json → R → R × Bool
  | [], _, r => (r, true)
  | f :: fs, j, r =>
    match (find j f.name).bind f.read with
    | none => (r, false)
    | some v => readFieldsBy find fs j (f.set v r)

/-- Fields of different names, none of which touches another. -/
structure Independent (fs : List (Member R)) : Prop where
  names : fs.Pairwise fun f g => sameName g.name f.name = false
  get_set_self : ∀ f ∈ fs, ∀ v r, f.get (f.set v r) = v
  get_set : fs.Pairwise fun f g => ∀ v r, g.get (f.set v r) = g.get r
  get_set' : fs.Pairwise fun f g => ∀ v r, f.get (g.set v r) = f.get r

/-- Every field of the record is a member of the document. -/
def Holds (j : Json) (fs : List (Member R)) (r : R) : Prop :=
  ∀ f ∈ fs, j.getObjectItem f.name = some (f.write (f.get r))

variable {fs : List (Member R)} {f : Member R} {j : Json} {r d : R}

theorem Independent.tail (h : Independent (f :: fs)) : Independent fs where
  names := h.names.of_cons
  get_set_self g hg := h.get_set_self g (List.mem_cons_of_mem _ hg)
  get_set := h.get_set.of_cons
  get_set' := h.get_set'.of_cons

theorem Independent.get_set_head (h : Independent (f :: fs)) {g : Member R} (hg : g ∈ fs)
    (v : f.V) (r : R) : g.get (f.set v r) = g.get r :=
  List.rel_of_pairwise_cons h.get_set hg v r

theorem Holds.tail (h : j.Holds (f :: fs) r) : j.Holds fs r :=
  fun g hg => h g (List.mem_cons_of_mem _ hg)

theorem Holds.head (h : j.Holds (f :: fs) r) :
    (j.getObjectItem f.name).bind f.read = f.read (f.write (f.get r)) := by
  rw [h f List.mem_cons_self]
  rfl

theorem readFields_append (fs gs : List (Member R)) (j : Json) (r : R) :
    readFields (fs ++ gs) j r =
      match readFields fs j r with
      | (r', true) => readFields gs j r'
      | (r', false) => (r', false) := by
  induction fs generalizing r with
  | nil => rfl
  | cons f fs ih =>
    simp only [List.cons_append, readFields]
    cases (j.getObjectItem f.name).bind f.read with
    | none => rfl
    | some v => exact ih _

/-- Members behind those of the fields do not hide them. -/
theorem holds_writeFields (h : Independent fs) (r : R) (members : List (String × Json)) :
    (Json.object (writeFields fs r ++ members)).Holds fs r := by
  induction fs with
  | nil => exact fun f hf => by cases hf
  | cons f fs ih =>
    intro g hg
    obtain rfl | hg := List.mem_cons.1 hg
    · simp [getObjectItem, writeFields]
    · have hname : sameName g.name f.name = false := List.rel_of_pairwise_cons h.names hg
      rw [← ih h.tail g hg]
      simp [getObjectItem, writeFields, hname]

/-- A member of another name is found behind those of the fields. -/
theorem getObjectItem_append {name : String} (h : ∀ f ∈ fs, sameName name f.name = false) (r : R)
    (members : List (String × Json)) :
    (Json.object (writeFields fs r ++ members)).getObjectItem name =
      (Json.object members).getObjectItem name := by
  have hnone : (writeFields fs r).find? (fun m => sameName name m.1) = none := by
    rw [List.find?_eq_none]
    intro m hm
    obtain ⟨f, hf, rfl⟩ := List.mem_map.1 hm
    simpa using h f hf
  rw [getObjectItem, getObjectItem, List.find?_append, hnone, Option.none_or]

/-- A field that no other sets keeps its value. -/
theorem get_readFields {W : Type*} (get : R → W) (h : ∀ f ∈ fs, ∀ v r, get (f.set v r) = get r)
    (d : R) : get (readFields fs j d).1 = get d := by
  induction fs generalizing d with
  | nil => rfl
  | cons f fs ih =>
    rw [readFields]
    split
    · rfl
    · rw [ih fun g hg => h g (List.mem_cons_of_mem _ hg)]
      exact h f List.mem_cons_self _ _

theorem get_readEach {W : Type*} (get : R → W) (h : ∀ f ∈ fs, ∀ v r, get (f.set v r) = get r)
    (d : R) : get (readEach fs j d) = get d := by
  induction fs generalizing d with
  | nil => rfl
  | cons f fs ih =>
    have htail : ∀ r, get (readEach fs j r) = get r := ih fun g hg => h g (List.mem_cons_of_mem _ hg)
    rw [readEach]
    split
    · exact htail d
    · rw [htail, h f List.mem_cons_self]

/-- All fields are read exactly if none is turned down. -/
theorem readFields_snd_iff (hj : j.Holds fs r) :
    (readFields fs j d).2 = true ↔ ∀ f ∈ fs, ¬ f.Stops r := by
  induction fs generalizing d with
  | nil => simp [readFields]
  | cons f fs ih =>
    rw [readFields, hj.head, List.forall_mem_cons, Member.Stops]
    cases hread : f.read (f.write (f.get r)) with
    | none => simp
    | some v => simpa using ih hj.tail

/-- The record is read back exactly if every field is read as it was written, or has the
value it would be left with, and the fields behind one that is turned down have theirs. The
values that fields are left with are not altered when they are written and read. -/
theorem readFields_iff (h : Independent fs) (hj : j.Holds fs r)
    (hdefault : ∀ f ∈ fs, f.Carries d ∨ f.Stops d) :
    (∀ f ∈ fs, f.get (readFields fs j d).1 = f.get r) ↔
      (∀ f ∈ fs, f.Carries r ∨ f.get r = f.get d) ∧
        fs.Pairwise fun f g => f.Stops r → g.get r = g.get d := by
  induction fs generalizing d with
  | nil => simp
  | cons f fs ih =>
    rw [readFields, hj.head]
    cases hread : f.read (f.write (f.get r)) with
    | none =>
      -- Nothing is read from here on.
      have hstop : f.Stops r := hread
      constructor
      · intro hsame
        refine ⟨fun g hg => .inr (hsame g hg).symm, List.pairwise_cons.2 ⟨fun g hg _ => ?_, ?_⟩⟩
        · exact (hsame g (List.mem_cons_of_mem _ hg)).symm
        · refine List.pairwise_of_forall_mem_list fun _ _ g hg _ => ?_
          exact (hsame g (List.mem_cons_of_mem _ hg)).symm
      · rintro ⟨hvalue, hbehind⟩ g hg
        obtain rfl | hg := List.mem_cons.1 hg
        · exact ((hvalue g List.mem_cons_self).resolve_left fun hc => hc.not_stops hstop).symm
        · exact (List.rel_of_pairwise_cons hbehind hg hstop).symm
    | some v =>
      have hgo : ¬ f.Stops r := fun hstop => by simp [Member.Stops, hread] at hstop
      have hkeep : ∀ g ∈ fs, g.get (f.set v d) = g.get d := fun g hg => h.get_set_head hg v d
      have hhead : f.get (readFields fs j (f.set v d)).1 = v := by
        rw [get_readFields f.get fun g hg => List.rel_of_pairwise_cons h.get_set' hg,
          h.get_set_self f List.mem_cons_self]
      have hcarries : v = f.get r ↔ f.Carries r ∨ f.get r = f.get d := by
        rw [Member.Carries, hread, Option.some_inj]
        refine ⟨.inl, fun hor => hor.elim id fun hsame => ?_⟩
        have hsame' := hdefault f List.mem_cons_self
        rw [Member.Carries, Member.Stops, ← hsame, hread] at hsame'
        exact Option.some_inj.1 (hsame'.resolve_right (by simp))
      rw [List.forall_mem_cons, hhead, hcarries, ih h.tail hj.tail fun g hg => by
        rw [Member.Carries, Member.Stops, hkeep g hg]
        exact hdefault g (List.mem_cons_of_mem _ hg), List.forall_mem_cons, List.pairwise_cons]
      constructor
      · rintro ⟨hf, hall, hbehind⟩
        refine ⟨⟨hf, fun g hg => hkeep g hg ▸ hall g hg⟩, fun _ _ hstop => absurd hstop hgo, ?_⟩
        exact hbehind.imp_of_mem fun _ hg hrel hstop => hkeep _ hg ▸ hrel hstop
      · rintro ⟨⟨hf, hall⟩, -, hbehind⟩
        refine ⟨hf, fun g hg => (hkeep g hg).symm ▸ hall g hg, ?_⟩
        exact hbehind.imp_of_mem fun _ hg hrel hstop => (hkeep _ hg).symm ▸ hrel hstop

/-- The record is read back exactly if every field is read as it was written, or has the
value it would be left with, and the fields behind an empty text have theirs. -/
theorem readFields_regular_iff (h : Independent fs) (hj : j.Holds fs r)
    (hreg : ∀ f ∈ fs, f.Regular d) :
    (∀ f ∈ fs, f.get (readFields fs j d).1 = f.get r) ↔
      (∀ f ∈ fs, f.Carries r ∨ f.get r = f.get d) ∧
        fs.Pairwise fun f g => f.IsEmpty r → g.get r = g.get d := by
  rw [readFields_iff h hj fun f hf => (hreg f hf).default]
  refine and_congr_right fun hall => List.Pairwise.iff_of_mem fun {f g} hf _ => ?_
  rw [(hreg f hf).stops_iff r (hall f hf)]

/-- Where all fields are read, each has the value that it was read as. -/
theorem readFields_get (h : Independent fs) (hj : j.Holds fs r)
    (hread : (readFields fs j d).2 = true) (hf : f ∈ fs) :
    f.read (f.write (f.get r)) = some (f.get (readFields fs j d).1) := by
  induction fs generalizing d with
  | nil => cases hf
  | cons g fs ih =>
    rw [readFields, hj.head] at hread ⊢
    cases hg : g.read (g.write (g.get r)) with
    | none => simp [hg] at hread
    | some v =>
      simp only [hg] at hread
      obtain rfl | hf := List.mem_cons.1 hf
      · rw [hg, get_readFields f.get fun g hg => List.rel_of_pairwise_cons h.get_set' hg,
          h.get_set_self f List.mem_cons_self]
      · exact ih h.tail hj.tail hread hf

/-- Of any document, a field has what its member is read as, or what it had. -/
theorem get_readEach_of_mem (h : Independent fs) (hf : f ∈ fs) (j : Json) (d : R) :
    f.get (readEach fs j d) = ((j.getObjectItem f.name).bind f.read).getD (f.get d) := by
  induction fs generalizing d with
  | nil => cases hf
  | cons g fs ih =>
    rw [readEach]
    obtain rfl | hf := List.mem_cons.1 hf
    · have htail : ∀ r, f.get (readEach fs j r) = f.get r :=
        get_readEach f.get fun g hg => List.rel_of_pairwise_cons h.get_set' hg
      cases (j.getObjectItem f.name).bind f.read with
      | none => exact htail d
      | some v =>
        rw [htail, h.get_set_self f List.mem_cons_self]
        rfl
    · cases (j.getObjectItem g.name).bind g.read with
      | none => exact ih h.tail hf d
      | some v =>
        have htail := ih h.tail hf (g.set v d)
        rwa [h.get_set_head hf] at htail

theorem readEach_get (h : Independent fs) (hj : j.Holds fs r) (hf : f ∈ fs) {v : f.V}
    (hread : f.read (f.write (f.get r)) = some v) : f.get (readEach fs j d) = v := by
  rw [get_readEach_of_mem h hf, hj f hf, Option.bind_some, hread, Option.getD_some]

/-- Where no field that is turned down has what it should have without that, a record is read
back exactly if every field is. -/
theorem readFields_carries_iff (h : Independent fs) (hj : j.Holds fs r)
    (hdiffers : ∀ f ∈ fs, f.Stops r → f.get d ≠ f.get r) :
    (∀ f ∈ fs, f.get (readFields fs j d).1 = f.get r) ↔ ∀ f ∈ fs, f.Carries r := by
  induction fs generalizing d with
  | nil => simp
  | cons f fs ih =>
    rw [List.forall_mem_cons] at hdiffers
    rw [readFields, hj.head]
    cases hread : f.read (f.write (f.get r)) with
    | none =>
      refine iff_of_false (fun hall => ?_) fun hall => ?_
      · exact hdiffers.1 hread (hall f List.mem_cons_self)
      · exact (hall f List.mem_cons_self).not_stops hread
    | some v =>
      have hhead : f.get (readFields fs j (f.set v d)).1 = v := by
        rw [get_readFields f.get fun g hg => List.rel_of_pairwise_cons h.get_set' hg,
          h.get_set_self f List.mem_cons_self]
      have hcarries : f.Carries r ↔ v = f.get r := by
        rw [Member.Carries, hread, Option.some_inj]
      rw [List.forall_mem_cons, List.forall_mem_cons, hhead, hcarries, ih h.tail hj.tail]
      intro g hg hstops
      rw [h.get_set_head hg]
      exact hdiffers.2 g hg hstops

theorem readFieldsBy_getObjectItem (fs : List (Member R)) (j : Json) (d : R) :
    readFieldsBy getObjectItem fs j d = readFields fs j d := by
  induction fs generalizing d with
  | nil => rfl
  | cons f fs ih =>
    rw [readFieldsBy, readFields]
    cases (j.getObjectItem f.name).bind f.read with
    | none => rfl
    | some v => exact ih _

/-- Only what is found under the names of the fields matters. -/
theorem readFieldsBy_congr {find find' : Json → String → Option Json}
    (h : ∀ f ∈ fs, find j f.name = find' j f.name) (d : R) :
    readFieldsBy find fs j d = readFieldsBy find' fs j d := by
  induction fs generalizing d with
  | nil => rfl
  | cons f fs ih =>
    rw [List.forall_mem_cons] at h
    rw [readFieldsBy, readFieldsBy, h.1]
    cases (find' j f.name).bind f.read with
    | none => rfl
    | some v => exact ih h.2 _

/-- Names that differ in more than case are told apart by either search. -/
theorem getObjectItemCaseSensitive_writeFields (h : Independent fs) (r : R) (hf : f ∈ fs) :
    (Json.object (writeFields fs r)).getObjectItemCaseSensitive f.name =
      some (f.write (f.get r)) := by
  induction fs with
  | nil => cases hf
  | cons g fs ih =>
    obtain rfl | hf := List.mem_cons.1 hf
    · simp [getObjectItemCaseSensitive, writeFields]
    · have hname : f.name ≠ g.name := by
        intro heq
        have hdiffer := List.rel_of_pairwise_cons h.names hf
        rw [heq, sameName_self] at hdiffer
        cases hdiffer
      rw [← ih h.tail hf]
      simp [getObjectItemCaseSensitive, writeFields, hname]

/-- Where reading goes on, each field is on its own. -/
theorem readEach_iff (h : Independent fs) (hj : j.Holds fs r) :
    (∀ f ∈ fs, f.get (readEach fs j d) = f.get r) ↔
      ∀ f ∈ fs, f.Carries r ∨ f.Stops r ∧ f.get r = f.get d := by
  refine forall₂_congr fun f hf => ?_
  rw [get_readEach_of_mem h hf, hj f hf, Option.bind_some, Member.Carries, Member.Stops]
  cases f.read (f.write (f.get r)) with
  | none => simp [eq_comm]
  | some v => simp

end Json

/-! ## Numbers as they are sent -/

/-- A document with its numbers, each the double that it was parsed as. One that is too large
for a double is any number that is too large for an `int`. -/
inductive Document
  | null
  | bool (b : Bool)
  | number (q : ℚ)
  | string (s : String)
  | array (items : List Document)
  | object (members : List (String × Document))
  deriving Inhabited

/-- How documents are printed and parsed with their numbers. -/
structure DocumentCodec where
  printUnformatted : Document → String
  parse : String → Option Document

/-- A document is parsed as it was printed. -/
def DocumentCodec.Faithful (cJSON : DocumentCodec) (d : Document) : Prop :=
  cJSON.parse (cJSON.printUnformatted d) = some d

/-- The empty text is no document, and the braces are one without members. -/
structure DocumentCodec.Standard (cJSON : DocumentCodec) : Prop where
  empty : cJSON.parse "" = none
  braces : cJSON.parse "\x7b\x7d" = some (.object [])

namespace Document

open Json

/-- The integral part, which is what a cast to `int` keeps. -/
def truncate (q : ℚ) : ℤ :=
  q.num.tdiv q.den

@[simp] theorem truncate_intCast (n : ℤ) : truncate n = n := by
  simp [truncate]

/-- The `int` of a number. -/
def toInt (q : ℚ) : ℤ :=
  (Json.number (truncate q)).valueint

/-- A number that an `int` has. -/
def IsInt (q : ℚ) : Prop :=
  ∃ n : ℤ, q = n ∧ INT32_MIN ≤ n ∧ n ≤ INT32_MAX

mutual

/-- The document as it is held. -/
def toJson : Document → Json
  | .null => .null
  | .bool b => .bool b
  | .number q => .number (truncate q)
  | .string s => .string s
  | .array items => .array (itemsToJson items)
  | .object members => .object (membersToJson members)

def itemsToJson : List Document → List Json
  | [] => []
  | item :: items => item.toJson :: itemsToJson items

def membersToJson : List (String × Document) → List (String × Json)
  | [] => []
  | (name, item) :: members => (name, item.toJson) :: membersToJson members

end

/-- `cJSON_GetObjectItem`. -/
def getObjectItem : Document → String → Option Document
  | .object members, name => (members.find? fun m => sameName name m.1).map Prod.snd
  | _, _ => none

/-- The number of a name, if it is one. -/
def numberAt (d : Document) (name : String) : Option ℚ :=
  match d.getObjectItem name with
  | some (.number q) => some q
  | _ => none

/-- The text of a name, or the empty one. -/
def textAt (d : Document) (name : String) : String :=
  match d.getObjectItem name with
  | some (.string s) => s
  | _ => ""

/-- The flag of a name, if it is set. -/
def flagAt (d : Document) (name : String) : Bool :=
  match d.getObjectItem name with
  | some (.bool b) => b
  | _ => false

theorem membersToJson_eq_map (members : List (String × Document)) :
    membersToJson members = members.map fun m => (m.1, m.2.toJson) := by
  induction members with
  | nil => rfl
  | cons m members ih => rw [membersToJson, ih, List.map_cons]

/-- The member that is found is the same one. -/
theorem getObjectItem_toJson (d : Document) (name : String) :
    d.toJson.getObjectItem name = (d.getObjectItem name).map toJson := by
  cases d with
  | object members =>
    rw [toJson, Json.getObjectItem, membersToJson_eq_map, List.find?_map, getObjectItem,
      Option.map_map, Option.map_map]
    rfl
  | _ => rfl

theorem toInt_bounds (q : ℚ) : INT32_MIN ≤ toInt q ∧ toInt q ≤ INT32_MAX := by
  simp only [toInt, valueint, INT32_MIN, INT32_MAX]
  omega

theorem toInt_intCast {n : ℤ} (hmin : INT32_MIN ≤ n) (hmax : n ≤ INT32_MAX) :
    toInt n = n := by
  simp only [toInt, valueint, truncate_intCast, INT32_MIN, INT32_MAX] at *
  omega

/-- A number is kept exactly if an `int` has it. -/
theorem toInt_eq_iff {q : ℚ} : (toInt q : ℚ) = q ↔ IsInt q := by
  constructor
  · intro h
    exact ⟨toInt q, h.symm, toInt_bounds q⟩
  · rintro ⟨n, rfl, hmin, hmax⟩
    rw [toInt_intCast hmin hmax]

/-- A small `int` is the integral part. -/
theorem toInt_eq_neg_one_iff {q : ℚ} : toInt q = -1 ↔ truncate q = -1 := by
  simp only [toInt, valueint, INT32_MIN, INT32_MAX]
  omega

end Document
