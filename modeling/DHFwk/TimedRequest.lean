import Mathlib.Logic.Function.Basic
import Mathlib.Tactic.SplitIfs

/-!
# A request that is answered or times out

A request is an entry for whoever takes it away : a call with an answer, or the timer of the
request. A call first cancels the timer, by a flag, and takes the entry later; the timer reads the
flag when it has slept and, if it is not cancelled, takes the entry later. Whoever has taken the
entry decides the request after that. Calls may come at any time, any number of them.

`TimedRequest.Step` has a step for each of these sections, so its runs are all the orders they can
have. `Owned` follows who has the entry, and every step keeps it (`Owned.step`) : the request is
decided at most once, as the first one answers who reaches for the entry, and it has been decided
when the timer has ended and no call is under way (`Owned.decided_of_ended`).
-/

variable {C E V : Type*}

/-- A call with the answer `value`, after it has cancelled the timer : either it still has to take
the entry, or it has taken it. -/
structure AnswerCall (E V : Type*) where
  value : V
  taken : Option E := none

/-- How far the request and its timer are. -/
inductive RequestTimer (E : Type*)
  | idle
  /-- The entry is there. -/
  | asked
  /-- An older timer of the same request has been cancelled. -/
  | prepared
  | sleeping
  /-- The timer was not cancelled. -/
  | expired
  | taken (entry : E)
  | ended
  deriving DecidableEq, Inhabited

/-- A request. `asked` is what has been asked for, `first` who has reached for the entry first : a
call with its answer, or the timer. -/
structure TimedRequest (C E V : Type*) where
  entry : Option E := none
  flag : Option Bool := none
  timer : RequestTimer E := .idle
  calls : C → Option (AnswerCall E V) := fun _ => none
  asked : Option E := none
  first : Option (Option V) := none
  decisions : List (E × V) := []

namespace TimedRequest

/-- Who has reached for the entry first, after `who` has. -/
def reach (x : TimedRequest C E V) (who : Option V) : Option (Option V) :=
  if x.asked.isSome then x.first.or (some who) else x.first

/-- A section of the request, of a call or of the timer, whose answer is `late`. -/
inductive Step [DecidableEq C] (late : V) : TimedRequest C E V → TimedRequest C E V → Prop
  | ask {x} (e : E) : x.timer = .idle →
      Step late x { x with asked := some e, entry := some e, timer := .asked }
  | prepare {x} : x.timer = .asked →
      Step late x { x with flag := x.flag.map fun _ => true, timer := .prepared }
  | start {x} : x.timer = .prepared →
      Step late x { x with flag := some false, timer := .sleeping }
  | cancel {x} (c : C) (v : V) : x.calls c = none →
      Step late x { x with
        flag := x.flag.map fun _ => true, calls := Function.update x.calls c (some ⟨v, none⟩) }
  | take {x} (c : C) (v : V) : x.calls c = some ⟨v, none⟩ →
      Step late x { x with
        entry := none, first := x.reach (some v)
        calls := Function.update x.calls c (x.entry.map fun e => ⟨v, some e⟩) }
  | decide {x} (c : C) (v : V) (e : E) : x.calls c = some ⟨v, some e⟩ →
      Step late x { x with
        calls := Function.update x.calls c none, decisions := x.decisions ++ [(e, v)] }
  | fire {x} : x.timer = .sleeping →
      Step late x { x with
        flag := none, timer := if x.flag = some false then .expired else .ended }
  | expire {x} : x.timer = .expired →
      Step late x { x with
        entry := none, first := x.reach none, timer := (x.entry.map .taken).getD .ended }
  | decideLate {x} (e : E) : x.timer = .taken e →
      Step late x { x with timer := .ended, decisions := x.decisions ++ [(e, late)] }

/-- Who has the entry. -/
inductive Owner (C : Type*)
  | nobody
  | entry
  | call (c : C)
  | timer
  | decided

/-- Some call has cancelled the timer and not reached for the entry. -/
def Cancelled (x : TimedRequest C E V) : Prop := ∃ c v, x.calls c = some ⟨v, none⟩

/-- What is so while `o` has the entry. -/
structure Owned (late : V) (x : TimedRequest C E V) (o : Owner C) : Prop where
  idle_iff : x.timer = .idle ↔ o = .nobody
  asked_iff : x.asked = none ↔ o = .nobody
  entry : ∀ e, x.entry = some e → o = .entry ∧ x.asked = some e
  entry_some : o = .entry → x.entry ≠ none
  call : ∀ c v e, x.calls c = some ⟨v, some e⟩ →
    o = .call c ∧ x.asked = some e ∧ x.first = some (some v)
  call_some : ∀ c, o = .call c → ∃ v e, x.calls c = some ⟨v, some e⟩
  timer : ∀ e, x.timer = .taken e → o = .timer ∧ x.asked = some e ∧ x.first = some none
  timer_some : o = .timer → ∃ e, x.timer = .taken e
  undecided : o ≠ .decided → x.decisions = []
  decided : o = .decided →
    ∃ e who, x.asked = some e ∧ x.first = some who ∧ x.decisions = [(e, who.getD late)]
  first_iff : x.first = none ↔ o = .nobody ∨ o = .entry
  flag_iff : x.flag ≠ none ↔ x.timer = .sleeping
  cancelled : x.flag = some true → x.first ≠ none ∨ x.Cancelled
  ended : x.timer = .ended → x.first ≠ none ∨ x.Cancelled

variable {late : V}

theorem owned_init : Owned late ({} : TimedRequest C E V) .nobody where
  idle_iff := by simp
  asked_iff := by simp
  entry := by simp
  entry_some := by simp
  call := by simp
  call_some := by simp
  timer := by simp
  timer_some := by simp
  undecided := by simp
  decided := by simp
  first_iff := by simp
  flag_iff := by simp
  cancelled := by simp
  ended := by simp

/-! ## Who reaches for the entry -/

/-- Whoever reaches for the entry while it is there is the first. -/
theorem Owned.reach_of_entry {x : TimedRequest C E V} (h : Owned late x .entry) (who : Option V) :
    x.reach who = some who := by
  have hasked : x.asked ≠ none := fun ha => absurd (h.asked_iff.1 ha) (by simp)
  rw [reach, if_pos (Option.isSome_iff_ne_none.2 hasked), h.first_iff.2 (Or.inr rfl)]
  rfl

/-- Whoever reaches for it later is not. -/
theorem Owned.reach_of_ne {x : TimedRequest C E V} {o : Owner C} (h : Owned late x o)
    (ho : o ≠ .entry) (who : Option V) : x.reach who = x.first := by
  unfold reach
  split_ifs with hasked
  · have hfirst : x.first ≠ none := fun hf => by
      rcases h.first_iff.1 hf with hn | he
      · exact Option.isSome_iff_ne_none.1 hasked (h.asked_iff.2 hn)
      · exact ho he
    obtain ⟨who', hwho⟩ := Option.ne_none_iff_exists'.1 hfirst
    rw [hwho, Option.some_or]
  · rfl

theorem Owned.ne_entry {x : TimedRequest C E V} {o : Owner C} (h : Owned late x o)
    (hentry : x.entry = none) : o ≠ .entry :=
  fun ho => h.entry_some ho hentry

/-- Somebody has reached for the entry of a request once it is gone. -/
theorem Owned.first_ne_none {x : TimedRequest C E V} {o : Owner C} (h : Owned late x o)
    (hidle : x.timer ≠ .idle) (hentry : x.entry = none) : x.first ≠ none := fun hf => by
  rcases h.first_iff.1 hf with hn | he
  · exact hidle (h.idle_iff.2 hn)
  · exact h.ne_entry hentry he

/-! ## The sections -/

section Sections

variable {x : TimedRequest C E V} {o : Owner C} {c : C} {v : V} {e : E}

theorem Owned.of_ask (h : Owned late x o) (ht : x.timer = .idle) (e : E) :
    Owned late { x with asked := some e, entry := some e, timer := .asked } .entry := by
  obtain rfl := h.idle_iff.1 ht
  have hfirst := h.first_iff.2 (Or.inl rfl)
  exact { h with
    idle_iff := by simp
    asked_iff := by simp
    entry := by simp
    entry_some := by simp
    call := fun c v e hc => absurd (h.call c v e hc).1 (by simp)
    call_some := by simp
    timer := by simp
    timer_some := by simp
    undecided := fun _ => h.undecided (by simp)
    decided := by simp
    first_iff := by simpa using hfirst
    flag_iff := by simpa [ht] using h.flag_iff
    ended := by simp }

theorem Owned.of_prepare (h : Owned late x o) (ht : x.timer = .asked) :
    Owned late { x with flag := x.flag.map fun _ => true, timer := .prepared } o := by
  have hflag : x.flag = none := by simpa [ht] using h.flag_iff
  exact { h with
    idle_iff := by simpa [ht] using h.idle_iff
    timer := by simp
    timer_some := fun ho => by simpa [ht] using h.timer_some ho
    flag_iff := by simp [hflag]
    cancelled := by simp [hflag]
    ended := by simp }

theorem Owned.of_start (h : Owned late x o) (ht : x.timer = .prepared) :
    Owned late { x with flag := some false, timer := .sleeping } o :=
  { h with
    idle_iff := by simpa [ht] using h.idle_iff
    timer := by simp
    timer_some := fun ho => by simpa [ht] using h.timer_some ho
    flag_iff := by simp
    cancelled := by simp
    ended := by simp }

theorem Owned.of_fire (h : Owned late x o) (ht : x.timer = .sleeping) :
    Owned late { x with
      flag := none, timer := if x.flag = some false then .expired else .ended } o := by
  have hflag : x.flag ≠ none := h.flag_iff.2 ht
  refine { h with
    idle_iff := ?_
    timer := fun e => by split_ifs <;> simp
    timer_some := fun ho => ?_
    flag_iff := by split_ifs <;> simp
    cancelled := by simp
    ended := fun hended => ?_ }
  · have hnobody : o ≠ .nobody := fun ho => by simpa [ht] using h.idle_iff.2 ho
    split_ifs <;> simp [hnobody]
  · obtain ⟨e, he⟩ := h.timer_some ho
    simp [ht] at he
  · refine h.cancelled ?_
    split_ifs at hended with hfalse
    obtain ⟨b, hb⟩ := Option.ne_none_iff_exists'.1 hflag
    cases b with
    | false => exact absurd hb hfalse
    | true => exact hb

/-- The timer takes the entry. -/
theorem Owned.of_expire (h : Owned late x o) (ht : x.timer = .expired)
    (hentry : x.entry = some e) : Owned late { x with
      entry := none, first := x.reach none, timer := .taken e } .timer := by
  obtain ⟨rfl, hasked⟩ := h.entry e hentry
  have hfirst := h.reach_of_entry none
  have hflag : x.flag = none := by simpa [ht] using h.flag_iff
  exact { h with
    idle_iff := by simp
    asked_iff := by simp [hasked]
    entry := by simp
    entry_some := by simp
    call := fun c v e' hc => absurd (h.call c v e' hc).1 (by simp)
    call_some := by simp
    timer := fun e' he => by
      obtain rfl : e = e' := by simpa using he
      exact ⟨rfl, hasked, hfirst⟩
    timer_some := fun _ => ⟨e, rfl⟩
    undecided := fun _ => h.undecided (by simp)
    decided := by simp
    first_iff := by simp [hfirst]
    flag_iff := by simp [hflag]
    cancelled := by simp [hflag]
    ended := by simp }

/-- A call has taken the entry, and the timer is over. -/
theorem Owned.of_expire_none (h : Owned late x o) (ht : x.timer = .expired)
    (hentry : x.entry = none) : Owned late { x with
      entry := none, first := x.reach none, timer := .ended } o := by
  have ho := h.ne_entry hentry
  have hfirst := h.reach_of_ne ho none
  have hne := h.first_ne_none (by simp [ht]) hentry
  have hflag : x.flag = none := by simpa [ht] using h.flag_iff
  exact { h with
    idle_iff := by simpa [ht] using h.idle_iff
    entry := by simp
    entry_some := fun he => absurd he ho
    call := fun c v e hc => by
      obtain ⟨hcall, hasked, hf⟩ := h.call c v e hc
      exact ⟨hcall, hasked, hfirst.trans hf⟩
    timer := by simp
    timer_some := fun htimer => by simpa [ht] using h.timer_some htimer
    decided := fun hd => by
      obtain ⟨e, who, hasked, hf, hdecisions⟩ := h.decided hd
      exact ⟨e, who, hasked, hfirst.trans hf, hdecisions⟩
    first_iff := (iff_of_eq (congrArg (· = none) hfirst)).trans h.first_iff
    flag_iff := by simp [hflag]
    cancelled := by simp [hflag]
    ended := fun _ => Or.inl (hfirst ▸ hne) }

theorem Owned.of_decideLate (h : Owned late x o) (ht : x.timer = .taken e) :
    Owned late { x with timer := .ended, decisions := x.decisions ++ [(e, late)] } .decided := by
  obtain ⟨rfl, hasked, hfirst⟩ := h.timer e ht
  have hflag : x.flag = none := by simpa [ht] using h.flag_iff
  exact { h with
    idle_iff := by simp
    asked_iff := by simp [hasked]
    entry := fun e' hentry => absurd (h.entry e' hentry).1 (by simp)
    entry_some := by simp
    call := fun c v e' hc => absurd (h.call c v e' hc).1 (by simp)
    call_some := by simp
    timer := by simp
    timer_some := by simp
    undecided := fun hne => absurd rfl hne
    decided := fun _ => ⟨e, none, hasked, hfirst, by simp [h.undecided (by simp)]⟩
    first_iff := by simp [hfirst]
    flag_iff := by simp [hflag]
    cancelled := by simp [hflag]
    ended := fun _ => Or.inl (by simp [hfirst]) }

variable [DecidableEq C]

/-- What a call without the entry does is not seen among those that have taken it. -/
theorem update_calls_iff {calls : C → Option (AnswerCall E V)} {call : Option (AnswerCall E V)}
    (hold : ∀ v e, calls c ≠ some ⟨v, some e⟩) (hnew : ∀ v e, call ≠ some ⟨v, some e⟩) {c' : C} :
    Function.update calls c call c' = some ⟨v, some e⟩ ↔ calls c' = some ⟨v, some e⟩ := by
  by_cases heq : c' = c
  · rw [heq, Function.update_self]
    exact iff_of_false (hnew v e) (hold v e)
  · rw [Function.update_of_ne heq]

theorem Owned.of_cancel (h : Owned late x o) (hc : x.calls c = none) (v : V) :
    Owned late { x with
      flag := x.flag.map fun _ => true
      calls := Function.update x.calls c (some ⟨v, none⟩) } o := by
  have hcalls : ∀ {c' v' e}, Function.update x.calls c (some ⟨v, none⟩) c' = some ⟨v', some e⟩ ↔
      x.calls c' = some ⟨v', some e⟩ := update_calls_iff (by simp [hc]) (by simp)
  have hcancelled : ∃ c' v', Function.update x.calls c (some ⟨v, none⟩) c' =
      some (⟨v', none⟩ : AnswerCall E V) := ⟨c, v, by simp⟩
  exact { h with
    call := fun c' v' e hc' => h.call c' v' e (hcalls.1 hc')
    call_some := fun c' ho => by
      obtain ⟨v', e, hc'⟩ := h.call_some c' ho
      exact ⟨v', e, hcalls.2 hc'⟩
    flag_iff := by simpa using h.flag_iff
    cancelled := fun _ => Or.inr hcancelled
    ended := fun _ => Or.inr hcancelled }

/-- The call takes the entry. -/
theorem Owned.of_take (h : Owned late x o) (v : V) (hentry : x.entry = some e) :
    Owned late { x with
      entry := none, first := x.reach (some v)
      calls := Function.update x.calls c (some ⟨v, some e⟩) } (.call c) := by
  obtain ⟨rfl, hasked⟩ := h.entry e hentry
  have hfirst := h.reach_of_entry (some v)
  exact { h with
    idle_iff := by simpa using h.idle_iff
    asked_iff := by simpa using h.asked_iff
    entry := by simp
    entry_some := by simp
    call := fun c' v' e' hc' => by
      by_cases heq : c' = c
      · have hcall : v = v' ∧ e = e' := by simpa [heq] using hc'
        rw [heq, ← hcall.1, ← hcall.2]
        exact ⟨rfl, hasked, hfirst⟩
      · have hc' : x.calls c' = some ⟨v', some e'⟩ := by simpa [heq] using hc'
        exact absurd (h.call c' v' e' hc').1 (by simp)
    call_some := fun c' hc' => ⟨v, e, by simp [Owner.call.inj hc']⟩
    timer := fun e' ht => absurd (h.timer e' ht).1 (by simp)
    timer_some := by simp
    undecided := fun _ => h.undecided (by simp)
    decided := by simp
    first_iff := by simp [hfirst]
    cancelled := fun _ => Or.inl (by simp [hfirst])
    ended := fun _ => Or.inl (by simp [hfirst]) }

/-- Nothing is left to take, and the call is over. -/
theorem Owned.of_take_none (h : Owned late x o) (hc : x.calls c = some ⟨v, none⟩)
    (hentry : x.entry = none) : Owned late { x with
      entry := none, first := x.reach (some v), calls := Function.update x.calls c none } o := by
  have ho := h.ne_entry hentry
  have hfirst := h.reach_of_ne ho (some v)
  have hcalls : ∀ {c' v' e}, Function.update x.calls c none c' = some ⟨v', some e⟩ ↔
      x.calls c' = some ⟨v', some e⟩ := update_calls_iff (by simp [hc]) (by simp)
  exact { h with
    entry := by simp
    entry_some := fun he => absurd he ho
    call := fun c' v' e hc' => by
      obtain ⟨hcall, hasked, hf⟩ := h.call c' v' e (hcalls.1 hc')
      exact ⟨hcall, hasked, hfirst.trans hf⟩
    call_some := fun c' hcall => by
      obtain ⟨v', e, hc'⟩ := h.call_some c' hcall
      exact ⟨v', e, hcalls.2 hc'⟩
    timer := fun e ht => by
      obtain ⟨htimer, hasked, hf⟩ := h.timer e ht
      exact ⟨htimer, hasked, hfirst.trans hf⟩
    decided := fun hd => by
      obtain ⟨e, who, hasked, hf, hdecisions⟩ := h.decided hd
      exact ⟨e, who, hasked, hfirst.trans hf, hdecisions⟩
    first_iff := (iff_of_eq (congrArg (· = none) hfirst)).trans h.first_iff
    cancelled := fun hflag => Or.inl (by
      have hsleeping := h.flag_iff.1 (by simp [show x.flag = some true from hflag])
      exact hfirst ▸ h.first_ne_none (by simp [hsleeping]) hentry)
    ended := fun hended => Or.inl (by
      have hended : x.timer = .ended := hended
      exact hfirst ▸ h.first_ne_none (by simp [hended]) hentry) }

theorem Owned.of_decide (h : Owned late x o) (hc : x.calls c = some ⟨v, some e⟩) :
    Owned late { x with
      calls := Function.update x.calls c none
      decisions := x.decisions ++ [(e, v)] } .decided := by
  obtain ⟨rfl, hasked, hfirst⟩ := h.call c v e hc
  exact { h with
    idle_iff := by simpa using h.idle_iff
    asked_iff := by simpa using h.asked_iff
    entry := fun e' hentry => absurd (h.entry e' hentry).1 (by simp)
    entry_some := by simp
    call := fun c' v' e' hc' => by
      by_cases heq : c' = c
      · simp [heq] at hc'
      · have hc' : x.calls c' = some ⟨v', some e'⟩ := by simpa [heq] using hc'
        exact absurd (Owner.call.inj (h.call c' v' e' hc').1).symm heq
    call_some := by simp
    timer := fun e' ht => absurd (h.timer e' ht).1 (by simp)
    timer_some := by simp
    undecided := fun hne => absurd rfl hne
    decided := fun _ => ⟨e, some v, hasked, hfirst, by simp [h.undecided (by simp)]⟩
    first_iff := by simp [hfirst]
    cancelled := fun _ => Or.inl (by simp [hfirst])
    ended := fun _ => Or.inl (by simp [hfirst]) }

/-- Every section leaves the entry with somebody. -/
theorem Owned.step {x' : TimedRequest C E V} (h : Owned late x o) (hstep : Step late x x') :
    ∃ o', Owned late x' o' := by
  cases hstep with
  | ask e ht => exact ⟨_, h.of_ask ht e⟩
  | prepare ht => exact ⟨_, h.of_prepare ht⟩
  | start ht => exact ⟨_, h.of_start ht⟩
  | cancel c v hc => exact ⟨_, h.of_cancel hc v⟩
  | take c v hc =>
    cases hentry : x.entry with
    | none => exact ⟨_, h.of_take_none hc hentry⟩
    | some e => exact ⟨_, h.of_take v hentry⟩
  | decide c v e hc => exact ⟨_, h.of_decide hc⟩
  | fire ht => exact ⟨_, h.of_fire ht⟩
  | expire ht =>
    cases hentry : x.entry with
    | none => exact ⟨_, h.of_expire_none ht hentry⟩
    | some e => exact ⟨_, h.of_expire ht hentry⟩
  | decideLate e ht => exact ⟨_, h.of_decideLate ht⟩

end Sections

/-! ## The decision -/

/-- A request is decided once at most, as the first one answers who reaches for its entry. -/
theorem Owned.decisions_eq {x : TimedRequest C E V} {o : Owner C} (h : Owned late x o) :
    x.decisions = [] ∨ ∃ e who, x.asked = some e ∧ x.first = some who ∧
      x.decisions = [(e, who.getD late)] := by
  by_cases ho : o = .decided
  · exact Or.inr (h.decided ho)
  · exact Or.inl (h.undecided ho)

/-- It has been decided, and nothing of it is left, when its timer has ended and no call of it is
under way. -/
theorem Owned.decided_of_ended {x : TimedRequest C E V} {o : Owner C} (h : Owned late x o)
    (hended : x.timer = .ended) (hcalls : ∀ c, x.calls c = none) :
    x.decisions ≠ [] ∧ x.entry = none ∧ x.flag = none := by
  have hfirst : x.first ≠ none := by
    refine (h.ended hended).resolve_right ?_
    rintro ⟨c, v, hc⟩
    exact absurd ((hcalls c).symm.trans hc) (by simp)
  have hentry : x.entry = none := by
    by_contra hne
    obtain ⟨e, he⟩ := Option.ne_none_iff_exists'.1 hne
    exact hfirst (h.first_iff.2 (Or.inr (h.entry e he).1))
  refine ⟨?_, hentry, by simpa [hended] using h.flag_iff⟩
  cases o with
  | nobody => exact absurd (h.first_iff.2 (Or.inl rfl)) hfirst
  | entry => exact absurd hentry (h.entry_some rfl)
  | call c =>
    obtain ⟨v, e, hc⟩ := h.call_some c rfl
    exact absurd ((hcalls c).symm.trans hc) (by simp)
  | timer =>
    obtain ⟨e, he⟩ := h.timer_some rfl
    exact absurd (hended.symm.trans he) (by simp)
  | decided =>
    obtain ⟨e, who, -, -, hdecisions⟩ := h.decided rfl
    simp [hdecisions]

end TimedRequest
