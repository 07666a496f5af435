import DHFwk.CapabilityInfo
import DHFwk.DelayQueue
import DHFwk.DeviceLife
import DHFwk.Runs

/-!
# The flag of the privacy page

A message to pull up the privacy page is handled at once, one to close it a second later. Both start
an ability and store the flag, whatever the start returned.

So the flag is that of the last message whose start succeeded as long as no pull-up comes while a
close is waiting for its second, and no start fails that would change the flag
(`followsLast_of_along`).
-/

set_option linter.unusedSectionVars false

namespace DHFwk

open Json Runs

abbrev COMP_PRIVACY_DELAY_TIME : ℕ := 1000

inductive ResourceEventType
  | EVENT_TYPE_QUERY_RESOURCE
  | EVENT_TYPE_PULL_UP_PAGE
  | EVENT_TYPE_CLOSE_PAGE
  deriving DecidableEq, Repr

/-- What an event carries : `COMP_START_PAGE` or `COMP_STOP_PAGE`, with the texts of its message. -/
inductive PageEvent
  | startPage (subtype networkId : String)
  | stopPage (subtype : String)
  deriving DecidableEq, Repr

namespace PageEvent

/-- The page is to be pulled up. -/
def isStart : PageEvent → Bool
  | .startPage _ _ => true
  | .stopPage _ => false

/-- The event passes the checks before `StartAbility`. -/
def Valid : PageEvent → Prop
  | .startPage subtype networkId =>
    isString (.string subtype) ∧ isString (.string networkId) ∧ isIdLengthValid networkId
  | .stopPage subtype => isString (.string subtype)

instance : DecidablePred Valid
  | .startPage _ _ => inferInstanceAs (Decidable (_ ∧ _ ∧ _))
  | .stopPage _ => inferInstanceAs (Decidable (_ = true))

end PageEvent

/-- An event in the queue of the handler, numbered in the order of the messages. -/
structure QueuedEvent where
  id : ℕ
  event : PageEvent
  due : ℕ
  deriving DecidableEq, Repr

/-- A start of the ability : for which message, what it returned, and the flag before it. -/
structure PageStart where
  id : ℕ
  isStart : Bool
  result : Int
  before : Bool
  deriving DecidableEq, Repr

/-- The flag with the events to come, and the starts so far. -/
structure ComponentPrivacy where
  now : ℕ := 0
  queue : List QueuedEvent := []
  nextId : ℕ := 0
  isPrivacePageOpen_ : Bool := false
  starts : List PageStart := []
  deriving DecidableEq, Repr

/-- A message comes, time passes, or the handler processes its next event if it is due.
`StartAbility` returns a result, or there is no ability manager. -/
inductive PageStep
  | onPrivaceResourceMessage (type : ResourceEventType) (subtype networkId : String)
  | elapse (time : ℕ)
  | processEvent (result : Option Int)
  deriving DecidableEq, Repr

namespace ComponentPrivacy

/-! ## The code -/

variable (s : ComponentPrivacy)

/-- `SendEvent`, with the delay. -/
def sendEvent (event : PageEvent) (delayTime : ℕ) : ComponentPrivacy :=
  { s with
    queue := DelayQueue.insert QueuedEvent.due ⟨s.nextId, event, s.now + delayTime⟩ s.queue
    nextId := s.nextId + 1 }

/-- `HandlePullUpPage`. -/
def handlePullUpPage (subtype networkId : String) : ComponentPrivacy :=
  if ¬isIdLengthValid networkId then s
  else s.sendEvent (.startPage (cStr subtype) (cStr networkId)) 0

/-- `HandleClosePage`. -/
def handleClosePage (subtype : String) : ComponentPrivacy :=
  s.sendEvent (.stopPage (cStr subtype)) COMP_PRIVACY_DELAY_TIME

/-- `OnPrivaceResourceMessage`. A query changes nothing. -/
def onPrivaceResourceMessage (type : ResourceEventType) (subtype networkId : String) :
    ComponentPrivacy :=
  match type with
  | .EVENT_TYPE_QUERY_RESOURCE => s
  | .EVENT_TYPE_PULL_UP_PAGE => s.handlePullUpPage subtype networkId
  | .EVENT_TYPE_CLOSE_PAGE => s.handleClosePage subtype

/-- `StartAbility`, and `SetPageFlagTrue` or `SetPageFlagFalse` behind it. -/
def startAbility (id : ℕ) (isStart : Bool) : Option Int → ComponentPrivacy
  | none => s
  | some result =>
    { s with
      isPrivacePageOpen_ := isStart
      starts := s.starts ++ [⟨id, isStart, result, s.isPrivacePageOpen_⟩] }

/-- `StartPrivacePage`. -/
def startPrivacePage (id : ℕ) (networkId : String) (result : Option Int) : ComponentPrivacy :=
  if ¬isIdLengthValid networkId then s else s.startAbility id true result

/-- `StopPrivacePage`. -/
def stopPrivacePage (id : ℕ) (result : Option Int) : ComponentPrivacy :=
  s.startAbility id false result

/-- `ProcessStartPage` and `ProcessStopPage`. -/
def handleEvent (e : QueuedEvent) (result : Option Int) : ComponentPrivacy :=
  match e.event with
  | .startPage subtype networkId =>
    if ¬isString (.string subtype) then s
    else if ¬isString (.string networkId) then s
    else s.startPrivacePage e.id networkId result
  | .stopPage subtype =>
    if ¬isString (.string subtype) then s else s.stopPrivacePage e.id result

/-- `ProcessEvent`, for the next event that is due. -/
def processEvent (result : Option Int) : ComponentPrivacy :=
  match s.queue with
  | [] => s
  | e :: queue => if e.due ≤ s.now then { s with queue := queue }.handleEvent e result else s

def step : PageStep → ComponentPrivacy
  | .onPrivaceResourceMessage type subtype networkId =>
    s.onPrivaceResourceMessage type subtype networkId
  | .elapse time => { s with now := s.now + time }
  | .processEvent result => s.processEvent result

end ComponentPrivacy

/-! ## What it is for -/

abbrev ERR_OK : Int := 0

/-- The page, or its end, was started. -/
def PageStart.Succeeded (x : PageStart) : Prop := x.result = ERR_OK

instance : DecidablePred PageStart.Succeeded := fun x => inferInstanceAs (Decidable (x.result = _))

namespace ComponentPrivacy

/-- Once no event is pending, the flag is that of the last message whose start succeeded. No close
takes effect after a pull-up that was sent after it, and no pull-up that failed sets the flag. -/
structure FollowsLast (s : ComponentPrivacy) : Prop where
  flag_iff : s.queue = [] → (s.isPrivacePageOpen_ = true ↔ ∃ x ∈ s.starts,
    x.Succeeded ∧ x.isStart = true ∧ ∀ x' ∈ s.starts, x'.Succeeded → x'.id ≤ x.id)
  no_late_close : s.starts.Pairwise fun x x' =>
    ¬(x.isStart = true ∧ x'.isStart = false ∧ x'.id < x.id)
  not_set : ∀ x ∈ s.starts, x.isStart = true → ¬x.Succeeded → x.before = true

/-- No page is pulled up while a close waits for its delay, and no start fails that is to change
the flag. Events that are not valid have no effect. -/
def Ok (s : ComponentPrivacy) : PageStep → Prop
  | .onPrivaceResourceMessage .EVENT_TYPE_PULL_UP_PAGE subtype networkId =>
    (PageEvent.startPage (cStr subtype) (cStr networkId)).Valid →
      ∀ e ∈ s.queue, e.event.isStart = false → e.event.Valid → e.due ≤ s.now
  | .processEvent (some result) =>
    ∀ e ∈ s.queue.head?, e.due ≤ s.now → e.event.Valid →
      result = ERR_OK ∨ s.isPrivacePageOpen_ = e.event.isStart
  | _ => True

/-! ## One step -/

section Proofs

variable {s : ComponentPrivacy} {e : QueuedEvent} {queue : List QueuedEvent}

/-- The last start that succeeded was one of the page. -/
def lastStart (starts : List PageStart) : Bool :=
  ((starts.filter fun x => x.Succeeded).getLast?).any PageStart.isStart

theorem lastStart_concat (starts : List PageStart) (x : PageStart) :
    lastStart (starts ++ [x]) = if x.Succeeded then x.isStart else lastStart starts := by
  unfold lastStart
  split_ifs with h
  · simp [List.filter_append, h]
  · simp [List.filter_append, h]

/-- Valid events are in the order of their messages, behind those that were started. -/
structure Inv (s : ComponentPrivacy) : Prop where
  sorted : DelayQueue.Sorted QueuedEvent.due s.queue
  due_le : ∀ e ∈ s.queue, e.due ≤ s.now + COMP_PRIVACY_DELAY_TIME
  start_due_le : ∀ e ∈ s.queue, e.event.isStart = true → e.due ≤ s.now
  id_lt : ∀ e ∈ s.queue, e.id < s.nextId
  ordered : s.queue.Pairwise fun e e' => e.event.Valid → e'.event.Valid → e.id < e'.id
  started_lt : ∀ x ∈ s.starts, x.id < s.nextId
  started_lt_queue : ∀ x ∈ s.starts, ∀ e ∈ s.queue, e.event.Valid → x.id < e.id
  started_ordered : s.starts.Pairwise fun x x' => x.id < x'.id
  not_set : ∀ x ∈ s.starts, x.isStart = true → ¬x.Succeeded → x.before = true
  flag_eq : s.isPrivacePageOpen_ = lastStart s.starts

theorem inv_empty : Inv {} where
  sorted := List.Pairwise.nil
  due_le _ h := absurd h List.not_mem_nil
  start_due_le _ h := absurd h List.not_mem_nil
  id_lt _ h := absurd h List.not_mem_nil
  ordered := List.Pairwise.nil
  started_lt _ h := absurd h List.not_mem_nil
  started_lt_queue _ h := absurd h List.not_mem_nil
  started_ordered := List.Pairwise.nil
  not_set _ h := absurd h List.not_mem_nil
  flag_eq := rfl

/-- An event is sent behind all valid ones, unless it overtakes a close. -/
theorem Inv.sendEvent (h : s.Inv) {event : PageEvent} {delayTime : ℕ}
    (hdelay : delayTime ≤ COMP_PRIVACY_DELAY_TIME)
    (hstart : event.isStart = true → delayTime = 0)
    (hlast : event.Valid → ∀ e ∈ s.queue, e.event.Valid → e.due ≤ s.now + delayTime) :
    (s.sendEvent event delayTime).Inv where
  sorted := h.sorted.insert
  due_le e he := by
    rcases DelayQueue.mem_insert.1 he with rfl | he
    · exact Nat.add_le_add_left hdelay _
    · exact h.due_le e he
  start_due_le e he hkind := by
    rcases DelayQueue.mem_insert.1 he with rfl | he
    · exact (congrArg (s.now + ·) (hstart hkind)).le
    · exact h.start_due_le e he hkind
  id_lt e he := by
    rcases DelayQueue.mem_insert.1 he with rfl | he
    · exact Nat.lt_succ_self _
    · exact (h.id_lt e he).trans (Nat.lt_succ_self _)
  ordered := by
    refine DelayQueue.pairwise_insert h.sorted h.ordered ?_ ?_
    · exact fun e he _ _ _ => h.id_lt e he
    · exact fun e he hlt hvalid hvalid' => absurd (hlast hvalid e he hvalid') hlt.not_ge
  started_lt x hx := (h.started_lt x hx).trans (Nat.lt_succ_self _)
  started_lt_queue x hx e he hvalid := by
    rcases DelayQueue.mem_insert.1 he with rfl | he
    · exact h.started_lt x hx
    · exact h.started_lt_queue x hx e he hvalid
  started_ordered := h.started_ordered
  not_set := h.not_set
  flag_eq := h.flag_eq

theorem Inv.elapse (h : s.Inv) (time : ℕ) : Inv { s with now := s.now + time } :=
  { h with
    due_le := fun e he => (h.due_le e he).trans (by simp only; omega)
    start_due_le := fun e he hkind => (h.start_due_le e he hkind).trans (Nat.le_add_right _ _) }

theorem Inv.pop (h : s.Inv) (hqueue : s.queue = e :: queue) : Inv { s with queue := queue } := by
  have hmem : ∀ {e'}, e' ∈ queue → e' ∈ s.queue := fun he' =>
    hqueue ▸ List.mem_cons_of_mem e he'
  have hsorted := h.sorted
  have hordered := h.ordered
  rw [hqueue] at hsorted hordered
  exact
    { h with
      sorted := (List.pairwise_cons.1 hsorted).2
      due_le := fun e' he' => h.due_le e' (hmem he')
      start_due_le := fun e' he' => h.start_due_le e' (hmem he')
      id_lt := fun e' he' => h.id_lt e' (hmem he')
      ordered := (List.pairwise_cons.1 hordered).2
      started_lt_queue := fun x hx e' he' => h.started_lt_queue x hx e' (hmem he') }

/-- An event is dropped, or it comes to the start. -/
theorem handleEvent_eq (s : ComponentPrivacy) (e : QueuedEvent) (result : Option Int) :
    s.handleEvent e result =
      if e.event.Valid then s.startAbility e.id e.event.isStart result else s := by
  unfold handleEvent
  cases e.event with
  | startPage subtype networkId =>
    dsimp only [startPrivacePage, PageEvent.Valid, PageEvent.isStart]
    split_ifs <;> simp_all
  | stopPage subtype =>
    dsimp only [stopPrivacePage, PageEvent.Valid, PageEvent.isStart]
    split_ifs <;> simp_all

/-- A start that does not fail against the flag. -/
theorem Inv.startAbility (h : s.Inv) {id : ℕ} {isStart : Bool} {result : Option Int}
    (hid : id < s.nextId) (hstarted : ∀ x ∈ s.starts, x.id < id)
    (hqueue : ∀ e ∈ s.queue, e.event.Valid → id < e.id)
    (hok : ∀ r ∈ result, r = ERR_OK ∨ s.isPrivacePageOpen_ = isStart) :
    (s.startAbility id isStart result).Inv := by
  cases result with
  | none => exact h
  | some result =>
    have hok := hok result rfl
    exact
      { h with
        started_lt := fun x hx => by
          rcases List.mem_append.1 hx with hx | hx
          · exact h.started_lt x hx
          · rw [List.mem_singleton.1 hx]
            exact hid
        started_lt_queue := fun x hx e he hvalid => by
          rcases List.mem_append.1 hx with hx | hx
          · exact h.started_lt_queue x hx e he hvalid
          · rw [List.mem_singleton.1 hx]
            exact hqueue e he hvalid
        started_ordered := by
          refine List.pairwise_append.2 ⟨h.started_ordered, List.pairwise_singleton _ _, ?_⟩
          intro x hx x' hx'
          rw [List.mem_singleton.1 hx']
          exact hstarted x hx
        not_set := fun x hx hkind hfailed => by
          rcases List.mem_append.1 hx with hx | hx
          · exact h.not_set x hx hkind hfailed
          · rw [List.mem_singleton.1 hx] at hkind hfailed ⊢
            exact (hok.resolve_left hfailed).trans hkind
        flag_eq := by
          refine Eq.trans ?_ (lastStart_concat _ _).symm
          split_ifs with hsucceeded
          · rfl
          · exact (hok.resolve_left hsucceeded).symm.trans h.flag_eq }

/-- What one step keeps. -/
theorem Inv.step (h : s.Inv) {l : PageStep} (hok : s.Ok l) : (s.step l).Inv := by
  cases l with
  | elapse time => exact h.elapse time
  | onPrivaceResourceMessage type subtype networkId =>
    cases type with
    | EVENT_TYPE_QUERY_RESOURCE => exact h
    | EVENT_TYPE_PULL_UP_PAGE =>
      change (s.handlePullUpPage subtype networkId).Inv
      unfold handlePullUpPage
      split_ifs with hid
      · refine h.sendEvent (Nat.zero_le _) (fun _ => rfl) fun hvalid e he hvalid' => ?_
        cases hkind : e.event.isStart with
        | true => exact h.start_due_le e he hkind
        | false => exact hok hvalid e he hkind hvalid'
      · exact h
    | EVENT_TYPE_CLOSE_PAGE =>
      exact h.sendEvent le_rfl (fun hkind => Bool.noConfusion hkind) fun _ e he _ => h.due_le e he
  | processEvent result =>
    change (s.processEvent result).Inv
    unfold processEvent
    split
    · exact h
    · next e queue hqueue =>
      split_ifs with hdue
      · rw [handleEvent_eq]
        have hpop := h.pop hqueue
        split_ifs with hvalid
        · have hmem : e ∈ s.queue := hqueue ▸ List.mem_cons_self
          have hordered := h.ordered
          rw [hqueue] at hordered
          refine hpop.startAbility (h.id_lt e hmem)
            (fun x hx => h.started_lt_queue x hx e hmem hvalid)
            (fun e' he' => (List.pairwise_cons.1 hordered).1 e' he' hvalid) ?_
          rintro r rfl
          exact hok e (by rw [hqueue]; rfl) hdue hvalid
        · exact hpop
      · exact h

/-! ## All steps -/

/-- In a list that is ordered, the last member is the greatest. -/
theorem le_getLast {xs : List PageStart} {z : PageStart} (hxs : xs.Pairwise fun x x' => x.id < x'.id)
    (hz : xs.getLast? = some z) : ∀ x ∈ xs, x = z ∨ x.id < z.id := by
  obtain ⟨init, rfl⟩ := List.getLast?_eq_some_iff.1 hz
  intro x hx
  rcases List.mem_append.1 hx with hx | hx
  · exact .inr ((List.pairwise_append.1 hxs).2.2 x hx z (List.mem_singleton_self z))
  · exact .inl (List.mem_singleton.1 hx)

theorem Inv.followsLast (h : s.Inv) : s.FollowsLast where
  flag_iff _ := by
    have hordered : (s.starts.filter fun x => x.Succeeded).Pairwise fun x x' => x.id < x'.id :=
      h.started_ordered.filter _
    rw [h.flag_eq, lastStart, Option.any_eq_true]
    constructor
    · rintro ⟨x, hx, hkind⟩
      obtain ⟨hmem, hsucceeded⟩ := List.mem_filter.1 (List.mem_of_getLast? hx)
      refine ⟨x, hmem, of_decide_eq_true hsucceeded, hkind, fun x' hx' hsucceeded' => ?_⟩
      have hmem' : x' ∈ s.starts.filter fun x => x.Succeeded :=
        List.mem_filter.2 ⟨hx', decide_eq_true hsucceeded'⟩
      rcases le_getLast hordered hx x' hmem' with rfl | hlt
      · exact le_rfl
      · exact hlt.le
    · rintro ⟨x, hx, hsucceeded, hkind, hlast⟩
      have hmem : x ∈ s.starts.filter fun x => x.Succeeded :=
        List.mem_filter.2 ⟨hx, decide_eq_true hsucceeded⟩
      obtain ⟨z, hz⟩ := Option.isSome_iff_exists.1
        (List.getLast?_isSome.2 (List.ne_nil_of_mem hmem))
      obtain ⟨hzmem, hzsucceeded⟩ := List.mem_filter.1 (List.mem_of_getLast? hz)
      have hle := hlast z hzmem (of_decide_eq_true hzsucceeded)
      rcases le_getLast hordered hz x hmem with rfl | hlt
      · exact ⟨x, hz, hkind⟩
      · exact absurd hle hlt.not_ge
  no_late_close := h.started_ordered.imp fun hlt hlate => absurd hlate.2.2 hlt.not_gt
  not_set := h.not_set

end Proofs

/-- **The flag follows the last message.** -/
theorem followsLast_of_along (ls : List PageStep) (hok : Along step Ok {} ls) :
    ∀ pre post, ls = pre ++ post → (pre.foldl step {}).FollowsLast := by
  rintro pre post rfl
  exact (hok.of_append.1.invariant (fun _ _ h hl => h.step hl) inv_empty).followsLast

/-- A page that is pulled up, and closed later. -/
def pulledUp : List PageStep :=
  [.onPrivaceResourceMessage .EVENT_TYPE_PULL_UP_PAGE "mic" "A", .processEvent (some ERR_OK),
    .onPrivaceResourceMessage .EVENT_TYPE_CLOSE_PAGE "mic" "A", .elapse COMP_PRIVACY_DELAY_TIME,
    .processEvent (some ERR_OK)]

theorem followsLast_pulledUp : (pulledUp.foldl step {}).FollowsLast :=
  followsLast_of_along pulledUp
    ⟨fun _ _ he => absurd he List.not_mem_nil, fun _ _ _ _ => .inl rfl, trivial, trivial,
      fun _ _ _ _ => .inl rfl, trivial⟩ pulledUp [] (List.append_nil _).symm

/-- The page is pulled up again while its close waits : the close takes effect last. And a page
that could not be started counts as open. -/
theorem not_followsLast :
    (¬∀ ls : List PageStep, (∀ l ∈ ls, ∀ result, l = .processEvent (some result) →
      result = ERR_OK) → (ls.foldl step {}).FollowsLast) ∧
      ¬∀ ls : List PageStep, (ls.foldl step {}).FollowsLast := by
  constructor
  · intro h
    have hlate := (h [.onPrivaceResourceMessage .EVENT_TYPE_CLOSE_PAGE "mic" "A",
      .onPrivaceResourceMessage .EVENT_TYPE_PULL_UP_PAGE "mic" "A", .processEvent (some ERR_OK),
      .elapse COMP_PRIVACY_DELAY_TIME, .processEvent (some ERR_OK)] (by simp)).no_late_close
    exact absurd hlate (by decide)
  · intro h
    have hset := (h [.onPrivaceResourceMessage .EVENT_TYPE_PULL_UP_PAGE "mic" "A",
      .processEvent (some 1)]).not_set ⟨0, true, 1, false⟩ (by decide) rfl (by decide)
    exact absurd hset (by decide)

end ComponentPrivacy

end DHFwk
