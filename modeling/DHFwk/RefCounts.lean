import DHFwk.Gate

/-!
# Reference counts and their users

The counts of a type are there to tell how many callers use a piece of hardware. A user
of `k` is a caller that is enabled for `k` and does not await recovery (`users`). A caller
awaits recovery from the reset that finds it active and enabled until the step that
disables it, for the reset zeroes the counts and leaves it enabled (`nextAwaiting`).

`StatusChange` is what one locked body may do to the status of its type : at most one of
the updates, each under the guard the bodies have in common. `Counted` is what the bodies
keep : the load count is the sum of the enable counts, and an enable count is at least the
number of users. `Exact` adds that it is at most that number. Both are kept by every
change in which no caller that awaits recovery is disabled while something is loaded, and
`Exact` by every such change that disables active callers only when they await recovery.
-/

set_option linter.unusedSectionVars false

namespace DHFwk

/-- Which callers of which hardware await recovery. -/
abbrev Awaiting (K : Type) := K → DHStatusCtrlKey → Bool

/-- The locked bodies, as far as the record goes. -/
inductive StatusOp (K : Type)
  | enable (dhType : DHType) (k : K) (c : DHStatusCtrlKey)
  | disable (dhType : DHType) (k : K) (c : DHStatusCtrlKey)
  | force (dhType : DHType) (k : K)
  | reset (dhType : DHType)
  | recover (dhType : DHType)

/-- The type whose status a body reads and writes. -/
def StatusOp.dhType {K : Type} : StatusOp K → DHType
  | .enable t _ _ | .disable t _ _ | .force t _ | .reset t | .recover t => t

/-- Who awaits recovery after a body that leaves the status `s'` of its type : the callers
that the reset found active and enabled, and those that awaited it before, as long as they
are enabled. -/
def nextAwaiting {K L : Type} [DecidableEq K] (op : StatusOp K) (s s' : DHStatus K L)
    (aw : Awaiting K) : Awaiting K := fun k c =>
  (match op with
    | .reset _ => c.isActive && decide (s.enableState k c = .ENABLED)
    | _ => aw k c) && decide (s'.enableState k c = .ENABLED)

variable {K L : Type} [DecidableEq K]

/-- What a body may do to the status of its type. -/
inductive StatusChange : StatusOp K → DHStatus K L → DHStatus K L → Prop
  | kept (op) (s) (hr : ∀ t, op ≠ .reset t) (hr' : ∀ t, op ≠ .recover t) : StatusChange op s s
  | enable_touch (t k c s) : StatusChange (.enable t k c) s (s.touch k c)
  | disable_touch (t k c s) : StatusChange (.disable t k c) s (s.touch k c)
  | addRef (t k c s) (h : s.enableState k c = .DISABLED) :
      StatusChange (.enable t k c) s (s.addRef k c)
  | firstRef (t k c s) (h : s.enableState k c = .DISABLED) (hk : s.refEnable k ≤ 0)
      (hl : s.refLoad ≤ 0) : StatusChange (.enable t k c) s (s.firstRef k c)
  | deleteRef (t k c s) (h : s.enableState k c = .ENABLED)
      (hc : 1 < s.refEnable k ∨ 1 < s.refLoad) :
      StatusChange (.disable t k c) s (s.deleteRef k c)
  | lastRef (t k c s) (h : s.enableState k c = .ENABLED) (hk : s.refEnable k ≤ 1)
      (hl : s.refLoad ≤ 1) : StatusChange (.disable t k c) s (s.lastRef k c)
  | drop (t k s) : StatusChange (.force t k) s (s.drop k)
  | reset (t s) : StatusChange (.reset t) s s.resetEnableStatus
  | recover (t s) : StatusChange (.recover t) s s.recoverActiveEnable

section settle

variable {W : Type} {calls : Call W} {w : W} {t : DHType} {k : K} {c : DHStatusCtrlKey}
  {s : DHStatus K L}

/-- An enable adds a reference if its calls succeed. -/
theorem StatusChange.settle_addRef (h : ¬s.enableState k c = .ENABLED) :
    StatusChange (.enable t k c) s (settle calls (s.touch k c) (s.addRef k c) w).2.1 :=
  settle_status (P := StatusChange _ s) (.enable_touch ..)
    (.addRef _ _ _ _ (DHStatus.eq_disabled h))

/-- An enable adds the first reference if its calls succeed. -/
theorem StatusChange.settle_firstRef (h : ¬s.enableState k c = .ENABLED)
    (hk : s.refEnable k ≤ 0) (hl : s.refLoad ≤ 0) :
    StatusChange (.enable t k c) s (settle calls (s.touch k c) (s.firstRef k c) w).2.1 :=
  settle_status (P := StatusChange _ s) (.enable_touch ..)
    (.firstRef _ _ _ _ (DHStatus.eq_disabled h) hk hl)

/-- A disable deletes a reference if its calls succeed. -/
theorem StatusChange.settle_deleteRef (h : ¬s.enableState k c = .DISABLED)
    (hc : 1 < s.refEnable k ∨ 1 < s.refLoad) :
    StatusChange (.disable t k c) s (settle calls (s.touch k c) (s.deleteRef k c) w).2.1 :=
  settle_status (P := StatusChange _ s) (.disable_touch ..)
    (.deleteRef _ _ _ _ (DHStatus.eq_enabled h) hc)

/-- A disable deletes the last reference if its calls succeed. -/
theorem StatusChange.settle_lastRef (h : ¬s.enableState k c = .DISABLED)
    (hk : s.refEnable k ≤ 1) (hl : s.refLoad ≤ 1) :
    StatusChange (.disable t k c) s (settle calls (s.touch k c) (s.lastRef k c) w).2.1 :=
  settle_status (P := StatusChange _ s) (.disable_touch ..)
    (.lastRef _ _ _ _ (DHStatus.eq_enabled h) hk hl)

end settle

namespace DHStatus

/-- The number of callers that are enabled for `k` and do not await recovery. -/
def users (s : DHStatus K L) (aw : Awaiting K) (k : K) : ℕ :=
  (s.enableInfo k).dhStatusCtrl.count fun c ctrl =>
    decide (ctrl.enableState = .ENABLED) && !aw k c

/-- The number of callers that are enabled for `k`. -/
def enabledCallers (s : DHStatus K L) (k : K) : ℕ :=
  s.users (fun _ _ => false) k

/-- One if `c` is a user of `k`, zero if not. -/
def use (s : DHStatus K L) (aw : Awaiting K) (k : K) (c : DHStatusCtrlKey) : Int :=
  if s.enableState k c = .ENABLED ∧ aw k c = false then 1 else 0

variable {s s' : DHStatus K L} {aw aw' : Awaiting K} {k k' : K} {c c' : DHStatusCtrlKey}

theorem use_eq_one (h : s.enableState k c = .ENABLED) (ha : aw k c = false) :
    s.use aw k c = 1 :=
  if_pos ⟨h, ha⟩

theorem use_eq_zero_of_disabled (h : s.enableState k c = .DISABLED) : s.use aw k c = 0 :=
  if_neg fun hu => by rw [h] at hu; exact absurd hu.1 (by decide)

theorem use_eq_zero_of_awaiting (h : aw k c = true) : s.use aw k c = 0 :=
  if_neg fun hu => by rw [h] at hu; exact absurd hu.2 (by decide)

theorem users_eq_zero (h : ∀ c, s.enableState k c = .ENABLED → aw k c = true) :
    s.users aw k = 0 := by
  refine Table.count_eq_zero_of_forall _ fun c => ?_
  rw [Bool.and_eq_false_iff, decide_eq_false_iff_not, Bool.not_eq_false']
  by_cases hs : s.enableState k c = .ENABLED
  · exact Or.inr (h c hs)
  · exact Or.inl hs

/-- If the users of one record are users of another, there are at most as many. -/
theorem users_le_users (h : ∀ c, s.enableState k c = .ENABLED → aw k c = false →
    s'.enableState k c = .ENABLED ∧ aw' k c = false) : s.users aw k ≤ s'.users aw' k := by
  refine Table.count_le_count (fun _ => rfl) (fun _ => rfl) fun c hc => ?_
  rw [Bool.and_eq_true, decide_eq_true_eq, Bool.not_eq_true'] at hc ⊢
  exact h c hc.1 hc.2

theorem users_congr (h : s'.enableInfo k = s.enableInfo k)
    (ha : ∀ c, s.enableState k c = .ENABLED → aw' k c = aw k c) :
    s'.users aw' k = s.users aw k := by
  unfold users
  rw [h]
  refine Table.count_congr _ fun c => ?_
  by_cases hs : s.enableState k c = .ENABLED
  · rw [ha c hs]
  · have : decide (((s.enableInfo k).dhStatusCtrl.get c).enableState = .ENABLED) = false :=
      decide_eq_false hs
    rw [this, Bool.false_and, Bool.false_and]

/-- Writing the state of one caller changes the number of users by that caller. -/
theorem users_write_self (s : DHStatus K L) (k : K) (c : DHStatusCtrlKey) (st : EnableState)
    (re rl : Int) (ha : ∀ c', c' ≠ c → s.enableState k c' = .ENABLED → aw' k c' = aw k c') :
    ((s.write k c st re rl).users aw' k : ℤ) =
      s.users aw k - s.use aw k c + (s.write k c st re rl).use aw' k c := by
  unfold users
  rw [enableInfo_write, if_pos rfl]
  have h := Table.count_set_of_agree
    (p := fun c ctrl => decide (ctrl.enableState = .ENABLED) && !aw k c)
    (q := fun c ctrl => decide (ctrl.enableState = .ENABLED) && !aw' k c)
    (fun _ => rfl) (fun _ => rfl) (s.enableInfo k).dhStatusCtrl c
    ({ enableState := st } : DHStatusCtrl) fun c' hc' => by
      by_cases hs : s.enableState k c' = .ENABLED
      · rw [ha c' hc' hs]
      · have : decide (((s.enableInfo k).dhStatusCtrl.get c').enableState = .ENABLED) = false :=
          decide_eq_false hs
        rw [this, Bool.false_and, Bool.false_and]
  have hw : (s.write k c st re rl).use aw' k c =
      if (decide (st = .ENABLED) && !aw' k c) = true then 1 else 0 :=
    if_congr (by simp) rfl rfl
  have hs : s.use aw k c = if (decide (((s.enableInfo k).dhStatusCtrl.get c).enableState =
      .ENABLED) && !aw k c) = true then 1 else 0 :=
    if_congr (by simp [enableState]) rfl rfl
  rw [h, hw, hs]

/-- When nobody awaits recovery the users are the enabled callers. -/
theorem users_eq_enabledCallers (h : ∀ c, aw k c = false) : s.users aw k = s.enabledCallers k :=
  show s.users aw k = s.users (fun _ _ => false) k from users_congr rfl fun c _ => h c

/-- A user counts. -/
theorem one_le_users (h : s.enableState k c = .ENABLED) (ha : aw k c = false) :
    1 ≤ s.users aw k :=
  Table.one_le_count _ (fun _ => rfl) (k := c) <| by
    rw [Bool.and_eq_true, ha]
    exact ⟨decide_eq_true h, rfl⟩

/-- Two users of one piece of hardware count twice. -/
theorem two_le_users (hc : c' ≠ c) (h : s.enableState k c = .ENABLED) (ha : aw k c = false)
    (h' : s.enableState k c' = .ENABLED) (ha' : aw k c' = false) : 2 ≤ s.users aw k :=
  Table.two_le_count _ (fun _ => rfl) hc
    (by rw [Bool.and_eq_true, ha]; exact ⟨decide_eq_true h, rfl⟩)
    (by rw [Bool.and_eq_true, ha']; exact ⟨decide_eq_true h', rfl⟩)

/-- How far the enable count of `k` is above the number of its users. -/
def slack (s : DHStatus K L) (aw : Awaiting K) (k : K) : Int :=
  s.refEnable k - s.users aw k

end DHStatus

/-! ## The invariant -/

/-- The load count is the sum of the enable counts, an enable count is at least the number
of users, and only active enabled callers await recovery. -/
structure Counted (s : DHStatus K L) (aw : Awaiting K) : Prop where
  refLoad_eq : s.refLoad = s.sumRefEnable
  users_le : ∀ k, (s.users aw k : ℤ) ≤ s.refEnable k
  awaits : ∀ k c, aw k c = true → c.isActive = true ∧ s.enableState k c = .ENABLED

/-- Every enable count is the number of users. -/
structure Exact (s : DHStatus K L) (aw : Awaiting K) : Prop extends Counted s aw where
  refEnable_le : ∀ k, s.refEnable k ≤ s.users aw k

/-- No caller that awaits recovery is disabled while something of its type is loaded. -/
def StatusOp.Patient (op : StatusOp K) (s : DHStatus K L) (aw : Awaiting K) : Prop :=
  match op with
  | .disable _ k c => aw k c = true → s.refLoad = 0
  | _ => True

/-- The recovery step disables those callers only that await it. -/
def StatusOp.Timely (op : StatusOp K) (s : DHStatus K L) (aw : Awaiting K) : Prop :=
  match op with
  | .recover _ => ∀ e ∈ s.activeEnabled, aw e.1 e.2 = true
  | _ => True

instance StatusOp.decidablePatient (op : StatusOp K) (s : DHStatus K L) (aw : Awaiting K) :
    Decidable (op.Patient s aw) :=
  match op with
  | .disable _ k c => inferInstanceAs (Decidable (aw k c = true → s.refLoad = 0))
  | .enable .. | .force .. | .reset .. | .recover .. => inferInstanceAs (Decidable True)

instance StatusOp.decidableTimely (op : StatusOp K) (s : DHStatus K L) (aw : Awaiting K) :
    Decidable (op.Timely s aw) :=
  match op with
  | .recover _ => inferInstanceAs (Decidable (∀ e ∈ s.activeEnabled, aw e.1 e.2 = true))
  | .enable .. | .disable .. | .force .. | .reset .. => inferInstanceAs (Decidable True)

namespace Counted

variable {s s' : DHStatus K L} {aw : Awaiting K} {op : StatusOp K} {k k' : K}
  {c c' : DHStatusCtrlKey}

theorem refEnable_nonneg (h : Counted s aw) (k : K) : 0 ≤ s.refEnable k :=
  (Int.natCast_nonneg _).trans (h.users_le k)

theorem refEnable_le_refLoad (h : Counted s aw) (k : K) : s.refEnable k ≤ s.refLoad := by
  rw [h.refLoad_eq]
  exact Table.le_sum (f := fun _ (info : DHStatusEnableInfo) => info.refEnable) _ (fun _ => rfl)
    h.refEnable_nonneg k

theorem add_refEnable_le_refLoad (h : Counted s aw) (hk : k' ≠ k) :
    s.refEnable k + s.refEnable k' ≤ s.refLoad := by
  rw [h.refLoad_eq]
  exact Table.add_le_sum (f := fun _ (info : DHStatusEnableInfo) => info.refEnable) _ (fun _ => rfl)
    h.refEnable_nonneg hk

theorem refLoad_nonneg (h : Counted s aw) : 0 ≤ s.refLoad := by
  rw [h.refLoad_eq]
  exact Table.sum_nonneg _ h.refEnable_nonneg

/-- A user keeps the enable count of its hardware positive. -/
theorem refEnable_pos (h : Counted s aw) (hs : s.enableState k c = .ENABLED)
    (ha : aw k c = false) : 0 < s.refEnable k := by
  have := DHStatus.one_le_users hs ha
  have := h.users_le k
  omega

/-- While a type has a user, a patient caller that disables does not await recovery. -/
theorem not_awaiting_of_user (h : Counted s aw) (hp : aw k c = true → s.refLoad = 0)
    (hs' : s.enableState k' c' = .ENABLED) (ha' : aw k' c' = false) : aw k c = false := by
  cases ha : aw k c with
  | false => rfl
  | true =>
    have h0 := hp ha
    have := h.refEnable_pos hs' ha'
    have := h.refEnable_le_refLoad k'
    omega

/-- Two users of one piece of hardware count twice. -/
theorem two_le_refEnable (h : Counted s aw) (hc : c' ≠ c) (hs : s.enableState k c = .ENABLED)
    (ha : aw k c = false) (hs' : s.enableState k c' = .ENABLED) (ha' : aw k c' = false) :
    2 ≤ s.refEnable k := by
  have := DHStatus.two_le_users hc hs ha hs' ha'
  have := h.users_le k
  omega

/-- Two users of hardware of one type count twice. -/
theorem two_le_refLoad (h : Counted s aw) (hne : (k', c') ≠ (k, c))
    (hs : s.enableState k c = .ENABLED) (ha : aw k c = false)
    (hs' : s.enableState k' c' = .ENABLED) (ha' : aw k' c' = false) : 2 ≤ s.refLoad := by
  by_cases hk : k' = k
  · subst hk
    have hc : c' ≠ c := fun hc => hne (by rw [hc])
    exact (h.two_le_refEnable hc hs ha hs' ha').trans (h.refEnable_le_refLoad k')
  · have := h.refEnable_pos hs ha
    have := h.refEnable_pos hs' ha'
    have := h.add_refEnable_le_refLoad hk
    omega

/-- A patient caller that the load count says is the last leaves no other user. -/
theorem awaiting_of_last (h : Counted s aw) (hp : aw k c = true → s.refLoad = 0)
    (hs : s.enableState k c = .ENABLED) (hl : s.refLoad ≤ 1) (hne : (k', c') ≠ (k, c))
    (hs' : s.enableState k' c' = .ENABLED) : aw k' c' = true := by
  by_contra ha'
  have ha' := Bool.eq_false_iff.2 ha'
  have := h.two_le_refLoad hne hs (h.not_awaiting_of_user hp hs' ha') hs' ha'
  omega

/-- A patient caller that the enable count says is the last leaves no other user of its
hardware. -/
theorem awaiting_of_lastEnabled (h : Counted s aw) (hp : aw k c = true → s.refLoad = 0)
    (hs : s.enableState k c = .ENABLED) (hk : s.refEnable k ≤ 1) (hc : c' ≠ c)
    (hs' : s.enableState k c' = .ENABLED) : aw k c' = true := by
  by_contra ha'
  have ha' := Bool.eq_false_iff.2 ha'
  have := h.two_le_refEnable hc hs (h.not_awaiting_of_user hp hs' ha') hs' ha'
  omega

/-- Who awaits recovery after a body awaits it rightly. -/
theorem nextAwaiting_awaits (h : Counted s aw) (hk : nextAwaiting op s s' aw k c = true) :
    c.isActive = true ∧ s'.enableState k c = .ENABLED := by
  cases op with
  | reset =>
    simp only [nextAwaiting, Bool.and_eq_true, decide_eq_true_eq] at hk
    exact ⟨hk.1.1, hk.2⟩
  | _ =>
    simp only [nextAwaiting, Bool.and_eq_true, decide_eq_true_eq] at hk
    exact ⟨(h.awaits k c hk.1).1, hk.2⟩

/-- A caller whose state stays awaits recovery as before. -/
theorem nextAwaiting_eq (h : Counted s aw) (hop : ∀ t, op ≠ .reset t)
    (hs : s'.enableState k c = s.enableState k c) : nextAwaiting op s s' aw k c = aw k c := by
  have hn : nextAwaiting op s s' aw k c = (aw k c && decide (s'.enableState k c = .ENABLED)) := by
    cases op with
    | reset t => exact absurd rfl (hop t)
    | _ => rfl
  rw [hn, hs]
  cases ha : aw k c with
  | false => rfl
  | true => rw [decide_eq_true (h.awaits k c ha).2, Bool.true_and]

/-- A caller that is not enabled does not await recovery. -/
theorem not_awaiting_of_disabled (h : Counted s aw) (hs : s.enableState k c = .DISABLED) :
    aw k c = false := by
  cases ha : aw k c with
  | false => rfl
  | true => exact absurd ((h.awaits k c ha).2.symm.trans hs) (by decide)

/-- Nor does it await recovery after a body that is not the reset. -/
theorem not_nextAwaiting_of_disabled (h : Counted s aw) (hop : ∀ t, op ≠ .reset t)
    (hs : s.enableState k c = .DISABLED) : nextAwaiting op s s' aw k c = false := by
  have ha := h.not_awaiting_of_disabled hs
  cases op with
  | reset t => exact absurd rfl (hop t)
  | _ => simp only [nextAwaiting, ha, Bool.false_and]

/-- The slack after a write : it follows the enable count and the written caller. -/
theorem slack_write (h : Counted s aw) (hop : ∀ t, op ≠ .reset t) {st : EnableState}
    {re rl : Int} (hs : s' = s.write k c st re rl) (hk : k' = k) :
    s'.slack (nextAwaiting op s s' aw) k' = s.slack aw k' + (re - s.refEnable k) +
      (s.use aw k c - s'.use (nextAwaiting op s s' aw) k c) := by
  subst hk hs
  have hu : ((s.write k' c st re rl).users (nextAwaiting op s (s.write k' c st re rl) aw) k' : ℤ) =
      s.users aw k' - s.use aw k' c +
        (s.write k' c st re rl).use (nextAwaiting op s (s.write k' c st re rl) aw) k' c :=
    DHStatus.users_write_self s k' c st re rl
      fun c' hc' _ => h.nextAwaiting_eq hop (by simp [hc'])
  unfold DHStatus.slack
  rw [hu, DHStatus.refEnable_write, if_pos rfl]
  omega

/-- Other hardware keeps its slack. -/
theorem slack_write_ne (h : Counted s aw) (hop : ∀ t, op ≠ .reset t) {st : EnableState}
    {re rl : Int} (hs : s' = s.write k c st re rl) (hk : k' ≠ k) :
    s'.slack (nextAwaiting op s s' aw) k' = s.slack aw k' := by
  subst hs
  unfold DHStatus.slack
  rw [DHStatus.refEnable_write, if_neg hk, DHStatus.users_congr]
  · rw [DHStatus.enableInfo_write, if_neg hk]
  · exact fun c' _ => h.nextAwaiting_eq hop (by simp [hk])

/-- A kept status keeps its slack. -/
theorem slack_kept (h : Counted s aw) (hop : ∀ t, op ≠ .reset t) (k : K) :
    s.slack (nextAwaiting op s s aw) k = s.slack aw k := by
  unfold DHStatus.slack
  rw [DHStatus.users_congr rfl fun _ _ => h.nextAwaiting_eq hop rfl]

end Counted

/-- A write that moves the enable count, the load count and the users by the same amount. -/
structure BalancedWrite (op : StatusOp K) (s s' : DHStatus K L) (aw : Awaiting K) (k : K)
    (c : DHStatusCtrlKey) (st : EnableState) (re rl : Int) : Prop where
  isWrite : s' = s.write k c st re rl
  refLoad : rl - s.refLoad = re - s.refEnable k
  use : s'.use (nextAwaiting op s s' aw) k c - s.use aw k c = re - s.refEnable k

namespace Counted

variable {s s' : DHStatus K L} {aw : Awaiting K} {op : StatusOp K} {k k' : K}
  {c : DHStatusCtrlKey}

theorem touch_balanced (h : Counted s aw) (hop : ∀ t, op ≠ .reset t) :
    BalancedWrite op s (s.touch k c) aw k c (s.enableState k c) (s.refEnable k) s.refLoad where
  isWrite := rfl
  refLoad := by omega
  use := by
    have hs : (s.touch k c).enableState k c = s.enableState k c := by simp [DHStatus.touch]
    rw [DHStatus.use, DHStatus.use, hs, h.nextAwaiting_eq hop hs]
    omega

theorem addRef_balanced (h : Counted s aw) (hop : ∀ t, op ≠ .reset t)
    (hs : s.enableState k c = .DISABLED) : BalancedWrite op s (s.addRef k c) aw k c .ENABLED
      (s.refEnable k + 1) (s.refLoad + 1) where
  isWrite := rfl
  refLoad := by omega
  use := by
    have hs' : (s.addRef k c).enableState k c = .ENABLED := by simp [DHStatus.addRef]
    rw [DHStatus.use_eq_zero_of_disabled hs,
      DHStatus.use_eq_one hs' (h.not_nextAwaiting_of_disabled hop hs)]
    omega

theorem firstRef_balanced (h : Counted s aw) (hop : ∀ t, op ≠ .reset t)
    (hs : s.enableState k c = .DISABLED) (hk : s.refEnable k ≤ 0) (hl : s.refLoad ≤ 0) :
    BalancedWrite op s (s.firstRef k c) aw k c .ENABLED 1 1 where
  isWrite := rfl
  refLoad := by
    have := h.refEnable_nonneg k
    have := h.refLoad_nonneg
    omega
  use := by
    have hs' : (s.firstRef k c).enableState k c = .ENABLED := by simp [DHStatus.firstRef]
    have := h.refEnable_nonneg k
    rw [DHStatus.use_eq_zero_of_disabled hs,
      DHStatus.use_eq_one hs' (h.not_nextAwaiting_of_disabled hop hs)]
    omega

theorem deleteRef_balanced (hs : s.enableState k c = .ENABLED)
    (ha : aw k c = false) : BalancedWrite op s (s.deleteRef k c) aw k c .DISABLED
      (s.refEnable k - 1) (s.refLoad - 1) where
  isWrite := rfl
  refLoad := by omega
  use := by
    have hs' : (s.deleteRef k c).enableState k c = .DISABLED := by simp [DHStatus.deleteRef]
    rw [DHStatus.use_eq_one hs ha, DHStatus.use_eq_zero_of_disabled hs']
    omega

theorem lastRef_balanced (h : Counted s aw) (hs : s.enableState k c = .ENABLED)
    (hk : s.refEnable k ≤ 1) (hl : s.refLoad ≤ 1) (hp : aw k c = true → s.refLoad = 0) :
    BalancedWrite op s (s.lastRef k c) aw k c .DISABLED 0 0 := by
  have hs' : (s.lastRef k c).enableState k c = .DISABLED := by simp [DHStatus.lastRef]
  have hle := h.refEnable_le_refLoad k
  cases ha : aw k c with
  | true =>
    have hl0 := hp ha
    have hk0 := h.refEnable_nonneg k
    refine ⟨rfl, by omega, ?_⟩
    rw [DHStatus.use_eq_zero_of_awaiting ha, DHStatus.use_eq_zero_of_disabled hs']
    omega
  | false =>
    have hk1 := h.refEnable_pos hs ha
    refine ⟨rfl, by omega, ?_⟩
    rw [DHStatus.use_eq_one hs ha, DHStatus.use_eq_zero_of_disabled hs']
    omega

/-- A caller that awaits recovery is disabled with nothing loaded, so not by `deleteRef`. -/
theorem not_awaiting_of_refs (h : Counted s aw) (hp : aw k c = true → s.refLoad = 0)
    (hg : 1 < s.refEnable k ∨ 1 < s.refLoad) : aw k c = false := by
  cases ha : aw k c with
  | false => rfl
  | true =>
    have h0 := hp ha
    have := h.refEnable_le_refLoad k
    omega

end Counted

/-! ## One body keeps the invariant -/

/-- What a body makes of the invariant : it stays, and no slack appears. -/
structure Keeps (op : StatusOp K) (s s' : DHStatus K L) (aw : Awaiting K) : Prop where
  counted : Counted s' (nextAwaiting op s s' aw)
  slack : op.Timely s aw → ∀ k, s'.slack (nextAwaiting op s s' aw) k = s.slack aw k ∨
    s'.slack (nextAwaiting op s s' aw) k = 0

namespace Counted

variable {s s' : DHStatus K L} {aw : Awaiting K} {op : StatusOp K} {k : K}
  {c : DHStatusCtrlKey} {st : EnableState} {re rl : Int}

theorem slack_nonneg (h : Counted s aw) (k : K) : 0 ≤ s.slack aw k := by
  have := h.users_le k
  unfold DHStatus.slack
  omega

theorem keeps_kept (h : Counted s aw) (hop : ∀ t, op ≠ .reset t) : Keeps op s s aw where
  counted :=
    { refLoad_eq := h.refLoad_eq
      users_le := fun k => by
        have := h.slack_kept hop k
        have := h.slack_nonneg k
        unfold DHStatus.slack at *
        omega
      awaits := fun _ _ => h.nextAwaiting_awaits }
  slack _ k := Or.inl (h.slack_kept hop k)

theorem keeps_write (h : Counted s aw) (hop : ∀ t, op ≠ .reset t)
    (hb : BalancedWrite op s s' aw k c st re rl) : Keeps op s s' aw := by
  have hs : ∀ k', s'.slack (nextAwaiting op s s' aw) k' = s.slack aw k' := fun k' => by
    by_cases hk : k' = k
    · have := h.slack_write hop hb.isWrite hk
      have := hb.use
      omega
    · exact h.slack_write_ne hop hb.isWrite hk
  refine ⟨⟨?_, fun k' => ?_, fun _ _ => h.nextAwaiting_awaits⟩, fun _ k' => Or.inl (hs k')⟩
  · have := h.refLoad_eq
    have := hb.refLoad
    rw [hb.isWrite, DHStatus.refLoad_write, DHStatus.sumRefEnable_write]
    omega
  · have := hs k'
    have := h.slack_nonneg k'
    unfold DHStatus.slack at *
    omega

theorem keeps_drop (h : Counted s aw) (hop : ∀ t, op ≠ .reset t) (k : K) :
    Keeps op s (s.drop k) aw := by
  have hself : (s.drop k).users (nextAwaiting op s (s.drop k) aw) k = 0 :=
    DHStatus.users_eq_zero fun c hc => absurd hc (by simp)
  have hne : ∀ k', k' ≠ k →
      (s.drop k).slack (nextAwaiting op s (s.drop k) aw) k' = s.slack aw k' := fun k' hk => by
    unfold DHStatus.slack
    rw [DHStatus.refEnable_drop, if_neg hk, DHStatus.users_congr]
    · rw [DHStatus.enableInfo_drop, if_neg hk]
    · exact fun c _ => h.nextAwaiting_eq hop (by simp [hk])
  refine ⟨⟨?_, fun k' => ?_, fun _ _ => h.nextAwaiting_awaits⟩, fun _ k' => ?_⟩
  · rw [DHStatus.refLoad_drop, DHStatus.sumRefEnable_drop, h.refLoad_eq]
  · by_cases hk : k' = k
    · rw [hk, hself, DHStatus.refEnable_drop, if_pos rfl]
      rfl
    · have := hne k' hk
      have := h.slack_nonneg k'
      unfold DHStatus.slack at *
      omega
  · by_cases hk : k' = k
    · refine Or.inr ?_
      rw [hk, DHStatus.slack, hself, DHStatus.refEnable_drop, if_pos rfl]
      rfl
    · exact Or.inl (hne k' hk)

theorem keeps_reset (h : Counted s aw) (t : DHType) :
    Keeps (.reset t) s s.resetEnableStatus aw := by
  have hu : ∀ k, s.resetEnableStatus.users
      (nextAwaiting (.reset t) s s.resetEnableStatus aw) k = 0 := fun k => by
    refine DHStatus.users_eq_zero fun c hc => ?_
    rw [DHStatus.enableState_resetEnableStatus] at hc
    simp only [nextAwaiting, DHStatus.enableState_resetEnableStatus]
    split_ifs at hc with ha
    simp [ha, hc]
  refine ⟨⟨?_, fun k => ?_, fun _ _ => h.nextAwaiting_awaits⟩, fun _ k => Or.inr ?_⟩
  · rw [DHStatus.refLoad_resetEnableStatus, DHStatus.sumRefEnable_resetEnableStatus]
  · rw [hu, DHStatus.refEnable_resetEnableStatus]
    rfl
  · rw [DHStatus.slack, hu, DHStatus.refEnable_resetEnableStatus]
    rfl

theorem keeps_recover (h : Counted s aw) (t : DHType) :
    Keeps (.recover t) s s.recoverActiveEnable aw := by
  have hle : ∀ k, s.recoverActiveEnable.users
      (nextAwaiting (.recover t) s s.recoverActiveEnable aw) k ≤ s.users aw k := fun k => by
    refine DHStatus.users_le_users fun c hc _ => ?_
    rw [DHStatus.enableState_recoverActiveEnable] at hc
    split_ifs at hc with ha
    refine ⟨hc, ?_⟩
    cases hw : aw k c with
    | false => rfl
    | true => exact absurd (h.awaits k c hw).1 ha
  have hge : ∀ k, (StatusOp.recover t).Timely s aw → s.users aw k ≤
      s.recoverActiveEnable.users
        (nextAwaiting (.recover t) s s.recoverActiveEnable aw) k := fun k ht => by
    refine DHStatus.users_le_users fun c hc hw => ?_
    have ha : ¬c.isActive = true := fun ha =>
      absurd (ht (k, c) (DHStatus.mem_activeEnabled.2 ⟨ha, hc⟩)) (by simp [hw])
    rw [DHStatus.enableState_recoverActiveEnable, if_neg ha]
    exact ⟨hc, by simp only [nextAwaiting, hw, Bool.false_and]⟩
  refine ⟨⟨?_, fun k => ?_, fun _ _ => h.nextAwaiting_awaits⟩, fun ht k => Or.inl ?_⟩
  · rw [DHStatus.refLoad_recoverActiveEnable, DHStatus.sumRefEnable_recoverActiveEnable,
      h.refLoad_eq]
  · have := hle k
    have := h.users_le k
    rw [DHStatus.refEnable_recoverActiveEnable]
    omega
  · have := hle k
    have := hge k ht
    rw [DHStatus.slack, DHStatus.slack, DHStatus.refEnable_recoverActiveEnable]
    omega

/-- A body keeps the invariant if it disables no caller that awaits recovery while
something of its type is loaded. -/
theorem keeps (h : Counted s aw) (hc : StatusChange op s s') (hp : op.Patient s aw) :
    Keeps op s s' aw := by
  cases hc with
  | kept _ _ hr => exact h.keeps_kept hr
  | enable_touch => exact h.keeps_write nofun (h.touch_balanced nofun)
  | disable_touch => exact h.keeps_write nofun (h.touch_balanced nofun)
  | addRef _ _ _ _ hs => exact h.keeps_write nofun (h.addRef_balanced nofun hs)
  | firstRef _ _ _ _ hs hk hl => exact h.keeps_write nofun (h.firstRef_balanced nofun hs hk hl)
  | deleteRef _ _ _ _ hs hg =>
    exact h.keeps_write nofun (deleteRef_balanced hs (h.not_awaiting_of_refs hp hg))
  | lastRef _ _ _ _ hs hk hl => exact h.keeps_write nofun (h.lastRef_balanced hs hk hl hp)
  | drop => exact h.keeps_drop (by nofun) _
  | reset => exact h.keeps_reset _
  | recover => exact h.keeps_recover _

end Counted

namespace Exact

variable {s s' : DHStatus K L} {aw : Awaiting K} {op : StatusOp K}

theorem slack_eq_zero (h : Exact s aw) (k : K) : s.slack aw k = 0 := by
  have := h.users_le k
  have := h.refEnable_le k
  unfold DHStatus.slack
  omega

/-- With no slack before and none added there is none after. -/
theorem next (h : Exact s aw) (hc : StatusChange op s s') (hp : op.Patient s aw)
    (ht : op.Timely s aw) : Exact s' (nextAwaiting op s s' aw) := by
  have hk := h.toCounted.keeps hc hp
  refine ⟨hk.counted, fun k => ?_⟩
  have h0 := h.slack_eq_zero k
  have hs : s'.slack (nextAwaiting op s s' aw) k = 0 := by
    rcases hk.slack ht k with hs | hs
    · rw [hs, h0]
    · exact hs
  unfold DHStatus.slack at hs
  omega

/-- What exact counts say. -/
theorem counts (h : Exact s aw) (k : K) : 0 ≤ s.refEnable k ∧ s.refEnable k = s.users aw k ∧
    s.refLoad = s.sumRefEnable ∧
    ((∀ c, aw k c = false) → s.refEnable k = s.enabledCallers k) := by
  have hu : s.refEnable k = s.users aw k := le_antisymm (h.refEnable_le k) (h.users_le k)
  refine ⟨h.refEnable_nonneg k, hu, h.refLoad_eq, fun ha => ?_⟩
  rw [hu, DHStatus.users_eq_enabledCallers ha]

end Exact

/-! ## All types together -/

/-- One body on the record of all types : a change of its own type, nothing elsewhere. -/
structure StatusStep (op : StatusOp K) (m m' : Table DHType (DHStatus K L)) : Prop where
  change : StatusChange op (m.get op.dhType) (m'.get op.dhType)
  other : ∀ t, t ≠ op.dhType → m'.get t = m.get t

/-- Who awaits recovery after a body, for all types. -/
def awaitingAfter (op : StatusOp K) (m m' : Table DHType (DHStatus K L))
    (aw : DHType → Awaiting K) : DHType → Awaiting K := fun t =>
  if t = op.dhType then nextAwaiting op (m.get t) (m'.get t) (aw t) else aw t

section allTypes

variable {op : StatusOp K} {m m' : Table DHType (DHStatus K L)} {aw : DHType → Awaiting K}

/-- Writing back the status of one type is a step of that type. -/
theorem StatusStep.of_set {s' : DHStatus K L} (h : StatusChange op (m.get op.dhType) s') :
    StatusStep op m (m.set op.dhType s') where
  change := by rwa [Table.get_set_self]
  other _ ht := Table.get_set_ne _ ht _

theorem StatusStep.of_kept (m : Table DHType (DHStatus K L)) (hr : ∀ t, op ≠ .reset t)
    (hr' : ∀ t, op ≠ .recover t) : StatusStep op m m where
  change := .kept _ _ hr hr'
  other _ _ := rfl

/-- A type that is missing stays missing : there is nothing to reset or recover. -/
theorem StatusStep.of_missing (h : m.lookup op.dhType = none)
    (hc : StatusChange op (default : DHStatus K L) default) : StatusStep op m m where
  change := by rwa [Table.get_of_lookup_none h]
  other _ _ := rfl

theorem counted_default : Counted (default : DHStatus K L) fun _ _ => false where
  refLoad_eq := rfl
  users_le _ := le_rfl
  awaits _ _ h := absurd h (by decide)

theorem exact_default : Exact (default : DHStatus K L) fun _ _ => false :=
  ⟨counted_default, fun _ => le_rfl⟩

theorem StatusStep.counted (hs : StatusStep op m m') (h : ∀ t, Counted (m.get t) (aw t))
    (hp : op.Patient (m.get op.dhType) (aw op.dhType)) (t : DHType) :
    Counted (m'.get t) (awaitingAfter op m m' aw t) := by
  unfold awaitingAfter
  split_ifs with ht
  · subst ht
    exact ((h _).keeps hs.change hp).counted
  · rw [hs.other t ht]
    exact h t

theorem StatusStep.exact (hs : StatusStep op m m') (h : ∀ t, Exact (m.get t) (aw t))
    (hp : op.Patient (m.get op.dhType) (aw op.dhType))
    (ht : op.Timely (m.get op.dhType) (aw op.dhType)) (t : DHType) :
    Exact (m'.get t) (awaitingAfter op m m' aw t) := by
  unfold awaitingAfter
  split_ifs with hd
  · subst hd
    exact (h _).next hs.change hp ht
  · rw [hs.other t hd]
    exact h t

end allTypes

end DHFwk
