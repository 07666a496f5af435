import DHFwk.ClockRing
import DHFwk.OutputController

/-!
# Waiting for the clock

In the mode `SYNC` the control thread needs the clock of the audio stream. While there is none it
stays with its frame in `WaitRereadClockFailed` and reads the clock again and again.

The thread is followed step by step, for any sequence of what it sees. That the control has ended
cuts its waits short, but the loop does not look at the status : it is left if the queue is full, if
there is a clock, or if the mode is `SMOOTH`. The loop ends within one further round exactly if one
of these comes about there (`ends_iff`). After a stop the queue is empty and nothing is pushed
(`stopped_step`), and a thread that never sees a clock stays in the loop for ever
(`waits_of_not_ready`).
-/

set_option linter.unusedSectionVars false

namespace DHFwk

namespace ClockWait

open OutputController (QUEUE_MAX_SIZE)

/-- Where the control thread is. In `head`, `timed` and `reread` it is in `WaitRereadClockFailed` :
at the head of the loop, in a wait for `clockCon_`, and before it reads the clock. -/
inductive Point
  | looper
  | wait
  | taken
  | head
  | timed
  | reread
  | rest
  | decided
  | posted
  | exited
  deriving DecidableEq, Repr

/-- What the thread sees at a step : besides the state of the controller, whether the frame goes out
without control, what `AcquireSyncClockTime` returns, and whether the task is taken. -/
structure View where
  status : ControlStatus
  mode : ControlMode
  queueSize : ℕ
  direct : Bool := false
  ret : Int
  post : Bool := true
  deriving DecidableEq, Repr

/-- The clock is read, or is not needed. -/
def View.Ready (v : View) : Prop := v.ret = DH_AVT_SUCCESS ∨ v.mode = .SMOOTH

instance (v : View) : Decidable v.Ready := inferInstanceAs (Decidable (_ ∨ _))

/-! ## The code -/

/-- `LooperControl`. A step at `wait` is one of a thread that looks at its condition. -/
def looperControl (v : View) : Point → Point
  | .looper => if v.status = .RELEASE then .exited else .wait
  | .wait =>
    if v.status = .RELEASE then .looper
    else if v.queueSize ≠ 0 ∧ v.status = .START then .taken
    else .wait
  | p => p

/-- `ControlOutput`, until it knows whether there is a clock. -/
def controlOutput (v : View) : Point :=
  if v.direct then .decided
  else if v.mode = .SMOOTH then .rest
  else if v.ret = ERR_DH_AVT_MASTER_NOT_READY then .head
  else if v.ret ≠ DH_AVT_SUCCESS then .decided
  else .rest

/-- `WaitRereadClockFailed`. Its wait ends by its time or by the status. -/
def waitRereadClockFailed (v : View) : Point → Point
  | .head => if v.queueSize < QUEUE_MAX_SIZE then .timed else .decided
  | .timed => .reread
  | .reread => if v.Ready then .rest else .head
  | p => p

/-- `HandleControlResult`. -/
def handleControlResult (v : View) : Point → Point
  | .decided => if v.post then .posted else .looper
  | .posted => .looper
  | p => p

/-- A step of the thread. The `rest` of `ControlOutput` takes its time, but comes to an end. -/
def step (v : View) : Point → Point
  | .looper => looperControl v .looper
  | .wait => looperControl v .wait
  | .taken => controlOutput v
  | .head => waitRereadClockFailed v .head
  | .timed => waitRereadClockFailed v .timed
  | .reread => waitRereadClockFailed v .reread
  | .rest => .decided
  | .decided => handleControlResult v .decided
  | .posted => handleControlResult v .posted
  | .exited => .exited

section

variable (views : ℕ → View) (start : Point)

/-- The thread after some steps. -/
def pointAt : ℕ → Point
  | 0 => start
  | n + 1 => step (views n) (pointAt n)

/-- A round of the loop begins. -/
def Begins (n : ℕ) : Prop :=
  pointAt views start n = .head ∧ (views n).queueSize < QUEUE_MAX_SIZE

instance (n : ℕ) : Decidable (Begins views start n) := inferInstanceAs (Decidable (_ ∧ _))

/-- The rounds of the loop that began in some steps. -/
def rounds : ℕ → ℕ
  | 0 => 0
  | n + 1 => if Begins views start n then rounds n + 1 else rounds n

end

/-- The thread is in `WaitRereadClockFailed`. -/
def Waiting : Point → Prop
  | .head | .timed | .reread => True
  | _ => False

/-- From some step on : one further round of the loop at most, then the loop is left for good, and
the thread comes to its end if the control is released. -/
structure Ends (views : ℕ → View) (start : Point) : Prop where
  rounds_le : ∀ n, rounds views start n ≤ 1
  leaves : ∃ n, ∀ m, n ≤ m → ¬Waiting (pointAt views start m)
  exits : (∀ n, (views n).status = .RELEASE) → ∃ n, pointAt views start n = .exited

/-- Where the thread first comes to the head of the loop, the queue is full, or there is a clock in
this round, or the queue is full after it. -/
def Cut (views : ℕ → View) (start : Point) : Prop :=
  ∀ n, pointAt views start n = .head → (∀ m < n, pointAt views start m ≠ .head) →
    QUEUE_MAX_SIZE ≤ (views n).queueSize ∨ (views (n + 2)).Ready ∨
      QUEUE_MAX_SIZE ≤ (views (n + 3)).queueSize

/-! ## Steps -/

section Proofs

variable {views : ℕ → View} {start p : Point} {v : View} {n m : ℕ}

/-- The thread is behind the loop, and has no frame to come to it with. -/
def Past : Point → Prop
  | .taken | .head | .timed | .reread => False
  | _ => True

theorem Past.not_waiting (h : Past p) : ¬Waiting p := by
  cases p with
  | head | timed | reread => exact h.elim
  | _ => exact id

/-- Without a start, no frame is taken. -/
theorem Past.step (h : Past p) (hstatus : v.status ≠ .START) : Past (step v p) := by
  cases p with
  | taken | head | timed | reread => exact h.elim
  | looper =>
    unfold ClockWait.step looperControl
    split_ifs <;> trivial
  | wait =>
    unfold ClockWait.step looperControl
    split_ifs with hrelease htake
    · trivial
    · exact hstatus htake.2
    · trivial
  | decided =>
    unfold ClockWait.step handleControlResult
    split_ifs <;> trivial
  | rest | posted | exited => trivial

theorem past_of_le (hstatus : ∀ n, (views n).status ≠ .START) (h : Past (pointAt views start n))
    (hle : n ≤ m) : Past (pointAt views start m) := by
  induction m, hle using Nat.le_induction with
  | base => exact h
  | succ m _ ih => exact ih.step (hstatus m)

theorem not_begins_of_past (h : Past (pointAt views start n)) : ¬Begins views start n := by
  rintro ⟨hhead, -⟩
  rw [hhead] at h
  exact h

theorem rounds_of_past (hstatus : ∀ n, (views n).status ≠ .START)
    (h : Past (pointAt views start n)) (hle : n ≤ m) :
    rounds views start m = rounds views start n := by
  induction m, hle using Nat.le_induction with
  | base => rfl
  | succ m hm ih =>
    rw [rounds, if_neg (not_begins_of_past (past_of_le hstatus h hm)), ih]

theorem rounds_mono (hle : n ≤ m) : rounds views start n ≤ rounds views start m := by
  induction m, hle using Nat.le_induction with
  | base => exact le_rfl
  | succ m _ ih =>
    rw [rounds]
    split_ifs
    · exact ih.trans (Nat.le_succ _)
    · exact ih

/-- No round begins before the thread comes to the head. -/
theorem rounds_eq_zero (h : ∀ m < n, pointAt views start m ≠ .head) : rounds views start n = 0 := by
  induction n with
  | zero => rfl
  | succ n ih =>
    rw [rounds, if_neg fun hbegins => h n n.lt_succ_self hbegins.1]
    exact ih fun m hm => h m (hm.trans n.lt_succ_self)

/-- Behind the loop, the end is four steps away. -/
theorem exited_of_past (hrelease : ∀ n, (views n).status = .RELEASE)
    (h : Past (pointAt views start n)) : pointAt views start (n + 4) = .exited := by
  simp only [pointAt]
  cases hp : pointAt views start n with
  | taken | head | timed | reread =>
    rw [hp] at h
    exact h.elim
  | rest | decided =>
    simp only [step, handleControlResult]
    split_ifs <;> simp [looperControl, hrelease]
  | looper | wait | posted | exited =>
    simp [step, looperControl, handleControlResult, hrelease]

/-! ## The first round -/

theorem pointAt_of_begins (h : Begins views start n) :
    pointAt views start (n + 1) = .timed ∧ pointAt views start (n + 2) = .reread := by
  have htimed : pointAt views start (n + 1) = .timed := by
    rw [pointAt, h.1]
    exact if_pos h.2
  refine ⟨htimed, ?_⟩
  rw [pointAt, htimed]
  rfl

theorem pointAt_reread (h : pointAt views start n = .reread) :
    pointAt views start (n + 1) = if (views n).Ready then .rest else .head := by
  rw [pointAt, h]
  rfl

/-- A second round begins if there is no clock in the first one and the queue is not full. -/
theorem begins_again (h : Begins views start n) (hready : ¬(views (n + 2)).Ready)
    (hsize : (views (n + 3)).queueSize < QUEUE_MAX_SIZE) : Begins views start (n + 3) := by
  refine ⟨?_, hsize⟩
  rw [pointAt_reread (pointAt_of_begins h).2, if_neg hready]

/-- From the head of the loop, a thread that is cut short is behind it within one round. -/
theorem past_of_head (hhead : pointAt views start n = .head)
    (hcut : QUEUE_MAX_SIZE ≤ (views n).queueSize ∨ (views (n + 2)).Ready ∨
      QUEUE_MAX_SIZE ≤ (views (n + 3)).queueSize) :
    Past (pointAt views start (n + 1)) ∨ Begins views start n ∧
      (Past (pointAt views start (n + 3)) ∨
        ¬Begins views start (n + 3) ∧ Past (pointAt views start (n + 4))) := by
  have hfull : ∀ {m}, pointAt views start m = .head → ¬(views m).queueSize < QUEUE_MAX_SIZE →
      pointAt views start (m + 1) = .decided := by
    intro m hm hsize
    rw [pointAt, hm]
    exact if_neg hsize
  by_cases hsize : (views n).queueSize < QUEUE_MAX_SIZE
  · have hbegins : Begins views start n := ⟨hhead, hsize⟩
    have hnext := pointAt_reread (pointAt_of_begins hbegins).2
    refine .inr ⟨hbegins, ?_⟩
    by_cases hready : (views (n + 2)).Ready
    · rw [if_pos hready] at hnext
      exact .inl (by rw [hnext]; trivial)
    · rw [if_neg hready] at hnext
      have hsize' := ((hcut.resolve_left hsize.not_ge).resolve_left hready).not_gt
      exact .inr ⟨fun h => hsize' h.2, by rw [hfull hnext hsize']; trivial⟩
  · exact .inl (by rw [hfull hhead hsize]; trivial)

theorem exists_minimal_head (h : ∃ n, pointAt views start n = .head) :
    ∃ n, pointAt views start n = .head ∧ ∀ m < n, pointAt views start m ≠ .head := by
  classical
  exact ⟨Nat.find h, Nat.find_spec h, fun _ hm => Nat.find_min h hm⟩

/-- Once the thread is behind the loop, it has ended. -/
theorem ends_of_past (hstatus : ∀ n, (views n).status ≠ .START)
    (hpast : Past (pointAt views start n)) (hrounds : rounds views start n ≤ 1) :
    Ends views start where
  rounds_le m := by
    rcases le_total m n with hle | hle
    · exact (rounds_mono hle).trans hrounds
    · exact (rounds_of_past hstatus hpast hle).trans_le hrounds
  leaves := ⟨n, fun _ hle => (past_of_le hstatus hpast hle).not_waiting⟩
  exits hrelease := ⟨n + 4, exited_of_past hrelease hpast⟩

/-- A thread that never comes to the head is behind the loop soon. -/
theorem past_of_no_head (h : ∀ n, pointAt views start n ≠ .head) :
    ∃ n, Past (pointAt views start n) := by
  have hreread : ∀ {n}, pointAt views start n = .reread → Past (pointAt views start (n + 1)) := by
    intro n hn
    have hnext := pointAt_reread hn
    split_ifs at hnext with hready
    · rw [hnext]
      trivial
    · exact absurd hnext (h (n + 1))
  cases start with
  | head => exact absurd rfl (h 0)
  | timed => exact ⟨2, hreread rfl⟩
  | reread => exact ⟨1, hreread rfl⟩
  | taken =>
    refine ⟨1, ?_⟩
    have hhead : controlOutput (views 0) ≠ .head := h 1
    change Past (controlOutput (views 0))
    unfold controlOutput at hhead ⊢
    split_ifs at hhead ⊢
    · trivial
    · trivial
    · exact absurd rfl hhead
    · trivial
    · trivial
  | _ => exact ⟨0, trivial⟩

theorem ends_of_cut (hstatus : ∀ n, (views n).status ≠ .START) (hcut : Cut views start) :
    Ends views start := by
  by_cases hhead : ∃ n, pointAt views start n = .head
  swap
  · push Not at hhead
    obtain ⟨n, hpast⟩ := past_of_no_head hhead
    exact ends_of_past hstatus hpast (by rw [rounds_eq_zero fun m _ => hhead m]; exact zero_le_one)
  obtain ⟨n, hn, hfirst⟩ := exists_minimal_head hhead
  have hzero : rounds views start n = 0 := rounds_eq_zero hfirst
  have hone : rounds views start (n + 1) ≤ 1 := by
    rw [rounds, hzero]
    split_ifs
    · exact le_rfl
    · exact zero_le_one
  rcases past_of_head hn (hcut n hn hfirst) with hpast | ⟨hbegins, hpast⟩
  · exact ends_of_past hstatus hpast hone
  obtain ⟨htimed, hreread⟩ := pointAt_of_begins hbegins
  have hthree : rounds views start (n + 3) ≤ 1 := by
    have htimed' : ¬Begins views start (n + 1) := fun h => by
      rw [h.1] at htimed
      cases htimed
    have hreread' : ¬Begins views start (n + 2) := fun h => by
      rw [h.1] at hreread
      cases hreread
    rw [rounds, if_neg hreread', rounds, if_neg htimed']
    exact hone
  rcases hpast with hpast | ⟨hnot, hpast⟩
  · exact ends_of_past hstatus hpast hthree
  · exact ends_of_past hstatus hpast (by rw [rounds, if_neg hnot]; exact hthree)

theorem cut_of_ends (h : Ends views start) : Cut views start := by
  intro n hn _
  by_contra hnot
  push Not at hnot
  obtain ⟨hsize, hready, hsize'⟩ := hnot
  have hbegins : Begins views start n := ⟨hn, hsize⟩
  have hone : rounds views start (n + 1) = rounds views start n + 1 := if_pos hbegins
  have htwo : rounds views start (n + 4) = rounds views start (n + 3) + 1 :=
    if_pos (begins_again hbegins hready hsize')
  have hle : rounds views start (n + 1) ≤ rounds views start (n + 3) := rounds_mono (by omega)
  have hmax := h.rounds_le (n + 4)
  omega

/-! ## After a stop -/

/-- A thread in the loop that never sees a clock, nor a full queue, stays in it. -/
theorem waits_of_not_ready (hstart : Waiting start) (hready : ∀ n, ¬(views n).Ready)
    (hsize : ∀ n, (views n).queueSize < QUEUE_MAX_SIZE) : ∀ n, Waiting (pointAt views start n)
  | 0 => hstart
  | n + 1 => by
    have hwait := waits_of_not_ready hstart hready hsize n
    rw [pointAt]
    cases hp : pointAt views start n with
    | head => rw [step, waitRereadClockFailed, if_pos (hsize n)]; trivial
    | timed => trivial
    | reread => rw [step, waitRereadClockFailed, if_neg (hready n)]; trivial
    | _ =>
      rw [hp] at hwait
      exact hwait.elim

section

variable {Ptr : Type*} [DecidableEq Ptr] {heap : Ptr → Buffer} {thre : UInt8}
variable {s : OutputController Ptr}

/-- The control is stopped or released, and its queue is empty. -/
structure Stopped (s : OutputController Ptr) : Prop where
  status_ne : s.status_ ≠ .START
  queue_eq : s.dataQueue_ = []

theorem stopped_stopControl (h : s.status_ = .START) : Stopped s.stopControl := by
  rw [OutputController.stopControl, if_neg (by rw [h]; decide)]
  exact ⟨fun hstatus => ControlStatus.noConfusion hstatus, rfl⟩

theorem stopped_releaseControl (h : Stopped s) : Stopped s.releaseControl := by
  unfold OutputController.releaseControl
  split_ifs
  · exact h
  · exact ⟨fun hstatus => ControlStatus.noConfusion hstatus, h.queue_eq⟩

/-- Nothing but a start ends this. -/
theorem stopped_step (h : Stopped s) {l : OutputController.Label Ptr} (hl : l ≠ .startControl) :
    Stopped (s.step heap thre l) := by
  cases l with
  | startControl => exact absurd rfl hl
  | pushData data =>
    change Stopped (OutputController.pushData heap thre data s)
    unfold OutputController.pushData
    rw [if_pos h.status_ne]
    exact h
  | prepareControl =>
    unfold OutputController.step OutputController.prepareControl
    cases s.mode_ with
    | SMOOTH => exact ⟨h.status_ne, h.queue_eq⟩
    | SYNC => exact ⟨h.status_ne, h.queue_eq⟩
  | stopControl =>
    change Stopped s.stopControl
    unfold OutputController.stopControl
    split_ifs
    · exact h
    · exact ⟨fun hstatus => ControlStatus.noConfusion hstatus, rfl⟩
  | releaseControl => exact stopped_releaseControl h
  | join =>
    unfold OutputController.step
    dsimp only
    split_ifs
    · exact ⟨h.status_ne, rfl⟩
    · exact h
  | registerListener | unregisterListener | setAllowControlState state | handle data =>
    exact ⟨h.status_ne, h.queue_eq⟩
  | take =>
    unfold OutputController.step
    rw [h.queue_eq]
    cases s.point with
    | _ => exact h
  | exit =>
    unfold OutputController.step
    dsimp only
    split_ifs
    · exact ⟨h.status_ne, h.queue_eq⟩
    · exact h
  | control clockInvalid =>
    unfold OutputController.step
    cases s.point with
    | taken data =>
      dsimp only
      unfold OutputController.controlOutput
      split_ifs <;> exact ⟨h.status_ne, h.queue_eq⟩
    | _ => exact h
  | balance once =>
    unfold OutputController.step
    cases s.point with
    | balancing data =>
      dsimp only
      unfold OutputController.checkIsProcessInDynamicBalance
      split_ifs <;> exact ⟨h.status_ne, h.queue_eq⟩
    | _ => exact h
  | clear =>
    unfold OutputController.step
    cases s.point with
    | clearing data => exact ⟨h.status_ne, rfl⟩
    | _ => exact h
  | post ret =>
    unfold OutputController.step
    cases s.point with
    | decided data =>
      dsimp only
      unfold OutputController.postOutputEvent
      split_ifs <;> exact ⟨h.status_ne, h.queue_eq⟩
    | _ => exact h
  | pop =>
    unfold OutputController.step
    cases s.point with
    | posted data => exact ⟨h.status_ne, by simp [h.queue_eq, OutputController.popFront]⟩
    | _ => exact h

theorem stopped_run (h : Stopped s) (ls : List (OutputController.Label Ptr))
    (hls : ∀ l ∈ ls, l ≠ .startControl) :
    Stopped (ls.foldl (OutputController.step heap thre) s) := by
  induction ls generalizing s with
  | nil => exact h
  | cons l ls ih =>
    have hl : l ≠ .startControl := hls l List.mem_cons_self
    exact ih (stopped_step h hl) fun l hl => hls l (List.mem_cons_of_mem _ hl)

/-- What the thread sees of a controller, with the clock that is read. -/
def viewOf (s : OutputController Ptr) (ret : Int) : View where
  status := s.status_
  mode := s.mode_
  queueSize := s.dataQueue_.length
  ret := ret

/-- The thread stays in the loop for ever, whatever is done with a controller that was stopped, as
long as it is not started and there is no clock. -/
theorem waits_of_stopped {states : ℕ → OutputController Ptr} {ret : ℕ → Int}
    (hstart : Waiting start) (hstopped : ∀ n, Stopped (states n))
    (hmode : ∀ n, (states n).mode_ = .SYNC) (hret : ∀ n, ret n ≠ DH_AVT_SUCCESS) (n : ℕ) :
    Waiting (pointAt (fun n => viewOf (states n) (ret n)) start n) := by
  refine waits_of_not_ready hstart (fun n => ?_) (fun n => ?_) n
  · rintro (hsuccess | hsmooth)
    · exact hret n hsuccess
    · rw [viewOf, hmode n] at hsmooth
      cases hsmooth
  · simp [viewOf, (hstopped n).queue_eq]

end

end Proofs

/-- **Waiting for the clock ends with the control.** -/
theorem ends_iff (views : ℕ → View) (start : Point) (hstatus : ∀ n, (views n).status ≠ .START) :
    Ends views start ↔ Cut views start :=
  ⟨cut_of_ends, ends_of_cut hstatus⟩

/-- Released, with a clock in the next round. -/
theorem ends_ready : Ends (fun _ => ⟨.RELEASE, .SYNC, 0, false, DH_AVT_SUCCESS, true⟩) .head :=
  (ends_iff _ _ fun _ => by decide).2 fun _ _ _ => .inr (.inl (.inl rfl))

def neverReady : View where
  status := .RELEASE
  mode := .SYNC
  queueSize := 0
  ret := ERR_DH_AVT_MASTER_NOT_READY

/-- Stopped and released, and no clock : the thread never leaves the loop. -/
theorem not_ends_stopped : ¬∀ (views : ℕ → View) (start : Point),
    (∀ n, (views n).status ≠ .START) → Ends views start := by
  intro h
  have hwait : ∀ n, Waiting (pointAt (fun _ => neverReady) .head n) :=
    waits_of_not_ready trivial (fun _ => by decide) fun _ => by decide
  obtain ⟨n, hleaves⟩ := (h (fun _ => neverReady) .head fun _ => by decide).leaves
  exact hleaves n le_rfl (hwait n)

end ClockWait

end DHFwk
