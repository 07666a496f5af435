import DHFwk.Basic
import DHFwk.Runs
import Mathlib.Data.Finset.Erase
import Mathlib.Data.Finset.Insert
import Mathlib.Tactic.SplitIfs

/-!
# Low latency mode

`LowLatency` keeps the types that asked for low latency. The first one starts a timer : two
delayed tasks, one behind the other, run on the thread of an event runner, and the second reports
low latency. The last one stops the timer, which waits for that thread while it holds the mutex
that the first task takes; and `CloseLowLatency` empties the set and leaves the timer alone.

So a stop that meets the first task in front of the mutex never returns, and low latency is
reported after a close that finds a task. In a run without these two (`Timely`) no call gets stuck,
and the set that is empty means the normal mode (`low_latency_follows`).

The calls hold `lowLatencyMutex_`, so one is in progress at a time. The delays of all tasks are
the same, and a task that is due may wait : the first task of the queue may run at any time.
-/

namespace DHFwk

open Runs

abbrev MAX_SWITCH_SIZE : ℕ := 256

inductive LatencyMode
  | low | normal
  deriving DecidableEq, Repr

/-- A task under `timerId_`. -/
inductive TimerTask
  | execute | executeInner
  deriving DecidableEq, Repr

/-- Where the thread of the event runner is. It waits for tasks while it is idle. -/
inductive EventThread
  | none | starting | idle | execute | executeInner | ended
  deriving DecidableEq, Repr

/-- Where the call in progress is. From `removeTask` to `join` it holds `timerMutex_`. -/
inductive CallPosition
  | returned
  | initTimer (dhType : DHType)
  | waiting (dhType : DHType)
  | postTask (dhType : DHType)
  | insert (dhType : DHType)
  | release | removeTask | stop | join | handleStopTimer
  deriving DecidableEq, Repr

/-- `LowLatency` with its timer. The mode is the last one reported, and normal before. -/
structure LowLatency where
  lowLatencySwitchSet_ : Finset DHType := ∅
  call : CallPosition := .returned
  eventHandler_ : Bool := false
  tasks : List TimerTask := []
  thread : EventThread := .none
  stopped : Bool := false
  mode : LatencyMode := .normal
  deriving DecidableEq

/-- A call begins, or goes on, or the event thread does. -/
inductive LatencyStep
  | enableLowLatency (dhType : DHType)
  | disableLowLatency (dhType : DHType)
  | closeLowLatency
  | goOn
  | eventThread
  deriving DecidableEq, Repr

namespace LowLatency

/-- The type is one of those that are checked for. -/
def isTypeValid (dhType : DHType) : Bool :=
  dhType ≠ .UNKNOWN && dhType ≠ .MAX_DH

variable (s : LowLatency)

/-- The call holds `timerMutex_`. -/
def HoldsMutex : Prop :=
  s.call = .removeTask ∨ s.call = .stop ∨ s.call = .join

instance : Decidable s.HoldsMutex :=
  inferInstanceAs (Decidable (_ ∨ _))

/-! ## The calls -/

/-- The end of `EnableLowLatency`. -/
def insert (dhType : DHType) : LowLatency :=
  { s with
    call := .returned
    lowLatencySwitchSet_ :=
      if s.lowLatencySwitchSet_.card ≥ MAX_SWITCH_SIZE then s.lowLatencySwitchSet_
      else Insert.insert dhType s.lowLatencySwitchSet_ }

/-- `EnableLowLatency` : the first type starts the timer. -/
def enableLowLatency (dhType : DHType) : LowLatency :=
  if ¬isTypeValid dhType then s
  else if s.lowLatencySwitchSet_ = ∅ then { s with call := .initTimer dhType }
  else s.insert dhType

/-- `DisableLowLatency` : the last type stops the timer. -/
def disableLowLatency (dhType : DHType) : LowLatency :=
  if ¬isTypeValid dhType then s
  else
    let set := s.lowLatencySwitchSet_.erase dhType
    { s with
      lowLatencySwitchSet_ := set, call := if set = ∅ then .release else .returned }

/-- `CloseLowLatency`. -/
def closeLowLatency : LowLatency :=
  { s with lowLatencySwitchSet_ := ∅, mode := .normal }

/-- The call takes its next step, if it is not blocked. -/
def goOn : LowLatency :=
  match s.call with
  | .returned => s
  -- `InitTimer`
  | .initTimer dhType =>
    if s.eventHandler_ then { s with call := .postTask dhType }
    else { s with call := .waiting dhType, thread := .starting }
  | .waiting dhType => if s.eventHandler_ then { s with call := .postTask dhType } else s
  -- `StartTimer`
  | .postTask dhType =>
    { s with
      call := .insert dhType
      tasks := if s.eventHandler_ then s.tasks ++ [.execute] else s.tasks }
  | .insert dhType => s.insert dhType
  -- `ReleaseTimer`
  | .release => { s with call := .removeTask }
  | .removeTask => { s with call := .stop, tasks := if s.eventHandler_ then [] else s.tasks }
  | .stop => { s with call := .join, stopped := s.eventHandler_ || s.stopped }
  | .join =>
    if s.thread = .none ∨ s.thread = .ended then
      { s with call := .handleStopTimer, thread := .none, eventHandler_ := false, stopped := false }
    else s
  | .handleStopTimer => { s with call := .returned, mode := .normal }

/-- The event thread takes its next step, if it is not blocked. -/
def eventThread : LowLatency :=
  match s.thread with
  | .none | .ended => s
  -- `StartEventRunner`
  | .starting => if s.HoldsMutex then s else { s with thread := .idle, eventHandler_ := true }
  | .idle =>
    if s.stopped then { s with thread := .ended }
    else match s.tasks with
      | [] => s
      | .execute :: tasks => { s with thread := .execute, tasks := tasks }
      | .executeInner :: tasks => { s with thread := .executeInner, tasks := tasks }
  -- `Execute`
  | .execute =>
    if s.HoldsMutex then s
    else
      { s with
        thread := .idle
        tasks := if s.eventHandler_ then s.tasks ++ [.executeInner] else s.tasks }
  | .executeInner => { s with thread := .idle, mode := .low }

/-- One step. A call waits for the one in progress. -/
def step : LatencyStep → LowLatency
  | .enableLowLatency dhType => if s.call = .returned then s.enableLowLatency dhType else s
  | .disableLowLatency dhType => if s.call = .returned then s.disableLowLatency dhType else s
  | .closeLowLatency => if s.call = .returned then s.closeLowLatency else s
  | .goOn => s.goOn
  | .eventThread => s.eventThread

/-! ## What is promised, and when it holds -/

/-- The call in progress is blocked. -/
def CallBlocked : Prop :=
  match s.call with
  | .waiting _ => s.eventHandler_ = false
  | .join => s.thread ≠ .none ∧ s.thread ≠ .ended
  | _ => False

/-- The event thread has nothing to do, or is blocked. -/
def ThreadBlocked : Prop :=
  match s.thread with
  | .none | .ended => True
  | .starting | .execute => s.HoldsMutex
  | .idle => s.stopped = false ∧ s.tasks = []
  | .executeInner => False

/-- The call in progress never returns. -/
def Stuck : Prop :=
  s.call ≠ .returned ∧ s.CallBlocked ∧ s.ThreadBlocked

/-- No report of low latency is to come. -/
def Quiet : Prop :=
  s.tasks = [] ∧ s.thread ≠ .execute ∧ s.thread ≠ .executeInner

instance : Decidable s.Quiet :=
  inferInstanceAs (Decidable (_ ∧ _))

/-- No call is stuck, and with no type and no call the mode is normal and stays so. -/
structure Follows : Prop where
  notStuck : ¬s.Stuck
  normal : s.call = .returned → s.lowLatencySwitchSet_ = ∅ → s.mode = .normal ∧ s.Quiet

/-- The steps that a stop and a task do not meet in, and a close that finds no task. -/
def Timely : LatencyStep → Prop
  -- the mutex is taken while no task is in front of it
  | .goOn => s.call = .release → s.thread ≠ .execute
  -- no first task is begun between the lock and the removal of the tasks
  | .eventThread => s.call = .removeTask → s.thread = .idle → s.stopped = false →
      s.tasks.head? ≠ some .execute
  | .closeLowLatency => s.call = .returned → s.Quiet
  | _ => True

instance (l : LatencyStep) : Decidable (s.Timely l) :=
  match l with
  | .goOn => inferInstanceAs (Decidable (_ → _))
  | .eventThread => inferInstanceAs (Decidable (_ → _ → _ → _))
  | .closeLowLatency => inferInstanceAs (Decidable (_ → _))
  | .enableLowLatency _ | .disableLowLatency _ => inferInstanceAs (Decidable True)

/-! ## What every state has in common -/

/-- The runner has not been stopped : there is none, or its thread is in its loop. -/
structure Running : Prop where
  stopped : s.stopped = false
  thread : s.eventHandler_ = false ∧ s.thread = .none ∧ s.tasks = [] ∨
    s.eventHandler_ = true ∧ (s.thread = .idle ∨ s.thread = .execute ∨ s.thread = .executeInner)

/-- The runner is being made, or is there. -/
structure Starting : Prop where
  stopped : s.stopped = false
  thread : s.eventHandler_ = false ∧ s.thread = .starting ∧ s.tasks = [] ∨
    s.eventHandler_ = true ∧ s.Running

/-- The runner is on its way to the end, if there is one. -/
structure Ending : Prop where
  tasks : s.tasks = []
  thread : s.thread = .none ∨
    s.stopped = true ∧ (s.thread = .idle ∨ s.thread = .executeInner ∨ s.thread = .ended)

/-- What holds where the call is. -/
def Inv : Prop :=
  match s.call with
  | .returned => s.Running ∧ (s.lowLatencySwitchSet_ = ∅ → s.mode = .normal ∧ s.Quiet)
  | .initTimer _ | .postTask _ | .insert _ => s.Running
  | .waiting _ => s.Starting
  | .release => s.Running ∧ s.lowLatencySwitchSet_ = ∅
  | .removeTask => s.Running ∧ s.lowLatencySwitchSet_ = ∅ ∧ s.thread ≠ .execute
  | .stop => s.Running ∧ s.lowLatencySwitchSet_ = ∅ ∧ s.thread ≠ .execute ∧ s.tasks = []
  | .join => s.Ending ∧ s.lowLatencySwitchSet_ = ∅
  | .handleStopTimer => s.Running ∧ s.lowLatencySwitchSet_ = ∅ ∧ s.thread = .none ∧ s.tasks = []

section Steps

variable {s}

/-- The event thread leaves the calls alone. -/
theorem eventThread_frame :
    s.eventThread.call = s.call ∧ s.eventThread.lowLatencySwitchSet_ = s.lowLatencySwitchSet_ := by
  unfold eventThread
  split
  · exact ⟨rfl, rfl⟩
  · exact ⟨rfl, rfl⟩
  · split_ifs <;> exact ⟨rfl, rfl⟩
  · split_ifs
    · exact ⟨rfl, rfl⟩
    · split <;> exact ⟨rfl, rfl⟩
  · split_ifs <;> exact ⟨rfl, rfl⟩
  · exact ⟨rfl, rfl⟩

/-- A thread that is in its loop stays there. -/
theorem Running.eventThread (h : s.Running) : s.eventThread.Running := by
  obtain ⟨hstopped, ⟨hhandler, hthread, htasks⟩ | ⟨hhandler, hthread | hthread | hthread⟩⟩ := h
  · have hsame : s.eventThread = s := by
      simp [LowLatency.eventThread, hthread]
    rw [hsame]
    exact ⟨hstopped, .inl ⟨hhandler, hthread, htasks⟩⟩
  · unfold LowLatency.eventThread
    simp only [hthread, hstopped, Bool.false_eq_true, if_false]
    split
    · exact ⟨hstopped, .inr ⟨hhandler, .inl hthread⟩⟩
    · exact ⟨rfl, .inr ⟨hhandler, .inr (.inl rfl)⟩⟩
    · exact ⟨rfl, .inr ⟨hhandler, .inr (.inr rfl)⟩⟩
  · unfold LowLatency.eventThread
    simp only [hthread]
    split_ifs
    · exact ⟨hstopped, .inr ⟨hhandler, .inr (.inl hthread)⟩⟩
    · exact ⟨hstopped, .inr ⟨hhandler, .inl rfl⟩⟩
  · unfold LowLatency.eventThread
    simp only [hthread]
    exact ⟨hstopped, .inr ⟨hhandler, .inl rfl⟩⟩

/-- With nothing to report the thread does nothing. -/
theorem Running.eventThread_of_quiet (h : s.Running) (hquiet : s.Quiet) : s.eventThread = s := by
  obtain ⟨htasks, hexecute, hinner⟩ := hquiet
  obtain ⟨hstopped, ⟨-, hthread, -⟩ | ⟨-, hthread | hthread | hthread⟩⟩ := h
  · simp [LowLatency.eventThread, hthread]
  · simp [LowLatency.eventThread, hthread, hstopped, htasks]
  · exact absurd hthread hexecute
  · exact absurd hthread hinner

theorem eventThread_handler (h : s.eventHandler_ = true) : s.eventThread.eventHandler_ = true := by
  unfold LowLatency.eventThread
  split
  · exact h
  · exact h
  · split_ifs
    · exact h
    · rfl
  · split_ifs
    · exact h
    · split <;> exact h
  · split_ifs <;> exact h
  · exact h

theorem Starting.eventThread (h : s.Starting) (hfree : ¬s.HoldsMutex) :
    s.eventThread.Starting := by
  obtain ⟨hstopped, ⟨-, hthread, htasks⟩ | ⟨hhandler, hrunning⟩⟩ := h
  · have hidle : s.eventThread = { s with thread := .idle, eventHandler_ := true } := by
      simp [LowLatency.eventThread, hthread, hfree]
    rw [hidle]
    exact ⟨hstopped, .inr ⟨rfl, hstopped, .inr ⟨rfl, .inl rfl⟩⟩⟩
  · have hrunning := hrunning.eventThread
    exact ⟨hrunning.stopped, .inr ⟨eventThread_handler hhandler, hrunning⟩⟩

/-- A task is only begun by a thread that is idle. -/
theorem Running.eventThread_ne_execute (h : s.Running) (hthread : s.thread ≠ .execute)
    (hhead : s.thread = .idle → s.tasks.head? ≠ some .execute) :
    s.eventThread.thread ≠ .execute := by
  obtain ⟨hstopped, ⟨-, hnone, -⟩ | ⟨-, hidle | hexecute | hinner⟩⟩ := h
  · simp [LowLatency.eventThread, hnone]
  · have hhead := hhead hidle
    unfold LowLatency.eventThread
    simp only [hidle, hstopped, Bool.false_eq_true, if_false]
    split
    · exact hthread
    · next htasks => simp [htasks] at hhead
    · nofun
  · exact absurd hexecute hthread
  · simp [LowLatency.eventThread, hinner]

/-- Once the tasks are removed, a thread that is not in front of the mutex posts none. -/
theorem tasks_eventThread (htasks : s.tasks = []) (hthread : s.thread ≠ .execute) :
    s.eventThread.tasks = [] := by
  unfold LowLatency.eventThread
  split
  · exact htasks
  · exact htasks
  · split_ifs <;> exact htasks
  · split_ifs
    · exact htasks
    · rw [htasks]
      exact htasks
  · next hexecute => exact absurd hexecute hthread
  · exact htasks

theorem Ending.eventThread (h : s.Ending) : s.eventThread.Ending := by
  obtain ⟨htasks, hnone | ⟨hstopped, hidle | hinner | hended⟩⟩ := h
  · have hsame : s.eventThread = s := by
      simp [LowLatency.eventThread, hnone]
    rw [hsame]
    exact ⟨htasks, .inl hnone⟩
  · have hend : s.eventThread = { s with thread := .ended } := by
      simp [LowLatency.eventThread, hidle, hstopped]
    rw [hend]
    exact ⟨htasks, .inr ⟨hstopped, .inr (.inr rfl)⟩⟩
  · have hback : s.eventThread = { s with thread := .idle, mode := .low } := by
      simp [LowLatency.eventThread, hinner]
    rw [hback]
    exact ⟨htasks, .inr ⟨hstopped, .inl rfl⟩⟩
  · have hsame : s.eventThread = s := by
      simp [LowLatency.eventThread, hended]
    rw [hsame]
    exact ⟨htasks, .inr ⟨hstopped, .inr (.inr hended)⟩⟩

theorem Inv.eventThread (h : s.Inv) (hl : s.Timely .eventThread) : s.eventThread.Inv := by
  unfold Inv at h ⊢
  rw [eventThread_frame.1, eventThread_frame.2]
  cases hcall : s.call with
  | returned =>
    rw [hcall] at h
    refine ⟨h.1.eventThread, fun hset => ?_⟩
    rw [h.1.eventThread_of_quiet (h.2 hset).2]
    exact h.2 hset
  | initTimer _ | postTask _ | insert _ =>
    rw [hcall] at h
    exact Running.eventThread h
  | waiting _ =>
    rw [hcall] at h
    exact Starting.eventThread h (by simp [HoldsMutex, hcall])
  | release =>
    rw [hcall] at h
    exact ⟨h.1.eventThread, h.2⟩
  | removeTask =>
    rw [hcall] at h
    obtain ⟨hrunning, hset, hthread⟩ := h
    refine ⟨hrunning.eventThread, hset, hrunning.eventThread_ne_execute hthread fun hidle => ?_⟩
    exact hl hcall hidle hrunning.stopped
  | stop =>
    rw [hcall] at h
    obtain ⟨hrunning, hset, hthread, htasks⟩ := h
    refine ⟨hrunning.eventThread, hset, ?_, tasks_eventThread htasks hthread⟩
    exact hrunning.eventThread_ne_execute hthread fun _ => by simp [htasks]
  | join =>
    rw [hcall] at h
    exact ⟨h.1.eventThread, h.2⟩
  | handleStopTimer =>
    rw [hcall] at h
    obtain ⟨hrunning, hset, hthread, htasks⟩ := h
    have hquiet : s.Quiet := ⟨htasks, by simp [hthread], by simp [hthread]⟩
    rw [hrunning.eventThread_of_quiet hquiet]
    exact ⟨hrunning, hset, hthread, htasks⟩

/-- The set that a type is put in is not empty. -/
theorem set_insert_ne_empty (dhType : DHType) :
    (s.insert dhType).lowLatencySwitchSet_ ≠ ∅ := by
  unfold LowLatency.insert
  dsimp only
  split_ifs with hsize
  · intro hempty
    rw [hempty] at hsize
    exact absurd hsize (by decide)
  · exact Finset.insert_ne_empty dhType s.lowLatencySwitchSet_

theorem Inv.of_insert (h : s.Running) (dhType : DHType) : (s.insert dhType).Inv :=
  ⟨⟨h.stopped, h.thread⟩, fun hempty => absurd hempty (set_insert_ne_empty dhType)⟩

theorem Inv.goOn (h : s.Inv) (hl : s.Timely .goOn) : s.goOn.Inv := by
  have hinv := h
  unfold Inv at h
  unfold LowLatency.goOn
  cases hcall : s.call with
  | returned => exact hinv
  | initTimer dhType =>
    rw [hcall] at h
    dsimp only at h ⊢
    split_ifs with hhandler
    · exact ⟨h.stopped, h.thread⟩
    · obtain ⟨hstopped, ⟨hnone, -, htasks⟩ | ⟨hsome, -⟩⟩ := h
      · exact ⟨hstopped, .inl ⟨hnone, rfl, htasks⟩⟩
      · exact absurd hsome hhandler
  | waiting dhType =>
    rw [hcall] at h
    dsimp only at h ⊢
    split_ifs with hhandler
    · obtain ⟨-, ⟨hnone, -⟩ | ⟨-, hrunning⟩⟩ := h
      · rw [hnone] at hhandler
        cases hhandler
      · exact ⟨hrunning.stopped, hrunning.thread⟩
    · exact hinv
  | postTask dhType =>
    rw [hcall] at h
    obtain ⟨hstopped, ⟨hnone, hthread, htasks⟩ | ⟨hsome, hthread⟩⟩ := h
    · exact ⟨hstopped, .inl ⟨hnone, hthread, by simp [hnone, htasks]⟩⟩
    · exact ⟨hstopped, .inr ⟨hsome, hthread⟩⟩
  | insert dhType =>
    rw [hcall] at h
    exact Inv.of_insert h dhType
  | release =>
    rw [hcall] at h
    exact ⟨⟨h.1.stopped, h.1.thread⟩, h.2, hl hcall⟩
  | removeTask =>
    rw [hcall] at h
    obtain ⟨⟨hstopped, ⟨hnone, hthread, htasks⟩ | ⟨hsome, hthread⟩⟩, hset, hne⟩ := h
    · have hempty : (if s.eventHandler_ = true then [] else s.tasks) = [] := by
        simp [htasks]
      exact ⟨⟨hstopped, .inl ⟨hnone, hthread, hempty⟩⟩, hset, hne, hempty⟩
    · exact ⟨⟨hstopped, .inr ⟨hsome, hthread⟩⟩, hset, hne, if_pos hsome⟩
  | stop =>
    rw [hcall] at h
    obtain ⟨⟨-, ⟨-, hthread, -⟩ | ⟨hsome, hthread⟩⟩, hset, hne, htasks⟩ := h
    · exact ⟨⟨htasks, .inl hthread⟩, hset⟩
    · refine ⟨⟨htasks, .inr ⟨by simp [hsome], ?_⟩⟩, hset⟩
      exact hthread.imp_right fun h => .inl (h.resolve_left hne)
  | join =>
    rw [hcall] at h
    dsimp only at h ⊢
    split_ifs with hended
    · exact ⟨⟨rfl, .inl ⟨rfl, rfl, h.1.tasks⟩⟩, h.2, rfl, h.1.tasks⟩
    · exact hinv
  | handleStopTimer =>
    rw [hcall] at h
    obtain ⟨hrunning, -, hthread, htasks⟩ := h
    exact ⟨⟨hrunning.stopped, hrunning.thread⟩,
      fun _ => ⟨rfl, htasks, by simp [hthread], by simp [hthread]⟩⟩

theorem Inv.returned (h : s.Inv) (hcall : s.call = .returned) :
    s.Running ∧ (s.lowLatencySwitchSet_ = ∅ → s.mode = .normal ∧ s.Quiet) := by
  unfold Inv at h
  rwa [hcall] at h

theorem Inv.enableLowLatency (h : s.Inv) (hcall : s.call = .returned) (dhType : DHType) :
    (s.enableLowLatency dhType).Inv := by
  obtain ⟨hrunning, -⟩ := h.returned hcall
  unfold LowLatency.enableLowLatency
  by_cases hvalid : isTypeValid dhType = true
  swap
  · rw [if_pos hvalid]
    exact h
  rw [if_neg (not_not.2 hvalid)]
  split_ifs
  · exact ⟨hrunning.stopped, hrunning.thread⟩
  · exact Inv.of_insert hrunning dhType

theorem Inv.disableLowLatency (h : s.Inv) (hcall : s.call = .returned) (dhType : DHType) :
    (s.disableLowLatency dhType).Inv := by
  obtain ⟨hrunning, -⟩ := h.returned hcall
  unfold LowLatency.disableLowLatency
  by_cases hvalid : isTypeValid dhType = true
  swap
  · rw [if_pos hvalid]
    exact h
  rw [if_neg (not_not.2 hvalid)]
  dsimp only
  split_ifs with hset
  · exact ⟨⟨hrunning.stopped, hrunning.thread⟩, hset⟩
  · exact ⟨⟨hrunning.stopped, hrunning.thread⟩, fun hempty => absurd hempty hset⟩

theorem Inv.closeLowLatency (h : s.Inv) (hcall : s.call = .returned) (hquiet : s.Quiet) :
    s.closeLowLatency.Inv := by
  obtain ⟨hrunning, -⟩ := h.returned hcall
  unfold Inv LowLatency.closeLowLatency
  rw [hcall]
  exact ⟨⟨hrunning.stopped, hrunning.thread⟩, fun _ => ⟨rfl, hquiet⟩⟩

theorem Inv.step (h : s.Inv) {l : LatencyStep} (hl : s.Timely l) : (s.step l).Inv := by
  by_cases hcall : s.call = .returned
  · cases l with
    | enableLowLatency dhType =>
      rw [LowLatency.step, if_pos hcall]
      exact h.enableLowLatency hcall dhType
    | disableLowLatency dhType =>
      rw [LowLatency.step, if_pos hcall]
      exact h.disableLowLatency hcall dhType
    | closeLowLatency =>
      rw [LowLatency.step, if_pos hcall]
      exact h.closeLowLatency hcall (hl hcall)
    | goOn => exact h.goOn hl
    | eventThread => exact h.eventThread hl
  · cases l with
    | enableLowLatency dhType =>
      rw [LowLatency.step, if_neg hcall]
      exact h
    | disableLowLatency dhType =>
      rw [LowLatency.step, if_neg hcall]
      exact h
    | closeLowLatency =>
      rw [LowLatency.step, if_neg hcall]
      exact h
    | goOn => exact h.goOn hl
    | eventThread => exact h.eventThread hl

theorem inv_init : ({} : LowLatency).Inv :=
  ⟨⟨rfl, .inl ⟨rfl, rfl, rfl⟩⟩, fun _ => ⟨rfl, rfl, nofun, nofun⟩⟩

/-- A call that is blocked stays where it is. -/
theorem goOn_of_blocked (h : s.CallBlocked) : s.goOn = s := by
  unfold CallBlocked at h
  unfold LowLatency.goOn
  split at h
  · next hcall => simp [hcall, h]
  · next hcall => simp [hcall, h.1, h.2]
  · exact h.elim

theorem eventThread_of_blocked (h : s.ThreadBlocked) : s.eventThread = s := by
  unfold ThreadBlocked at h
  unfold LowLatency.eventThread
  split at h
  · next hthread => simp [hthread]
  · next hthread => simp [hthread]
  · next hthread => simp [hthread, h]
  · next hthread => simp [hthread, h]
  · next hthread => simp [hthread, h.1, h.2]
  · exact h.elim

/-- A call that is stuck is stuck for good, and with it every other call. -/
theorem Stuck.step (h : s.Stuck) (l : LatencyStep) : s.step l = s := by
  obtain ⟨hcall, hblocked, hthread⟩ := h
  cases l with
  | goOn => exact goOn_of_blocked hblocked
  | eventThread => exact eventThread_of_blocked hthread
  | _ => exact if_neg hcall

/-- Where a call could wait, the event thread does not. -/
theorem Inv.follows (h : s.Inv) : s.Follows := by
  refine ⟨?_, fun hcall => (h.returned hcall).2⟩
  rintro ⟨-, hcall, hthread⟩
  unfold Inv at h
  unfold CallBlocked at hcall
  split at hcall
  · next dhType hwaiting =>
    rw [hwaiting] at h
    obtain ⟨-, ⟨-, hstarting, -⟩ | ⟨hsome, -⟩⟩ := h
    · simp [ThreadBlocked, hstarting, HoldsMutex, hwaiting] at hthread
    · rw [hcall] at hsome
      cases hsome
  · next hjoin =>
    rw [hjoin] at h
    obtain ⟨⟨-, hnone | ⟨hstopped, hidle | hinner | hended⟩⟩, -⟩ := h
    · exact hcall.1 hnone
    · simp [ThreadBlocked, hidle, hstopped] at hthread
    · simp [ThreadBlocked, hinner] at hthread
    · exact hcall.2 hended
  · exact hcall

end Steps

/-- In every run without a stop that meets the first task and without a close that finds a task, no
call is stuck, and with no type and no call the mode is normal and stays so. -/
theorem low_latency_follows (ls : List LatencyStep) (h : Along step Timely {} ls) :
    ∀ pre post, ls = pre ++ post → (pre.foldl step {}).Follows := by
  rintro pre post rfl
  exact (h.of_append.1.invariant (fun _ _ hs hl => hs.step hl) inv_init).follows

/-- A camera asks for low latency, and then `ls`. -/
def opened (ls : List LatencyStep) : List LatencyStep :=
  [.enableLowLatency .CAMERA, .goOn, .eventThread, .goOn, .goOn, .goOn] ++ ls

/-- The stop takes the mutex while the first task is in front of it : neither goes on. And after a
close the two tasks run, and the last mode reported is the low one. -/
theorem low_latency_fails :
    ¬((opened [.eventThread, .disableLowLatency .CAMERA, .goOn, .goOn, .goOn]).foldl step
        {}).Follows ∧
      ¬((opened [.closeLowLatency, .eventThread, .eventThread, .eventThread,
        .eventThread]).foldl step {}).Follows := by
  have hstuck : (opened [.eventThread, .disableLowLatency .CAMERA, .goOn, .goOn, .goOn]).foldl step
      {} = { call := .join, eventHandler_ := true, thread := .execute, stopped := true } := by
    decide +kernel
  have hlow : (opened [.closeLowLatency, .eventThread, .eventThread, .eventThread,
      .eventThread]).foldl step {} = { eventHandler_ := true, thread := .idle, mode := .low } := by
    decide +kernel
  rw [hstuck, hlow]
  refine ⟨fun h => h.notStuck ⟨nofun, ⟨nofun, nofun⟩, .inr (.inr rfl)⟩, fun h => ?_⟩
  exact absurd (h.normal rfl rfl).1 (by decide)

/-- A camera is closed before the first task is begun. -/
theorem low_latency_closed :
    ((opened [.disableLowLatency .CAMERA, .goOn, .goOn, .goOn, .eventThread, .goOn,
      .goOn]).foldl step {}).Follows :=
  low_latency_follows _ (by decide +kernel) _ [] (List.append_nil _).symm

end LowLatency

end DHFwk
