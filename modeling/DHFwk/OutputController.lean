import DHFwk.FrameMeta
import Mathlib.Data.List.Infix
import Mathlib.Data.List.Nodup

/-!
# The output controller

Frames are pushed into a queue. The control thread reads the front under the lock, decides without
it what becomes of the frame, posts it to the handler, and removes it under the lock again if it
is still the front. Meanwhile a push may remove the front of a full queue, a stop or
a switch of the mode clears the queue, and so does the thread itself, when it is in balance.

What is posted and what is to come, without the frame that is in the hands of the thread, stays in
the order of the pushes (`step_inv`). With a handler that runs its tasks in order, so is what
the listener gets (`output_in_order`).
-/

set_option linter.unusedSectionVars false

namespace DHFwk

inductive ControlStatus
  | START
  | STOP
  | RELEASE
  | STARTED
  | STOPPED
  | RELEASED
  deriving DecidableEq, Repr

inductive ControlMode
  | SMOOTH
  | SYNC
  deriving DecidableEq, Repr

namespace OutputController

abbrev QUEUE_MAX_SIZE : ℕ := 100
abbrev INVALID_TIMESTAMP : Int64 := 0

/-- Where the control thread is. From `taken` to `decided` it has a frame that is not posted. -/
inductive Point (Ptr : Type*)
  | unstarted
  | waiting
  | taken (data : Ptr)
  | balancing (data : Ptr)
  | clearing (data : Ptr)
  | decided (data : Ptr)
  | posted (data : Ptr)
  | exited
  deriving DecidableEq

/-- Who moves, and what the environment answers : whether the clock of the other stream is invalid,
whether the process is in balance once, whether the task is taken, which task the handler runs. -/
inductive Label (Ptr : Type*)
  | pushData (data : Option Ptr)
  | startControl
  | prepareControl
  | stopControl
  | releaseControl
  | join
  | registerListener
  | unregisterListener
  | setAllowControlState (state : Bool)
  | take
  | exit
  | control (clockInvalid : Bool)
  | balance (once : Bool)
  | clear
  | post (ret : Bool)
  | pop
  | handle (data : Ptr)
  deriving DecidableEq

end OutputController

/-- The controller, with the frames that `PushData` accepted, that `PostTask` took, whose tasks
ran, and that the listener got. -/
structure OutputController (Ptr : Type*) where
  dataQueue_ : List Ptr := []
  status_ : ControlStatus := .RELEASE
  mode_ : ControlMode := .SMOOTH
  handler_ : Bool := false
  listener_ : Bool := false
  isInDynamicBalance_ : Bool := true
  isAllowControl_ : Bool := true
  dynamicBalanceThre_ : UInt8 := 0
  dynamicBalanceCount_ : UInt8 := 0
  point : OutputController.Point Ptr := .unstarted
  accepted : List Ptr := []
  posted : List Ptr := []
  ran : List Ptr := []
  delivered : List Ptr := []
  deriving DecidableEq

namespace OutputController

variable {Ptr : Type*} [DecidableEq Ptr]

/-! ## The code -/

-- `heap` is what the pointers point to, and `thre` what `PrepareSmooth` sets the threshold to.
variable (heap : Ptr → Buffer) (thre : UInt8)

/-- `ClearQueue`. -/
def clearQueue (s : OutputController Ptr) : OutputController Ptr := { s with dataQueue_ := [] }

/-- `PrepareControl`. -/
def prepareControl (s : OutputController Ptr) : OutputController Ptr :=
  match s.mode_ with
  | .SMOOTH =>
    { s with isInDynamicBalance_ := false, isAllowControl_ := true, dynamicBalanceThre_ := thre }
  | .SYNC => { s with isInDynamicBalance_ := true, isAllowControl_ := true }

/-- `SetControlMode`. -/
def setControlMode (mode : ControlMode) (s : OutputController Ptr) : OutputController Ptr :=
  { s with mode_ := mode }.prepareControl thre

/-- `CheckSyncInfo`. -/
def checkSyncInfo (bufferMeta : BufferMeta) (s : OutputController Ptr) : OutputController Ptr :=
  let isAFrameNumberExist := bufferMeta.AUDIO_SAMPLE_PER_FRAME.isSome
  let isAPtsExist := bufferMeta.MEDIA_START_TIME.isSome
  if s.mode_ = .SYNC ∧ (¬isAFrameNumberExist ∨ ¬isAPtsExist) then
    s.clearQueue.setControlMode thre .SMOOTH
  else if s.mode_ = .SMOOTH ∧ isAFrameNumberExist ∧ isAPtsExist then
    s.clearQueue.setControlMode thre .SYNC
  else s

/-- A full queue loses its front. -/
def evict (s : OutputController Ptr) : OutputController Ptr :=
  if QUEUE_MAX_SIZE < s.dataQueue_.length then { s with dataQueue_ := s.dataQueue_.tail } else s

/-- `PushData`. -/
def pushData (data : Option Ptr) (s : OutputController Ptr) : OutputController Ptr :=
  if s.status_ ≠ .START then s
  else
    match data with
    | none => s.evict
    | some p =>
      match (heap p).bufferMeta with
      | none => s.evict
      | some bufferMeta =>
        let s := s.evict.checkSyncInfo thre bufferMeta
        { s with dataQueue_ := s.dataQueue_ ++ [p], accepted := s.accepted ++ [p] }

/-- `StartControl`. The control thread is made if there is none. -/
def startControl (s : OutputController Ptr) : OutputController Ptr :=
  if s.status_ = .START then s
  else
    { s with
      status_ := .START
      handler_ := true
      point := if s.point = .unstarted then .waiting else s.point }

/-- `StopControl`. -/
def stopControl (s : OutputController Ptr) : OutputController Ptr :=
  if s.status_ = .STOP then s else { s with status_ := .STOP }.clearQueue

/-- `ReleaseControl`, until it waits for the threads. -/
def releaseControl (s : OutputController Ptr) : OutputController Ptr :=
  if s.status_ = .RELEASE then s else { s with status_ := .RELEASE, listener_ := false }

/-- `ControlOutput`, until it looks at the balance. -/
def controlOutput (data : Ptr) (clockInvalid : Bool) (s : OutputController Ptr) :
    OutputController Ptr :=
  if (heap data).pts = INVALID_TIMESTAMP ∨ ¬s.isAllowControl_ then { s with point := .decided data }
  else if s.mode_ = .SYNC ∧ clockInvalid then { s with point := .decided data }
  else { s with point := .balancing data }

/-- `CheckIsProcessInDynamicBalance`, until it clears the queue. -/
def checkIsProcessInDynamicBalance (data : Ptr) (once : Bool) (s : OutputController Ptr) :
    OutputController Ptr :=
  if s.mode_ = .SYNC ∨ s.isInDynamicBalance_ then { s with point := .decided data }
  else
    let count := if once then s.dynamicBalanceCount_ + 1 else 0
    { s with
      dynamicBalanceCount_ := count
      point := if s.dynamicBalanceThre_ ≤ count then .clearing data else .decided data }

/-- `PostOutputEvent`, and the way back where it fails. -/
def postOutputEvent (data : Ptr) (ret : Bool) (s : OutputController Ptr) : OutputController Ptr :=
  if ¬s.handler_ ∨ ¬ret then { s with point := .waiting }
  else { s with posted := s.posted ++ [data], point := .posted data }

/-- The front is removed if it is still `data`. -/
def popFront (data : Ptr) (queue : List Ptr) : List Ptr :=
  if queue.head? = some data then queue.tail else queue

/-- `NotifyOutput`, in a task of the handler. -/
def notifyOutput (data : Ptr) (s : OutputController Ptr) : OutputController Ptr :=
  { s with
    ran := s.ran ++ [data]
    delivered := if s.listener_ then s.delivered ++ [data] else s.delivered }

/-- One step of someone. -/
def step (s : OutputController Ptr) : Label Ptr → OutputController Ptr
  | .pushData data => s.pushData heap thre data
  | .startControl => s.startControl
  | .prepareControl => s.prepareControl thre
  | .stopControl => s.stopControl
  | .releaseControl => s.releaseControl
  | .join => if s.point = .exited then { s with point := .unstarted }.clearQueue else s
  | .registerListener => { s with listener_ := true }
  | .unregisterListener => { s with listener_ := false }
  | .setAllowControlState state => { s with isAllowControl_ := state }
  | .take =>
    match s.point, s.dataQueue_ with
    | .waiting, data :: _ => if s.status_ = .START then { s with point := .taken data } else s
    | _, _ => s
  | .exit => if s.point = .waiting ∧ s.status_ = .RELEASE then { s with point := .exited } else s
  | .control clockInvalid =>
    match s.point with
    | .taken data => s.controlOutput heap data clockInvalid
    | _ => s
  | .balance once =>
    match s.point with
    | .balancing data => s.checkIsProcessInDynamicBalance data once
    | _ => s
  | .clear =>
    match s.point with
    | .clearing data => { s with isInDynamicBalance_ := true, point := .decided data }.clearQueue
    | _ => s
  | .post ret =>
    match s.point with
    | .decided data => s.postOutputEvent data ret
    | _ => s
  | .pop =>
    match s.point with
    | .posted data =>
      { s with dataQueue_ := popFront data s.dataQueue_, point := .waiting }
    | _ => s
  | .handle data => s.notifyOutput data

/-- A run from the beginning. -/
def run (ls : List (Label Ptr)) : OutputController Ptr := ls.foldl (step heap thre) {}

/-- The frame that is pushed. -/
def pushed : Label Ptr → Option Ptr
  | .pushData data => data
  | _ => none

def pushes (ls : List (Label Ptr)) : List Ptr := ls.filterMap pushed

/-- The handler runs its tasks in the order they were posted in, each at most once. -/
def Fifo (s : OutputController Ptr) : Prop := s.ran.Sublist s.posted

/-! ## The order of the queue -/

/-- The frames to come : the one that the thread has, unless it is posted, and the queue without
it. -/
def ahead (queue : List Ptr) : Point Ptr → List Ptr
  | .taken data => data :: popFront data queue
  | .balancing data => data :: popFront data queue
  | .clearing data => data :: popFront data queue
  | .decided data => data :: popFront data queue
  | .posted data => popFront data queue
  | _ => queue

/-- The posted frames and those to come are in the order of the pushes. -/
def InOrder (s : OutputController Ptr) : Prop :=
  (s.posted ++ ahead s.dataQueue_ s.point).Sublist s.accepted

section Proofs

variable {heap thre} {s : OutputController Ptr} {queue queue' : List Ptr} {data : Ptr}

theorem popFront_sublist : (popFront data queue).Sublist queue := by
  unfold popFront
  split_ifs
  · exact List.tail_sublist queue
  · exact List.Sublist.refl queue

theorem sublist_popFront (h : queue' <:+ queue) :
    (popFront data queue').Sublist (popFront data queue) := by
  cases queue with
  | nil => rw [List.suffix_nil.1 h]
  | cons front queue =>
    rcases List.suffix_cons_iff.1 h with rfl | htail
    · exact List.Sublist.refl _
    · refine (popFront_sublist.trans htail.sublist).trans ?_
      unfold popFront
      split_ifs
      · exact List.Sublist.refl queue
      · exact List.sublist_cons_self front queue

theorem popFront_concat (p : Ptr) :
    (popFront data (queue ++ [p])).Sublist (popFront data queue ++ [p]) := by
  cases queue with
  | nil => exact popFront_sublist
  | cons front queue =>
    unfold popFront
    rw [List.cons_append, List.head?_cons, List.head?_cons]
    split_ifs
    · exact List.Sublist.refl _
    · exact List.Sublist.refl _

/-- Fewer frames in the queue, fewer to come. -/
theorem ahead_sublist (h : queue' <:+ queue) (point : Point Ptr) :
    (ahead queue' point).Sublist (ahead queue point) := by
  cases point with
  | taken data | balancing data | clearing data | decided data =>
    exact (sublist_popFront h).cons_cons data
  | posted data => exact sublist_popFront h
  | unstarted | waiting | exited => exact h.sublist

/-- One more frame at the end. -/
theorem ahead_concat (p : Ptr) (point : Point Ptr) :
    (ahead (queue ++ [p]) point).Sublist (ahead queue point ++ [p]) := by
  cases point with
  | taken data | balancing data | clearing data | decided data =>
    exact (popFront_concat p).cons_cons data
  | posted data => exact popFront_concat p
  | unstarted | waiting | exited => exact List.Sublist.refl _

/-- A frame that was not posted is still the front, or not in the queue any more. -/
theorem sublist_cons_popFront : queue.Sublist (data :: popFront data queue) := by
  cases queue with
  | nil => exact List.nil_sublist _
  | cons front queue =>
    unfold popFront
    split_ifs with hfront
    · rw [List.head?_cons, Option.some.injEq] at hfront
      rw [hfront]
      exact List.Sublist.refl _
    · exact List.sublist_cons_self data _

/-! ## What a step keeps -/

/-- Nothing is accepted, posted or handed over, and no frame comes that was not to come. -/
structure Loses (s s' : OutputController Ptr) : Prop where
  ahead : (ahead s'.dataQueue_ s'.point).Sublist (ahead s.dataQueue_ s.point)
  length : s'.dataQueue_.length ≤ s.dataQueue_.length
  accepted : s'.accepted = s.accepted
  posted : s'.posted = s.posted
  ran : s'.ran = s.ran
  delivered : s'.delivered = s.delivered

/-- What holds once `frames` were pushed. -/
structure Inv (frames : List Ptr) (s : OutputController Ptr) : Prop where
  accepted : s.accepted.Sublist frames
  inOrder : s.InOrder
  bounded : s.dataQueue_.length ≤ QUEUE_MAX_SIZE + 1
  handed : s.delivered.Sublist s.ran

variable {s' s'' : OutputController Ptr} {frames : List Ptr}

theorem Loses.refl (s : OutputController Ptr) : Loses s s :=
  ⟨List.Sublist.refl _, le_rfl, rfl, rfl, rfl, rfl⟩

theorem Loses.trans (h : Loses s s') (h' : Loses s' s'') : Loses s s'' :=
  ⟨h'.ahead.trans h.ahead, h'.length.trans h.length, h'.accepted.trans h.accepted,
    h'.posted.trans h.posted, h'.ran.trans h.ran, h'.delivered.trans h.delivered⟩

theorem Loses.inOrder (h : Loses s s') (hs : s.InOrder) : s'.InOrder := by
  unfold InOrder
  rw [h.posted, h.accepted]
  exact (h.ahead.append_left s.posted).trans hs

theorem Inv.of_loses (hs : Inv frames s) (h : Loses s s') : Inv frames s' where
  accepted := by
    rw [h.accepted]
    exact hs.accepted
  inOrder := h.inOrder hs.inOrder
  bounded := h.length.trans hs.bounded
  handed := by
    rw [h.ran, h.delivered]
    exact hs.handed

theorem loses_clearQueue : Loses s s.clearQueue :=
  ⟨ahead_sublist List.nil_suffix s.point, Nat.zero_le _, rfl, rfl, rfl, rfl⟩

theorem loses_setControlMode (mode : ControlMode) : Loses s (s.setControlMode thre mode) := by
  unfold setControlMode prepareControl
  split <;> exact ⟨List.Sublist.refl _, le_rfl, rfl, rfl, rfl, rfl⟩

theorem loses_checkSyncInfo (bufferMeta : BufferMeta) :
    Loses s (s.checkSyncInfo thre bufferMeta) := by
  unfold checkSyncInfo
  dsimp only
  split_ifs
  · exact loses_clearQueue.trans (loses_setControlMode .SMOOTH)
  · exact loses_clearQueue.trans (loses_setControlMode .SYNC)
  · exact Loses.refl s

theorem loses_evict : Loses s s.evict := by
  unfold evict
  split_ifs
  · exact ⟨ahead_sublist (List.tail_suffix _) s.point, by simp, rfl, rfl, rfl, rfl⟩
  · exact Loses.refl s

/-- There is room for one more. -/
theorem length_evict (h : s.dataQueue_.length ≤ QUEUE_MAX_SIZE + 1) :
    s.evict.dataQueue_.length ≤ QUEUE_MAX_SIZE := by
  unfold evict
  split_ifs with hfull
  · rw [List.length_tail]
    omega
  · omega

theorem Inv.mono (hs : Inv frames s) (data : Option Ptr) : Inv (frames ++ data.toList) s :=
  ⟨hs.accepted.trans (List.sublist_append_left _ _), hs.inOrder, hs.bounded, hs.handed⟩

theorem Inv.pushData (hs : Inv frames s) (data : Option Ptr) :
    Inv (frames ++ data.toList) (s.pushData heap thre data) := by
  unfold OutputController.pushData
  split_ifs
  · exact hs.mono data
  cases data with
  | none => exact (hs.of_loses loses_evict).mono none
  | some p =>
    dsimp only
    cases (heap p).bufferMeta with
    | none => exact (hs.of_loses loses_evict).mono (some p)
    | some bufferMeta =>
      have hloses : Loses s.evict (s.evict.checkSyncInfo thre bufferMeta) :=
        loses_checkSyncInfo bufferMeta
      have hroom := hloses.length.trans (length_evict hs.bounded)
      have hkept := (hs.of_loses loses_evict).of_loses hloses
      refine ⟨hkept.accepted.append_right [p], ?_, by simpa using hroom, hkept.handed⟩
      have hinOrder := hkept.inOrder.append_right [p]
      rw [List.append_assoc] at hinOrder
      exact ((ahead_concat p _).append_left _).trans hinOrder

theorem loses_startControl : Loses s s.startControl := by
  unfold startControl
  split_ifs with hstart hpoint
  · exact Loses.refl s
  · refine ⟨?_, le_rfl, rfl, rfl, rfl, rfl⟩
    rw [hpoint]
    exact List.Sublist.refl _
  · exact ⟨List.Sublist.refl _, le_rfl, rfl, rfl, rfl, rfl⟩

theorem loses_stopControl : Loses s s.stopControl := by
  unfold stopControl
  split_ifs
  · exact Loses.refl s
  · exact ⟨ahead_sublist List.nil_suffix s.point, Nat.zero_le _, rfl, rfl, rfl, rfl⟩

/-- The thread goes on with the frame that it has. -/
theorem loses_point {point : Point Ptr} {flag : Bool} {count : UInt8}
    (h : (ahead s.dataQueue_ point).Sublist (ahead s.dataQueue_ s.point)) :
    Loses s { s with isInDynamicBalance_ := flag, dynamicBalanceCount_ := count, point := point } :=
  ⟨h, le_rfl, rfl, rfl, rfl, rfl⟩

theorem loses_controlOutput (hpoint : s.point = .taken data) (clockInvalid : Bool) :
    Loses s (s.controlOutput heap data clockInvalid) := by
  have hahead : ahead s.dataQueue_ s.point = data :: popFront data s.dataQueue_ := by
    rw [hpoint]
    rfl
  unfold controlOutput
  split_ifs <;> exact loses_point (hahead ▸ List.Sublist.refl _)

theorem loses_balance (hpoint : s.point = .balancing data) (once : Bool) :
    Loses s (s.checkIsProcessInDynamicBalance data once) := by
  have hahead : ahead s.dataQueue_ s.point = data :: popFront data s.dataQueue_ := by
    rw [hpoint]
    rfl
  unfold checkIsProcessInDynamicBalance
  dsimp only
  split_ifs <;> exact loses_point (hahead ▸ List.Sublist.refl _)

theorem Inv.postOutputEvent (hs : Inv frames s) (hpoint : s.point = .decided data) (ret : Bool) :
    Inv frames (s.postOutputEvent data ret) := by
  have hahead : ahead s.dataQueue_ s.point = data :: popFront data s.dataQueue_ := by
    rw [hpoint]
    rfl
  unfold OutputController.postOutputEvent
  split_ifs
  · exact hs.of_loses (loses_point (hahead ▸ sublist_cons_popFront))
  · refine ⟨hs.accepted, ?_, hs.bounded, hs.handed⟩
    have hinOrder := hs.inOrder
    unfold InOrder at hinOrder ⊢
    rw [hahead] at hinOrder
    rwa [List.append_assoc]

theorem Inv.notifyOutput (hs : Inv frames s) (data : Ptr) : Inv frames (s.notifyOutput data) := by
  refine ⟨hs.accepted, hs.inOrder, hs.bounded, ?_⟩
  unfold OutputController.notifyOutput
  dsimp only
  split_ifs
  · exact hs.handed.append_right [data]
  · exact hs.handed.trans (List.sublist_append_left s.ran [data])

/-- A step that pushes nothing. -/
theorem Inv.step_of_not_pushed (hk : Inv frames s) (l : Label Ptr)
    (hl : ∀ data, l ≠ .pushData data) : Inv frames (s.step heap thre l) := by
  unfold step
  cases l with
  | pushData data => exact absurd rfl (hl data)
  | startControl => exact hk.of_loses loses_startControl
  | prepareControl => exact hk.of_loses (loses_setControlMode s.mode_)
  | stopControl => exact hk.of_loses loses_stopControl
  | releaseControl =>
    dsimp only
    unfold releaseControl
    split_ifs
    · exact hk
    · exact ⟨hk.accepted, hk.inOrder, hk.bounded, hk.handed⟩
  | join =>
    dsimp only
    split_ifs with hpoint
    · refine hk.of_loses ⟨List.nil_sublist _, Nat.zero_le _, rfl, rfl, rfl, rfl⟩
    · exact hk
  | registerListener => exact ⟨hk.accepted, hk.inOrder, hk.bounded, hk.handed⟩
  | unregisterListener => exact ⟨hk.accepted, hk.inOrder, hk.bounded, hk.handed⟩
  | setAllowControlState state => exact ⟨hk.accepted, hk.inOrder, hk.bounded, hk.handed⟩
  | take =>
    dsimp only
    split
    · next data queue hpoint hqueue =>
      split_ifs
      · refine hk.of_loses (loses_point ?_)
        rw [hpoint, hqueue]
        simp [ahead, popFront]
      · exact hk
    · exact hk
  | exit =>
    dsimp only
    split_ifs with hwaiting
    · refine hk.of_loses (loses_point ?_)
      rw [hwaiting.1]
      exact List.Sublist.refl _
    · exact hk
  | control clockInvalid =>
    dsimp only
    split
    · next data hpoint => exact hk.of_loses (loses_controlOutput hpoint clockInvalid)
    · exact hk
  | balance once =>
    dsimp only
    split
    · next data hpoint => exact hk.of_loses (loses_balance hpoint once)
    · exact hk
  | clear =>
    dsimp only
    split
    · next data hpoint =>
      refine hk.of_loses ((loses_point ?_).trans loses_clearQueue)
      rw [hpoint]
      exact List.Sublist.refl _
    · exact hk
  | post ret =>
    dsimp only
    split
    · next data hpoint => exact hk.postOutputEvent hpoint ret
    · exact hk
  | pop =>
    dsimp only
    split
    · next data hpoint =>
      refine hk.of_loses ⟨?_, popFront_sublist.length_le, rfl, rfl, rfl, rfl⟩
      rw [hpoint]
      exact List.Sublist.refl _
    · exact hk
  | handle data => exact hk.notifyOutput data

/-- **What a step keeps.** -/
theorem step_inv (hs : Inv frames s) (l : Label Ptr) :
    Inv (frames ++ (pushed l).toList) (s.step heap thre l) := by
  cases l with
  | pushData data => exact hs.pushData data
  | _ => exact (hs.step_of_not_pushed _ (by simp)).mono none

/-- What a run keeps. -/
theorem run_inv : ∀ (ls : List (Label Ptr)) {frames : List Ptr} {s : OutputController Ptr},
    Inv frames s → Inv (frames ++ pushes ls) (ls.foldl (step heap thre) s)
  | [], frames, s, hs => by
    rw [pushes, List.filterMap_nil, List.append_nil]
    exact hs
  | l :: ls, frames, s, hs => by
    have hstep : Inv (frames ++ (pushed l).toList) (s.step heap thre l) := step_inv hs l
    have hnext := run_inv ls hstep
    rw [List.append_assoc] at hnext
    have hpushes : pushes (l :: ls) = (pushed l).toList ++ pushes ls := by
      unfold pushes
      rw [List.filterMap_cons]
      cases pushed l <;> rfl
    rw [hpushes]
    exact hnext

theorem inv_empty : Inv [] ({} : OutputController Ptr) :=
  ⟨List.Sublist.refl _, List.Sublist.refl _, Nat.zero_le _, List.Sublist.refl _⟩

end Proofs

/-- **The listener gets the frames in the order of the pushes, each at most once.** -/
theorem output_in_order (ls : List (Label Ptr)) (hpushes : (pushes ls).Nodup)
    (hfifo : Fifo (run heap thre ls)) :
    (run heap thre ls).delivered.Sublist (run heap thre ls).accepted ∧
      (run heap thre ls).accepted.Sublist (pushes ls) ∧
      (run heap thre ls).delivered.Nodup ∧
      (run heap thre ls).dataQueue_.length ≤ QUEUE_MAX_SIZE + 1 := by
  have hinv : Inv (pushes ls) (run heap thre ls) := run_inv ls inv_empty
  have hposted : (run heap thre ls).posted.Sublist (run heap thre ls).accepted :=
    (List.sublist_append_left _ _).trans hinv.inOrder
  have hdelivered := (hinv.handed.trans hfifo).trans hposted
  exact ⟨hdelivered, hinv.accepted, (hdelivered.trans hinv.accepted).nodup hpushes, hinv.bounded⟩

/-- Two frames of a stream, both of which the listener gets. -/
def someFrames : List (Label ℕ) :=
  [.registerListener, .startControl, .pushData (some 1), .take, .control false, .pushData (some 2),
    .balance false, .post true, .pop, .take, .control false, .handle 1, .balance false, .post false,
    .take, .control false, .balance false, .post true, .handle 2]

theorem output_in_order_two :
    (run (fun _ => ⟨1, some { metaType := 0 }, none⟩) 3 someFrames).delivered.Sublist
        (run (fun _ => ⟨1, some { metaType := 0 }, none⟩) 3 someFrames).accepted ∧
      (run (fun _ => ⟨1, some { metaType := 0 }, none⟩) 3 someFrames).delivered = [1, 2] :=
  ⟨(output_in_order _ 3 someFrames (by decide) (by unfold Fifo ; decide +kernel)).1,
    by decide +kernel⟩

end OutputController

end DHFwk
