import DHFwk.Table
import DHFwk.Runs

/-!
# The task pipeline

`TaskFactory::CreateTask` registers a task in `TaskBoard`, and a task that disables hardware
also in the set of children its `OFF_LINE` task waits for. `TaskExecutor` queues it, hands it
to the event handler, and the task runs until it takes itself off the board and tells its
father.

`TaskStep` is one step : a task is created, its creator pushes it, `TriggerTask` takes the
next one out of the queue, the event handler starts one, or a running task goes on to its
next lock. A task is dropped where the queue is too long or where there is no event handler,
and stays registered. `NothingLost` says that this has not happened, that every child an
`OFF_LINE` task waits for is still on its way, and that the queue is not too long. Runs keep it
exactly if their steps are `Delivered` (`pipeline_loses_nothing`).
-/

set_option linter.unusedSectionVars false

namespace DHFwk

open Runs

abbrev MAX_TASK_QUEUE_LENGTH : ℕ := 256

/-- `TaskType`. -/
inductive TaskType
  | UNKNOWN | ENABLE | DISABLE | ON_LINE | OFF_LINE | META_ENABLE | META_DISABLE | EXIT_DFWK
  deriving DecidableEq, Repr

/-- A task of the first type creates, as their father, tasks of the second. -/
def TaskType.creates : TaskType → TaskType → Bool
  | .ON_LINE, taskType => taskType = .ENABLE || taskType = .META_ENABLE
  | .OFF_LINE, taskType => taskType = .DISABLE || taskType = .META_DISABLE
  | _, _ => false

/-- A task : its id, its type and its father. Ids are random in the source, and numbers here. -/
structure Task where
  id : ℕ
  taskType : TaskType
  fatherTask : Option ℕ := none
  deriving DecidableEq, Repr

/-- The task disables hardware : its father waits for it. -/
def Task.isDisable (task : Task) : Bool :=
  task.taskType = .DISABLE || task.taskType = .META_DISABLE

/-- Where a running task is : at work, an `OFF_LINE` task in `WaitDisableTaskFinish`, a task
that disables off the board and about to notify its father. -/
inductive TaskPhase
  | working | waiting | removed
  deriving DecidableEq, Repr

structure RunningTask where
  task : Task
  phase : TaskPhase := .working
  deriving DecidableEq, Repr

/-- The board, the children that `OFF_LINE` tasks wait for, and the tasks by where they are.
`created` are those that `CreateTask` has returned and `PushTask` is yet to be called with. -/
structure TaskPipeline where
  nextId : ℕ := 0
  tasks_ : Table ℕ Task := ∅
  unFinishChildrenTasks_ : Table ℕ (Finset ℕ) := ∅
  created : List Task := []
  taskQueue_ : List Task := []
  posted : List Task := []
  running : List RunningTask := []

namespace TaskPipeline

variable {s : TaskPipeline} {task : Task} {r : RunningTask} {id : ℕ}

/-! ## The board and the children -/

/-- `TaskBoard::AddTask`. -/
def addTask (s : TaskPipeline) (task : Task) : TaskPipeline :=
  if (s.tasks_.lookup task.id).isSome then s
  else { s with tasks_ := s.tasks_.set task.id task }

/-- `TaskBoard::RemoveTask`. -/
def removeTask (s : TaskPipeline) (taskId : ℕ) : TaskPipeline :=
  { s with tasks_ := s.tasks_.remove taskId }

/-- `OffLineTask::AddChildrenTask`. -/
def addChildrenTask (s : TaskPipeline) (father childrenTask : ℕ) : TaskPipeline :=
  let unFinish := insert childrenTask (s.unFinishChildrenTasks_.get father)
  { s with unFinishChildrenTasks_ := s.unFinishChildrenTasks_.set father unFinish }

/-- `OffLineTask::NotifyFatherFinish`. -/
def notifyFatherFinish (s : TaskPipeline) (father taskId : ℕ) : TaskPipeline :=
  let unFinish := (s.unFinishChildrenTasks_.get father).erase taskId
  { s with unFinishChildrenTasks_ := s.unFinishChildrenTasks_.set father unFinish }

/-! ## From the factory to the event handler -/

/-- `TaskFactory::CreateTask`, which makes no task of an invalid type. -/
def createTask (s : TaskPipeline) (taskType : TaskType) (fatherTask : Option ℕ) :
    TaskPipeline :=
  if taskType = .UNKNOWN then s
  else
    let task : Task := ⟨s.nextId, taskType, fatherTask⟩
    let s := { s with nextId := s.nextId + 1, created := task :: s.created }
    match fatherTask with
    | none => s.addTask task
    | some father =>
      if task.isDisable then (s.addChildrenTask father task.id).addTask task
      else s.addTask task

/-- `TaskExecutor::PushTask` of a task that was created. -/
def pushTask (s : TaskPipeline) (task : Task) : TaskPipeline :=
  let s := { s with created := s.created.erase task }
  if s.taskQueue_.length > MAX_TASK_QUEUE_LENGTH then s
  else { s with taskQueue_ := s.taskQueue_ ++ [task] }

/-- One round of `TaskExecutor::TriggerTask` : `PopTask`, which waits while the queue is
empty, and the task goes to the event handler if there is one. -/
def triggerTask (s : TaskPipeline) (eventHandler : Bool) : TaskPipeline :=
  match s.taskQueue_ with
  | [] => s
  | task :: taskQueue =>
    let s := { s with taskQueue_ := taskQueue }
    if eventHandler then { s with posted := s.posted ++ [task] } else s

/-- The event handler runs `DoTask`. -/
def doTask (s : TaskPipeline) (task : Task) : TaskPipeline :=
  { s with posted := s.posted.erase task, running := ⟨task, .working⟩ :: s.running }

/-! ## Running tasks -/

/-- A running task enters another phase. -/
def enter (s : TaskPipeline) (r : RunningTask) (phase : TaskPhase) : TaskPipeline :=
  { s with running := ⟨r.task, phase⟩ :: s.running.erase r }

/-- A running task returns. -/
def leave (s : TaskPipeline) (r : RunningTask) : TaskPipeline :=
  { s with running := s.running.erase r }

/-- A running task goes on. `ExitDfwkTask::DoTaskInner` returns without `RemoveTask`. -/
def goOn (s : TaskPipeline) (r : RunningTask) : TaskPipeline :=
  match r.phase with
  | .working =>
    match r.task.taskType with
    | .OFF_LINE => s.enter r .waiting
    | .EXIT_DFWK => s.leave r
    | .DISABLE | .META_DISABLE => (s.removeTask r.task.id).enter r .removed
    | .UNKNOWN | .ENABLE | .ON_LINE | .META_ENABLE => (s.removeTask r.task.id).leave r
  | .waiting =>
    if s.unFinishChildrenTasks_.get r.task.id = ∅ then (s.removeTask r.task.id).leave r else s
  | .removed =>
    match r.task.fatherTask with
    | none => s.leave r
    | some father => (s.notifyFatherFinish father r.task.id).leave r

/-! ## Steps -/

/-- A thread that may create such a task : any for a task without a father, else the father
at work. -/
def canCreate (s : TaskPipeline) (taskType : TaskType) : Option ℕ → Bool
  | none => true
  | some father => s.running.any fun r =>
      r.task.id = father && r.phase = .working && r.task.taskType.creates taskType

/-- The task created a child that it is yet to push. -/
def isPushing (s : TaskPipeline) (id : ℕ) : Bool :=
  s.created.any fun task => task.fatherTask = some id

end TaskPipeline

/-- One step of the pipeline. -/
inductive PipelineStep
  | createTask (taskType : TaskType) (fatherTask : Option ℕ)
  | pushTask (task : Task)
  | triggerTask (eventHandler : Bool)
  | doTask (task : Task)
  | goOn (r : RunningTask)
  deriving DecidableEq, Repr

namespace TaskPipeline

variable {s : TaskPipeline} {task : Task} {r : RunningTask} {id : ℕ}

def step (s : TaskPipeline) : PipelineStep → TaskPipeline
  | .createTask taskType fatherTask =>
    if s.canCreate taskType fatherTask then s.createTask taskType fatherTask else s
  | .pushTask task => if task ∈ s.created then s.pushTask task else s
  | .triggerTask eventHandler => s.triggerTask eventHandler
  | .doTask task => if task ∈ s.posted then s.doTask task else s
  | .goOn r => if r ∈ s.running ∧ s.isPushing r.task.id = false then s.goOn r else s

/-- The tasks in the queue, posted or running. -/
def underWay (s : TaskPipeline) : List Task :=
  s.taskQueue_ ++ (s.posted ++ s.running.map RunningTask.task)

/-- The tasks that have not started. -/
def notStarted (s : TaskPipeline) : List Task :=
  s.created ++ (s.taskQueue_ ++ s.posted)

/-- The tasks that are not lost. -/
def live (s : TaskPipeline) : List Task :=
  s.created ++ s.underWay

/-- Every registered task is in the queue, posted or running, or its creator is yet to push
it; so is every child that a waiting task waits for, which goes on once none is left; and the
queue is not too long. -/
structure NothingLost (s : TaskPipeline) : Prop where
  registered : ∀ id task, s.tasks_.lookup id = some task → task ∈ s.live
  children : ∀ r ∈ s.running, r.phase = .waiting →
    ∀ id ∈ s.unFinishChildrenTasks_.get r.task.id, id ∈ s.underWay.map Task.id
  woken : ∀ r ∈ s.running, r.phase = .waiting →
    (∀ task ∈ s.underWay, task.fatherTask ≠ some r.task.id) →
      s.unFinishChildrenTasks_.get r.task.id = ∅
  queue : s.taskQueue_.length ≤ MAX_TASK_QUEUE_LENGTH

/-- A task is pushed where the queue has room, taken out of it where there is an event
handler, and does not end without being taken off the board. -/
def Delivered (s : TaskPipeline) : PipelineStep → Prop
  | .pushTask task => task ∈ s.created → s.taskQueue_.length < MAX_TASK_QUEUE_LENGTH
  | .triggerTask eventHandler => s.taskQueue_ ≠ [] → eventHandler = true
  | .goOn r => r ∈ s.running → s.isPushing r.task.id = false → r.task.taskType ≠ .EXIT_DFWK
  | _ => True

/-! ## What every step keeps -/

/-- The child is registered, or its task is off the board and about to notify its father. -/
def IsChild (s : TaskPipeline) (father : ℕ) (task : Task) : Prop :=
  task.fatherTask = some father ∧ task.isDisable = true ∧
    (s.tasks_.lookup task.id = some task ∨ ⟨task, .removed⟩ ∈ s.running)

/-- What holds in every state, of lost tasks too. -/
structure Kept (s : TaskPipeline) : Prop where
  ids : ∀ id task, s.tasks_.lookup id = some task → task.id = id
  fresh : ∀ id, s.nextId ≤ id → s.tasks_.lookup id = none
  nodup : (s.live.map Task.id).Nodup
  liveFresh : ∀ task ∈ s.live, task.id < s.nextId
  before : ∀ task ∈ s.notStarted, s.tasks_.lookup task.id = some task
  onBoard : ∀ r ∈ s.running, r.phase ≠ .removed → s.tasks_.lookup r.task.id = some r.task
  children : ∀ father id, id ∈ s.unFinishChildrenTasks_.get father →
    ∃ task, task.id = id ∧ s.IsChild father task
  waiting : ∀ r ∈ s.running, r.phase = .waiting → r.task.taskType = .OFF_LINE
  removed : ∀ r ∈ s.running, r.phase = .removed → r.task.isDisable = true
  pushing : ∀ task ∈ s.created, ∀ r ∈ s.running, task.fatherTask = some r.task.id →
    r.phase = .working
  offBoard : ∀ r ∈ s.running, r.phase = .removed → s.tasks_.lookup r.task.id = none

theorem kept_init : ({} : TaskPipeline).Kept where
  ids _ _ h := by cases h
  fresh _ _ := rfl
  nodup := List.nodup_nil
  liveFresh _ h := by cases h
  before _ h := by cases h
  onBoard _ h := by cases h
  children _ _ h := by cases h
  waiting _ h := by cases h
  removed _ h := by cases h
  pushing _ h := by cases h
  offBoard _ h := by cases h

theorem live_eq (s : TaskPipeline) :
    s.live = s.notStarted ++ s.running.map RunningTask.task := by
  simp [live, underWay, notStarted]

theorem mem_live : task ∈ s.live ↔ task ∈ s.notStarted ∨ ∃ r ∈ s.running, r.task = task := by
  rw [live_eq, List.mem_append, List.mem_map]

/-- The tasks that run have different ids. -/
theorem Kept.nodup_running (h : s.Kept) : (s.running.map fun r => r.task.id).Nodup := by
  have hnodup := h.nodup
  rw [live_eq, List.map_append, List.map_map] at hnodup
  exact (List.nodup_append.1 hnodup).2.1

/-- A task that runs has another id than one that has not started. -/
theorem Kept.ne_of_notStarted (h : s.Kept) (hr : r ∈ s.running) (ht : task ∈ s.notStarted) :
    task.id ≠ r.task.id := by
  have hnodup := h.nodup
  rw [live_eq, List.map_append, List.map_map] at hnodup
  exact (List.nodup_append.1 hnodup).2.2 _ (List.mem_map_of_mem ht) _ (List.mem_map_of_mem hr)

/-- The other tasks that run are those with another id. -/
theorem Kept.mem_erase (h : s.Kept) (hr : r ∈ s.running) {r' : RunningTask} :
    r' ∈ s.running.erase r ↔ r' ∈ s.running ∧ r'.task.id ≠ r.task.id := by
  rw [h.nodup_running.of_map.mem_erase_iff]
  constructor
  · rintro ⟨hne, hr'⟩
    exact ⟨hr', fun hid => hne (List.inj_on_of_nodup_map h.nodup_running hr' hr hid)⟩
  · rintro ⟨hr', hid⟩
    exact ⟨fun he => hid (by rw [he]), hr'⟩

/-- In a kept state nothing is lost if no registered task is and the queue is not too long. -/
theorem Kept.nothingLost (h : s.Kept)
    (hreg : ∀ id task, s.tasks_.lookup id = some task → task ∈ s.live)
    (hqueue : s.taskQueue_.length ≤ MAX_TASK_QUEUE_LENGTH) : s.NothingLost := by
  have hchild : ∀ r ∈ s.running, r.phase = .waiting →
      ∀ id ∈ s.unFinishChildrenTasks_.get r.task.id,
        ∃ task ∈ s.underWay, task.id = id ∧ task.fatherTask = some r.task.id := by
    intro r hr hwait id hid
    obtain ⟨task, rfl, hfather, -, hboard | hremoved⟩ := h.children _ _ hid
    · rcases List.mem_append.1 (hreg _ _ hboard) with hcreated | hway
      · have hworking := h.pushing task hcreated r hr hfather
        rw [hwait] at hworking
        cases hworking
      · exact ⟨task, hway, rfl, hfather⟩
    · have hmap : task ∈ s.running.map RunningTask.task := List.mem_map.2 ⟨_, hremoved, rfl⟩
      exact ⟨task, List.mem_append_right _ (List.mem_append_right _ hmap), rfl, hfather⟩
  refine ⟨hreg, fun r hr hwait id hid => ?_, fun r hr hwait hnone => ?_, hqueue⟩
  · obtain ⟨task, hway, rfl, -⟩ := hchild r hr hwait id hid
    exact List.mem_map_of_mem hway
  · refine Finset.eq_empty_of_forall_notMem fun id hid => ?_
    obtain ⟨task, hway, -, hfather⟩ := hchild r hr hwait id hid
    exact hnone task hway hfather

/-! ## Tasks that move before they start -/

/-- Tasks that have not started move, start or are lost, and tasks return that are on the
board. -/
theorem Kept.move {t : TaskPipeline} (h : s.Kept) (hid : t.nextId = s.nextId)
    (htasks : t.tasks_ = s.tasks_) (hunFinish : t.unFinishChildrenTasks_ = s.unFinishChildrenTasks_)
    (hlive : t.live.Subperm s.live) (hcreated : t.created ⊆ s.created)
    (hbefore : t.notStarted ⊆ s.notStarted)
    (hrunning : ∀ r ∈ t.running, r ∈ s.running ∨ r.phase = .working ∧ r.task ∈ s.notStarted)
    (hremoved : ∀ r ∈ s.running, r.phase = .removed → r ∈ t.running) : t.Kept where
  ids := by rw [htasks]; exact h.ids
  fresh := by rw [htasks, hid]; exact h.fresh
  nodup := by
    obtain ⟨l, hperm, hsub⟩ := hlive
    exact (hperm.map Task.id).nodup_iff.1 (h.nodup.sublist (hsub.map Task.id))
  liveFresh task ht := by rw [hid]; exact h.liveFresh task (hlive.subset ht)
  before task ht := by rw [htasks]; exact h.before task (hbefore ht)
  onBoard r hr hphase := by
    rw [htasks]
    rcases hrunning r hr with hold | ⟨-, hnew⟩
    · exact h.onBoard r hold hphase
    · exact h.before r.task hnew
  children father id hmem := by
    rw [hunFinish] at hmem
    obtain ⟨task, rfl, hfather, hdisable, hboard | hrun⟩ := h.children father id hmem
    · exact ⟨task, rfl, hfather, hdisable, Or.inl (by rwa [htasks])⟩
    · exact ⟨task, rfl, hfather, hdisable, Or.inr (hremoved _ hrun rfl)⟩
  waiting r hr hphase := by
    rcases hrunning r hr with hold | ⟨hworking, -⟩
    · exact h.waiting r hold hphase
    · rw [hworking] at hphase
      cases hphase
  removed r hr hphase := by
    rcases hrunning r hr with hold | ⟨hworking, -⟩
    · exact h.removed r hold hphase
    · rw [hworking] at hphase
      cases hphase
  pushing task ht r hr hfather := by
    rcases hrunning r hr with hold | ⟨hworking, -⟩
    · exact h.pushing task (hcreated ht) r hold hfather
    · exact hworking
  offBoard r hr hphase := by
    rw [htasks]
    rcases hrunning r hr with hold | ⟨hworking, -⟩
    · exact h.offBoard r hold hphase
    · rw [hworking] at hphase
      cases hphase

theorem live_pushTask (ht : task ∈ s.created)
    (hroom : s.taskQueue_.length ≤ MAX_TASK_QUEUE_LENGTH) :
    (s.pushTask task).live.Perm s.live := by
  rw [pushTask, if_neg (not_lt.2 hroom)]
  refine List.perm_iff_count.2 fun x => ?_
  have hcount := (List.perm_cons_erase ht).count_eq x
  simp only [live, underWay, List.count_append, List.count_cons, List.count_nil] at hcount ⊢
  omega

theorem live_triggerTask : (s.triggerTask true).live.Perm s.live := by
  unfold triggerTask
  split
  · rfl
  · next t q hq =>
    refine List.perm_iff_count.2 fun x => ?_
    simp only [live, underWay, hq, if_true, List.count_append, List.count_cons, List.count_nil]
    omega

theorem live_doTask (ht : task ∈ s.posted) : (s.doTask task).live.Perm s.live := by
  refine List.perm_iff_count.2 fun x => ?_
  have hcount := (List.perm_cons_erase ht).count_eq x
  simp only [doTask, live, underWay, List.count_append, List.map_cons, List.count_cons]
    at hcount ⊢
  omega

theorem Kept.pushTask (h : s.Kept) (ht : task ∈ s.created) : (s.pushTask task).Kept := by
  rcases le_or_gt s.taskQueue_.length MAX_TASK_QUEUE_LENGTH with hroom | hfull
  · have hlive := live_pushTask ht hroom
    rw [TaskPipeline.pushTask, if_neg (not_lt.2 hroom)] at hlive ⊢
    refine h.move rfl rfl rfl hlive.subperm List.erase_subset (fun x hx => ?_)
      (fun r hr => Or.inl hr) fun r hr _ => hr
    rcases List.mem_append.1 hx with hx | hx
    · exact List.mem_append_left _ (List.mem_of_mem_erase hx)
    · simp only [List.mem_append, List.mem_singleton] at hx
      rcases hx with (hx | rfl) | hx
      · exact List.mem_append_right _ (List.mem_append_left _ hx)
      · exact List.mem_append_left _ ht
      · exact List.mem_append_right _ (List.mem_append_right _ hx)
  · rw [TaskPipeline.pushTask, if_pos hfull]
    have hlive : (s.created.erase task ++ s.underWay).Sublist s.live :=
      List.erase_sublist.append_right _
    refine h.move rfl rfl rfl hlive.subperm List.erase_subset (fun x hx => ?_)
      (fun r hr => Or.inl hr) fun r hr _ => hr
    exact (List.erase_sublist.append_right _).subset hx

theorem Kept.triggerTask (h : s.Kept) (eventHandler : Bool) :
    (s.triggerTask eventHandler).Kept := by
  unfold TaskPipeline.triggerTask
  split
  · exact h
  · next task queue hq =>
    have hqueue : ∀ x ∈ queue, x ∈ s.notStarted := fun x hx =>
      List.mem_append_right _ (List.mem_append_left _ (by rw [hq]; exact List.mem_cons_of_mem _ hx))
    have htask : task ∈ s.notStarted :=
      List.mem_append_right _ (List.mem_append_left _ (by rw [hq]; exact List.mem_cons_self))
    cases eventHandler with
    | true =>
      have hlive := live_triggerTask (s := s)
      simp only [TaskPipeline.triggerTask, hq, if_true] at hlive ⊢
      refine h.move rfl rfl rfl hlive.subperm (fun _ hx => hx) (fun x hx => ?_)
        (fun r hr => Or.inl hr) fun r hr _ => hr
      simp only [notStarted, List.mem_append, List.mem_singleton] at hx
      rcases hx with hx | hx | hx | rfl
      · exact List.mem_append_left _ hx
      · exact hqueue x hx
      · exact List.mem_append_right _ (List.mem_append_right _ hx)
      · exact htask
    | false =>
      have hsub : queue.Sublist s.taskQueue_ := by
        rw [hq]
        exact List.sublist_cons_self _ _
      refine h.move rfl rfl rfl ?_ (fun _ hx => hx) ?_ (fun r hr => Or.inl hr) fun r hr _ => hr
      · exact ((hsub.append_right _).append_left _).subperm
      · exact ((hsub.append_right _).append_left _).subset

theorem Kept.doTask (h : s.Kept) (ht : task ∈ s.posted) : (s.doTask task).Kept := by
  have hsub : (s.posted.erase task).Sublist s.posted := List.erase_sublist
  refine h.move rfl rfl rfl (live_doTask ht).subperm (fun _ hx => hx) ?_ (fun r hr => ?_)
    fun r hr _ => List.mem_cons_of_mem _ hr
  · exact ((hsub.append_left _).append_left _).subset
  · rcases List.mem_cons.1 hr with rfl | hr
    · exact Or.inr ⟨rfl, List.mem_append_right _ (List.mem_append_right _ ht)⟩
    · exact Or.inl hr

/-! ## Tasks that are created -/

/-- The sets of children once the task is created. -/
theorem mem_addChildrenTask {father id father' id' : ℕ} :
    id' ∈ (s.addChildrenTask father id).unFinishChildrenTasks_.get father' ↔
      father' = father ∧ id' = id ∨ id' ∈ s.unFinishChildrenTasks_.get father' := by
  simp only [addChildrenTask, Table.get_set]
  split_ifs with hf
  · rw [Finset.mem_insert, hf, and_iff_right rfl]
  · simp [hf]

/-- A task that is created is registered, and its father waits for it if it disables. -/
theorem createTask_of_ne (h : s.Kept) {taskType : TaskType} (hne : taskType ≠ .UNKNOWN)
    (fatherTask : Option ℕ) :
    ∃ task unFinish, task.id = s.nextId ∧ task.fatherTask = fatherTask ∧
      s.createTask taskType fatherTask =
        { s with
          nextId := s.nextId + 1
          tasks_ := s.tasks_.set s.nextId task
          unFinishChildrenTasks_ := unFinish
          created := task :: s.created } ∧
      ∀ father id, id ∈ unFinish.get father ↔
        id = s.nextId ∧ fatherTask = some father ∧ task.isDisable = true ∨
          id ∈ s.unFinishChildrenTasks_.get father := by
  have hnew : (s.tasks_.lookup s.nextId).isSome = false := by rw [h.fresh _ le_rfl]; rfl
  let task : Task := ⟨s.nextId, taskType, fatherTask⟩
  unfold createTask
  rw [if_neg hne]
  cases fatherTask with
  | none =>
    refine ⟨task, s.unFinishChildrenTasks_, rfl, rfl, ?_, fun father id => by simp⟩
    simp [addTask, hnew, task]
  | some father =>
    cases hd : task.isDisable with
    | false =>
      refine ⟨task, s.unFinishChildrenTasks_, rfl, rfl, ?_, fun father id => by simp [hd]⟩
      simp [addTask, hnew, task, hd]
    | true =>
      refine ⟨task, (s.addChildrenTask father s.nextId).unFinishChildrenTasks_, rfl, rfl, ?_, ?_⟩
      · simp [addTask, addChildrenTask, hnew, task, hd]
      · intro father' id
        rw [mem_addChildrenTask, hd]
        simp [and_comm, eq_comm]

theorem Kept.createTask (h : s.Kept) {taskType : TaskType} {fatherTask : Option ℕ}
    (hcan : s.canCreate taskType fatherTask = true) :
    (s.createTask taskType fatherTask).Kept := by
  by_cases hne : taskType = .UNKNOWN
  · rw [TaskPipeline.createTask, if_pos hne]
    exact h
  obtain ⟨task, unFinish, hid, hfather, heq, hchildren⟩ := createTask_of_ne h hne fatherTask
  rw [heq]
  -- Every other task has an older id.
  have hlive : ∀ x ∈ s.live, (s.tasks_.set s.nextId task).lookup x.id = s.tasks_.lookup x.id :=
    fun x hx => Table.lookup_set_ne _ (h.liveFresh x hx).ne _
  have hrun : ∀ r ∈ s.running, r.task ∈ s.live := fun r hr => mem_live.2 (Or.inr ⟨r, hr, rfl⟩)
  constructor
  · intro id x hx
    rw [Table.lookup_set] at hx
    split_ifs at hx with hxid
    · rw [← Option.some.inj hx, hxid, hid]
    · exact h.ids id x hx
  · intro id hlt
    have hlt' : s.nextId + 1 ≤ id := hlt
    rw [Table.lookup_set_ne _ (by omega)]
    exact h.fresh id (by omega)
  · refine List.nodup_cons.2 ⟨fun hmem => ?_, h.nodup⟩
    obtain ⟨x, hx, hxid⟩ := List.mem_map.1 hmem
    have := h.liveFresh x hx
    omega
  · intro x hx
    show x.id < s.nextId + 1
    rcases List.mem_cons.1 hx with rfl | hx
    · omega
    · have := h.liveFresh x hx
      omega
  · intro x hx
    rcases List.mem_cons.1 hx with rfl | hx
    · rw [hid, Table.lookup_set_self]
    · rw [hlive x (mem_live.2 (Or.inl hx))]
      exact h.before x hx
  · intro r hr hphase
    rw [hlive r.task (hrun r hr)]
    exact h.onBoard r hr hphase
  · intro father id hmem
    rcases (hchildren father id).1 hmem with ⟨rfl, hf, hdisable⟩ | hmem
    · refine ⟨task, hid, hfather.trans hf, hdisable, Or.inl ?_⟩
      rw [hid]
      exact Table.lookup_set_self _ _ _
    · obtain ⟨x, rfl, hf, hdisable, hboard | hr⟩ := h.children father id hmem
      · refine ⟨x, rfl, hf, hdisable, Or.inl ((Table.lookup_set_ne _ (fun hx => ?_) _).trans hboard)⟩
        rw [h.fresh _ (ge_of_eq hx)] at hboard
        cases hboard
      · exact ⟨x, rfl, hf, hdisable, Or.inr hr⟩
  · exact h.waiting
  · exact h.removed
  · intro x hx r hr hf
    rcases List.mem_cons.1 hx with rfl | hx
    · rw [hf] at hfather
      rw [← hfather, canCreate, List.any_eq_true] at hcan
      obtain ⟨r', hr', hcan⟩ := hcan
      simp only [Bool.and_eq_true, decide_eq_true_eq] at hcan
      rw [List.inj_on_of_nodup_map h.nodup_running hr hr' hcan.1.1.symm]
      exact hcan.1.2
    · exact h.pushing x hx r hr hf
  · intro r hr hphase
    rw [hlive r.task (hrun r hr)]
    exact h.offBoard r hr hphase

/-! ## Tasks that run -/

theorem live_enter (hr : r ∈ s.running) (phase : TaskPhase) :
    (s.enter r phase).live.Perm s.live := by
  refine List.perm_iff_count.2 fun x => ?_
  have hcount := ((List.perm_cons_erase hr).map RunningTask.task).count_eq x
  simp only [enter, live, underWay, List.count_append, List.map_cons, List.count_cons] at hcount ⊢
  omega

/-- A task that runs and has no child to push enters another phase. -/
theorem Kept.enter (h : s.Kept) (hr : r ∈ s.running) (hpush : s.isPushing r.task.id = false)
    {phase : TaskPhase} (hwaiting : phase = .waiting → r.task.taskType = .OFF_LINE)
    (hold : r.phase = .working) (hnew : phase ≠ .removed) : (s.enter r phase).Kept := by
  have hpart : ∀ r' ∈ (s.enter r phase).running,
      r' = ⟨r.task, phase⟩ ∨ r' ∈ s.running := fun r' hr' => by
    rcases List.mem_cons.1 hr' with he | hr'
    · exact Or.inl he
    · exact Or.inr (List.mem_of_mem_erase hr')
  have hlive := live_enter hr phase
  constructor
  · exact h.ids
  · exact h.fresh
  · exact (hlive.map Task.id).nodup_iff.2 h.nodup
  · exact fun x hx => h.liveFresh x (hlive.subset hx)
  · exact h.before
  · intro r' hr' hphase
    rcases hpart r' hr' with rfl | hr'
    · exact h.onBoard r hr (by rw [hold]; simp)
    · exact h.onBoard r' hr' hphase
  · intro father id hmem
    obtain ⟨x, rfl, hf, hdisable, hboard | hrun⟩ := h.children father id hmem
    · exact ⟨x, rfl, hf, hdisable, Or.inl hboard⟩
    · refine ⟨x, rfl, hf, hdisable, Or.inr (List.mem_cons_of_mem _ ?_)⟩
      refine (List.mem_erase_of_ne ?_).2 hrun
      rintro rfl
      cases hold
  · intro r' hr' hphase
    rcases hpart r' hr' with rfl | hr'
    · exact hwaiting hphase
    · exact h.waiting r' hr' hphase
  · intro r' hr' hphase
    rcases hpart r' hr' with rfl | hr'
    · exact absurd hphase hnew
    · exact h.removed r' hr' hphase
  · intro x hx r' hr' hf
    rcases hpart r' hr' with rfl | hr'
    · have hno : s.isPushing r.task.id = true :=
        List.any_eq_true.2 ⟨x, hx, decide_eq_true hf⟩
      rw [hpush] at hno
      cases hno
    · exact h.pushing x hx r' hr' hf
  · intro r' hr' hphase
    rcases hpart r' hr' with rfl | hr'
    · exact absurd hphase hnew
    · exact h.offBoard r' hr' hphase

/-- A task that disables takes itself off the board. -/
theorem Kept.enterRemoved (h : s.Kept) (hr : r ∈ s.running)
    (hpush : s.isPushing r.task.id = false) (hold : r.phase = .working)
    (hdisable : r.task.isDisable = true) :
    ((s.removeTask r.task.id).enter r .removed).Kept := by
  have hpart : ∀ r' ∈ ((s.removeTask r.task.id).enter r .removed).running,
      r' = ⟨r.task, .removed⟩ ∨ r' ∈ s.running ∧ r'.task.id ≠ r.task.id := fun r' hr' => by
    rcases List.mem_cons.1 hr' with he | hr'
    · exact Or.inl he
    · exact Or.inr ((h.mem_erase hr).1 hr')
  have hlive : ((s.removeTask r.task.id).enter r .removed).live.Perm s.live :=
    live_enter (s := s) hr .removed
  constructor
  · intro id x hx
    simp only [TaskPipeline.enter, removeTask, Table.lookup_remove] at hx
    split_ifs at hx
    exact h.ids id x hx
  · intro id hlt
    simp only [TaskPipeline.enter, removeTask, Table.lookup_remove]
    split_ifs
    · rfl
    · exact h.fresh id hlt
  · exact (hlive.map Task.id).nodup_iff.2 h.nodup
  · exact fun x hx => h.liveFresh x (hlive.subset hx)
  · intro x hx
    exact (Table.lookup_remove_ne _ (h.ne_of_notStarted hr hx)).trans (h.before x hx)
  · intro r' hr' hphase
    rcases hpart r' hr' with rfl | ⟨hr', hne⟩
    · exact absurd rfl hphase
    · exact (Table.lookup_remove_ne _ hne).trans (h.onBoard r' hr' hphase)
  · intro father id hmem
    obtain ⟨x, rfl, hf, hd, hboard | hrun⟩ := h.children father id hmem
    · by_cases hid : x.id = r.task.id
      · have hx : some x = some r.task := by
          rw [← hboard, hid, h.onBoard r hr (by rw [hold]; simp)]
        obtain rfl := Option.some.inj hx
        exact ⟨_, rfl, hf, hd, Or.inr List.mem_cons_self⟩
      · exact ⟨x, rfl, hf, hd, Or.inl ((Table.lookup_remove_ne _ hid).trans hboard)⟩
    · refine ⟨x, rfl, hf, hd, Or.inr (List.mem_cons_of_mem _ ?_)⟩
      refine (List.mem_erase_of_ne ?_).2 hrun
      rintro rfl
      cases hold
  · intro r' hr' hphase
    rcases hpart r' hr' with rfl | ⟨hr', -⟩
    · cases hphase
    · exact h.waiting r' hr' hphase
  · intro r' hr' hphase
    rcases hpart r' hr' with rfl | ⟨hr', -⟩
    · exact hdisable
    · exact h.removed r' hr' hphase
  · intro x hx r' hr' hf
    rcases hpart r' hr' with rfl | ⟨hr', -⟩
    · have hno : s.isPushing r.task.id = true :=
        List.any_eq_true.2 ⟨x, hx, decide_eq_true hf⟩
      rw [hpush] at hno
      cases hno
    · exact h.pushing x hx r' hr' hf
  · intro r' hr' hphase
    rcases hpart r' hr' with rfl | ⟨hr', hne⟩
    · exact Table.lookup_remove_self _ _
    · exact (Table.lookup_remove_ne _ hne).trans (h.offBoard r' hr' hphase)

/-- A task that runs returns, off the board and in no set of children. -/
theorem Kept.retire (h : s.Kept) (hr : r ∈ s.running) {unFinish : Table ℕ (Finset ℕ)}
    (hunFinish : ∀ father id, id ∈ unFinish.get father →
      id ∈ s.unFinishChildrenTasks_.get father ∧ id ≠ r.task.id) :
    ({ s with
      tasks_ := s.tasks_.remove r.task.id
      unFinishChildrenTasks_ := unFinish
      running := s.running.erase r } : TaskPipeline).Kept := by
  have hlive : ({ s with
      tasks_ := s.tasks_.remove r.task.id
      unFinishChildrenTasks_ := unFinish
      running := s.running.erase r } : TaskPipeline).live.Sublist s.live :=
    (((List.erase_sublist.map _).append_left _).append_left _).append_left _
  constructor
  · intro id x hx
    rw [Table.lookup_remove] at hx
    split_ifs at hx
    exact h.ids id x hx
  · intro id hlt
    rw [Table.lookup_remove]
    split_ifs
    · rfl
    · exact h.fresh id hlt
  · exact h.nodup.sublist (hlive.map Task.id)
  · exact fun x hx => h.liveFresh x (hlive.subset hx)
  · intro x hx
    exact (Table.lookup_remove_ne _ (h.ne_of_notStarted hr hx)).trans (h.before x hx)
  · intro r' hr' hphase
    obtain ⟨hr', hne⟩ := (h.mem_erase hr).1 hr'
    exact (Table.lookup_remove_ne _ hne).trans (h.onBoard r' hr' hphase)
  · intro father id hmem
    obtain ⟨hmem, hne⟩ := hunFinish father id hmem
    obtain ⟨x, rfl, hf, hd, hboard | hrun⟩ := h.children father id hmem
    · exact ⟨x, rfl, hf, hd, Or.inl ((Table.lookup_remove_ne _ hne).trans hboard)⟩
    · exact ⟨x, rfl, hf, hd, Or.inr ((h.mem_erase hr).2 ⟨hrun, hne⟩)⟩
  · exact fun r' hr' => h.waiting r' ((h.mem_erase hr).1 hr').1
  · exact fun r' hr' => h.removed r' ((h.mem_erase hr).1 hr').1
  · exact fun x hx r' hr' => h.pushing x hx r' ((h.mem_erase hr).1 hr').1
  · intro r' hr' hphase
    obtain ⟨hr', hne⟩ := (h.mem_erase hr).1 hr'
    exact (Table.lookup_remove_ne _ hne).trans (h.offBoard r' hr' hphase)

/-- A child that a running task which disables nothing has is not its own. -/
theorem Kept.ne_of_child (h : s.Kept) (hr : r ∈ s.running) {father : ℕ}
    (hnot : r.task.isDisable = false ∨ r.task.fatherTask ≠ some father)
    (hid : id ∈ s.unFinishChildrenTasks_.get father) : id ≠ r.task.id := by
  rintro rfl
  obtain ⟨x, hxid, hf, hd, hx⟩ := h.children father _ hid
  have hxr : x = r.task := by
    rcases hx with hboard | hrun
    · by_cases hphase : r.phase = .removed
      · rw [hxid, h.offBoard r hr hphase] at hboard
        cases hboard
      · rw [hxid, h.onBoard r hr hphase] at hboard
        exact (Option.some.inj hboard).symm
    · rw [← List.inj_on_of_nodup_map h.nodup_running hrun hr hxid]
  subst hxr
  rcases hnot with hnot | hnot
  · rw [hd] at hnot
    cases hnot
  · exact hnot hf

/-- What a running task does when it goes on : it starts to wait, returns registered, takes
itself off the board, or returns. -/
theorem goOn_cases (h : s.Kept) (hr : r ∈ s.running) :
    s.goOn r = s ∧ r.task.taskType ≠ .EXIT_DFWK ∨
    s.goOn r = s.enter r .waiting ∧ r.phase = .working ∧ r.task.taskType = .OFF_LINE ∨
    s.goOn r = s.leave r ∧ r.phase = .working ∧ r.task.taskType = .EXIT_DFWK ∨
    s.goOn r = (s.removeTask r.task.id).enter r .removed ∧ r.phase = .working ∧
      r.task.isDisable = true ∨
    ∃ unFinish, s.goOn r = { s with
        tasks_ := s.tasks_.remove r.task.id
        unFinishChildrenTasks_ := unFinish
        running := s.running.erase r } ∧ r.task.taskType ≠ .EXIT_DFWK ∧
      ∀ father id, id ∈ unFinish.get father →
        id ∈ s.unFinishChildrenTasks_.get father ∧ id ≠ r.task.id := by
  have hself : r.task.isDisable = false → ∀ father id,
      id ∈ s.unFinishChildrenTasks_.get father →
        id ∈ s.unFinishChildrenTasks_.get father ∧ id ≠ r.task.id :=
    fun hd father id hid => ⟨hid, h.ne_of_child hr (Or.inl hd) hid⟩
  cases hphase : r.phase with
  | working =>
    cases ht : r.task.taskType with
    | OFF_LINE => exact Or.inr (Or.inl ⟨by simp [goOn, hphase, ht], rfl, rfl⟩)
    | EXIT_DFWK => exact Or.inr (Or.inr (Or.inl ⟨by simp [goOn, hphase, ht], rfl, rfl⟩))
    | DISABLE | META_DISABLE =>
      refine Or.inr (Or.inr (Or.inr (Or.inl ⟨?_, rfl, ?_⟩)))
      · simp [goOn, hphase, ht]
      · simp [Task.isDisable, ht]
    | UNKNOWN | ENABLE | ON_LINE | META_ENABLE =>
      refine Or.inr (Or.inr (Or.inr (Or.inr ⟨_, ?_, by simp, hself ?_⟩)))
      · simp [goOn, hphase, ht, leave, removeTask]
      · simp [Task.isDisable, ht]
  | waiting =>
    have ht := h.waiting r hr hphase
    by_cases hempty : s.unFinishChildrenTasks_.get r.task.id = ∅
    · refine Or.inr (Or.inr (Or.inr (Or.inr ⟨_, ?_, by simp [ht], hself ?_⟩)))
      · simp [goOn, hphase, hempty, leave, removeTask]
      · simp [Task.isDisable, ht]
    · exact Or.inl ⟨by simp [goOn, hphase, hempty], by simp [ht]⟩
  | removed =>
    have hboard : s.tasks_.remove r.task.id = s.tasks_ :=
      Table.remove_of_lookup_none (h.offBoard r hr hphase)
    have hexit : r.task.taskType ≠ .EXIT_DFWK := fun ht => by
      have hd := h.removed r hr hphase
      simp [Task.isDisable, ht] at hd
    cases hf : r.task.fatherTask with
    | none =>
      refine Or.inr (Or.inr (Or.inr (Or.inr ⟨_, ?_, hexit, fun father id hid => ⟨hid, ?_⟩⟩)))
      · simp [goOn, hphase, hf, leave, hboard]
      · exact h.ne_of_child hr (Or.inr (by rw [hf]; simp)) hid
    | some father =>
      refine Or.inr (Or.inr (Or.inr (Or.inr ⟨s.unFinishChildrenTasks_.set father
        ((s.unFinishChildrenTasks_.get father).erase r.task.id), ?_, hexit,
        fun father' id hid => ?_⟩)))
      · simp only [goOn, hphase, hf, TaskPipeline.leave, notifyFatherFinish, hboard]
      · rw [Table.get_set] at hid
        split_ifs at hid with he
        · obtain ⟨hne, hid⟩ := Finset.mem_erase.1 hid
          exact ⟨by rw [he]; exact hid, hne⟩
        · refine ⟨hid, h.ne_of_child hr (Or.inr fun hf' => he ?_) hid⟩
          exact Option.some.inj (hf'.symm.trans hf)

/-- A task that returns registered leaves the rest alone. -/
theorem Kept.leave (h : s.Kept) (hr : r ∈ s.running) (hphase : r.phase = .working) :
    (s.leave r).Kept := by
  have hlive : (s.leave r).live.Sublist s.live :=
    (((List.erase_sublist.map _).append_left _).append_left _).append_left _
  refine h.move rfl rfl rfl hlive.subperm (fun _ hx => hx) (fun _ hx => hx)
    (fun r' hr' => Or.inl (List.mem_of_mem_erase hr')) fun r' hr' hremoved => ?_
  refine (List.mem_erase_of_ne ?_).2 hr'
  rintro rfl
  rw [hphase] at hremoved
  cases hremoved

theorem Kept.step (h : s.Kept) (l : PipelineStep) : (s.step l).Kept := by
  cases l with
  | createTask taskType fatherTask =>
    simp only [TaskPipeline.step]
    split_ifs with hcan
    · exact h.createTask hcan
    · exact h
  | pushTask task =>
    simp only [TaskPipeline.step]
    split_ifs with ht
    · exact h.pushTask ht
    · exact h
  | triggerTask eventHandler => exact h.triggerTask eventHandler
  | doTask task =>
    simp only [TaskPipeline.step]
    split_ifs with ht
    · exact h.doTask ht
    · exact h
  | goOn r =>
    simp only [TaskPipeline.step]
    split_ifs with hgo
    · obtain ⟨hr, hpush⟩ := hgo
      rcases goOn_cases h hr with ⟨heq, -⟩ | ⟨heq, hphase, ht⟩ | ⟨heq, hphase, -⟩ |
        ⟨heq, hphase, hd⟩ | ⟨unFinish, heq, -, hunFinish⟩ <;> rw [heq]
      · exact h
      · exact h.enter hr hpush (fun _ => ht) hphase (by simp)
      · exact h.leave hr hphase
      · exact h.enterRemoved hr hpush hphase hd
      · exact h.retire hr hunFinish
    · exact h

/-! ## One step -/

/-- The tasks that are not lost once a running one has returned. -/
theorem Kept.mem_live_leave (h : s.Kept) (hr : r ∈ s.running) :
    task ∈ (s.leave r).live ↔ task ∈ s.live ∧ task.id ≠ r.task.id := by
  rw [mem_live, mem_live]
  constructor
  · rintro (ht | ⟨r', hr', rfl⟩)
    · exact ⟨Or.inl ht, h.ne_of_notStarted hr ht⟩
    · obtain ⟨hr', hne⟩ := (h.mem_erase hr).1 hr'
      exact ⟨Or.inr ⟨r', hr', rfl⟩, hne⟩
  · rintro ⟨ht | ⟨r', hr', rfl⟩, hne⟩
    · exact Or.inl ht
    · exact Or.inr ⟨r', (h.mem_erase hr).2 ⟨hr', hne⟩, rfl⟩

theorem NothingLost.createTask (hn : s.NothingLost) (h : s.Kept) (taskType : TaskType)
    (fatherTask : Option ℕ) (hnext : (s.createTask taskType fatherTask).Kept) :
    (s.createTask taskType fatherTask).NothingLost := by
  by_cases hne : taskType = .UNKNOWN
  · rw [TaskPipeline.createTask, if_pos hne]
    exact hn
  obtain ⟨task, unFinish, hid, -, heq, -⟩ := createTask_of_ne h hne fatherTask
  rw [heq] at hnext ⊢
  refine hnext.nothingLost (fun id x hx => ?_) hn.queue
  rw [Table.lookup_set] at hx
  split_ifs at hx
  · obtain rfl := Option.some.inj hx
    exact List.mem_cons_self
  · exact List.mem_cons_of_mem _ (hn.registered id x hx)

theorem nothingLost_pushTask_iff (hn : s.NothingLost) (h : s.Kept) (ht : task ∈ s.created) :
    (s.pushTask task).NothingLost ↔ s.taskQueue_.length < MAX_TASK_QUEUE_LENGTH := by
  have hlive := live_pushTask ht hn.queue
  have hnext := h.pushTask ht
  rw [TaskPipeline.pushTask, if_neg (not_lt.2 hn.queue)] at hlive hnext ⊢
  constructor
  · intro hn'
    have := hn'.queue
    simp only [List.length_append, List.length_singleton] at this
    omega
  · intro hroom
    refine hnext.nothingLost (fun id x hx => hlive.symm.subset (hn.registered id x hx)) ?_
    simp only [List.length_append, List.length_singleton]
    omega

theorem nothingLost_triggerTask_iff (hn : s.NothingLost) (h : s.Kept) (eventHandler : Bool) :
    (s.triggerTask eventHandler).NothingLost ↔ s.taskQueue_ ≠ [] → eventHandler = true := by
  have hnext := h.triggerTask eventHandler
  cases hq : s.taskQueue_ with
  | nil =>
    rw [TaskPipeline.triggerTask, hq]
    exact iff_of_true hn fun hne => absurd rfl hne
  | cons task queue =>
    cases eventHandler with
    | true =>
      have hlive := live_triggerTask (s := s)
      refine iff_of_true (hnext.nothingLost (fun id x hx => ?_) ?_) fun _ => rfl
      · refine hlive.symm.subset (hn.registered id x ?_)
        simpa only [TaskPipeline.triggerTask, hq, if_true] using hx
      · have := hn.queue
        simp only [TaskPipeline.triggerTask, hq, if_true, List.length_cons] at this ⊢
        omega
    | false =>
      -- The task is registered and would have to be somewhere else too.
      refine iff_of_false (fun hn' => ?_) fun hall => absurd (hall (by simp)) (by simp)
      have hmem : task ∈ s.notStarted :=
        List.mem_append_right _ (List.mem_append_left _ (by rw [hq]; exact List.mem_cons_self))
      have heq : s.triggerTask false = { s with taskQueue_ := queue } := by
        simp [TaskPipeline.triggerTask, hq]
      rw [heq] at hn'
      have hlive := hn'.registered task.id task (h.before task hmem)
      have hperm : (task :: ({ s with taskQueue_ := queue } : TaskPipeline).live).Perm s.live := by
        refine List.perm_iff_count.2 fun x => ?_
        simp only [live, underWay, hq, List.count_append, List.count_cons]
        omega
      have hnodup := (hperm.map Task.id).nodup_iff.2 h.nodup
      rw [List.map_cons, List.nodup_cons] at hnodup
      exact hnodup.1 (List.mem_map_of_mem hlive)

theorem nothingLost_goOn_iff (hn : s.NothingLost) (h : s.Kept) (hr : r ∈ s.running)
    (hnext : (s.goOn r).Kept) :
    (s.goOn r).NothingLost ↔ r.task.taskType ≠ .EXIT_DFWK := by
  rcases goOn_cases h hr with ⟨heq, ht⟩ | ⟨heq, hphase, ht⟩ | ⟨heq, hphase, ht⟩ |
    ⟨heq, hphase, hd⟩ | ⟨unFinish, heq, ht, hunFinish⟩ <;> rw [heq] at hnext ⊢
  · exact iff_of_true hn ht
  · refine iff_of_true (hnext.nothingLost (fun id x hx => ?_) hn.queue) (by simp [ht])
    exact (live_enter hr .waiting).symm.subset (hn.registered id x hx)
  · -- The task is registered and runs no more.
    refine iff_of_false (fun hn' => ?_) fun hne => hne ht
    have hboard := h.onBoard r hr (by simp [hphase])
    exact ((h.mem_live_leave hr).1 (hn'.registered _ _ hboard)).2 rfl
  · refine iff_of_true (hnext.nothingLost (fun id x hx => ?_) hn.queue) fun ht => ?_
    · simp only [TaskPipeline.enter, removeTask, Table.lookup_remove] at hx
      split_ifs at hx
      exact (live_enter (s := s) hr .removed).symm.subset (hn.registered id x hx)
    · simp [Task.isDisable, ht] at hd
  · refine iff_of_true (hnext.nothingLost (fun id x hx => ?_) hn.queue) ht
    rw [Table.lookup_remove] at hx
    split_ifs at hx with hid
    rw [← h.ids id x hx] at hid
    exact (h.mem_live_leave hr).2 ⟨hn.registered id x hx, hid⟩

/-- Where nothing is lost, a step loses nothing exactly if it is delivered. -/
theorem nothingLost_step_iff (h : s.Kept) (hn : s.NothingLost) (l : PipelineStep) :
    (s.step l).NothingLost ↔ s.Delivered l := by
  have hnext := h.step l
  cases l with
  | createTask taskType fatherTask =>
    refine iff_of_true ?_ trivial
    simp only [TaskPipeline.step] at hnext ⊢
    split_ifs at hnext ⊢
    · exact hn.createTask h taskType fatherTask hnext
    · exact hn
  | pushTask task =>
    simp only [TaskPipeline.step, Delivered]
    split_ifs with ht
    · rw [nothingLost_pushTask_iff hn h ht, forall_prop_of_true ht]
    · exact iff_of_true hn fun ht' => absurd ht' ht
  | triggerTask eventHandler => exact nothingLost_triggerTask_iff hn h eventHandler
  | doTask task =>
    refine iff_of_true ?_ trivial
    simp only [TaskPipeline.step] at hnext ⊢
    split_ifs at hnext ⊢ with ht
    · exact hnext.nothingLost
        (fun id x hx => (live_doTask ht).symm.subset (hn.registered id x hx)) hn.queue
    · exact hn
  | goOn r =>
    simp only [TaskPipeline.step, Delivered] at hnext ⊢
    split_ifs at hnext ⊢ with hgo
    · rw [nothingLost_goOn_iff hn h hgo.1 hnext]
      exact ⟨fun ht _ _ => ht, fun ht => ht hgo.1 hgo.2⟩
    · exact iff_of_true hn fun hr hpush => absurd ⟨hr, hpush⟩ hgo

end TaskPipeline

/-! ## Runs -/

theorem nothingLost_init : ({} : TaskPipeline).NothingLost :=
  TaskPipeline.kept_init.nothingLost (fun _ _ h => by cases h) (Nat.zero_le _)

/-- A run of the pipeline loses nothing exactly if its steps are delivered. -/
theorem pipeline_loses_nothing (ls : List PipelineStep) :
    Along TaskPipeline.step TaskPipeline.Delivered {} ls ↔
      ∀ pre post, ls = pre ++ post → (pre.foldl TaskPipeline.step {}).NothingLost := by
  have hJ : ∀ (s : TaskPipeline) (l : PipelineStep), s.Kept → (s.step l).Kept :=
    fun s l h => h.step l
  have hP : ∀ (s : TaskPipeline) (l : PipelineStep), s.Kept → s.NothingLost →
      ((s.step l).NothingLost ↔ s.Delivered l) := fun s l h hn => s.nothingLost_step_iff h hn l
  exact along_iff hJ hP ls TaskPipeline.kept_init nothingLost_init

/-- A task that exits the framework stays on the board after it has run. An `OFF_LINE` task
waits for a child that `TriggerTask` took out of the queue and gave to nobody. -/
theorem pipeline_loses_tasks :
    (let exit : Task := { id := 0, taskType := .EXIT_DFWK }
     let s := [PipelineStep.createTask .EXIT_DFWK none, .pushTask exit, .triggerTask true,
       .doTask exit, .goOn ⟨exit, .working⟩].foldl TaskPipeline.step {}
     s.tasks_.lookup 0 = some exit ∧ s.live = [] ∧ ¬ s.NothingLost) ∧
    (let offLine : Task := { id := 0, taskType := .OFF_LINE }
     let child : Task := { id := 1, taskType := .DISABLE, fatherTask := some 0 }
     let s := [PipelineStep.createTask .OFF_LINE none, .pushTask offLine, .triggerTask true,
       .doTask offLine, .createTask .DISABLE (some 0), .pushTask child,
       .goOn ⟨offLine, .working⟩, .triggerTask false].foldl TaskPipeline.step {}
     s.running = [⟨offLine, .waiting⟩] ∧ s.unFinishChildrenTasks_.get 0 = {1} ∧
       s.live = [offLine] ∧ ¬ s.NothingLost) := by
  refine ⟨⟨by decide, by decide, fun h => ?_⟩, by decide, by decide, by decide, fun h => ?_⟩
  · have hlive := h.registered 0 { id := 0, taskType := .EXIT_DFWK } (by decide)
    exact absurd hlive (by decide)
  · have hlive := h.registered 1 { id := 1, taskType := .DISABLE, fatherTask := some 0 } (by decide)
    exact absurd hlive (by decide)

end DHFwk
