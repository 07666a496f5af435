import DHFwk.TaskPipeline
import Mathlib.Data.List.Perm.Subperm

/-!
# Tasks of one piece of hardware

`EnableTask` and `DisableTask` of the pipeline run in workers : the event handler calls
`DoTask` of what was posted, in order, and `DoTask` hands the body to ffrt, which starts the
bodies that it has in any order. `TaskWorkers` is the pipeline with the tasks that were handed
over, and two logs, of the tasks in the order in which they were pushed and in the order in
which their bodies started. A step of the workers is one of the pipeline, or none
(`pipeline_step`).

`TaskBoard` registers a task by its id and is not asked before one starts, so nothing keeps
the tasks of one networkId and dhId apart. Two of them overlap or swap unless whoever pushes
waits : in runs in which no task is pushed while another of its hardware is under way
(`AfterOthers`), at most one is at work and they start as they were pushed
(`tasks_serial`).
-/

set_option linter.unusedSectionVars false

namespace DHFwk

open Runs

/-- The pipeline, the tasks whose body was handed to ffrt and has not started, and the tasks
in the order in which they were pushed and in which they started. -/
structure TaskWorkers where
  pipeline : TaskPipeline := {}
  submitted : List Task := []
  pushed : List Task := []
  started : List Task := []

/-- One step of the pipeline or its workers. -/
inductive WorkerStep
  | createTask (taskType : TaskType) (fatherTask : Option ℕ)
  | pushTask (task : Task)
  | triggerTask (eventHandler : Bool)
  | doTask
  | doTaskInner (task : Task)
  | goOn (r : RunningTask)
  deriving DecidableEq, Repr

namespace TaskWorkers

/-- The event handler calls `DoTask` of the next task that was posted to it. -/
def doTask (s : TaskWorkers) : TaskWorkers :=
  match s.pipeline.posted.find? (· ∉ s.submitted) with
  | none => s
  | some task => { s with submitted := task :: s.submitted }

/-- A worker starts `DoTaskInner` of a task that was handed over. -/
def doTaskInner (s : TaskWorkers) (task : Task) : TaskWorkers :=
  { s with
    pipeline := s.pipeline.step (.doTask task)
    submitted := s.submitted.erase task
    started := s.started ++ [task] }

def step (s : TaskWorkers) : WorkerStep → TaskWorkers
  | .createTask taskType fatherTask =>
    { s with pipeline := s.pipeline.step (.createTask taskType fatherTask) }
  | .pushTask task =>
    { s with
      pipeline := s.pipeline.step (.pushTask task)
      pushed := if task ∈ s.pipeline.created then s.pushed ++ [task] else s.pushed }
  | .triggerTask eventHandler =>
    { s with pipeline := s.pipeline.step (.triggerTask eventHandler) }
  | .doTask => s.doTask
  | .doTaskInner task => if task ∈ s.submitted then s.doTaskInner task else s
  | .goOn r => { s with pipeline := s.pipeline.step (.goOn r) }

end TaskWorkers

/-- The task enables or disables the hardware `k`. -/
def Task.isOn (hardware : ℕ → String × String) (k : String × String) (task : Task) : Bool :=
  (task.taskType = .ENABLE || task.taskType = .DISABLE) && hardware task.id = k

namespace TaskWorkers

variable (hardware : ℕ → String × String)

/-- `hardware` tells the networkId and the dhId of a task. At most one task of a piece of
hardware is between the start and the end of its body, and the tasks of one start as they
were pushed. -/
structure Serial (s : TaskWorkers) : Prop where
  alone : ∀ k, (s.pipeline.running.filter fun r => r.task.isOn hardware k).length ≤ 1
  inOrder : ∀ k, (s.started.filter (Task.isOn hardware k)).Sublist
    (s.pushed.filter (Task.isOn hardware k))

/-- A task is pushed when no task of its hardware is under way. -/
def AfterOthers (s : TaskWorkers) : WorkerStep → Prop
  | .pushTask task => task ∈ s.pipeline.created → task.isOn hardware (hardware task.id) = true →
    ∀ other ∈ s.pipeline.underWay, other.isOn hardware (hardware task.id) = false
  | _ => True

instance AfterOthers.decidable (s : TaskWorkers) : ∀ l, Decidable (s.AfterOthers hardware l)
  | .pushTask task => inferInstanceAs (Decidable (task ∈ s.pipeline.created →
      task.isOn hardware (hardware task.id) = true →
        ∀ other ∈ s.pipeline.underWay, other.isOn hardware (hardware task.id) = false))
  | .createTask .. => isTrue trivial
  | .triggerTask _ => isTrue trivial
  | .doTask => isTrue trivial
  | .doTaskInner _ => isTrue trivial
  | .goOn _ => isTrue trivial

variable {s : TaskWorkers} {p : Task → Bool}

/-! ## The workers refine the pipeline -/

/-- A step of the workers is a step of the pipeline, or leaves it as it is. -/
theorem pipeline_step (s : TaskWorkers) (l : WorkerStep) :
    (s.step l).pipeline = s.pipeline ∨ ∃ l', (s.step l).pipeline = s.pipeline.step l' := by
  cases l with
  | createTask taskType fatherTask => exact .inr ⟨.createTask taskType fatherTask, rfl⟩
  | pushTask task => exact .inr ⟨.pushTask task, rfl⟩
  | triggerTask eventHandler => exact .inr ⟨.triggerTask eventHandler, rfl⟩
  | doTask =>
    simp only [step, doTask]
    split <;> exact .inl rfl
  | doTaskInner task =>
    simp only [step]
    split_ifs
    · exact .inr ⟨.doTask task, rfl⟩
    · exact .inl rfl
  | goOn r => exact .inr ⟨.goOn r, rfl⟩

/-! ## What the steps move -/

/-- The tasks in the queue or posted. -/
def waiting (s : TaskPipeline) : List Task :=
  s.taskQueue_ ++ s.posted

theorem underWay_eq (s : TaskPipeline) :
    s.underWay = waiting s ++ s.running.map RunningTask.task :=
  (List.append_assoc ..).symm

theorem createTask_eq (s : TaskPipeline) (taskType : TaskType) (fatherTask : Option ℕ) :
    (s.step (.createTask taskType fatherTask)).taskQueue_ = s.taskQueue_ ∧
      (s.step (.createTask taskType fatherTask)).posted = s.posted ∧
      (s.step (.createTask taskType fatherTask)).running = s.running := by
  have hadd : ∀ (s : TaskPipeline) task, (s.addTask task).taskQueue_ = s.taskQueue_ ∧
      (s.addTask task).posted = s.posted ∧ (s.addTask task).running = s.running := by
    intro s task
    unfold TaskPipeline.addTask
    split_ifs <;> exact ⟨rfl, rfl, rfl⟩
  simp only [TaskPipeline.step, TaskPipeline.createTask]
  by_cases hcan : s.canCreate taskType fatherTask = true
  · rw [if_pos hcan]
    by_cases hunknown : taskType = .UNKNOWN
    · rw [if_pos hunknown]
      exact ⟨rfl, rfl, rfl⟩
    · rw [if_neg hunknown]
      cases fatherTask with
      | none => exact hadd _ _
      | some father =>
        dsimp only
        split
        · exact hadd _ _
        · exact hadd _ _
  · rw [if_neg hcan]
    exact ⟨rfl, rfl, rfl⟩

/-- A running task that goes on stays the task that it is, or ends. -/
theorem running_goOn (s : TaskPipeline) (r : RunningTask) :
    waiting (s.step (.goOn r)) = waiting s ∧
      ((s.step (.goOn r)).running.map RunningTask.task).Subperm
        (s.running.map RunningTask.task) := by
  have henter : ∀ phase, r ∈ s.running →
      ((⟨r.task, phase⟩ :: s.running.erase r).map RunningTask.task).Subperm
        (s.running.map RunningTask.task) := fun phase hr =>
    ((List.perm_cons_erase hr).map RunningTask.task).symm.subperm
  have hleave : ((s.running.erase r).map RunningTask.task).Subperm
      (s.running.map RunningTask.task) :=
    (List.erase_sublist.map RunningTask.task).subperm
  simp only [TaskPipeline.step]
  split_ifs with hr
  · unfold TaskPipeline.goOn
    cases r.phase with
    | working =>
      cases r.task.taskType with
      | OFF_LINE => exact ⟨rfl, henter _ hr.1⟩
      | DISABLE => exact ⟨rfl, henter _ hr.1⟩
      | META_DISABLE => exact ⟨rfl, henter _ hr.1⟩
      | UNKNOWN => exact ⟨rfl, hleave⟩
      | ENABLE => exact ⟨rfl, hleave⟩
      | ON_LINE => exact ⟨rfl, hleave⟩
      | META_ENABLE => exact ⟨rfl, hleave⟩
      | EXIT_DFWK => exact ⟨rfl, hleave⟩
    | waiting =>
      dsimp only
      split_ifs
      · exact ⟨rfl, hleave⟩
      · exact ⟨rfl, List.Subperm.refl _⟩
    | removed =>
      dsimp only
      cases r.task.fatherTask with
      | none => exact ⟨rfl, hleave⟩
      | some father => exact ⟨rfl, hleave⟩
  · exact ⟨rfl, List.Subperm.refl _⟩

/-- `TriggerTask` moves a task from the queue to the event handler, or loses it. -/
theorem waiting_triggerTask (s : TaskPipeline) (eventHandler : Bool) :
    (waiting (s.triggerTask eventHandler)).Subperm (waiting s) ∧
      s.posted.Sublist (s.triggerTask eventHandler).posted ∧
      (s.triggerTask eventHandler).running = s.running := by
  unfold TaskPipeline.triggerTask
  split
  · exact ⟨List.Subperm.refl _, List.Sublist.refl _, rfl⟩
  · next task taskQueue hq =>
    cases eventHandler with
    | true =>
      refine ⟨List.Perm.subperm ?_, List.sublist_append_left _ _, rfl⟩
      simp only [waiting, hq, if_true]
      rw [← List.append_assoc]
      exact List.perm_append_comm
    | false =>
      refine ⟨List.Sublist.subperm ?_, List.Sublist.refl _, rfl⟩
      simp only [waiting, hq]
      exact List.sublist_cons_self _ _

/-- A body that starts leaves the tasks that wait. -/
theorem waiting_doTask {s : TaskPipeline} {task : Task} (h : task ∈ s.posted) :
    (waiting s).Perm (task :: waiting (s.step (.doTask task))) ∧
      (s.step (.doTask task)).running = ⟨task, .working⟩ :: s.running := by
  simp only [TaskPipeline.step, if_pos h, TaskPipeline.doTask, waiting]
  refine ⟨?_, trivial⟩
  exact ((List.perm_cons_erase h).append_left s.taskQueue_).trans List.perm_middle

/-! ## Tasks of one piece of hardware -/

/-- Of the tasks that `p` picks at most one is under way; those that have started and the one
that waits are as they were pushed. -/
structure Turns (p : Task → Bool) (s : TaskWorkers) : Prop where
  few : (s.pipeline.underWay.filter p).length ≤ 1
  order : (s.started.filter p ++ (waiting s.pipeline).filter p).Sublist (s.pushed.filter p)

/-- Of two lists of which the longer has at most one element, a permutation is no change. -/
theorem sublist_of_subperm {l l' : List Task} (h : l.Subperm l') (hlen : l'.length ≤ 1) :
    l.Sublist l' := by
  match l', hlen with
  | [], _ =>
    rw [List.subperm_nil.1 h]
  | [task], _ =>
    rcases List.subperm_singleton_iff.1 h with rfl | rfl
    · exact List.nil_sublist _
    · exact List.Sublist.refl _

/-- Tasks wait no more, or end. -/
theorem Turns.move (h : s.Turns p) {t : TaskWorkers}
    (hwaiting : (waiting t.pipeline).Subperm (waiting s.pipeline))
    (hrunning : (t.pipeline.running.map RunningTask.task).Subperm
      (s.pipeline.running.map RunningTask.task))
    (hstarted : t.started = s.started) (hpushed : t.pushed = s.pushed) : t.Turns p where
  few := by
    have hfew := h.few
    rw [underWay_eq] at hfew ⊢
    exact ((hwaiting.append hrunning).filter p).length_le.trans hfew
  order := by
    have hfew := h.few
    rw [underWay_eq, List.filter_append, List.length_append] at hfew
    have hsub := sublist_of_subperm (hwaiting.filter p) (by omega)
    rw [hstarted, hpushed]
    exact (hsub.append_left _).trans h.order

/-- The task of a body that starts was the one that waits. -/
theorem Turns.doTaskInner (h : s.Turns p) {task : Task} (ht : task ∈ s.pipeline.posted) :
    (s.doTaskInner task).Turns p := by
  obtain ⟨hwaiting, hrunning⟩ := waiting_doTask ht
  have hfew := h.few
  rw [underWay_eq, List.filter_append, List.length_append] at hfew
  have hmoved := sublist_of_subperm ((hwaiting.filter p).symm.subperm) (by omega)
  constructor
  · rw [underWay_eq, TaskWorkers.doTaskInner, hrunning, List.map_cons]
    have hperm := (hwaiting.append_right (s.pipeline.running.map RunningTask.task)).filter p
    have hmoved : (waiting (s.pipeline.step (.doTask task)) ++
        task :: s.pipeline.running.map RunningTask.task).Perm
        (task :: (waiting (s.pipeline.step (.doTask task)) ++
          s.pipeline.running.map RunningTask.task)) := List.perm_middle
    have hmiddle := hmoved.filter p
    rw [hmiddle.length_eq, ← List.cons_append, ← hperm.length_eq, List.filter_append,
      List.length_append]
    exact hfew
  · rw [TaskWorkers.doTaskInner, List.filter_append, List.append_assoc]
    refine List.Sublist.trans (List.Sublist.append_left ?_ _) h.order
    rwa [← List.filter_append, List.singleton_append]

/-- A task is pushed after the others of its hardware. -/
theorem Turns.pushTask (h : s.Turns p) {task : Task} (ht : task ∈ s.pipeline.created)
    (hok : p task = true → ∀ other ∈ s.pipeline.underWay, p other = false) :
    (s.step (.pushTask task)).Turns p := by
  have hpushed : (s.step (.pushTask task)).pushed = s.pushed ++ [task] := if_pos ht
  have hpipeline : (s.step (.pushTask task)).pipeline = s.pipeline.pushTask task := if_pos ht
  have hstarted : (s.step (.pushTask task)).started = s.started := rfl
  by_cases hfull : s.pipeline.taskQueue_.length > MAX_TASK_QUEUE_LENGTH
  · -- The task is dropped.
    have hsame : s.pipeline.pushTask task =
        { s.pipeline with created := s.pipeline.created.erase task } := if_pos hfull
    constructor
    · rw [hpipeline, hsame]
      exact h.few
    · rw [hpipeline, hsame, hstarted, hpushed, List.filter_append]
      exact h.order.trans (List.sublist_append_left _ _)
  have hqueued : s.pipeline.pushTask task = { s.pipeline with
      created := s.pipeline.created.erase task
      taskQueue_ := s.pipeline.taskQueue_ ++ [task] } := if_neg hfull
  cases hp : p task with
  | false =>
    constructor
    · rw [hpipeline, hqueued]
      have hfew := h.few
      simp only [TaskPipeline.underWay, List.filter_append, List.filter_cons, hp, List.filter_nil,
        List.append_nil, Bool.false_eq_true, if_false] at hfew ⊢
      exact hfew
    · rw [hpipeline, hqueued, hstarted, hpushed]
      have horder := h.order
      simp only [waiting, List.filter_append, List.filter_cons, hp, List.filter_nil,
        List.append_nil, Bool.false_eq_true, if_false] at horder ⊢
      exact horder
  | true =>
    have hnone : s.pipeline.underWay.filter p = [] :=
      List.filter_eq_nil_iff.2 fun other hmem => by simp [hok hp other hmem]
    simp only [TaskPipeline.underWay, List.filter_append, List.append_eq_nil_iff] at hnone
    obtain ⟨hqueue, hposted, hrunning⟩ := hnone
    have horder := h.order
    rw [waiting, List.filter_append, hqueue, hposted, List.append_nil, List.append_nil] at horder
    constructor
    · rw [hpipeline, hqueued]
      simp [TaskPipeline.underWay, List.filter_append, hqueue, hposted, hrunning, hp]
    · rw [hpipeline, hqueued, hstarted, hpushed]
      simp only [waiting, List.filter_append, hqueue, hposted, List.filter_cons, hp, if_true,
        List.filter_nil, List.nil_append, List.append_nil]
      exact horder.append_right _

/-- What was handed to ffrt is posted still, as the pipeline has it. -/
def Handed (s : TaskWorkers) : Prop :=
  s.submitted.Subperm s.pipeline.posted

theorem Handed.step (h : s.Handed) (l : WorkerStep) : (s.step l).Handed := by
  cases l with
  | createTask taskType fatherTask =>
    rw [Handed, TaskWorkers.step, (createTask_eq _ _ _).2.1]
    exact h
  | pushTask task =>
    simp only [Handed, TaskWorkers.step, TaskPipeline.step, TaskPipeline.pushTask]
    split_ifs <;> exact h
  | triggerTask eventHandler =>
    exact h.trans (waiting_triggerTask s.pipeline eventHandler).2.1.subperm
  | doTask =>
    simp only [TaskWorkers.step, TaskWorkers.doTask]
    split
    · exact h
    · next task hfind =>
      have hnew : task ∉ s.submitted := by simpa using List.find?_some hfind
      exact List.cons_subperm_of_not_mem_of_mem hnew (List.mem_of_find?_eq_some hfind) h
  | doTaskInner task =>
    simp only [TaskWorkers.step]
    split_ifs with ht
    · simp only [Handed, TaskWorkers.doTaskInner, TaskPipeline.step, if_pos (h.subset ht)]
      exact h.erase task
    · exact h
  | goOn r =>
    have hposted : (s.pipeline.step (.goOn r)).posted = s.pipeline.posted := by
      simp only [TaskPipeline.step]
      split_ifs
      · unfold TaskPipeline.goOn
        repeat' split
        all_goals rfl
      · rfl
    rw [Handed, TaskWorkers.step, hposted]
    exact h

theorem Turns.step (h : s.Turns p) (hh : s.Handed) {l : WorkerStep}
    (hok : ∀ task, l = .pushTask task → task ∈ s.pipeline.created → p task = true →
      ∀ other ∈ s.pipeline.underWay, p other = false) : (s.step l).Turns p := by
  cases l with
  | createTask taskType fatherTask =>
    obtain ⟨hqueue, hposted, hrunning⟩ := createTask_eq s.pipeline taskType fatherTask
    refine h.move (List.Perm.subperm ?_) (List.Perm.subperm ?_) rfl rfl
    · rw [TaskWorkers.step, waiting, hqueue, hposted, waiting]
    · rw [TaskWorkers.step, hrunning]
  | pushTask task =>
    by_cases ht : task ∈ s.pipeline.created
    · exact h.pushTask ht (hok task rfl ht)
    · have hsame : s.step (.pushTask task) = s := by
        simp only [TaskWorkers.step, TaskPipeline.step, if_neg ht]
      rw [hsame]
      exact h
  | triggerTask eventHandler =>
    obtain ⟨hwaiting, -, hrunning⟩ := waiting_triggerTask s.pipeline eventHandler
    refine h.move hwaiting (List.Perm.subperm ?_) rfl rfl
    exact List.Perm.of_eq (congrArg _ hrunning)
  | doTask =>
    simp only [TaskWorkers.step, TaskWorkers.doTask]
    split
    · exact h
    · exact ⟨h.few, h.order⟩
  | doTaskInner task =>
    simp only [TaskWorkers.step]
    split_ifs with ht
    · exact h.doTaskInner (hh.subset ht)
    · exact h
  | goOn r =>
    obtain ⟨hwaiting, hrunning⟩ := running_goOn s.pipeline r
    refine h.move (List.Perm.subperm ?_) hrunning rfl rfl
    rw [TaskWorkers.step, hwaiting]

theorem turns_init : Turns p {} :=
  ⟨Nat.zero_le _, List.Sublist.refl _⟩

/-- The tasks of one piece of hardware that are at work are under way. -/
theorem Turns.running (h : s.Turns p) :
    (s.pipeline.running.filter fun r => p r.task).length ≤ 1 := by
  have hfew := h.few
  rw [underWay_eq, List.filter_append, List.length_append, List.filter_map, List.length_map]
    at hfew
  exact (Nat.le_add_left _ _).trans hfew

end TaskWorkers

open TaskWorkers

/-- In every run in which a task is pushed only when no other task of its hardware is under
way, at most one task of each piece of hardware is at work and they start as they were
pushed. -/
theorem tasks_serial (hardware : ℕ → String × String) (ls : List WorkerStep)
    (h : Along TaskWorkers.step (AfterOthers hardware) {} ls) (pre post : List WorkerStep)
    (hp : ls = pre ++ post) : (pre.foldl TaskWorkers.step {}).Serial hardware := by
  subst hp
  have hstep : ∀ (s : TaskWorkers) l, (∀ k, s.Turns (Task.isOn hardware k)) ∧ s.Handed →
      s.AfterOthers hardware l → (∀ k, (s.step l).Turns (Task.isOn hardware k)) ∧
        (s.step l).Handed := by
    rintro s l ⟨hturns, hhanded⟩ hok
    refine ⟨fun k => (hturns k).step hhanded fun task hl ht hon other hmem => ?_, hhanded.step l⟩
    subst hl
    obtain rfl : hardware task.id = k := by
      simp only [Task.isOn, Bool.and_eq_true, decide_eq_true_eq] at hon
      exact hon.2
    exact hok ht hon other hmem
  obtain ⟨hturns, -⟩ := h.of_append.1.invariant hstep
    ⟨fun _ => turns_init, List.Subperm.refl _⟩
  refine ⟨fun k => (hturns k).running, fun k => ?_⟩
  exact (List.sublist_append_left _ _).trans (hturns k).order

/-- A camera is enabled, and disabled when that has ended. -/
theorem tasks_serial_camera :
    let enable : Task := { id := 0, taskType := .ENABLE }
    let disable : Task := { id := 1, taskType := .DISABLE }
    (([.createTask .ENABLE none, .pushTask enable, .triggerTask true, .doTask,
      .doTaskInner enable, .goOn ⟨enable, .working⟩, .createTask .DISABLE none, .pushTask disable,
      .triggerTask true, .doTask, .doTaskInner disable] : List WorkerStep).foldl
        TaskWorkers.step {}).Serial fun _ => ("peer", "camera") :=
  tasks_serial _ _ (by decide) _ [] (List.append_nil _).symm

/-- A camera is disabled while its enabling waits for a worker : the later task starts first,
and both are at work. -/
theorem tasks_not_serial :
    let enable : Task := { id := 0, taskType := .ENABLE }
    let disable : Task := { id := 1, taskType := .DISABLE }
    let hardware : ℕ → String × String := fun _ => ("peer", "camera")
    let s := ([.createTask .ENABLE none, .pushTask enable, .createTask .DISABLE none,
      .pushTask disable, .triggerTask true, .triggerTask true, .doTask, .doTask,
      .doTaskInner disable, .doTaskInner enable] : List WorkerStep).foldl TaskWorkers.step {}
    s.pushed = [enable, disable] ∧ s.started = [disable, enable] ∧
      s.pipeline.running = [⟨enable, .working⟩, ⟨disable, .working⟩] ∧ ¬ s.Serial hardware := by
  refine ⟨by decide, by decide, by decide, fun h => ?_⟩
  exact absurd (h.alone ("peer", "camera")) (by decide)

end DHFwk
