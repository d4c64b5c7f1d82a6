import Mealy.Proofs.RunEdges
import Mealy.Store.DelegationStore

/-! The task rows against the domain's task lifecycle. Every transaction writes task
rows by statements of its own; which of them follow the edges of the domain's state
machine, one revision for each change, is decided per operation. -/

namespace Mealy
open Relational Transaction

variable {s s' : Store} {status : TaskStatus}

/-! ### The domain's state machine -/

def TaskStatus.allowed : TaskStatus → TaskStatus → Bool
  | .queued, .running | .queued, .cancelled => true
  | .running, .waiting | .running, .paused | .running, .cancelling | .running, .succeeded | .running, .failed => true
  | .waiting, .queued | .waiting, .cancelled | .paused, .queued | .paused, .cancelled => true
  | .cancelling, .cancelled | .cancelling, .failed => true
  | _, _ => false

inductive Changes : Nat → TaskStatus → TaskStatus → Prop where
  | none {status : TaskStatus} : Changes 0 status status
  | more {n first next last} (edge : first.allowed next = true) (rest : Changes n next last) :
      Changes (n + 1) first last

/-- The row follows the lifecycle, and its revision counts the changes. -/
def Task.Evolves (task task' : Task) : Prop :=
  ∃ n, Changes n task.status task'.status ∧ task'.revision = task.revision + n

def Lifecycle (s s' : Store) : Prop :=
  ∀ taskId task, s.tasks.get taskId = some task → ∃ task', s'.tasks.get taskId = some task' ∧ task.Evolves task'

theorem changes_zero_iff {first last} : Changes 0 first last ↔ first = last := by
  constructor
  · rintro ⟨⟩
    rfl
  · rintro rfl
    exact .none

theorem changes_succ_iff {n first last} :
    Changes (n + 1) first last ↔ ∃ next, first.allowed next = true ∧ Changes n next last := by
  constructor
  · rintro ⟨⟩
    next next edge rest => exact ⟨next, edge, rest⟩
  · rintro ⟨next, edge, rest⟩
    exact .more edge rest

theorem Task.Evolves.refl (task : Task) : task.Evolves task := ⟨0, .none, rfl⟩

theorem Task.evolves_iff {task task' : Task} {n : Nat} (bumped : task'.revision = task.revision + n) :
    task.Evolves task' ↔ Changes n task.status task'.status := by
  constructor
  · rintro ⟨m, changes, counted⟩
    have same : m = n := by omega
    exact same ▸ changes
  · exact fun changes => ⟨n, changes, bumped⟩

theorem Task.evolves_once {task task' : Task} (bumped : task'.revision = task.revision + 1) :
    task.Evolves task' ↔ task.status.allowed task'.status = true := by
  rw [Task.evolves_iff bumped, changes_succ_iff]
  constructor
  · rintro ⟨next, edge, rest⟩
    exact changes_zero_iff.mp rest ▸ edge
  · exact fun edge => ⟨_, edge, .none⟩

theorem TaskStatus.allowed_live {first last : TaskStatus} (edge : first.allowed last = true) :
    first.isTerminal = false := by
  cases first <;> cases last <;> first | rfl | cases edge

/-! ### Writes to task rows -/

/-- A step leaves terminal rows alone, and follows the lifecycle under exactly this
condition. -/
structure TaskStep (s s' : Store) (condition : Prop) : Prop where
  terminal : ∀ taskId task, s.tasks.get taskId = some task → task.status.isTerminal = true →
    s'.tasks.get taskId = some task
  lifecycle : Lifecycle s s' ↔ condition

theorem TaskStep.congr {s s' condition condition'} (step : TaskStep s s' condition)
    (same : condition ↔ condition') : TaskStep s s' condition' :=
  ⟨step.terminal, step.lifecycle.trans same⟩

theorem TaskStep.keep {s s'}
    (kept : ∀ taskId task, s.tasks.get taskId = some task → s'.tasks.get taskId = some task) : TaskStep s s' True :=
  ⟨fun taskId task stored _ => kept taskId task stored,
    iff_of_true (fun taskId task stored => ⟨task, kept taskId task stored, .refl task⟩) trivial⟩

theorem TaskStep.same {s s'} (tasks : s'.tasks = s.tasks) : TaskStep s s' True :=
  .keep fun _ _ stored => by rw [tasks, stored]

theorem TaskStep.one {s s' taskId task task'} (found : s.tasks.get taskId = some task)
    (live : task.status.isTerminal = false) (own : s'.tasks.get taskId = some task')
    (others : ∀ id other, s.tasks.get id = some other → id ≠ taskId → s'.tasks.get id = some other) :
    TaskStep s s' (task.Evolves task') := by
  refine ⟨fun id other stored ended => others id other stored ?_, fun follows => ?_, fun evolves id other stored => ?_⟩
  · rintro rfl
    cases found.symm.trans stored
    cases live.symm.trans ended
  · obtain ⟨row, stored, evolves⟩ := follows taskId task found
    cases own.symm.trans stored
    exact evolves
  · by_cases same : id = taskId
    · subst same
      cases found.symm.trans stored
      exact ⟨task', own, evolves⟩
    · exact ⟨other, others id other stored same, .refl other⟩

theorem TaskStep.two {firstId secondId first first' second second'}
    (found : s.tasks.get firstId = some first) (secondFound : s.tasks.get secondId = some second)
    (live : first.status.isTerminal = false) (secondLive : second.status.isTerminal = false)
    (own : s'.tasks.get firstId = some first') (secondOwn : s'.tasks.get secondId = some second')
    (others : ∀ id other, s.tasks.get id = some other → id ≠ firstId → id ≠ secondId →
      s'.tasks.get id = some other) :
    TaskStep s s' (first.Evolves first' ∧ second.Evolves second') := by
  refine ⟨fun id other stored ended => others id other stored ?_ ?_, fun follows => ⟨?_, ?_⟩,
    fun ⟨evolves, secondEvolves⟩ id other stored => ?_⟩
  · rintro rfl
    cases found.symm.trans stored
    cases live.symm.trans ended
  · rintro rfl
    cases secondFound.symm.trans stored
    cases secondLive.symm.trans ended
  · obtain ⟨row, stored, evolves⟩ := follows firstId first found
    cases own.symm.trans stored
    exact evolves
  · obtain ⟨row, stored, evolves⟩ := follows secondId second secondFound
    cases secondOwn.symm.trans stored
    exact evolves
  · by_cases isFirst : id = firstId
    · subst isFirst
      cases found.symm.trans stored
      exact ⟨first', own, evolves⟩
    by_cases isSecond : id = secondId
    · subst isSecond
      cases secondFound.symm.trans stored
      exact ⟨second', secondOwn, secondEvolves⟩
    exact ⟨other, others id other stored isFirst isSecond, .refl other⟩

theorem TaskStep.put {taskId task task'} (found : s.tasks.get taskId = some task)
    (live : task.status.isTerminal = false) (tasks : s'.tasks = s.tasks.put taskId task')
    (bumped : task'.revision = task.revision + 1) : TaskStep s s' (task.status.allowed task'.status = true) := by
  refine (TaskStep.one found live (by rw [tasks, Table.get_put_self]) ?_).congr (Task.evolves_once bumped)
  rw [tasks]
  exact Table.others_put

theorem TaskStep.edge {taskId : TaskId} {task : Task}
    (found : s.tasks.get taskId = some task) (edge : task.status.allowed status = true)
    (tasks : s'.tasks = s.tasks.put taskId { task with status, revision := task.revision + 1 }) : TaskStep s s' True :=
  (TaskStep.put found (TaskStatus.allowed_live edge) tasks rfl).congr (iff_true_intro edge)

/-! ### The conditions -/

/-- A completion follows the lifecycle unless it cancels a running task, or delivers to
a parent whose cancellation was requested: that row is updated without a change. -/
def CompleteRunCommit.keepsLifecycle (commit : CompleteRunCommit) (s : Store) : Prop :=
  ∀ run task, s.runs.get commit.fence.runId = some run → s.tasks.get run.taskId = some task →
    (commit.status = .cancelled → task.status = .cancelling) ∧
    ∀ turn ∈ s.turnOfRun commit.fence.runId, turn.2.kind = .delegated →
      ∀ delegation ∈ s.delegations.find (fun _ row =>
        row.childRunId = commit.fence.runId ∧ row.childTaskId = run.taskId ∧ row.state = .running),
      ∀ parent ∈ s.runs.get delegation.2.parentRunId, parent.cancellationRequestedAt = none

/-- A new cancellation follows it when the task, and the task of an active child that is
not cancelling already, are running. -/
def RequestTaskCancellationCommit.keepsLifecycle (commit : RequestTaskCancellationCommit) (s : Store) : Prop :=
  s.cancellations.get (commit.ownership, commit.idempotencyKey) = none →
    ∀ task runId run, s.tasks.get commit.taskId = some task → s.runOfTask commit.taskId = some (runId, run) →
      task.status = .running ∧ ∀ delegation ∈ s.activeDelegations runId,
        ∀ child ∈ s.tasks.get delegation.2.childTaskId, child.status = .running ∨ child.status = .cancelling

/-- A pause follows it for a running task whose lease, if its run is running, can be
recovered without waiting; a resume when the run is queued. -/
def TaskControlCommit.keepsLifecycle (commit : TaskControlCommit) (s : Store) : Prop :=
  ∀ task runId run, s.tasks.get commit.taskId = some task → s.runOfTask commit.taskId = some (runId, run) →
    match commit.action with
    | .pause => task.status = .running ∧
        (run.status = .running → ∀ held ∈ s.activeLease runId, ¬ s.leaseBlocked held.1 held.2)
    | .resume => run.status = .queued

/-- When an operation follows the lifecycle. A recorded validation counts a revision for
no change of status. -/
def Operation.keepsLifecycle (op : Operation) (s : Store) : Prop :=
  match op with
  | completeRun commit => commit.keepsLifecycle s
  | requestTaskCancellation commit => commit.keepsLifecycle s
  | controlTask commit => commit.keepsLifecycle s
  | recordValidation _ => False
  | _ => True

/-! ### Leases -/

theorem recoverLease_tasks {commit} (ok : recoverLease commit s = .ok s') :
    TaskStep s s' True := by
  obtain ⟨_, _, _, _, _, run, tasks, _, _, _, _, _, _, _, _, _, stage, rfl⟩ := recoverLease_ok ok
  rcases stage with ⟨_, rfl⟩ | ⟨task, _, found, ⟨running, rfl⟩ | ⟨_, rfl⟩⟩
  · exact .same rfl
  · exact .edge found (by rw [running]; rfl) rfl
  · exact .same rfl

theorem claimNext_tasks {commit} (ok : claimNext commit s = .ok s') :
    TaskStep s s' True := by
  rcases claimNext_ok ok with rfl | ⟨_, run, task, _, _, selectable, _, found, _, rfl⟩
  · exact .same rfl
  · by_cases queued : task.status = .queued
    · have tasks : s.tasks.put run.taskId (if task.status = .queued
          then { task with status := .running, revision := task.revision + 1 } else task) =
          s.tasks.put run.taskId { task with status := .running, revision := task.revision + 1 } := by
        rw [if_pos queued]
      exact .edge found (by rw [queued]; rfl) tasks
    · refine .keep fun taskId other stored => ?_
      rw [Table.get_put, if_neg queued]
      split
      next same =>
        rw [same, found] at stored
        rw [stored]
      next => exact stored

/-! ### Promotion and completion -/

theorem promoteNext_tasks {commit} (ok : promoteNext commit s = .ok s') :
    TaskStep s s' True := by
  rcases promoteNext_ok ok with rfl | ⟨_, _, _, _, _, ⟨_, inserted⟩ | ⟨_, active, _, loaded, steered |
    ⟨_, _, interrupted⟩⟩⟩
  · exact .same rfl
  · obtain ⟨fresh, _, _, _, rfl⟩ := insertWorkGraph_ok inserted
    exact .keep (Table.kept_put_fresh fresh)
  · obtain ⟨_, rfl⟩ := steerActive_ok steered
    exact .same rfl
  · obtain ⟨_, _, found, _⟩ := Store.loadActive_ok loaded
    obtain ⟨_, ⟨_, queued, rfl⟩ | ⟨_, running, _, rfl⟩⟩ := interruptActive_ok interrupted
    · exact .edge found (by rw [queued]; rfl) rfl
    · exact .edge found (by rw [running]; rfl) rfl

theorem RunCompletionStatus.allowed_iff {status : RunCompletionStatus} {from_ : TaskStatus}
    (stage : from_ = .running ∨ from_ = .cancelling) (success : status = .succeeded → from_ = .running) :
    from_.allowed status.taskStatus = true ↔ (status = .cancelled → from_ = .cancelling) := by
  rcases stage with rfl | rfl <;> cases status <;>
    simp_all [TaskStatus.allowed, RunCompletionStatus.taskStatus]

/-- The condition, read at the rows that the completion has loaded. -/
theorem CompleteRunCommit.keepsLifecycle_iff {commit : CompleteRunCommit} {run task turn}
    (found : s.runs.get commit.fence.runId = some run) (taskFound : s.tasks.get run.taskId = some task)
    (carried : s.turnOfRun commit.fence.runId = some turn) :
    commit.keepsLifecycle s ↔ (commit.status = .cancelled → task.status = .cancelling) ∧
      (turn.2.kind = .delegated → ∀ delegation ∈ s.delegations.find (fun _ row =>
        row.childRunId = commit.fence.runId ∧ row.childTaskId = run.taskId ∧ row.state = .running),
        ∀ parent ∈ s.runs.get delegation.2.parentRunId, parent.cancellationRequestedAt = none) := by
  constructor
  · intro keeps
    obtain ⟨ends, parents⟩ := keeps run task found taskFound
    exact ⟨ends, parents _ carried⟩
  · rintro ⟨ends, parents⟩ run row runFound rowFound
    cases found.symm.trans runFound
    cases taskFound.symm.trans rowFound
    refine ⟨ends, fun turn of => ?_⟩
    rw [Option.mem_def, carried] at of
    cases of
    exact parents

theorem completeRun_tasks {commit : CompleteRunCommit} (ok : completeRun commit s = .ok s') :
    TaskStep s s' (commit.keepsLifecycle s) := by
  obtain ⟨owner, task, settled, finished, loaded, settles, finishes, delivers⟩ := completeRun_ok ok
  obtain ⟨loaded, taskFound, stage, success⟩ := Store.loadCompletion_ok loaded
  obtain ⟨_, under, _, _, _, carried, _⟩ := Store.loadFencedOwner_ok.mp loaded
  obtain ⟨found, _, _⟩ := Store.runningUnder_eq_some.mp under
  obtain ⟨sameTasks, sameRuns, sameDelegations⟩ := settles.kept
  obtain ⟨_, _, _, _, rfl⟩ := finishRun_ok finishes
  have live : task.status.isTerminal = false := by rcases stage with same | same <;> rw [same] <;> rfl
  have own (revised : Task) (ended : revised.status = commit.status.taskStatus)
      (bumped : revised.revision = task.revision + 1) :
      task.Evolves revised ↔ (commit.status = .cancelled → task.status = .cancelling) := by
    rw [Task.evolves_once bumped, ended]
    exact RunCompletionStatus.allowed_iff stage fun succeeded => (success succeeded).1
  have reads := CompleteRunCommit.keepsLifecycle_iff found taskFound carried
  rcases delivers with ⟨delegated, delivered⟩ | ⟨canonical, rfl⟩
  · obtain ⟨delegationId, delegation, parent, parentTask, _, _, _, _, _, _, row, _, parentFound, waiting,
      parentTaskFound, resumed, rfl⟩ := settleDelegatedChild_ok delivered
    dsimp only at row parentFound parentTaskFound
    rw [sameDelegations] at row
    -- Neither the parent's run nor its task is the one that has just ended.
    have apart : delegation.parentRunId ≠ commit.fence.runId := by
      intro same
      rw [same, Table.get_put_self] at parentFound
      cases parentFound
      cases ended : commit.status <;> simp [ended, RunCompletionStatus.runStatus] at waiting
    have taskApart : parent.taskId ≠ owner.run.taskId := by
      intro same
      rw [same, Table.get_put_self] at parentTaskFound
      cases parentTaskFound
      cases ended : commit.status <;> simp [ended, RunCompletionStatus.taskStatus] at resumed
    rw [Table.get_put_ne _ _ apart, sameRuns] at parentFound
    rw [Table.get_put_ne _ _ taskApart, sameTasks] at parentTaskFound
    have parentLive : parentTask.status.isTerminal = false := by
      rcases resumed with ⟨_, same, _⟩ | ⟨_, same, _⟩ <;> rw [same] <;> rfl
    refine (TaskStep.two taskFound parentTaskFound live parentLive
      ((Table.get_put_ne _ _ taskApart.symm).trans (Table.get_put_self ..)) (Table.get_put_self ..)
      fun id other stored first second => ?_).congr ?_
    · rw [Table.get_put_ne _ _ second, Table.get_put_ne _ _ first, sameTasks, stored]
    · rw [reads, own _ rfl rfl, Task.evolves_once rfl]
      simp only [delegated, row, parentFound, Option.mem_def, Option.some.injEq, forall_eq', true_implies]
      refine and_congr_right fun _ => ?_
      rcases resumed with ⟨marked, cancelling, rfl⟩ | ⟨unmarked, waiting, rfl⟩
      · simp only [cancelling, TaskStatus.allowed, Bool.false_eq_true, false_iff]
        intro unmarked
        simp [unmarked] at marked
      · simp [waiting, unmarked, TaskStatus.allowed]
  · refine (TaskStep.one taskFound live (Table.get_put_self ..) fun id other stored apart => ?_).congr ?_
    · rw [Table.get_put_ne _ _ apart, sameTasks, stored]
    · rw [reads, own _ rfl rfl]
      simp [canonical]

/-! ### Operator control -/

theorem TaskStatus.allowed_cancelling_iff :
    status.allowed .cancelling = true ↔ status = .running := by
  cases status <;> simp [TaskStatus.allowed]

theorem TaskStatus.isControllable_live (controllable : status.isControllable = true) :
    status.isTerminal = false := by
  cases status <;> first | rfl | cases controllable

theorem evolves_cancelled_iff {task : Task} {revision : Nat}
    (stage : (task.status.isControllable = true ∧ revision = task.revision + 1) ∨
      (task.status = .cancelling ∧ revision = task.revision)) :
    task.Evolves { task with status := .cancelling, revision } ↔ task.status = .running ∨ task.status = .cancelling := by
  rcases stage with ⟨controllable, rfl⟩ | ⟨cancelling, rfl⟩
  · rw [Task.evolves_once rfl, TaskStatus.allowed_cancelling_iff]
    refine ⟨.inl, fun stage => stage.resolve_right fun cancelling => ?_⟩
    rw [cancelling] at controllable
    cases controllable
  · exact iff_of_true ⟨0, changes_zero_iff.mpr cancelling, rfl⟩ (.inr cancelling)

theorem requestTaskCancellation_tasks {commit : RequestTaskCancellationCommit}
    (ok : requestTaskCancellation commit s = .ok s') : TaskStep s s' (commit.keepsLifecycle s) := by
  rcases requestTaskCancellation_ok ok with ⟨rfl, used⟩ | ⟨row, budgets, active, propagated, denied, ready, _,
    loaded, ⟨unused, _⟩, controllable, _, rfl, child, cancelled, requeued, rfl⟩
  · exact (TaskStep.same rfl).congr (iff_of_true trivial fun unused => absurd unused used)
  obtain ⟨taskFound, joined⟩ := Store.loadControlledTask_ok loaded
  have live := TaskStatus.isControllable_live controllable
  have tasks : ready.tasks = propagated.tasks := by
    obtain ⟨_, rfl⟩ := cancelUndispatchedAgentEffect_writes cancelled
    rcases requeued with ⟨_, _, requeued⟩ | ⟨_, rfl⟩
    · obtain ⟨_, _, _, rfl⟩ := requeueCancelled_ok requeued
      rfl
    · rfl
  -- The condition, read at the row that was loaded.
  have reads : commit.keepsLifecycle s ↔ row.task.status = .running ∧
      ∀ delegation ∈ s.activeDelegations row.runId, ∀ task ∈ s.tasks.get delegation.2.childTaskId,
        task.status = .running ∨ task.status = .cancelling := by
    refine ⟨fun keeps => keeps unused row.task row.runId row.run taskFound joined, ?_⟩
    intro keeps _ task runId run found of
    cases taskFound.symm.trans found
    cases joined.symm.trans of
    exact keeps
  have marked : row.task.Evolves { row.task with status := .cancelling, revision := row.task.revision + 1 } ↔
      row.task.status = .running := by
    rw [Task.evolves_once rfl, TaskStatus.allowed_cancelling_iff]
  rcases cancelActiveChild_ok child with ⟨childless, rfl⟩ | ⟨delegationId, delegation, one, child, _⟩
  · simp only [cancellationMarked] at tasks
    refine (TaskStep.one taskFound live (by rw [tasks, Table.get_put_self]) fun id other stored apart => ?_).congr ?_
    · rw [tasks, Table.get_put_ne _ _ apart, stored]
    · rw [marked, reads, childless]
      simp
  obtain ⟨_, task, revision, _, _, childFound, _, stage, rfl⟩ := cancelChild_ok child
  simp only [cancellationMarked] at tasks childFound
  by_cases same : delegation.childTaskId = commit.taskId
  · -- The child's task is the task itself: it was marked already.
    rw [same, Table.get_put_self] at childFound
    cases childFound
    obtain rfl : revision = row.task.revision + 1 := by
      rcases stage with ⟨again, _⟩ | ⟨_, kept⟩
      · cases again
      · exact kept
    rw [same] at tasks
    refine (TaskStep.one taskFound live (by rw [tasks, Table.get_put_self]) fun id other stored apart => ?_).congr ?_
    · rw [tasks, Table.get_put_ne _ _ apart, Table.get_put_ne _ _ apart, stored]
    · rw [marked, reads, one]
      simp only [List.mem_singleton, forall_eq, same, taskFound, Option.mem_def, Option.some.injEq, forall_eq']
      exact ⟨fun running => ⟨running, .inl running⟩, And.left⟩
  · rw [Table.get_put_ne _ _ same] at childFound
    have childLive : task.status.isTerminal = false := by
      rcases stage with ⟨controllable, _⟩ | ⟨cancelling, _⟩
      · exact TaskStatus.isControllable_live controllable
      · rw [cancelling]; rfl
    refine (TaskStep.two taskFound childFound live childLive
      (by rw [tasks, Table.get_put_ne _ _ (Ne.symm same), Table.get_put_self]) (by rw [tasks, Table.get_put_self])
      fun id other stored first second => ?_).congr ?_
    · rw [tasks, Table.get_put_ne _ _ second, Table.get_put_ne _ _ first, stored]
    · rw [marked, evolves_cancelled_iff stage, reads, one]
      simp only [List.mem_singleton, forall_eq, childFound, Option.mem_def, Option.some.injEq, forall_eq']

theorem not_changes_two_paused : ¬ Changes 2 .running .paused := by
  simp only [changes_succ_iff, changes_zero_iff]
  rintro ⟨next, first, last, second, rfl⟩
  cases next <;> simp [TaskStatus.allowed] at first second

theorem TaskStatus.allowed_paused_iff : status.allowed .paused = true ↔ status = .running := by
  cases status <;> simp [TaskStatus.allowed]

theorem RunStatus.resumed_allowed_iff {status : RunStatus} {resumed : TaskStatus}
    (resumes : status.resumedTask = some resumed) :
    TaskStatus.allowed .paused resumed = true ↔ status = .queued := by
  cases status <;> cases resumes <;> simp [TaskStatus.allowed]

/-- The condition, read at the row that was loaded. -/
theorem TaskControlCommit.keepsLifecycle_iff {commit : TaskControlCommit} {task runId run}
    (found : s.tasks.get commit.taskId = some task) (joined : s.runOfTask commit.taskId = some (runId, run)) :
    commit.keepsLifecycle s ↔ match commit.action with
      | .pause => task.status = .running ∧
          (run.status = .running → ∀ held ∈ s.activeLease runId, ¬ s.leaseBlocked held.1 held.2)
      | .resume => run.status = .queued := by
  refine ⟨fun keeps => keeps task runId run found joined, ?_⟩
  intro keeps task runId run found' of
  cases found.symm.trans found'
  cases joined.symm.trans of
  exact keeps

theorem controlTask_tasks {commit : TaskControlCommit} (ok : controlTask commit s = .ok s') :
    TaskStep s s' (commit.keepsLifecycle s) := by
  obtain ⟨row, fenced, loaded, stage⟩ := controlTask_ok ok
  obtain ⟨taskFound, joined⟩ := Store.loadControlledTask_ok loaded
  obtain ⟨found, ofTask⟩ := Store.runOfTask_some joined
  have reads := TaskControlCommit.keepsLifecycle_iff taskFound joined
  rcases stage with ⟨⟨action, controllable⟩, paused, stopped⟩ | ⟨status, ⟨action, paused⟩, resumed, rfl, controlled⟩
  · have live := TaskStatus.isControllable_live controllable
    rw [action] at reads
    obtain ⟨task, stored, rfl⟩ := controlledTo_ok paused
    rcases stopped with ⟨idle, rfl⟩ | ⟨recovery, lease, ⟨running, held⟩, leased, of, recovered⟩
    · rw [taskFound] at stored
      cases stored
      refine (TaskStep.put taskFound live rfl rfl).congr ?_
      rw [TaskStatus.allowed_paused_iff, reads]
      simp [idle]
    · obtain ⟨lease', _, settled, _, disposition, run, tasks, leased', _, boundary, interrupted, classified, _, found',
        _, _, stage, rfl⟩ := recoverLease_ok recovered
      rw [leased] at leased'
      cases leased'
      rw [of, found] at found'
      cases found'
      have reads : commit.keepsLifecycle s ↔
          row.task.status = .running ∧ ¬ s.leaseBlocked recovery.leaseId lease := by
        rw [reads]
        simp [running, held]
      dsimp only at stored
      rcases stage with ⟨rfl, rfl⟩ | ⟨before, rfl, taskFound', stage⟩
      · rw [taskFound] at stored
        cases stored
        refine (TaskStep.put taskFound live rfl rfl).congr ?_
        rw [TaskStatus.allowed_paused_iff, reads]
        have blocked_iff := recoverLease_blocked_iff boundary interrupted classified
        exact (and_iff_left fun blocked => nomatch blocked_iff.mp blocked).symm
      · have blocked := (recoverLease_blocked_iff boundary interrupted classified).mpr rfl
        rw [ofTask, taskFound] at taskFound'
        cases taskFound'
        have unkept : ¬ commit.keepsLifecycle s := fun keeps => (reads.mp keeps).2 blocked
        rcases stage with ⟨taskRunning, rfl⟩ | ⟨parked, rfl⟩
        · rw [ofTask, Table.get_put_self] at stored
          cases stored
          refine (TaskStep.one taskFound live (Table.get_put_self ..) fun id other stored apart => ?_).congr ?_
          · rw [Table.get_put_ne _ _ apart, Table.get_put_ne _ _ (ofTask ▸ apart), stored]
          · refine iff_of_false (fun evolves => ?_) unkept
            have changes := (Task.evolves_iff (n := 2) rfl).mp evolves
            rw [taskRunning] at changes
            exact not_changes_two_paused changes
        · rw [taskFound] at stored
          cases stored
          refine (TaskStep.put taskFound live rfl rfl).congr ?_
          rw [TaskStatus.allowed_paused_iff]
          refine iff_of_false (fun running => ?_) unkept
          rcases parked with waiting | cancelling
          · rw [running] at waiting; cases waiting
          · rw [running] at cancelling; cases cancelling
  · rw [action] at reads
    obtain ⟨task, stored, rfl⟩ := controlledTo_ok controlled
    cases taskFound.symm.trans stored
    refine (TaskStep.put taskFound (by rw [paused]; rfl) rfl rfl).congr ?_
    rw [paused, RunStatus.resumed_allowed_iff resumed, reads]

/-! ### Validation and delegation -/

theorem recordValidation_tasks {commit : RecordValidationCommit}
    (ok : recordValidation commit s = .ok s') : TaskStep s s' False := by
  obtain ⟨_, task, tasks, _, _, _, _, found, running, _, stage, rfl⟩ := recordValidation_ok ok
  have kept (id : TaskId) (other : Task) (stored : s.tasks.get id = some other) : tasks.get id = some other := by
    rcases stage with ⟨rfl, _⟩ | ⟨_, _, _, _, fresh, _, rfl, _, _⟩
    · exact stored
    · exact Table.kept_put_fresh fresh _ _ stored
  refine (TaskStep.one found (by rw [running]; rfl) (Table.get_put_self ..) fun id other stored apart =>
    (Table.get_put_ne _ _ apart).trans (kept id other stored)).congr ?_
  rw [Task.evolves_once rfl]
  simp [running, TaskStatus.allowed]

theorem launchAgentDelegation_tasks {commit : LaunchAgentDelegationCommit}
    (ok : launchAgentDelegation commit s = .ok s') : TaskStep s s' True := by
  obtain ⟨_, _, task, _, _, _, _, _, _, found, running, fresh, _, _, _, _, rfl⟩ := launchAgentDelegation_ok ok
  refine (TaskStep.one found (by rw [running]; rfl) (Table.get_put_self ..) fun id other stored apart => ?_).congr ?_
  · rw [Table.get_put_ne _ _ apart, Table.kept_put_fresh fresh _ _ stored]
  · rw [Task.evolves_once rfl]
    simp [running, TaskStatus.allowed]

theorem resumeAgentEffectRun_tasks {commit} (ok : resumeAgentEffectRun commit s = .ok s') : TaskStep s s' True := by
  rcases resumeAgentEffectRun_ok ok with rfl | ⟨_, _, _, _, _, _, found, _, waiting, rfl⟩
  · exact .same rfl
  · exact .edge found (by rw [waiting]; rfl) rfl

theorem task_step {op : Operation} (ok : op.transaction s = .ok s') :
    TaskStep s s' (op.keepsLifecycle s) := by
  cases op with
  | promoteNext commit => exact promoteNext_tasks ok
  | claimNext commit => exact claimNext_tasks ok
  | completeRun commit => exact completeRun_tasks ok
  | recordAgentEffectProposal commit =>
    obtain ⟨_, _, task, _, _, _, _, _, _, found, running, _, _, _, _, _, _, _, _, rfl⟩ :=
      recordAgentEffectProposal_ok ok
    exact .edge found (by rw [running]; rfl) rfl
  | resumeAgentEffectRun commit => exact resumeAgentEffectRun_tasks ok
  | parkAgentEffectRun commit =>
    obtain ⟨_, _, parked⟩ := parkAgentEffectRun_ok ok
    obtain ⟨_, _, _, found, running, rfl⟩ := parkRun_ok parked
    exact .edge found (by rw [running]; rfl) rfl
  | launchAgentDelegation commit => exact launchAgentDelegation_tasks ok
  | recoverLease commit => exact recoverLease_tasks ok
  | recordValidation commit => exact recordValidation_tasks ok
  | requestTaskCancellation commit => exact requestTaskCancellation_tasks ok
  | controlTask commit => exact controlTask_tasks ok
  | _ =>
    obtain ⟨_, rfl⟩ := Operation.frame ok
    exact .same rfl

/-- The operations of the delegation port follow the lifecycle without a condition. -/
def DelegationOperation.keepsLifecycle (op : DelegationOperation) (s : DelegationStore) : Prop :=
  match op with
  | daemon op _ => op.keepsLifecycle s.core
  | promote .. | launch .. | prepareDelegation _ | startDelegation _ | acquireResourceClaim _
  | recordDelegationResult _ => True

theorem delegation_task_step {op : DelegationOperation} {s s' : DelegationStore}
    (ok : op.transaction s = .ok s') : TaskStep s.core s'.core (op.keepsLifecycle s) := by
  cases op with
  | daemon op => exact task_step (daemon_ok ok).1
  | promote commit ceiling => exact promoteNext_tasks (promote_ok ok).1
  | launch commit requested policy => exact launchAgentDelegation_tasks (launch_ok ok).1
  | prepareDelegation commit =>
    obtain ⟨_, _, inserted, rfl⟩ := prepareDelegation_ok ok
    obtain ⟨_, fresh, _, _, _, rfl⟩ := insertDelegationGraph_ok inserted
    exact .keep (Table.kept_put_fresh fresh)
  | startDelegation commit =>
    simp only [DelegationOperation.transaction, eq_ok] at ok
    obtain ⟨_, ok, rfl⟩ := ok
    obtain ⟨_, _, _, _, _, found, _, queued, _, rfl⟩ := startDelegationLease_ok ok
    exact .edge found (by rw [queued]; rfl) rfl
  | acquireResourceClaim commit =>
    obtain ⟨_, _, _, _, _, rfl⟩ := acquireResourceClaim_ok.mp ok
    exact .same rfl
  | recordDelegationResult commit =>
    obtain ⟨_, _, _, _, _, fenced, rfl⟩ := recordDelegationResult_ok ok
    obtain ⟨_, _, found, _, _, _, running, _⟩ := Store.ensureChildFence_ok.mp fenced
    refine .edge found ?_ rfl
    rw [running]
    cases commit.succeeded <;> rfl

/-- What a committed operation does to the task rows, from any store: no terminal row is
touched, and the rows follow the lifecycle exactly when the operation's condition holds. -/
theorem task_lifecycle (op : DelegationOperation) (s s' : DelegationStore)
    (committed : delegationSystem.exec op s = .ok s') :
    (∀ taskId task, s.core.tasks.get taskId = some task → task.status.isTerminal = true →
      s'.core.tasks.get taskId = some task) ∧
    (Lifecycle s.core s'.core ↔ op.keepsLifecycle s) := by
  obtain ⟨terminal, lifecycle⟩ := delegation_task_step (DelegationOperation.exec_eq_ok.mp committed).2
  exact ⟨terminal, lifecycle⟩

def queuedTask : List DelegationOperation :=
  [.daemon (.createSession ⟨⟨0⟩, ⟨⟨0⟩, ⟨0⟩⟩⟩) rfl,
   .daemon (.admitInput ⟨⟨0⟩, ⟨⟨0⟩, ⟨0⟩⟩, ⟨0⟩, "first", .queue, "hello", 10⟩) rfl,
   .promote ⟨⟨0⟩, ⟨⟨0⟩, ⟨0⟩⟩, ⟨0⟩, ⟨0⟩, ⟨0⟩, .named "assistant", false, 10⟩ {}]

theorem task_lifecycle_claimed :
    ∃ s s' : DelegationStore, delegationSystem.exec
        (.daemon (.claimNext ⟨⟨0⟩, ⟨0⟩, 20, 100000, ⟨5, 5, 5⟩⟩) rfl) s = .ok s' ∧
      (s'.core.tasks.get ⟨0⟩).any (fun task => task.status = .running ∧ task.revision = 1) = true ∧
      Lifecycle s.core s'.core := by
  obtain ⟨s, s', _, step, claimed⟩ : ∃ s s' : DelegationStore, delegationSystem.Reachable s ∧
      delegationSystem.exec (.daemon (.claimNext ⟨⟨0⟩, ⟨0⟩, 20, 100000, ⟨5, 5, 5⟩⟩) rfl) s = .ok s' ∧
      (s'.core.tasks.get ⟨0⟩).any (fun task => task.status = .running ∧ task.revision = 1) = true :=
    System.exists_step queuedTask (by decide +kernel)
  exact ⟨s, s', step, claimed, (task_lifecycle _ s s' step).2.mpr trivial⟩

/-- The cancellation of a queued task is accepted and leaves it `cancelling`, which is no
edge of the domain: there a queued task is `cancelled` at once. -/
theorem queued_task_cancelling :
    ∃ (s s' : DelegationStore) (task task' : Task), delegationSystem.Reachable s ∧
      delegationSystem.exec
        (.daemon (.requestTaskCancellation ⟨⟨⟨0⟩, ⟨0⟩⟩, ⟨0⟩, "stop", "cancel", 20⟩) rfl) s = .ok s' ∧
      s.core.tasks.get ⟨0⟩ = some task ∧ task.status = .queued ∧ s'.core.tasks.get ⟨0⟩ = some task' ∧
      task'.status = .cancelling ∧ task'.revision = task.revision + 1 ∧ ¬ Lifecycle s.core s'.core := by
  obtain ⟨s, s', reached, step, before, after⟩ : ∃ s s' : DelegationStore, delegationSystem.Reachable s ∧
      delegationSystem.exec
        (.daemon (.requestTaskCancellation ⟨⟨⟨0⟩, ⟨0⟩⟩, ⟨0⟩, "stop", "cancel", 20⟩) rfl) s = .ok s' ∧
      (s.core.tasks.get ⟨0⟩).any (fun task => task.status = .queued ∧ task.revision = 0) = true ∧
      (s'.core.tasks.get ⟨0⟩).any (fun task => task.status = .cancelling ∧ task.revision = 1) = true :=
    System.exists_step queuedTask (by decide +kernel)
  simp only [Option.any_eq_true, decide_eq_true_eq] at before after
  obtain ⟨task, found, queued, first⟩ := before
  obtain ⟨task', found', cancelling, second⟩ := after
  refine ⟨s, s', task, task', reached, step, found, queued, found', cancelling, by omega, fun follows => ?_⟩
  obtain ⟨row, stored, evolves⟩ := follows ⟨0⟩ task found
  rw [found'] at stored
  cases stored
  rw [Task.evolves_once (by omega), queued, cancelling] at evolves
  cases evolves

end Mealy
