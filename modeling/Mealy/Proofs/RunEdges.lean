import Mealy.Store.Frames

/-! The lifecycle of a run with its task. Whatever an operation does to the rest of the
store, every stored run takes one of the edges below, and the two statuses stay paired. -/

namespace Mealy
open Relational Transaction

variable {s s' : Store} {op : Operation} {run : Run} {runId : RunId}

namespace Operation

/-- The operations that give the lease of a run up and queue it again. -/
def yields (op : Operation) (s : Store) (runId : RunId) : Prop :=
  match op with
  | release commit => commit.fence.runId = runId
  | recordModelFailure commit => commit.fence.runId = runId
  | recoverLease commit => ∃ lease, s.leases.get commit.leaseId = some lease ∧ lease.runId = runId
  | _ => False

def cancels (op : Operation) (s : Store) (runId : RunId) : Prop :=
  match op with
  | requestTaskCancellation commit => ∃ row, s.loadControlledTask commit.ownership commit.taskId = .ok row ∧
      (row.runId = runId ∨ ∃ delegationId delegation, s.delegations.get delegationId = some delegation ∧
        delegation.parentRunId = row.runId ∧ delegation.state.isActive = true ∧ delegation.childRunId = runId)
  | _ => False

/-- The run that a completion, or the interruption of a queued turn, makes terminal. -/
def ends (op : Operation) (s : Store) : Option RunId :=
  match op with
  | completeRun commit => some commit.fence.runId
  | promoteNext commit => do
    let (_, entry) ← s.loadPendingHead commit.sessionId
    let session ← s.sessions.get commit.sessionId
    let turn ← s.turns.get (← session.activeTurnId)
    let run ← s.runs.get turn.runId
    guard (entry.deliveryMode = .interruptThenQueue ∧ entry.interruptRequestedAt = none ∧ run.status = .queued)
    pure turn.runId
  | _ => none

end Operation

def Store.isExecuting (s : Store) (runId : RunId) : Prop := ∃ run, s.runs.get runId = some run ∧ run.status = .running

theorem Store.runningUnder_isExecuting {s : Store} {fence : LeaseFence} {run : Run}
    (under : s.runningUnder fence = some run) : s.isExecuting fence.runId :=
  ⟨run, (Store.runningUnder_eq_some.mp under).1, (Store.runningUnder_eq_some.mp under).2.1⟩

/-- The lease holds an attempt whose outcome recovery cannot prove and may not repeat. -/
def Store.leaseBlocked (s : Store) (leaseId : LeaseId) (lease : WorkLease) : Prop :=
  ∃ effect ∈ s.interruptedEffects leaseId lease, effect.boundary ≠ .prepared ∧ effect.disposition.isRetry = false

inductive RunEdge (op : Operation) (s s' : Store) (runId : RunId) (run : Run) :
    TaskStatus → Run → TaskStatus → Prop where
  | keep {status} : RunEdge op s s' runId run status run status
  | claim {status token} (selectable : s.selectable runId run = true) (admits : status.admitsClaim = true)
      (started : run.agentRole = .delegate → ∃ delegationId delegation,
        s.delegationOfChild runId = some (delegationId, delegation) ∧
        s'.delegations = s.delegations.put delegationId { delegation with state := .running }) :
      RunEdge op s s' runId run status
        { run with status := .running, currentFencingToken := token, nextAttemptAt := none }
        (if status = .queued then .running else status)
  | yield {status token retryAt} (running : run.status = .running) (by_ : op.yields s runId) :
      RunEdge op s s' runId run status
        { run with status := .queued, currentFencingToken := token, nextAttemptAt := retryAt } status
  | park {token} (running : run.status = .running) :
      RunEdge op s s' runId run .running { run with status := .waiting, currentFencingToken := token } .waiting
  | strand {status token commit lease} (running : run.status = .running) (by_ : op = .recoverLease commit)
      (leased : s.leases.get commit.leaseId = some lease) (of : lease.runId = runId)
      (blocked : s.leaseBlocked commit.leaseId lease) (stage : status = .waiting ∨ status = .cancelling) :
      RunEdge op s s' runId run status { run with status := .waiting, currentFencingToken := token } status
  | resume {effectId invocation} (waiting : run.status = .waiting)
      (invoked : s.invocations.get effectId = some invocation) (of : invocation.runId = runId)
      (unobserved : s.observations.get effectId = none) :
      RunEdge op s s' runId run .waiting { run with status := .queued, nextAttemptAt := none } .queued
  | deliver {status status' delegationId delegation state} (waiting : run.status = .waiting)
      (stage : (run.cancellationRequestedAt.isSome = true ∧ status = .cancelling ∧ status' = .cancelling) ∨
        (run.cancellationRequestedAt = none ∧ status = .waiting ∧ status' = .queued))
      (stored : s.delegations.get delegationId = some delegation) (of : delegation.parentRunId = runId)
      (active : delegation.state = .running) (ended : state.isActive = false)
      (delegations : s'.delegations = s.delegations.put delegationId { delegation with state }) :
      RunEdge op s s' runId run status { run with status := .queued, nextAttemptAt := none } status'
  | finish {status token commit} (running : run.status = .running)
      (stage : status = .running ∨ status = .cancelling) (by_ : op = .completeRun commit)
      (of : commit.fence.runId = runId) (delivered : run.agentRole = .delegate → ∃ delegationId delegation state,
        s.delegations.get delegationId = some delegation ∧ delegation.childRunId = runId ∧
        delegation.state = .running ∧ state.isActive = false ∧
        s'.delegations = s.delegations.put delegationId { delegation with state }) :
      RunEdge op s s' runId run status
        { run with status := commit.status.runStatus, currentFencingToken := token } commit.status.taskStatus
  | abandon {token at_} (queued : run.status = .queued) (leads : run.agentRole ≠ .delegate)
      (by_ : op.ends s = some runId) :
      RunEdge op s s' runId run .queued
        { run with status := .cancelled, currentFencingToken := token, cancellationRequestedAt := some at_ } .cancelled
  | interrupt {at_} (running : run.status = .running) :
      RunEdge op s s' runId run .running { run with cancellationRequestedAt := some at_ } .cancelling
  | mark {status at_} (live : run.status.isLive = true)
      (stage : status.isControllable = true ∨ status = .cancelling) (by_ : op.cancels s runId)
      (busy : run.status = .waiting → s.activeDelegations runId ≠ [] ∨ ∃ delegationId delegation,
        s.delegations.get delegationId = some delegation ∧ delegation.childRunId = runId ∧
          delegation.state.isActive = true) :
      RunEdge op s s' runId run status { run with cancellationRequestedAt := some at_ } .cancelling
  | drain {status at_} (waiting : run.status = .waiting)
      (controllable : status.isControllable = true) (by_ : op.cancels s runId)
      (childless : s.activeDelegations runId = []) :
      RunEdge op s s' runId run status
        { run with cancellationRequestedAt := some at_, status := .queued, nextAttemptAt := none } .cancelling
  | pause {status} (idle : run.status ≠ .running) (controllable : status.isControllable = true) :
      RunEdge op s s' runId run status run .paused
  | fence {status token next} (running : run.status = .running)
      (controllable : status.isControllable = true) (idle : next = .queued ∨ next = .waiting) :
      RunEdge op s s' runId run status { run with status := next, currentFencingToken := token } .paused
  | unpause {status} (resumed : run.status.resumedTask = some status) :
      RunEdge op s s' runId run .paused run status

/-! ### Pairing -/

def RunStatus.pairs : RunStatus → TaskStatus → Bool
  | .queued, .queued | .queued, .running | .queued, .paused | .queued, .cancelling => true
  | .running, .running | .running, .cancelling => true
  | .waiting, .waiting | .waiting, .paused | .waiting, .cancelling => true
  | .succeeded, .succeeded | .failed, .failed | .cancelled, .cancelled => true
  | _, _ => false

/-- A run and the status of its task fit; a live run is marked exactly while its task
is cancelling. -/
structure Pairs (run : Run) (status : TaskStatus) : Prop where
  fits : run.status.pairs status = true
  marked : run.status.isLive = true → (status = .cancelling ↔ run.cancellationRequestedAt.isSome = true)

theorem RunEdge.pairs {run' status status'}
    (edge : RunEdge op s s' runId run status run' status') (paired : Pairs run status) : Pairs run' status' := by
  obtain ⟨fits, marked⟩ := paired
  cases edge with
  | keep => exact ⟨fits, marked⟩
  | claim selectable admits _ =>
    have queued := (Store.selectable_iff.mp selectable).1
    constructor <;> cases status <;> simp_all [RunStatus.pairs, RunStatus.isTerminal, TaskStatus.admitsClaim]
  | yield running _ =>
    constructor <;> cases status <;> simp_all [RunStatus.pairs, RunStatus.isTerminal]
  | park running => constructor <;> simp_all [RunStatus.pairs, RunStatus.isTerminal]
  | strand running _ _ _ _ stage =>
    constructor <;> cases status <;> simp_all [RunStatus.pairs, RunStatus.isTerminal]
  | resume waiting _ _ _ => constructor <;> simp_all [RunStatus.pairs, RunStatus.isTerminal]
  | deliver waiting stage _ _ _ _ _ =>
    rcases stage with ⟨marks, rfl, rfl⟩ | ⟨unmarked, rfl, rfl⟩ <;> constructor <;>
      simp_all [RunStatus.pairs, RunStatus.isTerminal]
  | @finish _ _ commit running stage _ _ _ =>
    constructor <;> cases ended : commit.status <;>
      simp_all [RunStatus.pairs, RunStatus.isTerminal, RunCompletionStatus.runStatus, RunCompletionStatus.taskStatus]
  | abandon queued _ _ => constructor <;> simp_all [RunStatus.pairs, RunStatus.isTerminal]
  | interrupt running => constructor <;> simp_all [RunStatus.pairs, RunStatus.isTerminal]
  | mark live stage _ _ =>
    constructor <;> cases phase : run.status <;> simp_all [RunStatus.pairs, RunStatus.isTerminal]
  | drain waiting controllable _ _ => constructor <;> simp_all [RunStatus.pairs, RunStatus.isTerminal]
  | pause idle controllable =>
    constructor <;> cases phase : run.status <;> cases status <;>
      simp_all [RunStatus.pairs, RunStatus.isTerminal, TaskStatus.isControllable]
  | fence running controllable idle =>
    constructor <;> rcases idle with rfl | rfl <;> cases status <;>
      simp_all [RunStatus.pairs, RunStatus.isTerminal, TaskStatus.isControllable]
  | unpause resumed =>
    constructor <;> cases phase : run.status <;> rw [phase] at resumed <;> cases resumed <;>
      simp_all [RunStatus.pairs, RunStatus.isTerminal]

theorem RunEdge.identity {run' status status'} (edge : RunEdge op s s' runId run status run' status') :
    run'.taskId = run.taskId ∧ run'.agentRole = run.agentRole ∧ run'.createdAt = run.createdAt := by
  cases edge <;> exact ⟨rfl, rfl, rfl⟩

theorem RunEdge.terminal {run' status status'} (edge : RunEdge op s s' runId run status run' status')
    (ended : run.status.isTerminal = true) : run' = run := by
  cases edge with
  | keep | unpause => rfl
  | claim selectable _ _ => simp [(Store.selectable_iff.mp selectable).1, RunStatus.isTerminal] at ended
  | mark live => simp [ended] at live
  | pause => rfl
  | yield running | park running | strand running | resume waiting | deliver waiting | finish running | abandon queued
  | interrupt running | drain waiting | fence running => simp_all [RunStatus.isTerminal]

structure Paired (s : Store) : Prop where
  task : ∀ runId run, s.runs.get runId = some run →
    ∃ task, s.tasks.get run.taskId = some task ∧ Pairs run task.status
  distinct : ∀ firstId secondId first second, s.runs.get firstId = some first → s.runs.get secondId = some second →
    first.taskId = second.taskId → firstId = secondId

def RunSteps (op : Operation) (s s' : Store) : Prop :=
  ∀ runId run task, s.runs.get runId = some run → s.tasks.get run.taskId = some task →
    ∃ run' task', s'.runs.get runId = some run' ∧ s'.tasks.get run.taskId = some task' ∧
      RunEdge op s s' runId run task.status run' task'.status

theorem RunSteps.same (runs : s'.runs = s.runs) (tasks : s'.tasks = s.tasks) :
    RunSteps op s s' := by
  intro runId run task found taskFound
  exact ⟨run, task, by rw [runs, found], by rw [tasks, taskFound], .keep⟩

theorem RunSteps.one {run' task task'}
    (paired : Paired s) (found : s.runs.get runId = some run) (taskFound : s.tasks.get run.taskId = some task)
    (own : s'.runs.get runId = some run') (ownTask : s'.tasks.get run.taskId = some task')
    (runs : ∀ id other, s.runs.get id = some other → id ≠ runId → s'.runs.get id = some other)
    (tasks : ∀ id other, s.tasks.get id = some other → id ≠ run.taskId → s'.tasks.get id = some other)
    (edge : RunEdge op s s' runId run task.status run' task'.status) : RunSteps op s s' := by
  intro otherId other otherTask otherFound otherTaskFound
  by_cases same : otherId = runId
  · subst same
    cases found.symm.trans otherFound
    cases taskFound.symm.trans otherTaskFound
    exact ⟨run', task', own, ownTask, edge⟩
  · have apart : other.taskId ≠ run.taskId := fun shared =>
      same (paired.distinct otherId runId other run otherFound found shared)
    exact ⟨other, otherTask, runs _ _ otherFound same, tasks _ _ otherTaskFound apart, .keep⟩

theorem RunSteps.put {run' task task'}
    (paired : Paired s) (found : s.runs.get runId = some run) (taskFound : s.tasks.get run.taskId = some task)
    (runs : s'.runs = s.runs.put runId run') (tasks : s'.tasks = s.tasks.put run.taskId task')
    (edge : RunEdge op s s' runId run task.status run' task'.status) : RunSteps op s s' :=
  .one paired found taskFound (by rw [runs, Table.get_put_self]) (by rw [tasks, Table.get_put_self])
    (by rw [runs]; exact Table.others_put) (by rw [tasks]; exact Table.others_put) edge

/-! ### Leases given up -/

/-- A recovered lease waits exactly if it is blocked. -/
theorem recoverLease_blocked_iff {commit : RecoverLeaseCommit} {lease : WorkLease} {recovered : Store}
    {interrupted : Option InterruptedEffect} {disposition : RecoveredLeaseDisposition}
    (boundary : recoverIncompleteAgentBoundary lease.runId commit.now s = .ok recovered)
    (loaded : Store.loadInterruptedEffect { recovered with
        leases := recovered.leases.put commit.leaseId
          { lease with state := .expired, releasedAt := some commit.now } } commit.leaseId lease = .ok interrupted)
    (classified : classifyLeaseRecovery interrupted = .ok disposition) :
    s.leaseBlocked commit.leaseId lease ↔ disposition = .waiting := by
  obtain ⟨_, rfl⟩ := recoverIncompleteAgentBoundary_writes boundary
  unfold Store.loadInterruptedEffect at loaded
  split at loaded
  next empty =>
    replace empty : s.interruptedEffects commit.leaseId lease = [] := empty
    cases loaded
    cases classified
    simp [Store.leaseBlocked, empty]
  next effect one =>
    replace one : s.interruptedEffects commit.leaseId lease = [effect] := one
    cases loaded
    rw [Store.leaseBlocked, one]
    simp only [classifyLeaseRecovery] at classified
    split at classified <;> cases classified <;> simp_all [EffectRecoveryDisposition.isRetry]
  next => cases loaded

theorem release_runs {commit} (paired : Paired s)
    (ok : release commit s = .ok s') : RunSteps (.release commit) s s' := by
  obtain ⟨_, run, _, under, _, rfl⟩ := release_ok ok
  obtain ⟨found, running, _⟩ := Store.runningUnder_eq_some.mp under
  obtain ⟨task, taskFound, _⟩ := paired.task _ run found
  refine .one paired found taskFound (Table.get_put_self ..) taskFound
    Table.others_put (fun _ _ stored _ => stored)
    (.yield running rfl)

theorem recordModelFailure_runs {commit} (paired : Paired s)
    (ok : recordModelFailure commit s = .ok s') : RunSteps (.recordModelFailure commit) s s' := by
  obtain ⟨_, failed, _, _, moves, ended⟩ := recordModelFailure_ok ok
  obtain ⟨_, rfl⟩ := moves.writes
  rcases ended with ⟨_, rfl⟩ | ⟨_, requeued⟩
  · exact .same rfl rfl
  · obtain ⟨_, run, _, under, rfl⟩ := requeueProviderRetry_ok requeued
    obtain ⟨found, running, _⟩ := Store.runningUnder_eq_some.mp under
    obtain ⟨task, taskFound, _⟩ := paired.task _ run found
    exact .one paired found taskFound (Table.get_put_self ..) taskFound Table.others_put (fun _ _ stored _ => stored)
      (.yield running rfl)

theorem parkRun_runs {fence parkedAt next} (paired : Paired s) (under : s.runningUnder fence = some run)
    (ok : parkRun fence run parkedAt next s = .ok s') : RunSteps op s s' := by
  obtain ⟨found, running, _⟩ := Store.runningUnder_eq_some.mp under
  obtain ⟨_, task, _, taskFound, taskRunning, rfl⟩ := parkRun_ok ok
  refine .put paired found taskFound rfl rfl ?_
  rw [taskRunning]
  exact .park running

theorem resumeAgentEffectRun_runs {commit} (paired : Paired s)
    (ok : resumeAgentEffectRun commit s = .ok s') : RunSteps (.resumeAgentEffectRun commit) s s' := by
  rcases resumeAgentEffectRun_ok ok with rfl | ⟨invocation, run, task, invoked, ready, found, taskFound, waiting,
    taskWaiting, rfl⟩
  · exact .same rfl rfl
  · simp only [Store.agentEffectReady, Store.parked, Bool.decide_and, Bool.and_eq_true, decide_eq_true_eq, found,
      Option.any_some, Option.isNone_iff_eq_none] at ready
    obtain ⟨⟨⟨ofTask, _⟩, _, _, unobserved⟩, _⟩ := ready
    rw [← ofTask] at taskFound ⊢
    refine .put paired found taskFound rfl rfl ?_
    rw [taskWaiting]
    exact .resume waiting invoked rfl unobserved

theorem recoverLease_runs {commit : RecoverLeaseCommit} (paired : Paired s)
    (ok : recoverLease commit s = .ok s') : RunSteps (.recoverLease commit) s s' := by
  obtain ⟨lease, recovered, settled, interrupted, disposition, run, tasks, leased, _, boundary, loaded, classified, _,
    found, running, _, stage, rfl⟩ := recoverLease_ok ok
  obtain ⟨task, taskFound, _⟩ := paired.task _ run found
  have others (id : RunId) (other : Run) (stored : s.runs.get id = some other) (apart : id ≠ lease.runId) :=
    (Table.get_put_ne s.runs { run with
      status := disposition.runStatus, currentFencingToken := lease.fencingToken + 1 } apart).trans stored
  rcases stage with ⟨rfl, rfl⟩ | ⟨task', rfl, taskFound', ⟨taskRunning, rfl⟩ | ⟨cancelling, rfl⟩⟩
  · exact .one paired found taskFound (Table.get_put_self ..) taskFound others (fun _ _ stored _ => stored)
      (.yield running ⟨lease, leased, rfl⟩)
  · rw [taskFound] at taskFound'
    cases taskFound'
    refine .put paired found taskFound rfl rfl ?_
    rw [taskRunning]
    exact .park running
  · rw [taskFound] at taskFound'
    cases taskFound'
    exact .one paired found taskFound (Table.get_put_self ..) taskFound others (fun _ _ stored _ => stored)
      (.strand running rfl leased rfl ((recoverLease_blocked_iff boundary loaded classified).mpr rfl) cancelling)

/-! ### Claims and validations -/

theorem claimNext_runs {commit} (paired : Paired s)
    (ok : claimNext commit s = .ok s') : RunSteps (.claimNext commit) s s' := by
  rcases claimNext_ok ok with rfl | ⟨runId, run, task, _, found, selectable, _, taskFound, delegated, rfl⟩
  · exact .same rfl rfl
  · refine .put paired found taskFound rfl rfl ?_
    obtain ⟨_, ⟨task', taskFound', admits⟩, _⟩ := Store.selectable_iff.mp selectable
    rw [taskFound] at taskFound'
    cases taskFound'
    rw [apply_ite Task.status]
    refine .claim selectable admits fun delegate => ?_
    rcases delegated with ⟨leads, _⟩ | ⟨delegationId, delegation, _, ofChild, _, rfl⟩
    · exact absurd delegate leads
    · exact ⟨delegationId, delegation, ofChild, rfl⟩

theorem recordValidation_runs {commit} (paired : Paired s)
    (ok : recordValidation commit s = .ok s') : RunSteps (.recordValidation commit) s s' := by
  obtain ⟨run, task, tasks, runs, _, under, ofTask, taskFound, _, _, stage, rfl⟩ := recordValidation_ok ok
  obtain ⟨found, _, _⟩ := Store.runningUnder_eq_some.mp under
  rw [← ofTask] at taskFound ⊢
  have keptRuns (id : RunId) (other : Run) (stored : s.runs.get id = some other) : runs.get id = some other := by
    rcases stage with ⟨_, rfl⟩ | ⟨_, _, _, _, _, fresh, _, rfl, _⟩
    · exact stored
    · exact Table.kept_put_fresh fresh _ _ stored
  have keptTasks (id : TaskId) (other : Task) (stored : s.tasks.get id = some other) : tasks.get id = some other := by
    rcases stage with ⟨rfl, _⟩ | ⟨_, _, _, _, fresh, _, rfl, _, _⟩
    · exact stored
    · exact Table.kept_put_fresh fresh _ _ stored
  exact .one paired found taskFound (keptRuns _ _ found) (Table.get_put_self ..)
    (fun id other stored _ => keptRuns id other stored)
    (fun id other stored apart => (Table.get_put_ne _ _ apart).trans (keptTasks id other stored)) .keep

theorem launchAgentDelegation_runs {commit} (paired : Paired s)
    (ok : launchAgentDelegation commit s = .ok s') : RunSteps (.launchAgentDelegation commit) s s' := by
  obtain ⟨parent, _, task, _, _, _, different, loaded, _, taskFound, taskRunning, freshTask, freshRun, _, _, _, rfl⟩ :=
    launchAgentDelegation_ok ok
  obtain ⟨found, running, _⟩ := Store.runningUnder_eq_some.mp (Store.loadParent_ok loaded).1
  refine .one paired found taskFound (Table.get_put_self ..) (Table.get_put_self ..)
    (fun id other stored apart => ?_) (fun id other stored apart => ?_) ?_
  · rw [Table.get_put_ne _ _ apart, Table.kept_put_fresh freshRun _ _ stored]
  · rw [Table.get_put_ne _ _ apart, Table.kept_put_fresh freshTask _ _ stored]
  · rw [taskRunning]
    exact .park running

/-! ### Turns -/

/-- Turns against their runs and sessions. A delegated turn is the turn of a delegate, a
live run has an active turn, and the active turn of a session is not delegated. -/
structure TurnsValid (s : Store) : Prop where
  run : ∀ turnId turn, s.turns.get turnId = some turn → ∃ run, s.runs.get turn.runId = some run ∧
    run.taskId = turn.taskId ∧ (turn.kind = .delegated ↔ run.agentRole = .delegate)
  session : ∀ turnId turn, s.turns.get turnId = some turn → ∃ session, s.sessions.get turn.sessionId = some session
  unique : ∀ firstId secondId first second, s.turns.get firstId = some first → s.turns.get secondId = some second →
    first.runId = second.runId → firstId = secondId
  live : ∀ runId run, s.runs.get runId = some run → run.status.isLive = true →
    ∃ turnId turn, s.turns.get turnId = some turn ∧ turn.runId = runId ∧ turn.status = .active
  active : ∀ sessionId session turnId, s.sessions.get sessionId = some session → session.activeTurnId = some turnId →
    ∃ turn, s.turns.get turnId = some turn ∧ turn.kind = .canonical

theorem promoteNext_runs {commit} (paired : Paired s) (turns : TurnsValid s)
    (ok : promoteNext commit s = .ok s') : RunSteps (.promoteNext commit) s s' := by
  rcases promoteNext_ok ok with rfl | ⟨session, _, _, sessionFound, head, ⟨_, inserted⟩ | ⟨turnId, active,
    busy, loaded, steered | ⟨mode, unrequested, interrupted⟩⟩⟩
  · exact .same rfl rfl
  · obtain ⟨freshTask, freshRun, _, _, rfl⟩ := insertWorkGraph_ok inserted
    intro runId run task found taskFound
    exact ⟨run, task, Table.kept_put_fresh freshRun _ _ found, Table.kept_put_fresh freshTask _ _ taskFound, .keep⟩
  · obtain ⟨_, rfl⟩ := steerActive_ok steered
    exact .same rfl rfl
  · obtain ⟨_, turnFound, taskFound, found, ofTask⟩ := Store.loadActive_ok loaded
    obtain ⟨_, stage⟩ := interruptActive_ok interrupted
    rw [← ofTask] at taskFound stage
    rcases stage with ⟨queued, taskQueued, rfl⟩ | ⟨running, taskRunning, _, rfl⟩
    · refine .put paired found taskFound rfl rfl ?_
      rw [taskQueued]
      refine .abandon queued (fun delegate => ?_) (by
        simp [Operation.ends, head, sessionFound, busy, turnFound, found, mode, unrequested, queued, guard])
      -- The active turn of a session is canonical, so its run is no delegate.
      obtain ⟨turn, stored, canonical⟩ := turns.active _ session turnId sessionFound busy
      cases turnFound.symm.trans stored
      obtain ⟨run, stored, _, kind⟩ := turns.run turnId _ turnFound
      cases found.symm.trans stored
      rw [kind.mpr delegate] at canonical
      cases canonical
    · refine .put paired found taskFound rfl rfl ?_
      rw [taskRunning]
      exact .interrupt running

/-! ### Pause and resume -/

theorem controlTask_runs {commit} (paired : Paired s)
    (ok : controlTask commit s = .ok s') : RunSteps (.controlTask commit) s s' := by
  obtain ⟨row, fenced, loaded, stage⟩ := controlTask_ok ok
  obtain ⟨taskFound, joined⟩ := Store.loadControlledTask_ok loaded
  obtain ⟨found, ofTask⟩ := Store.runOfTask_some joined
  rcases stage with ⟨⟨_, controllable⟩, paused, ⟨idle, rfl⟩ | ⟨recovery, lease, ⟨running, _⟩, leased, of, recovered⟩⟩ |
    ⟨status, ⟨_, paused⟩, resumed, rfl, controlled⟩
  · obtain ⟨task, stored, rfl⟩ := controlledTo_ok paused
    cases taskFound.symm.trans stored
    rw [← ofTask] at taskFound ⊢
    exact .one paired found taskFound found (Table.get_put_self ..) (fun _ _ stored _ => stored)
      Table.others_put (.pause idle controllable)
  · obtain ⟨task, _, rfl⟩ := controlledTo_ok paused
    obtain ⟨lease', _, settled, _, disposition, run, tasks, leased', _, _, _, _, _, found', _, _, stage, rfl⟩ :=
      recoverLease_ok recovered
    rw [leased] at leased'
    cases leased'
    rw [of] at found' ⊢
    rw [found] at found'
    cases found'
    rw [← ofTask] at taskFound ⊢
    refine .one paired found taskFound (Table.get_put_self ..) (Table.get_put_self ..)
      Table.others_put (fun id other stored apart => ?_)
      (.fence running controllable ?_)
    · rw [Table.get_put_ne _ _ apart]
      rcases stage with ⟨_, rfl⟩ | ⟨_, _, _, ⟨_, rfl⟩ | ⟨_, rfl⟩⟩
      · exact stored
      · rw [Table.get_put_ne _ _ apart, stored]
      · exact stored
    · cases disposition
      · exact .inl rfl
      · exact .inr rfl
  · obtain ⟨task, stored, rfl⟩ := controlledTo_ok controlled
    cases taskFound.symm.trans stored
    rw [← ofTask] at taskFound ⊢
    refine .one paired found taskFound found (Table.get_put_self ..) (fun _ _ stored _ => stored)
      Table.others_put ?_
    rw [paused]
    exact .unpause resumed

/-! ### Delegations -/

/-- Delegations against their runs: the parent is no delegate, the child is one, and of one
delegation only. -/
structure Linked (s : Store) : Prop where
  parent : ∀ delegationId delegation, s.delegations.get delegationId = some delegation →
    ∃ parent, s.runs.get delegation.parentRunId = some parent ∧ parent.agentRole ≠ .delegate
  child : ∀ delegationId delegation, s.delegations.get delegationId = some delegation →
    ∃ child, s.runs.get delegation.childRunId = some child ∧ child.taskId = delegation.childTaskId ∧
      child.agentRole = .delegate
  unique : ∀ firstId secondId first second, s.delegations.get firstId = some first →
    s.delegations.get secondId = some second → first.childRunId = second.childRunId → firstId = secondId

theorem Linked.apart (linked : Linked s) {delegationId delegation}
    (stored : s.delegations.get delegationId = some delegation) : delegation.parentRunId ≠ delegation.childRunId := by
  intro same
  obtain ⟨parent, parentFound, leads⟩ := linked.parent _ _ stored
  obtain ⟨child, childFound, _, delegate⟩ := linked.child _ _ stored
  rw [same, childFound] at parentFound
  cases parentFound
  exact leads delegate

theorem RunSteps.two {firstId secondId first first' second second' firstTask firstTask' secondTask secondTask'} (paired : Paired s)
    (found : s.runs.get firstId = some first) (taskFound : s.tasks.get first.taskId = some firstTask)
    (secondFound : s.runs.get secondId = some second) (secondTaskFound : s.tasks.get second.taskId = some secondTask)
    (own : s'.runs.get firstId = some first') (ownTask : s'.tasks.get first.taskId = some firstTask')
    (secondOwn : s'.runs.get secondId = some second') (secondOwnTask : s'.tasks.get second.taskId = some secondTask')
    (runs : ∀ id other, s.runs.get id = some other → id ≠ firstId → id ≠ secondId → s'.runs.get id = some other)
    (tasks : ∀ id other, s.tasks.get id = some other → id ≠ first.taskId → id ≠ second.taskId →
      s'.tasks.get id = some other) (edge : RunEdge op s s' firstId first firstTask.status first' firstTask'.status)
    (secondEdge : RunEdge op s s' secondId second secondTask.status second' secondTask'.status) :
    RunSteps op s s' := by
  intro otherId other otherTask otherFound otherTaskFound
  have differs {id : RunId} {run : Run} (stored : s.runs.get id = some run) (apart : otherId ≠ id) :
      other.taskId ≠ run.taskId := fun shared => apart (paired.distinct _ _ _ _ otherFound stored shared)
  by_cases isFirst : otherId = firstId
  · subst isFirst
    cases found.symm.trans otherFound
    cases taskFound.symm.trans otherTaskFound
    exact ⟨first', firstTask', own, ownTask, edge⟩
  by_cases isSecond : otherId = secondId
  · subst isSecond
    cases secondFound.symm.trans otherFound
    cases secondTaskFound.symm.trans otherTaskFound
    exact ⟨second', secondTask', secondOwn, secondOwnTask, secondEdge⟩
  exact ⟨other, otherTask, runs _ _ otherFound isFirst isSecond,
    tasks _ _ otherTaskFound (differs found isFirst) (differs secondFound isSecond), .keep⟩

/-! ### Completion -/

theorem RunCompletionStatus.runStatus_isTerminal (status : RunCompletionStatus) : status.runStatus.isTerminal = true := by
  cases status <;> rfl

theorem RunCompletionStatus.delegationState_isActive (status : RunCompletionStatus) :
    status.delegationState.isActive = false := by
  cases status <;> rfl

theorem completeRun_runs {commit} (paired : Paired s) (turns : TurnsValid s)
    (linked : Linked s) (ok : completeRun commit s = .ok s') : RunSteps (.completeRun commit) s s' := by
  obtain ⟨owner, task, settled, finished, loaded, settles, finishes, delivers⟩ := completeRun_ok ok
  obtain ⟨loaded, taskFound, stage, _⟩ := Store.loadCompletion_ok loaded
  obtain ⟨_, under, _, _, _, carried, _⟩ := Store.loadFencedOwner_ok.mp loaded
  obtain ⟨found, running, _⟩ := Store.runningUnder_eq_some.mp under
  obtain ⟨turnFound, ofRun⟩ := Store.turnOfRun_some carried
  have kind : owner.turn.kind = .delegated ↔ owner.run.agentRole = .delegate := by
    obtain ⟨run, stored, _, kind⟩ := turns.run _ _ turnFound
    rw [ofRun, found] at stored
    cases stored
    exact kind
  obtain ⟨sameTasks, sameRuns, sameDelegations⟩ := settles.kept
  obtain ⟨_, _, _, _, rfl⟩ := finishRun_ok finishes
  rcases delivers with ⟨_, delivered⟩ | ⟨canonical, rfl⟩
  · obtain ⟨delegationId, delegation, parent, parentTask, _, _, _, taskStatus, stored, ofChild, _, active,
      parentFound, waiting, parentTaskFound, resumed, rfl⟩ := settleDelegatedChild_ok delivered
    dsimp only at stored parentFound parentTaskFound
    rw [sameDelegations] at stored
    have apart : delegation.parentRunId ≠ commit.fence.runId := ofChild ▸ linked.apart stored
    rw [Table.get_put_ne _ _ apart, sameRuns] at parentFound
    have taskApart : parent.taskId ≠ owner.run.taskId := fun shared =>
      apart (paired.distinct _ _ _ _ parentFound found shared)
    rw [Table.get_put_ne _ _ taskApart, sameTasks] at parentTaskFound
    have ended := commit.status.delegationState_isActive
    refine .two paired found taskFound parentFound parentTaskFound
      ((Table.get_put_ne _ _ apart.symm).trans (Table.get_put_self ..))
      ((Table.get_put_ne _ _ taskApart.symm).trans (Table.get_put_self ..)) (Table.get_put_self ..)
      (Table.get_put_self ..) (fun id other stored first second => ?_) (fun id other stored first second => ?_)
      (.finish running stage rfl rfl fun _ =>
        ⟨delegationId, delegation, _, stored, ofChild, active, ended, by rw [sameDelegations]⟩)
      (.deliver waiting resumed stored rfl active ended (by rw [sameDelegations]))
    · rw [Table.get_put_ne _ _ second, Table.get_put_ne _ _ first, sameRuns, stored]
    · rw [Table.get_put_ne _ _ second, Table.get_put_ne _ _ first, sameTasks, stored]
  · refine .one paired found taskFound (Table.get_put_self ..) (Table.get_put_self ..)
      (fun id other stored apart => ?_) (fun id other stored apart => ?_) (.finish running stage rfl rfl fun delegate => ?_)
    · rw [Table.get_put_ne _ _ apart, sameRuns, stored]
    · rw [Table.get_put_ne _ _ apart, sameTasks, stored]
    · rw [kind.mpr delegate] at canonical
      cases canonical

theorem completeRun_finishes {commit} (linked : Linked s) (ok : completeRun commit s = .ok s') :
    ∃ run', s'.runs.get commit.fence.runId = some run' ∧ run'.status = commit.status.runStatus := by
  obtain ⟨_, _, _, _, _, settles, finishes, delivers⟩ := completeRun_ok ok
  obtain ⟨_, rfl⟩ := settles.writes
  obtain ⟨_, _, _, _, rfl⟩ := finishRun_ok finishes
  rcases delivers with ⟨_, delivered⟩ | ⟨_, rfl⟩
  · obtain ⟨_, _, _, _, _, _, _, _, stored, ofChild, _, _, _, _, _, _, rfl⟩ := settleDelegatedChild_ok delivered
    exact ⟨_, (Table.get_put_ne _ _ (ofChild ▸ linked.apart stored).symm).trans (Table.get_put_self ..), rfl⟩
  · exact ⟨_, Table.get_put_self .., rfl⟩

/-! ### Cancellation -/

theorem requestTaskCancellation_runs {commit} (paired : Paired s)
    (linked : Linked s) (ok : requestTaskCancellation commit s = .ok s') :
    RunSteps (.requestTaskCancellation commit) s s' := by
  rcases requestTaskCancellation_ok ok with ⟨rfl, _⟩ | ⟨row, budgets, active, propagated, denied, ready, _, loaded, _,
    controllable, live, rfl, child, cancelled, requeued, rfl⟩
  · exact .same rfl rfl
  obtain ⟨taskFound, joined⟩ := Store.loadControlledTask_ok loaded
  obtain ⟨found, ofTask⟩ := Store.runOfTask_some joined
  obtain ⟨deniedTasks, deniedRuns⟩ : denied.tasks = propagated.tasks ∧ denied.runs = propagated.runs := by
    obtain ⟨_, rfl⟩ := cancelUndispatchedAgentEffect_writes cancelled
    exact ⟨rfl, rfl⟩
  have own : (Operation.requestTaskCancellation commit).cancels s row.runId := ⟨row, loaded, .inl rfl⟩
  rw [← ofTask] at taskFound
  rcases cancelActiveChild_ok child with ⟨childless, rfl⟩ | ⟨delegationId, delegation, one, child, _⟩
  · simp only [cancellationMarked, ← ofTask] at deniedTasks deniedRuns
    rcases requeued with ⟨waiting, _, requeued⟩ | ⟨rests, rfl⟩
    · obtain ⟨run, stored, _, rfl⟩ := requeueCancelled_ok requeued
      rw [deniedRuns, Table.get_put_self] at stored
      cases stored
      refine .one paired found taskFound (Table.get_put_self ..)
        (by rw [deniedTasks, Table.get_put_self]) (fun id other stored apart => ?_) (fun id other stored apart => ?_)
        (.drain waiting controllable own childless)
      · rw [Table.get_put_ne _ _ apart, deniedRuns, Table.get_put_ne _ _ apart, stored]
      · rw [deniedTasks, Table.get_put_ne _ _ apart, stored]
    · refine .one paired found taskFound (by rw [deniedRuns, Table.get_put_self])
        (by rw [deniedTasks, Table.get_put_self]) (fun id other stored apart => ?_) (fun id other stored apart => ?_)
        (.mark live (.inl controllable) own fun waiting => absurd ⟨waiting, childless⟩ rests)
      · rw [deniedRuns, Table.get_put_ne _ _ apart, stored]
      · rw [deniedTasks, Table.get_put_ne _ _ apart, stored]
  · obtain ⟨stored, ofParent, isActive⟩ := Store.mem_activeDelegations.mp (one ▸ List.mem_singleton_self _ :
      (delegationId, delegation) ∈ s.activeDelegations row.runId)
    have busy : s.activeDelegations row.runId ≠ [] := by simp [one]
    have propagates : (Operation.requestTaskCancellation commit).cancels s delegation.childRunId :=
      ⟨row, loaded, .inr ⟨delegationId, delegation, stored, ofParent, isActive, rfl⟩⟩
    obtain ⟨run, task, _, _, runFound, childTaskFound, childLive, childStage, rfl⟩ := cancelChild_ok child
    rcases requeued with ⟨_, childless, _⟩ | ⟨_, rfl⟩
    · exact absurd childless busy
    simp only [cancellationMarked, ← ofTask] at deniedTasks deniedRuns runFound childTaskFound
    have apart : delegation.childRunId ≠ row.runId := ofParent ▸ (linked.apart stored).symm
    obtain ⟨run', runFound', childTask, _⟩ := linked.child _ _ stored
    rw [Table.get_put_ne _ _ apart, runFound'] at runFound
    cases runFound
    have taskApart : run.taskId ≠ row.run.taskId := fun shared =>
      apart (paired.distinct _ _ _ _ runFound' found shared)
    rw [← childTask] at childTaskFound deniedTasks
    rw [Table.get_put_ne _ _ taskApart] at childTaskFound
    obtain ⟨at_, marked⟩ : ∃ at_, run.cancellationRequestedAt.or (some commit.requestedAt) = some at_ := by
      cases run.cancellationRequestedAt <;> simp
    rw [marked] at deniedRuns
    refine .two paired found taskFound runFound' childTaskFound
      (by rw [deniedRuns, Table.get_put_ne _ _ apart.symm, Table.get_put_self])
      (by rw [deniedTasks, Table.get_put_ne _ _ taskApart.symm, Table.get_put_self])
      (by rw [deniedRuns, Table.get_put_self]) (by rw [deniedTasks, Table.get_put_self])
      (fun id other stored first second => ?_) (fun id other stored first second => ?_)
      (.mark live (.inl controllable) own fun _ => .inl busy)
      (.mark childLive (childStage.imp And.left And.left) propagates fun _ => .inr ⟨delegationId, delegation, stored, rfl, isActive⟩)
    · rw [deniedRuns, Table.get_put_ne _ _ second, Table.get_put_ne _ _ first, stored]
    · rw [deniedTasks, Table.get_put_ne _ _ second, Table.get_put_ne _ _ first, stored]

/-! ### Every operation -/

theorem run_steps (paired : Paired s) (turns : TurnsValid s) (linked : Linked s)
    (ok : op.transaction s = .ok s') : RunSteps op s s' := by
  cases op with
  | promoteNext commit => exact promoteNext_runs paired turns ok
  | claimNext commit => exact claimNext_runs paired ok
  | release commit => exact release_runs paired ok
  | completeRun commit => exact completeRun_runs paired turns linked ok
  | recordModelFailure commit => exact recordModelFailure_runs paired ok
  | recordAgentEffectProposal commit =>
    obtain ⟨run, _, task, _, _, _, _, under, _, taskFound, taskRunning, _, _, _, _, _, _, _, _, rfl⟩ :=
      recordAgentEffectProposal_ok ok
    obtain ⟨found, running, _⟩ := Store.runningUnder_eq_some.mp under
    refine .put paired found taskFound rfl rfl ?_
    rw [taskRunning]
    exact .park running
  | resumeAgentEffectRun commit => exact resumeAgentEffectRun_runs paired ok
  | parkAgentEffectRun commit =>
    obtain ⟨_, under, parked⟩ := parkAgentEffectRun_ok ok
    exact parkRun_runs paired under parked
  | launchAgentDelegation commit => exact launchAgentDelegation_runs paired ok
  | recoverLease commit => exact recoverLease_runs paired ok
  | recordValidation commit => exact recordValidation_runs paired ok
  | requestTaskCancellation commit => exact requestTaskCancellation_runs paired linked ok
  | controlTask commit => exact controlTask_runs paired ok
  | _ =>
    obtain ⟨_, rfl⟩ := Operation.frame ok
    exact .same rfl rfl

end Mealy
