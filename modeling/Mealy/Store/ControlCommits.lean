import Mealy.Store.HandoverCommits
import Mealy.Store.System

/-! What a committed transaction has checked and written when work is recovered,
validated, cancelled, paused or resumed. -/

namespace Mealy
open Relational Transaction

variable {s s' : Store} {runId : RunId}

/-! ### Recovery -/

theorem recoverIncompleteAgentBoundary_ok {now} (ok : recoverIncompleteAgentBoundary runId now s = .ok s') :
    s' = s ∨ MovesLoop s runId s' := by
  unfold recoverIncompleteAgentBoundary at ok
  split at ok
  next => cases ok; exact .inl rfl
  next =>
    split at ok
    next =>
      simp only [recoverReadTool, eq_ok, putBudget_ok] at ok
      obtain ⟨_, _, _, _, _, _, _, ⟨_, _, _, _, rfl⟩, rfl⟩ := ok
      exact .inr ⟨_, _, _, _, _, rfl⟩
    next =>
      split at ok
      next =>
        simp only [recoverModelAttempt, eq_ok, putBudget_ok, closeReservation_ok] at ok
        obtain ⟨_, _, _, _, _, ⟨_, _, _, _, rfl⟩, _, ⟨_, rfl⟩, _, _, _, _, rfl⟩ := ok
        exact .inr ⟨_, _, _, _, _, rfl⟩
      next => cases ok; exact .inl rfl

theorem recoverIncompleteAgentBoundary_writes {now} (ok : recoverIncompleteAgentBoundary runId now s = .ok s') :
    Writes loopTables s s' := by
  rcases recoverIncompleteAgentBoundary_ok ok with rfl | moves
  · exact .of_eq rfl
  · exact moves.writes

/-- The ledger transaction that a recovery runs for an open attempt. -/
inductive RecoversEffect (s : Store) : RecoveredLeaseDisposition → Store → Prop where
  | nothing : RecoversEffect s .requeued s
  | undispatched {commit s'}
      (ok : recoverUndispatchedEffect commit s = .ok s') : RecoversEffect s .requeued s'
  | retryable {commit s'}
      (ok : recoverRetryableEffect commit s = .ok s') : RecoversEffect s .requeued s'
  | interrupted {commit s'}
      (ok : recoverInterruptedEffectTransaction commit s = .ok s') : RecoversEffect s .waiting s'
  | unknown {effect : InterruptedEffect} (open_ : effect.boundary = .outcomeUnknown) : RecoversEffect s .waiting s

theorem recoverEffect_ok {commit disposition interrupted}
    (classified : classifyLeaseRecovery interrupted = .ok disposition)
    (ok : recoverEffect commit disposition interrupted s = .ok s') : RecoversEffect s disposition s' := by
  cases interrupted with
  | none =>
    cases classified
    cases ok
    exact .nothing
  | some effect =>
    cases disposition <;> cases boundary : effect.boundary <;>
      simp only [recoverEffect, boundary, reduceCtorEq] at ok
    · exact .undispatched ok
    · exact .retryable ok
    · exact .interrupted ok
    · cases ok
      exact .unknown boundary

theorem RecoversEffect.writes {disposition} (recovers : RecoversEffect s disposition s') :
    Writes [.effects, .attempts, .outcomes] s s' := by
  cases recovers with
  | nothing | unknown => exact .of_eq rfl
  | undispatched ok =>
    simp only [recoverUndispatchedEffect, bind_eq_ok] at ok
    obtain ⟨_, _, _, first, last⟩ := ok
    obtain ⟨_, _, _, rfl⟩ := updateAttempt_ok first
    obtain ⟨_, _, _, rfl⟩ := updateEffect_ok last
    exact .of_eq rfl
  | retryable ok =>
    obtain ⟨_, _, settled⟩ := recoverRetryableEffect_ok ok
    obtain ⟨_, _, _, _, ends⟩ := settleInterrupted_ok settled
    exact ends.writes
  | interrupted ok =>
    obtain ⟨_, settled⟩ := recoverInterruptedEffectTransaction_ok ok
    obtain ⟨_, _, _, _, ends⟩ := settleInterrupted_ok settled
    exact ends.writes

def RecoveredLeaseDisposition.runStatus : RecoveredLeaseDisposition → RunStatus
  | .requeued => .queued
  | .waiting => .waiting

theorem recoverLease_ok {commit} (ok : recoverLease commit s = .ok s') :
    ∃ lease recovered settled interrupted disposition run tasks, s.leases.get commit.leaseId = some lease ∧
      lease.state = .active ∧
      recoverIncompleteAgentBoundary lease.runId commit.now s = .ok recovered ∧
      Store.loadInterruptedEffect { recovered with
          leases := recovered.leases.put commit.leaseId
            { lease with state := .expired, releasedAt := some commit.now } } commit.leaseId lease =
        .ok interrupted ∧
      classifyLeaseRecovery interrupted = .ok disposition ∧
      RecoversEffect
        { recovered with
          leases := recovered.leases.put commit.leaseId
            { lease with state := .expired, releasedAt := some commit.now } } disposition settled ∧
      s.runs.get lease.runId = some run ∧ run.status = .running ∧
      run.currentFencingToken = lease.fencingToken ∧
      ((disposition = .requeued ∧ tasks = s.tasks) ∨ ∃ task, disposition = .waiting ∧
        s.tasks.get run.taskId = some task ∧
        ((task.status = .running ∧ tasks = s.tasks.put run.taskId
            { task with status := .waiting, revision := task.revision + 1 }) ∨
          ((task.status = .waiting ∨ task.status = .cancelling) ∧ tasks = s.tasks))) ∧
      s' = { settled with
        runs := s.runs.put lease.runId
          { run with
            status := disposition.runStatus, currentFencingToken := lease.fencingToken + 1 },
        tasks } := by
  simp only [recoverLease, eq_ok, nextToken_eq_ok] at ok
  obtain ⟨lease, leaseFound, recovered, boundary, _, ⟨active, _⟩, _, _, interrupted, loaded, disposition, classified,
    settled, effect, _, ⟨_, rfl⟩, run, runFound, _, ⟨running, token⟩, ok⟩ := ok
  have recovers := recoverEffect_ok classified effect
  have same : settled.runs = s.runs ∧ settled.tasks = s.tasks := by
    obtain ⟨_, rfl⟩ := recovers.writes
    obtain ⟨_, rfl⟩ := recoverIncompleteAgentBoundary_writes boundary
    exact ⟨rfl, rfl⟩
  obtain ⟨sameRuns, sameTasks⟩ := same
  have bumped : max run.currentFencingToken (lease.fencingToken + 1) = lease.fencingToken + 1 := by omega
  rw [sameRuns] at runFound
  cases disposition with
  | requeued =>
    simp only [reduceCtorEq, if_false, pure_eq_ok, sameRuns, bumped] at ok
    refine ⟨lease, recovered, settled, interrupted, .requeued, run, s.tasks, leaseFound, active, boundary, loaded,
      classified, recovers, runFound, running, token, .inl ⟨rfl, rfl⟩, ?_⟩
    rw [← ok, ← sameTasks]
    rfl
  | waiting =>
    simp only [if_true, transitionTaskToWaiting, eq_ok, sameRuns, sameTasks, bumped] at ok
    obtain ⟨task, taskFound, ok⟩ := ok
    split at ok
    next status =>
      refine ⟨lease, recovered, settled, interrupted, .waiting, run, _, leaseFound, active, boundary, loaded,
        classified, recovers, runFound, running, token, .inr ⟨task, rfl, taskFound, .inl ⟨status, rfl⟩⟩, ?_⟩
      exact (pure_eq_ok.mp ok).symm
    next status =>
      refine ⟨lease, recovered, settled, interrupted, .waiting, run, s.tasks, leaseFound, active, boundary, loaded,
        classified, recovers, runFound, running, token, .inr ⟨task, rfl, taskFound, .inr ⟨.inl status, rfl⟩⟩, ?_⟩
      rw [← pure_eq_ok.mp ok, ← sameTasks]
      rfl
    next status =>
      refine ⟨lease, recovered, settled, interrupted, .waiting, run, s.tasks, leaseFound, active, boundary, loaded,
        classified, recovers, runFound, running, token, .inr ⟨task, rfl, taskFound, .inr ⟨.inr status, rfl⟩⟩, ?_⟩
      rw [← pure_eq_ok.mp ok, ← sameTasks]
      rfl
    all_goals cases ok

/-! ### Validation -/

theorem recordValidation_ok {commit} (ok : recordValidation commit s = .ok s') :
    ∃ run task tasks runs validations, s.runningUnder commit.producerFence = some run ∧
      run.taskId = commit.taskId ∧ s.tasks.get commit.taskId = some task ∧ task.status = .running ∧
      (∃ lease, s.heldLease commit.producerFence = some lease) ∧
      ((tasks = s.tasks ∧ runs = s.runs) ∨ ∃ validatorTaskId validatorRunId validatorTask validatorRun,
        s.tasks.get validatorTaskId = none ∧ s.runs.get validatorRunId = none ∧
        tasks = s.tasks.put validatorTaskId validatorTask ∧ runs = s.runs.put validatorRunId validatorRun ∧
        validatorTask.status = .succeeded ∧ validatorRun.status = .succeeded ∧
        validatorRun.taskId = validatorTaskId) ∧
      s' = { s with
        validations, runs,
        tasks := tasks.put commit.taskId
          { task with validationId := some commit.validationId, revision := task.revision + 1 } } := by
  simp only [recordValidation, Store.loadValidationProducer, eq_ok]
    at ok
  obtain ⟨_, _, _, ⟨run, running, task, taskFound, lease, held, _, _, _, _, _, _, _, ⟨ofTask, _, taskRunning, _⟩, rfl⟩,
    _, _, _, _, _, _, _, inserted, _, _, rfl⟩ := ok
  unfold insertValidatorRun at inserted
  split at inserted
  next =>
    cases inserted
    exact ⟨run, task, _, _, _, running, ofTask, taskFound, taskRunning, ⟨lease, held⟩, .inl ⟨rfl, rfl⟩, rfl⟩
  next validatorTaskId validatorRunId _ =>
    simp only [eq_ok] at inserted
    obtain ⟨_, ⟨freshTask, freshRun⟩, rfl⟩ := inserted
    exact ⟨run, task, _, _, _, running, ofTask, taskFound, taskRunning, ⟨lease, held⟩,
      .inr ⟨validatorTaskId, validatorRunId, _, _, freshTask, freshRun, rfl, rfl, rfl, rfl, rfl⟩, rfl⟩

/-! ### Cancellation -/

theorem Store.loadControlledTask_ok {ownership taskId row} (loaded : s.loadControlledTask ownership taskId = .ok row) :
    s.tasks.get taskId = some row.task ∧ s.runOfTask taskId = some (row.runId, row.run) := by
  simp only [loadControlledTask, eq_ok] at loaded
  obtain ⟨task, taskFound, ⟨runId, run⟩, ofTask, _, _, _, _, _, _, rfl⟩ := loaded
  exact ⟨taskFound, ofTask⟩

theorem Store.runOfTask_some {taskId run}
    (found : s.runOfTask taskId = some (runId, run)) : s.runs.get runId = some run ∧ run.taskId = taskId := by
  obtain ⟨stored, same⟩ := Table.find_some found
  exact ⟨stored, of_decide_eq_true same⟩

theorem Store.turnOfRun_some {turnId turn}
    (found : s.turnOfRun runId = some (turnId, turn)) : s.turns.get turnId = some turn ∧ turn.runId = runId := by
  obtain ⟨stored, same⟩ := Table.find_some found
  exact ⟨stored, of_decide_eq_true same⟩

theorem cancelBudget_ok {at_} (ok : cancelBudget runId at_ s = .ok s') : ∃ budgets, s' = { s with budgets } := by
  unfold cancelBudget at ok
  split at ok
  next =>
    cases ok
    exact ⟨s.budgets, rfl⟩
  next =>
    simp only [eq_ok] at ok
    obtain ⟨_, _, rfl⟩ := ok
    exact ⟨_, rfl⟩

theorem cancelChild_ok {delegation at_} (ok : cancelChild delegation at_ s = .ok s') :
    ∃ run task revision budgets, s.runs.get delegation.childRunId = some run ∧
      s.tasks.get delegation.childTaskId = some task ∧ run.status.isLive = true ∧
      ((task.status.isControllable = true ∧ revision = task.revision + 1) ∨
        (task.status = .cancelling ∧ revision = task.revision)) ∧
      s' = { s with
        runs := s.runs.put delegation.childRunId
          { run with cancellationRequestedAt := run.cancellationRequestedAt.or (some at_) },
        tasks := s.tasks.put delegation.childTaskId { task with status := .cancelling, revision },
        budgets } := by
  simp only [cancelChild, eq_ok] at ok
  obtain ⟨run, runFound, task, taskFound, _, ⟨live, stage⟩, marked⟩ := ok
  obtain ⟨budgets, rfl⟩ := cancelBudget_ok marked
  refine ⟨run, task, _, budgets, runFound, taskFound, live, ?_, rfl⟩
  rcases stage with controllable | cancelling
  · exact .inl ⟨controllable, if_neg (by rintro same; simp [same, TaskStatus.isControllable] at controllable)⟩
  · exact .inr ⟨cancelling, if_pos cancelling⟩

theorem Store.mem_activeDelegations {delegationId delegation} :
    (delegationId, delegation) ∈ s.activeDelegations runId ↔ s.delegations.get delegationId = some delegation ∧
      delegation.parentRunId = runId ∧ delegation.state.isActive = true := by
  simp [activeDelegations]

theorem cancelActiveChild_ok {commit active} (ok : cancelActiveChild commit active s = .ok s') :
    (active = [] ∧ s' = s) ∨ ∃ delegationId delegation, active = [(delegationId, delegation)] ∧
      cancelChild delegation commit.requestedAt s = .ok s' ∧ s'.undispatchedAgentEffects commit.taskId = [] := by
  unfold cancelActiveChild at ok
  split at ok
  next =>
    cases ok
    exact .inl ⟨rfl, rfl⟩
  next delegationId delegation =>
    simp only [eq_ok, List.isEmpty_iff] at ok
    obtain ⟨_, child, _, nothing, rfl⟩ := ok
    exact .inr ⟨delegationId, delegation, rfl, child, nothing⟩
  next => cases ok

theorem requeueCancelled_ok {at_} (ok : requeueCancelled runId at_ s = .ok s') :
    ∃ run, s.runs.get runId = some run ∧ run.status = .waiting ∧
      s' = { s with runs := s.runs.put runId { run with status := .queued, nextAttemptAt := none } } := by
  simp only [requeueCancelled, eq_ok] at ok
  obtain ⟨run, found, _, ⟨waiting, _⟩, rfl⟩ := ok
  exact ⟨run, found, waiting, rfl⟩

def cancellationMarked (commit : RequestTaskCancellationCommit) (row : ControlledTask)
    (budgets : Table RunId RunBudget) (s : Store) : Store :=
  { s with
    tasks := s.tasks.put commit.taskId
      { row.task with status := .cancelling, revision := row.task.revision + 1 },
    runs := s.runs.put row.runId { row.run with cancellationRequestedAt := some commit.requestedAt },
    budgets }

theorem requestTaskCancellation_ok {commit} (ok : requestTaskCancellation commit s = .ok s') :
    (s' = s ∧ s.cancellations.get (commit.ownership, commit.idempotencyKey) ≠ none) ∨
      ∃ row budgets active propagated denied ready cancellations,
      s.loadControlledTask commit.ownership commit.taskId = .ok row ∧
      (s.cancellations.get (commit.ownership, commit.idempotencyKey) = none ∧
        row.run.cancellationRequestedAt = none) ∧ row.task.status.isControllable = true ∧
      row.run.status.isLive = true ∧ active = s.activeDelegations row.runId ∧
      cancelActiveChild commit active (cancellationMarked commit row budgets s) = .ok propagated ∧
      cancelUndispatchedAgentEffect commit.taskId commit.ownership.principalId commit.requestedAt propagated =
        .ok denied ∧
      ((row.run.status = .waiting ∧ active = [] ∧
          requeueCancelled row.runId commit.requestedAt denied = .ok ready) ∨
        (¬(row.run.status = .waiting ∧ active = []) ∧ ready = denied)) ∧
      s' = { ready with cancellations } := by
  simp only [requestTaskCancellation, eq_ok] at ok
  obtain ⟨_, _, ok⟩ := ok
  split at ok
  next used =>
    simp only [eq_ok] at ok
    obtain ⟨_, _, rfl⟩ := ok
    exact .inl ⟨rfl, by simp [used]⟩
  next unused =>
    simp only [eq_ok, List.isEmpty_iff] at ok
    obtain ⟨row, loaded, _, ⟨unmarked, _⟩, _, ⟨controllable, live⟩, _, marked, _, propagated, _, denied,
      ok⟩ := ok
    obtain ⟨budgets, rfl⟩ := cancelBudget_ok marked
    split at ok
    next waits =>
      simp only [eq_ok] at ok
      obtain ⟨_, requeued, rfl⟩ := ok
      exact .inr ⟨row, budgets, _, _, _, _, _, loaded, ⟨unused, unmarked⟩, controllable, live, rfl, propagated,
        denied, .inl ⟨waits.1, waits.2, requeued⟩, rfl⟩
    next rests =>
      simp only [eq_ok] at ok
      obtain ⟨_, rfl, rfl⟩ := ok
      exact .inr ⟨row, budgets, _, _, _, _, _, loaded, ⟨unused, unmarked⟩, controllable, live, rfl, propagated,
        denied, .inr ⟨rests, rfl⟩, rfl⟩

/-! ### Pause and resume -/

theorem controlledTo_ok {taskId status} (ok : controlledTo taskId status s = .ok s') :
    ∃ task, s.tasks.get taskId = some task ∧
      s' = { s with tasks := s.tasks.put taskId { task with status, revision := task.revision + 1 } } := by
  simp only [controlledTo, eq_ok] at ok
  obtain ⟨task, found, rfl⟩ := ok
  exact ⟨task, found, rfl⟩

theorem controlTask_ok {commit} (ok : controlTask commit s = .ok s') :
    ∃ row fenced, s.loadControlledTask commit.ownership commit.taskId = .ok row ∧
      (((commit.action = .pause ∧ row.task.status.isControllable = true) ∧
          controlledTo commit.taskId .paused fenced = .ok s' ∧
          ((row.run.status ≠ .running ∧ fenced = s) ∨ ∃ recovery lease,
            (row.run.status = .running ∧ s.activeLease row.runId = some (recovery.leaseId, lease)) ∧
            s.leases.get recovery.leaseId = some lease ∧ lease.runId = row.runId ∧
            recoverLease recovery s = .ok fenced)) ∨
        ∃ status, (commit.action = .resume ∧ row.task.status = .paused) ∧
          row.run.status.resumedTask = some status ∧ fenced = s ∧
          controlledTo commit.taskId status s = .ok s') := by
  simp only [controlTask, eq_ok] at ok
  obtain ⟨row, loaded, _, _, ok⟩ := ok
  cases action : commit.action with
  | pause =>
    simp only [action, fencePaused, eq_ok] at ok
    obtain ⟨fenced, ⟨_, controllable, stopped⟩, paused⟩ := ok
    refine ⟨row, fenced, loaded, .inl ⟨⟨rfl, controllable⟩, paused, ?_⟩⟩
    split at stopped
    next running =>
      simp only [eq_ok] at stopped
      obtain ⟨⟨leaseId, lease⟩, held, recovered⟩ := stopped
      obtain ⟨found, same⟩ := Table.find_some held
      simp only [decide_eq_true_eq] at same
      exact .inr ⟨_, lease, ⟨running, held⟩, found, same.1, recovered⟩
    next idle => exact .inl ⟨idle, (pure_eq_ok.mp stopped).symm⟩
  | resume =>
    simp only [action, eq_ok] at ok
    obtain ⟨_, ⟨paused, _⟩, status, resumed, controlled⟩ := ok
    exact ⟨row, s, loaded, .inr ⟨status, ⟨rfl, paused⟩, resumed, rfl, controlled⟩⟩

end Mealy
