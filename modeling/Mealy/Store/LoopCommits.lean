import Mealy.Store.AgentLoop

/-! What a committed transaction of the agent loop has checked and written. -/

namespace Mealy
open Relational Transaction

variable {s s' : Store} {fence : LeaseFence} {attemptId : AttemptId}

/-! ### Budgets -/

theorem putBudget_ok {runId changed e} :
    putBudget runId changed e s = .ok s' ↔ ∃ budget next, s.budgets.get runId = some budget ∧
      changed budget = some next ∧ s' = { s with budgets := s.budgets.put runId next } := by
  simp only [putBudget, eq_ok, eq_comm (a := s')]
  grind

theorem closeReservation_ok {reservation state at_} :
    closeReservation attemptId reservation state at_ s = .ok s' ↔ reservation.createdAt ≤ at_ ∧
      s' = { s with reservations := s.reservations.put attemptId { reservation with state } } := by
  simp only [closeReservation, eq_ok, eq_comm (a := s')]
  constructor
  · rintro ⟨_, created, same⟩
    exact ⟨created, same⟩
  · rintro ⟨created, same⟩
    exact ⟨⟨⟩, created, same⟩

namespace Store

theorem loopAtAttempt_eq_some {runId action state} :
    s.loopAtAttempt runId action attemptId = some state ↔ s.loops.get runId = some state ∧
      state.nextAction = action ∧ state.currentAttemptId = some attemptId := by
  simp [loopAtAttempt, Option.filter_eq_some_iff]

theorem loadFencedOwner_ok {now owner} :
    s.loadFencedOwner fence now = .ok owner ↔ ∃ lease, s.runningUnder fence = some owner.run ∧
      s.heldLease fence = some lease ∧ lease.heartbeatAt ≤ now ∧ now < lease.expiresAt ∧
      s.turnOfRun fence.runId = some (owner.turnId, owner.turn) ∧
      s.sessions.get owner.turn.sessionId = some owner.session ∧ owner.turn.taskId = owner.run.taskId ∧
      owner.turn.status = .active ∧ s.turnBound owner.turnId owner.turn owner.session = true := by
  obtain ⟨run, turnId, turn, session⟩ := owner
  simp only [loadFencedOwner, eq_ok, FencedOwner.mk.injEq]
  constructor
  · rintro ⟨_, running, lease, held, _, ⟨begun, early⟩, ⟨_, _⟩, carried, _, found, _, ⟨task, active, bound⟩,
      rfl, rfl, rfl, rfl⟩
    exact ⟨lease, running, held, begun, early, carried, found, task, active, bound⟩
  · rintro ⟨lease, running, held, begun, early, carried, found, task, active, bound⟩
    exact ⟨run, running, lease, held, ⟨⟩, ⟨begun, early⟩, (turnId, turn), carried, session, found, ⟨⟩,
      ⟨task, active, bound⟩, rfl, rfl, rfl, rfl⟩

end Store

/-! ### Model attempts -/

/-- The loop of a run moves on, with its attempts, its tools and what they cost. -/
def MovesLoop (s : Store) (runId : RunId) (s' : Store) : Prop :=
  ∃ modelAttempts toolCalls reservations budgets state,
    s' = { s with modelAttempts, toolCalls, reservations, budgets, loops := s.loops.put runId state }

theorem advanceToModelDispatch_ok {commit} (ok : advanceToModelDispatch commit s = .ok s') :
    ∃ state, s' = { s with loops := s.loops.put commit.fence.runId state } := by
  unfold advanceToModelDispatch at ok
  split at ok <;> simp only [eq_ok] at ok <;> obtain ⟨_, _, rfl⟩ := ok <;> exact ⟨_, rfl⟩

theorem initializeBudget_budgets (commit) (s) : ∃ budgets, initializeBudget commit s = { s with budgets } := by
  unfold initializeBudget
  split
  next => exact ⟨s.budgets, rfl⟩
  next => exact ⟨_, rfl⟩

theorem prepareModelAttempt_ok {commit : PrepareModelAttemptCommit} (ok : prepareModelAttempt commit s = .ok s') :
    ∃ owner, s.loadFencedOwner commit.fence commit.preparedAt = .ok owner ∧ MovesLoop s commit.fence.runId s' := by
  simp only [prepareModelAttempt, eq_ok] at ok
  obtain ⟨_, _, owner, loaded, _, _, _, _, _, reserved, advanced⟩ := ok
  obtain ⟨budgets, same⟩ := initializeBudget_budgets commit s
  rw [same] at reserved
  obtain ⟨_, _, _, _, rfl⟩ := putBudget_ok.mp reserved
  obtain ⟨state, rfl⟩ := advanceToModelDispatch_ok advanced
  exact ⟨owner, loaded, _, _, _, _, state, rfl⟩

theorem dispatchModelAttempt_ok {commit} (ok : dispatchModelAttempt commit s = .ok s') :
    ∃ owner, s.loadFencedOwner commit.fence commit.dispatchedAt = .ok owner ∧
      ((∃ modelAttempts, s' = { s with modelAttempts }) ∨ retireUnviableModelDispatch commit s = .ok s') := by
  simp only [dispatchModelAttempt, eq_ok] at ok
  obtain ⟨_, _, owner, loaded, _, _, ok⟩ := ok
  split at ok
  next =>
    simp only [eq_ok] at ok
    obtain ⟨_, _, rfl⟩ := ok
    exact ⟨owner, loaded, .inl ⟨_, rfl⟩⟩
  next => exact ⟨owner, loaded, .inr ok⟩

theorem retireUnviableModelDispatch_ok {commit : DispatchModelAttemptCommit}
    (ok : retireUnviableModelDispatch commit s = .ok s') : MovesLoop s commit.fence.runId s' := by
  simp only [retireUnviableModelDispatch, eq_ok, closeReservation_ok, putBudget_ok] at ok
  obtain ⟨_, _, _, _, _, _, _, _, _, _, _, _, _, ⟨_, rfl⟩, _, ⟨_, _, _, _, rfl⟩, rfl⟩ := ok
  exact ⟨_, _, _, _, _, rfl⟩

theorem recordModelResult_ok {commit : RecordModelResultCommit} (ok : recordModelResult commit s = .ok s') :
    ∃ owner, s.loadFencedOwner commit.fence commit.completedAt = .ok owner ∧ MovesLoop s commit.fence.runId s' := by
  simp only [recordModelResult, eq_ok, closeReservation_ok, putBudget_ok] at ok
  obtain ⟨owner, loaded, _, _, _, _, _, _, _, _, _, _, _, _, _, ⟨_, rfl⟩, _, ⟨_, _, _, _, rfl⟩, rfl⟩ := ok
  exact ⟨owner, loaded, _, _, _, _, _, rfl⟩

theorem requeueProviderRetry_ok {completedAt retryAt next}
    (ok : requeueProviderRetry fence completedAt retryAt next s = .ok s') :
    ∃ lease run, s.heldLease fence = some lease ∧ s.runningUnder fence = some run ∧
      s' = { s with
        leases := s.leases.put fence.leaseId { lease with state := .released, releasedAt := some completedAt },
        runs := s.runs.put fence.runId
          { run with status := .queued, currentFencingToken := next, nextAttemptAt := some retryAt } } := by
  simp only [requeueProviderRetry, eq_ok] at ok
  obtain ⟨lease, held, _, _, run, running, rfl⟩ := ok
  exact ⟨lease, run, held, running, rfl⟩

/-- The failure schedules another attempt. -/
def RecordModelFailureCommit.retries (commit : RecordModelFailureCommit) (s : Store) : Bool :=
  commit.retryable && (s.budgets.get commit.fence.runId).any fun budget =>
    budget.allowsRetry (commit.completedAt + commit.retryDelayMs)

theorem recordModelFailure_ok {commit : RecordModelFailureCommit} (ok : recordModelFailure commit s = .ok s') :
    ∃ owner failed retryAt, s.loadFencedOwner commit.fence commit.completedAt = .ok owner ∧
      MovesLoop s commit.fence.runId failed ∧
      ((commit.retries s = false ∧ s' = failed) ∨
        (commit.retries s = true ∧ requeueProviderRetry commit.fence commit.completedAt retryAt
          (commit.fence.fencingToken + 1) failed = .ok s')) := by
  simp only [recordModelFailure, eq_ok, nextToken_eq_ok, closeReservation_ok, putBudget_ok] at ok
  obtain ⟨_, _, _, ⟨_, rfl⟩, owner, loaded, _, _, _, _, budget, budgetFound, _, _, _, _, _, _, _, ⟨_, rfl⟩, _,
    ⟨_, _, _, _, rfl⟩, ok⟩ := ok
  have retries : commit.retries s =
      (commit.retryable && budget.allowsRetry (commit.completedAt + commit.retryDelayMs)) := by
    simp [RecordModelFailureCommit.retries, budgetFound]
  rw [retries]
  generalize (commit.retryable && budget.allowsRetry _) = granted at ok
  cases granted with
  | true => exact ⟨owner, _, _, loaded, ⟨_, _, _, _, _, rfl⟩, .inr ⟨rfl, ok⟩⟩
  | false =>
    exact ⟨owner, _, commit.completedAt, loaded, ⟨_, _, _, _, _, rfl⟩, .inl ⟨rfl, (pure_eq_ok.mp ok).symm⟩⟩

/-! ### Read tools -/

theorem prepareReadTool_ok {commit : PrepareReadToolCommit} (ok : prepareReadTool commit s = .ok s') :
    ∃ owner, s.loadFencedOwner commit.fence commit.preparedAt = .ok owner ∧ MovesLoop s commit.fence.runId s' := by
  simp only [prepareReadTool, eq_ok, putBudget_ok] at ok
  obtain ⟨_, _, owner, loaded, _, _, _, _, _, ⟨_, _, _, _, rfl⟩, _, _, _, _, rfl⟩ := ok
  exact ⟨owner, loaded, _, _, _, _, _, rfl⟩

theorem dispatchReadTool_ok {commit} (ok : dispatchReadTool commit s = .ok s') :
    ∃ owner toolCalls, s.loadFencedOwner commit.fence commit.startedAt = .ok owner ∧ s' = { s with toolCalls } := by
  simp only [dispatchReadTool, eq_ok] at ok
  obtain ⟨owner, loaded, _, _, _, _, _, _, rfl⟩ := ok
  exact ⟨owner, _, loaded, rfl⟩

theorem recordReadToolResult_ok {commit : RecordReadToolResultCommit} (ok : recordReadToolResult commit s = .ok s') :
    ∃ owner, s.loadFencedOwner commit.fence commit.completedAt = .ok owner ∧ MovesLoop s commit.fence.runId s' := by
  simp only [recordReadToolResult, eq_ok, putBudget_ok] at ok
  obtain ⟨owner, loaded, _, _, _, _, _, _, _, _, _, _, _, ⟨_, _, _, _, rfl⟩, rfl⟩ := ok
  exact ⟨owner, loaded, _, _, _, _, _, rfl⟩

end Mealy
