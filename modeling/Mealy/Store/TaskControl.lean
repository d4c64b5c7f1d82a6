import Mealy.Store.Validation

/-! Operator control of a task (`agent.rs`): requesting its cancellation, pausing it
and resuming it. -/

namespace Mealy
open Relational Transaction

/-- A task with its run, as the control queries join them. -/
structure ControlledTask where
  task : Task
  runId : RunId
  run : Run

/-- The join of task, run, turn and session, for the owner of the session. -/
def Store.loadControlledTask (s : Store) (ownership : OwnershipContext) (taskId : TaskId) :
    Except StoreError ControlledTask := do
  let task ← require (s.tasks.get taskId) .notFound
  let (runId, run) ← require (s.runOfTask taskId) .notFound
  let (_, turn) ← require (s.turnOfRun runId) .notFound
  let session ← require (s.sessions.get turn.sessionId) .notFound
  ensure (turn.taskId = taskId ∧ session.ownedBy ownership) .notFound
  pure { task, runId, run }

/-! ### Cancellation -/

structure RequestTaskCancellationCommit where
  ownership : OwnershipContext
  taskId : TaskId
  (reason idempotencyKey : String)
  requestedAt : Millis

def RequestTaskCancellationCommit.wellFormed (commit : RequestTaskCancellationCommit) : Bool :=
  commit.reason ≠ "" ∧ commit.reason.utf8ByteSize ≤ 1024 ∧ commit.idempotencyKey ≠ "" ∧
    commit.idempotencyKey.utf8ByteSize ≤ 256

def TaskStatus.isControllable : TaskStatus → Bool
  | .queued | .running | .waiting => true
  | .paused | .cancelling | .succeeded | .failed | .cancelled => false

/-- Mark the budget of a run, if it has one; an earlier mark stays. -/
def cancelBudget (runId : RunId) (requestedAt : Millis) (s : Store) : Txn :=
  match s.budgets.get runId with
  | none => .ok s
  | some budget => do
    -- `cancellation_requested_at_ms >= started_at_ms` of the budget.
    ensure (budget.cancellationRequestedAt = none → budget.startedAt ≤ requestedAt) .conflict
    pure { s with
      budgets := s.budgets.put runId
        { budget with
          cancellationRequestedAt := budget.cancellationRequestedAt.or (some requestedAt) } }

def Store.activeDelegations (s : Store) (parentRunId : RunId) : List (DelegationId × Delegation) :=
  s.delegations.select fun _ delegation => delegation.parentRunId = parentRunId ∧ delegation.state.isActive

def cancelChild (delegation : Delegation) (requestedAt : Millis) (s : Store) : Txn := do
  let run ← require (s.runs.get delegation.childRunId) .conflict
  let task ← require (s.tasks.get delegation.childTaskId) .conflict
  ensure (run.status.isLive ∧ (task.status.isControllable ∨ task.status = .cancelling)) .conflict
  cancelBudget delegation.childRunId requestedAt { s with
    runs := s.runs.put delegation.childRunId
      { run with cancellationRequestedAt := run.cancellationRequestedAt.or (some requestedAt) },
    tasks := s.tasks.put delegation.childTaskId
      { task with
        status := .cancelling,
        revision := if task.status = .cancelling then task.revision else task.revision + 1 } }

def cancelActiveChild (commit : RequestTaskCancellationCommit) (active : List (DelegationId × Delegation))
    (s : Store) : Txn :=
  match active with
  | [] => .ok s
  | [(_, delegation)] => do
    let cancelled ← cancelChild delegation commit.requestedAt s
    ensure (cancelled.undispatchedAgentEffects commit.taskId).isEmpty .conflict
    pure cancelled
  | _ :: _ :: _ =>
    .error (.invariantViolation "one waiting parent owns multiple active delegated children")

/-- A waiting run without an active child is queued so that a worker can end it. -/
def requeueCancelled (runId : RunId) (requestedAt : Millis) (s : Store) : Txn := do
  let run ← require (s.runs.get runId) .conflict
  ensure (run.status = .waiting ∧ run.cancellationRequestedAt = some requestedAt ∧ !s.hasActiveLease runId)
    .conflict
  pure { s with runs := s.runs.put runId { run with status := .queued, nextAttemptAt := none } }

def requestTaskCancellation (commit : RequestTaskCancellationCommit) (s : Store) : Txn := do
  ensure commit.wellFormed (.invariantViolation "cancellation reason is outside the durable bound")
  match s.cancellations.get (commit.ownership, commit.idempotencyKey) with
  | some recorded =>
    ensure (recorded.taskId = commit.taskId ∧ recorded.reason = commit.reason) .conflict
    pure s
  | none =>
    let row ← s.loadControlledTask commit.ownership commit.taskId
    ensure (row.run.cancellationRequestedAt = none ∧ !row.task.status.isTerminal) .conflict
    ensure (row.task.status.isControllable ∧ row.run.status.isLive) .conflict
    let requested ← cancelBudget row.runId commit.requestedAt { s with
      tasks := s.tasks.put commit.taskId
        { row.task with status := .cancelling, revision := row.task.revision + 1 },
      runs := s.runs.put row.runId
        { row.run with cancellationRequestedAt := some commit.requestedAt } }
    let active := requested.activeDelegations row.runId
    let propagated ← cancelActiveChild commit active requested
    let denied ← cancelUndispatchedAgentEffect commit.taskId commit.ownership.principalId
      commit.requestedAt propagated
    let ready ← if row.run.status = .waiting ∧ active.isEmpty
      then requeueCancelled row.runId commit.requestedAt denied
      else pure denied
    pure { ready with
      cancellations := ready.cancellations.put (commit.ownership, commit.idempotencyKey)
        { taskId := commit.taskId, reason := commit.reason, taskRevision := row.task.revision + 1 } }

/-! ### Pause and resume -/

inductive TaskControlAction where
  | pause | resume

structure TaskControlCommit where
  ownership : OwnershipContext
  taskId : TaskId
  expectedRevision : Nat
  action : TaskControlAction
  eventId : EventId
  evidenceDigest : Json.Digest
  controlledAt : Millis

def Store.activeLease (s : Store) (runId : RunId) : Option (LeaseId × WorkLease) :=
  s.leases.find fun _ lease => lease.runId = runId ∧ lease.state = .active

/-- A running run loses its lease as in a recovery, whatever its expiry. -/
def fencePaused (commit : TaskControlCommit) (row : ControlledTask) (s : Store) : Txn := do
  ensure row.task.status.isControllable .conflict
  if row.run.status = .running then
    let (leaseId, _) ← require (s.activeLease row.runId)
      (.invariantViolation "running task has no active lease to fence")
    recoverLease
      { leaseId, recoverAllActive := true, eventId := commit.eventId,
        evidenceDigest := commit.evidenceDigest, now := commit.controlledAt } s
  else pure s

def RunStatus.resumedTask : RunStatus → Option TaskStatus
  | .queued => some .queued
  | .waiting => some .waiting
  | .running => some .running
  | .succeeded | .failed | .cancelled => none

/-- The last update of a control: the task as it stands then takes its new status. -/
def controlledTo (taskId : TaskId) (status : TaskStatus) (s : Store) : Txn := do
  let task ← require (s.tasks.get taskId) .conflict
  pure { s with tasks := s.tasks.put taskId { task with status, revision := task.revision + 1 } }

def controlTask (commit : TaskControlCommit) (s : Store) : Txn := do
  let row ← s.loadControlledTask commit.ownership commit.taskId
  ensure (row.task.revision = commit.expectedRevision) .conflict
  match commit.action with
  | .pause =>
    let fenced ← fencePaused commit row s
    controlledTo commit.taskId .paused fenced
  | .resume =>
    ensure (row.task.status = .paused ∧ (s.activeLease row.runId).isNone) .conflict
    let status ← require row.run.status.resumedTask .conflict
    controlledTo commit.taskId status s

end Mealy
