import Mealy.Store.Completion

/-! Recovery of leases that were lost (`recovery.rs`): the interrupted boundary of the
agent loop is rolled back, an effect attempt left open under the lease is classified,
and the run is queued again or left waiting for a reconciliation. -/

namespace Mealy
open Relational Transaction

/-! ### The agent boundary -/

def recoverReadTool (runId : RunId) (state : RunLoopState) (toolCallId : ToolCallId) (tool : ToolCall)
    (now : Millis) (s : Store) : Txn := do
  let conflicted : StoreError := .invariantViolation "interrupted read-tool recovery conflicted"
  let budget ← require (s.budgets.get runId) (.unavailable "run budget")
  let dispatched : Bool := tool.state = .running
  let mayRetry : Bool := !dispatched || budget.usedRetries < budget.maximumRetries
  ensure (tool.runId = runId) conflicted
  ensure (tool.startedAt.getD tool.preparedAt ≤ now) (.unavailable "tool_call")
  let budgeted ← putBudget runId
    (fun budget => (budget.settle { toolCalls := 1 } { toolCalls := dispatched.toNat }).map
      (·.retry (dispatched && mayRetry))) conflicted s
  pure { budgeted with
    toolCalls := budgeted.toolCalls.put toolCallId { tool with state := .interrupted },
    loops := budgeted.loops.put runId
      { state with
        nextAction := if mayRetry then .consumeModelResult else .dispatchReadTool,
        currentToolCallId := if mayRetry then none else state.currentToolCallId } }

def recoverModelAttempt (runId : RunId) (state : RunLoopState) (attemptId : AttemptId) (attempt : ModelAttempt)
    (now : Millis) (s : Store) : Txn := do
  let reservation ← require (s.activeReservation attemptId)
    (.invariantViolation "incomplete model attempt has no active reservation")
  let conflicted : StoreError := .invariantViolation "model-attempt recovery conflicted"
  let budget ← require (s.budgets.get runId) (.unavailable "run budget")
  let dispatched : Bool := attempt.state = .dispatching
  let mayRetry : Bool := !dispatched || budget.usedRetries < budget.maximumRetries
  let budgeted ← putBudget runId
    (fun budget => (budget.settle reservation.usage (if dispatched then reservation.usage else {})).map
      (·.retry (dispatched && mayRetry))) conflicted s
  let closed ← closeReservation attemptId reservation (if dispatched then .chargedUnknown else .released)
    now budgeted
  ensure (attempt.runId = runId) conflicted
  ensure (attempt.preparedAt ≤ now) (.unavailable "model_attempt")
  pure { closed with
    modelAttempts := closed.modelAttempts.put attemptId { attempt with state := .interrupted },
    loops := closed.loops.put runId
      { state with nextAction := if mayRetry then .compileContext else .dispatchModel } }

def Store.openTool (s : Store) (state : RunLoopState) : Option (ToolCallId × ToolCall) :=
  state.currentToolCallId.bind fun toolCallId =>
    ((s.toolCalls.get toolCallId).filter fun tool => tool.state.isIncomplete).map fun tool => (toolCallId, tool)

def Store.openAttempt (s : Store) (state : RunLoopState) : Option (AttemptId × ModelAttempt) :=
  state.currentAttemptId.bind fun attemptId =>
    ((s.modelAttempts.get attemptId).filter fun attempt => attempt.state.isIncomplete).map
      fun attempt => (attemptId, attempt)

def recoverIncompleteAgentBoundary (runId : RunId) (now : Millis) (s : Store) : Txn :=
  match s.loops.get runId with
  | none => .ok s
  | some state =>
    match s.openTool state with
    | some (toolCallId, tool) => recoverReadTool runId state toolCallId tool now s
    | none =>
      match s.openAttempt state with
      | some (attemptId, attempt) => recoverModelAttempt runId state attemptId attempt now s
      | none => .ok s

/-! ### Interrupted effects -/

inductive RecoveredLeaseDisposition where
  | requeued | waiting
deriving DecidableEq

def recoveryBoundary : EffectAttemptState → EffectStatus → Option EffectAttemptBoundary
  | .prepared, .authorized => some .prepared
  | .running, .dispatching => some .running
  | .outcomeUnknown, .outcomeUnknown => some .outcomeUnknown
  | _, _ => none

def candidateDisposition (boundary : EffectAttemptBoundary) (idempotency : IdempotencyClass)
    (recovery : RecoveryStrategy) : EffectRecoveryDisposition :=
  match boundary, recovery, idempotency with
  | .prepared, _, _ => .resumePrepared
  | .outcomeUnknown, .compensate, _ => .requiresCompensation
  | .outcomeUnknown, .neverRetry, _ => .terminallyFailed
  | .outcomeUnknown, _, _ => .requiresReconciliation
  | .running, .compensate, _ => .requiresCompensation
  | .running, .neverRetry, _ => .terminallyFailed
  | .running, .retry, .keyed => .retryWithSameKey
  | .running, .retry, .pure | .running, .retry, .idempotent => .retry
  | .running, _, _ => .requiresReconciliation

structure InterruptedEffect where
  effectId : EffectId
  attemptId : AttemptId
  effectRevision : Nat
  boundary : EffectAttemptBoundary
  disposition : EffectRecoveryDisposition

/-- The recovery candidates among the attempts prepared under a lease. -/
def Store.interruptedEffects (s : Store) (leaseId : LeaseId) (lease : WorkLease) : List InterruptedEffect :=
  s.attempts.entries.filterMap fun (attemptId, attempt) =>
    if attempt.preparedFence.leaseId = leaseId ∧ attempt.preparedFence.ownerId = lease.ownerId ∧
        attempt.preparedFence.fencingToken = lease.fencingToken then
      (s.effects.get attempt.effectId).bind fun effect =>
        (recoveryBoundary attempt.state effect.status).map fun boundary =>
          { effectId := attempt.effectId, attemptId, effectRevision := effect.revision, boundary,
            disposition := candidateDisposition boundary effect.idempotencyClass effect.recoveryStrategy }
    else none

def Store.loadInterruptedEffect (s : Store) (leaseId : LeaseId) (lease : WorkLease) :
    Except StoreError (Option InterruptedEffect) :=
  match s.interruptedEffects leaseId lease with
  | [] => .ok none
  | [effect] => .ok (some effect)
  | _ :: _ :: _ =>
    .error (.invariantViolation "one expired lease owns multiple unsettled effect dispatches")

def classifyLeaseRecovery : Option InterruptedEffect → Except StoreError RecoveredLeaseDisposition
  | none => .ok .requeued
  | some effect =>
    match effect.boundary, effect.disposition with
    | .prepared, .resumePrepared | .running, .retry | .running, .retryWithSameKey => .ok .requeued
    | .running, .requiresReconciliation | .running, .requiresCompensation
    | .running, .terminallyFailed | .outcomeUnknown, .requiresReconciliation
    | .outcomeUnknown, .requiresCompensation | .outcomeUnknown, .terminallyFailed => .ok .waiting
    | .prepared, _ => .error
        (.invariantViolation "an undispatched effect preparation has an invalid recovery disposition")
    | _, _ => .error (.invariantViolation "stored effect recovery disposition is invalid")

structure RecoverLeaseCommit where
  leaseId : LeaseId
  recoverAllActive : Bool
  eventId : EventId
  evidenceDigest : Json.Digest
  now : Millis

def recoverEffect (commit : RecoverLeaseCommit) (disposition : RecoveredLeaseDisposition)
    (interrupted : Option InterruptedEffect) (s : Store) : Txn :=
  match interrupted with
  | none => .ok s
  | some effect =>
    let recovery : RecoverInterruptedEffectCommit :=
      { effectId := effect.effectId, attemptId := effect.attemptId,
        expectedEffectRevision := effect.effectRevision, eventId := commit.eventId,
        evidenceDigest := commit.evidenceDigest, recoveredAt := commit.now }
    match disposition, effect.boundary with
    | .waiting, .running => recoverInterruptedEffectTransaction recovery s
    | .waiting, .outcomeUnknown => .ok s
    | .waiting, .prepared => .error (.invariantViolation "waiting effect boundary is invalid")
    | .requeued, .prepared => recoverUndispatchedEffect recovery s
    | .requeued, .running => recoverRetryableEffect recovery s
    | .requeued, .outcomeUnknown =>
      .error (.invariantViolation "stored interrupted effect boundary is invalid")

/-- `transition_task_to_waiting`: a cancelling task stays cancelling. -/
def transitionTaskToWaiting (taskId : TaskId) (s : Store) : Txn := do
  let task ← require (s.tasks.get taskId) (.invariantViolation "waiting run has no owning task")
  match task.status with
  | .running =>
    pure { s with
      tasks := s.tasks.put taskId { task with status := .waiting, revision := task.revision + 1 } }
  | .waiting | .cancelling => pure s
  | .queued | .paused | .succeeded | .failed | .cancelled =>
    .error (.invariantViolation "unknown effect belongs to a task that cannot wait")

def recoverLease (commit : RecoverLeaseCommit) (s : Store) : Txn := do
  let stale : StoreError := .invariantViolation "expired lease was no longer current"
  let lease ← require (s.leases.get commit.leaseId) stale
  let recovered ← recoverIncompleteAgentBoundary lease.runId commit.now s
  ensure (lease.state = .active ∧ (commit.recoverAllActive ∨ lease.expiresAt ≤ commit.now)) stale
  -- `released_at_ms >= acquired_at_ms` of the lease.
  ensure (lease.acquiredAt ≤ commit.now) (.unavailable "work_lease")
  let expired := { recovered with
    leases := recovered.leases.put commit.leaseId
      { lease with state := .expired, releasedAt := some commit.now } }
  let interrupted ← expired.loadInterruptedEffect commit.leaseId lease
  let disposition ← classifyLeaseRecovery interrupted
  let settled ← recoverEffect commit disposition interrupted expired
  let next ← nextToken lease.fencingToken "recovery fencing token overflow"
  let run ← require (settled.runs.get lease.runId) stale
  ensure (run.status = .running ∧ run.currentFencingToken = lease.fencingToken)
    (.invariantViolation "expired lease run was no longer current")
  let status : RunStatus := match disposition with
    | .requeued => .queued
    | .waiting => .waiting
  let requeued := { settled with
    runs := settled.runs.put lease.runId
      { run with status, currentFencingToken := max run.currentFencingToken next } }
  if disposition = .waiting then transitionTaskToWaiting run.taskId requeued else pure requeued

/-- `load_expired`, in the order of its expiry times. -/
def Store.loadExpired (s : Store) (now : Millis) (recoverAllActive : Bool) : List (LeaseId × WorkLease) :=
  (s.leases.select fun _ lease =>
    lease.state = .active ∧ (recoverAllActive ∨ lease.expiresAt ≤ now)).mergeSort fun a b =>
      a.2.expiresAt < b.2.expiresAt ∨ (a.2.expiresAt = b.2.expiresAt ∧ a.1.id ≤ b.1.id)

structure StartupRecoveryCommit where
  recoverAllActive : Bool
  batchLimit : Nat
  reserved : Nat → EventId × Json.Digest
  now : Millis

end Mealy
