import Mealy.Store.Delegation

/-! Completing a run under its fence (`complete_run` of `scheduler.rs`): what the
agent loop left unfinished is settled, run, task and turn become terminal, and a
delegated child hands its result to the parent's tool call. -/

namespace Mealy
open Relational Transaction

inductive RunCompletionStatus where
  | succeeded | failed | cancelled
deriving DecidableEq

namespace RunCompletionStatus

def text : RunCompletionStatus → String
  | .succeeded => "succeeded"
  | .failed => "failed"
  | .cancelled => "cancelled"

def runStatus : RunCompletionStatus → RunStatus
  | .succeeded => .succeeded
  | .failed => .failed
  | .cancelled => .cancelled

def taskStatus : RunCompletionStatus → TaskStatus
  | .succeeded => .succeeded
  | .failed => .failed
  | .cancelled => .cancelled

def turnStatus : RunCompletionStatus → TurnStatus
  | .succeeded => .completed
  | .failed => .failed
  | .cancelled => .cancelled

def delegationState : RunCompletionStatus → DelegationState
  | .succeeded => .succeeded
  | .failed => .failed
  | .cancelled => .cancelled

end RunCompletionStatus

structure FinalMessageCommit where
  sourceAttemptId : AttemptId
  content : String

structure CompleteRunCommit where
  fence : LeaseFence
  status : RunCompletionStatus
  summary : String
  finalMessage : Option FinalMessageCommit
  completedAt : Millis

def Store.loadCompletion (s : Store) (commit : CompleteRunCommit) :
    Except StoreError (FencedOwner × Task) := do
  let owner ← s.loadFencedOwner commit.fence commit.completedAt
  let task ← require (s.tasks.get owner.run.taskId) .staleFence
  ensure (task.status = .running ∨ task.status = .cancelling) .staleFence
  ensure (commit.status = .succeeded →
    task.status = .running ∧ owner.run.cancellationRequestedAt = none ∧
      ∀ budget ∈ s.budgets.get commit.fence.runId, commit.completedAt ≤ budget.deadlineAt) .staleFence
  pure (owner, task)

def ProviderResponse.finalText : ProviderResponse → Option String
  | final text => some text
  | toolCall .. => none

def insertFinalMessage (commit : CompleteRunCommit) (message : FinalMessageCommit) (s : Store) : Txn := do
  ensure (message.content ≠ "" ∧ message.content.utf8ByteSize ≤ 64 * 1024)
    (.invariantViolation "final message content evidence is invalid")
  let attempt ← require (s.modelAttempts.get message.sourceAttemptId)
    (.invariantViolation "final message has no committed final model result")
  ensure (attempt.runId = commit.fence.runId ∧ attempt.state = .completed)
    (.invariantViolation "final message has no committed final model result")
  let text ← require (attempt.response.bind ProviderResponse.finalText)
    (.invariantViolation "final message has no committed final model result")
  ensure (text = message.content)
    (.invariantViolation "final message differs from committed model result")
  let state ← require (s.loopAtAttempt commit.fence.runId .commitFinal message.sourceAttemptId)
    (.invariantViolation "final message does not match the durable loop boundary")
  pure { s with loops := s.loops.put commit.fence.runId { state with nextAction := .terminal } }

/-! ### Settling what the loop left open -/

def Store.inFlight (s : Store) (runId : RunId) (states : ModelAttemptState → Bool)
    (axis : BudgetReservation → Nat) : Nat :=
  s.modelAttempts.sum fun attemptId attempt =>
    if attempt.runId = runId ∧ states attempt.state then (s.activeReservation attemptId).elim 0 axis else 0

def Store.incompleteTools (s : Store) (runId : RunId) : Nat :=
  s.toolCalls.count fun _ tool => tool.runId = runId ∧ tool.state.isIncomplete

def Store.runningTools (s : Store) (runId : RunId) : Nat :=
  s.toolCalls.count fun _ tool => tool.runId = runId ∧ tool.state = .running

def Store.unobservedInvocations (s : Store) (runId : RunId) : Nat :=
  s.invocations.count fun effectId invocation =>
    invocation.runId = runId ∧ (s.observations.get effectId).isNone

/-- `load_incomplete_work_settlement`: what the open work of the run reserves. -/
def Store.reservedWork (s : Store) (runId : RunId) : Usage where
  modelCalls := s.inFlight runId ModelAttemptState.isIncomplete fun _ => 1
  toolCalls := s.incompleteTools runId + s.unobservedInvocations runId
  inputTokens := s.inFlight runId ModelAttemptState.isIncomplete BudgetReservation.inputTokens
  outputTokens := s.inFlight runId ModelAttemptState.isIncomplete BudgetReservation.outputTokens
  costMicrounits := s.inFlight runId ModelAttemptState.isIncomplete BudgetReservation.costMicrounits
  outputBytes := s.inFlight runId ModelAttemptState.isIncomplete BudgetReservation.outputBytes

def Store.chargedWork (s : Store) (runId : RunId) : Usage where
  modelCalls := s.inFlight runId (· = .dispatching) fun _ => 1
  toolCalls := s.runningTools runId + s.unobservedInvocations runId
  inputTokens := s.inFlight runId (· = .dispatching) BudgetReservation.inputTokens
  outputTokens := s.inFlight runId (· = .dispatching) BudgetReservation.outputTokens
  costMicrounits := s.inFlight runId (· = .dispatching) BudgetReservation.costMicrounits
  outputBytes := s.inFlight runId (· = .dispatching) BudgetReservation.outputBytes

def Store.openWorkPredates (s : Store) (runId : RunId) (at_ : Millis) : Bool :=
  !(s.modelAttempts.any fun attemptId attempt =>
    attempt.runId = runId ∧ attempt.state.isIncomplete ∧
      (at_ < attempt.preparedAt ∨ (s.activeReservation attemptId).any fun r => at_ < r.createdAt)) ∧
  !(s.toolCalls.any fun _ tool =>
    tool.runId = runId ∧ tool.state.isIncomplete ∧ at_ < tool.startedAt.getD tool.preparedAt)

def settleBudget (runId : RunId) (s : Store) : Txn :=
  match s.budgets.get runId with
  | none => .ok s
  | some budget => do
    let next := { budget with
      used := budget.used + s.chargedWork runId,
      reserved := { delegatedRuns := budget.reserved.delegatedRuns } }
    ensure (budget.reserved = { s.reservedWork runId with
        delegatedRuns := budget.reserved.delegatedRuns })
      (.invariantViolation "incomplete agent work and its reservations were not current together")
    ensure next.Fits .conflict
    pure { s with budgets := s.budgets.put runId next }

def settleIncompleteAgentWork (runId : RunId) (status : RunCompletionStatus) (completedAt : Millis)
    (s : Store) : Txn :=
  if status = .succeeded then .ok s
  else do
    ensure (!(s.modelAttempts.any fun attemptId attempt =>
        attempt.runId = runId ∧ !attempt.state.isIncomplete ∧ (s.activeReservation attemptId).isSome))
      (.invariantViolation "active budget reservation is not attached to incomplete model work")
    ensure (s.openWorkPredates runId completedAt) .conflict
    ensure (s.modelAttempts.count (fun _ attempt => attempt.runId = runId ∧ attempt.state.isIncomplete) =
        (s.reservedWork runId).modelCalls)
      (.invariantViolation "incomplete agent work and its reservations were not current together")
    let budgeted ← settleBudget runId s
    pure { budgeted with
      reservations := s.reservations.update fun attemptId reservation =>
        match s.modelAttempts.get attemptId with
        | some attempt =>
          if attempt.runId = runId ∧ attempt.state.isIncomplete ∧ reservation.state = .active then
            { reservation with
              state := if attempt.state = .prepared then .released else .chargedUnknown }
          else reservation
        | none => reservation,
      modelAttempts := s.modelAttempts.update fun _ attempt =>
        if attempt.runId = runId ∧ attempt.state.isIncomplete then
          { attempt with state := if attempt.state = .prepared then .cancelled else .interrupted }
        else attempt,
      toolCalls := s.toolCalls.update fun _ tool =>
        if tool.runId = runId ∧ tool.state.isIncomplete then
          { tool with state := if tool.state = .prepared then .cancelled else .interrupted }
        else tool }

/-! ### Delivering a delegated result -/

def agentDelegateResultLocator : String := "delegation://result"

/-- The result object recorded on the delegation and as the tool's output. -/
def delegationResult (delegationId : DelegationId) (childTaskId : TaskId) (childRunId : RunId)
    (status : RunCompletionStatus) (summary : String) : Json.Value :=
  .object
    [("childRunId", .string (Json.uuidText childRunId.id)),
     ("childTaskId", .string (Json.uuidText childTaskId.id)),
     ("contractVersion", .string "mealy.delegation-result.v1"),
     ("delegationId", .string (Json.uuidText delegationId.id)),
     ("sourceLocator", .string agentDelegateResultLocator),
     ("status", .string status.text),
     ("summary", .string summary)]

def settleDelegatedChild (commit : CompleteRunCommit) (childTaskId : TaskId) (s : Store) : Txn := do
  let boundary : StoreError := .invariantViolation "delegated child has no waiting parent tool boundary"
  let together : StoreError :=
    .invariantViolation "delegated child result and parent resume were not current together"
  let (delegationId, delegation) ← require (s.delegations.find fun _ delegation =>
    delegation.childRunId = commit.fence.runId ∧ delegation.childTaskId = childTaskId ∧
      delegation.state = .running) boundary
  let parent ← require (s.runs.get delegation.parentRunId) boundary
  let parentTask ← require (s.tasks.get parent.taskId) boundary
  let tool ← require (s.toolCalls.get delegation.parentToolCallId) boundary
  let state ← require (s.loopAtTool delegation.parentRunId delegation.parentToolCallId) boundary
  ensure (tool.runId = delegation.parentRunId ∧ tool.toolId = .agentDelegate ∧ tool.state = .running ∧
    parent.status = .waiting ∧ (parentTask.status = .waiting ∨ parentTask.status = .cancelling) ∧
    !s.hasActiveLease delegation.parentRunId) boundary
  let result := delegationResult delegationId childTaskId commit.fence.runId commit.status commit.summary
  ensure (result.size ≤ 64 * 1024)
    (.invariantViolation "delegated child result exceeds the parent tool-output bound")
  ensure (delegation.createdAt ≤ commit.completedAt) .conflict
  ensure (tool.withinTimeout commit.completedAt) together
  let budgeted ← putBudget delegation.parentRunId
    (fun budget => budget.settle { toolCalls := 1, delegatedRuns := 1 }
      { toolCalls := 1, delegatedRuns := 1, outputBytes := result.size }) together s
  let expected : TaskStatus :=
    if parent.cancellationRequestedAt.isSome then .cancelling else .waiting
  ensure (parentTask.status = expected) together
  let resumed : TaskStatus := if parent.cancellationRequestedAt.isSome then .cancelling else .queued
  pure { budgeted with
    delegations := budgeted.delegations.put delegationId
      { delegation with state := commit.status.delegationState },
    toolCalls := budgeted.toolCalls.put delegation.parentToolCallId { tool with state := .succeeded },
    loops := budgeted.loops.put delegation.parentRunId { state with nextAction := .compileAfterTool },
    runs := budgeted.runs.put delegation.parentRunId
      { parent with status := .queued, nextAttemptAt := none },
    tasks := budgeted.tasks.put parent.taskId
      { parentTask with status := resumed, revision := parentTask.revision + 1 } }

/-! ### Completion -/

def Store.validationGate (s : Store) (taskId : TaskId) (task : Task) : Bool :=
  !task.validationRequired ||
  task.validationId.any fun validationId =>
    (s.validations.get validationId).any fun record =>
      record.taskId = taskId ∧ (record.outcome = .passed ∨ record.outcome = .waived)

/-- The five guarded updates that make the run terminal. -/
def finishRun (commit : CompleteRunCommit) (owner : FencedOwner) (task : Task) (next : Nat) (s : Store) :
    Txn := do
  let lease ← require (s.heldLease commit.fence) .staleFence
  -- `completed_at_ms >= created_at_ms` of the run and of the turn.
  ensure (owner.run.createdAt ≤ commit.completedAt ∧ owner.turn.createdAt ≤ commit.completedAt) .conflict
  ensure (commit.status = .succeeded → s.validationGate owner.run.taskId task) .conflict
  pure { s with
    leases := s.leases.put commit.fence.leaseId
      { lease with state := .released, releasedAt := some commit.completedAt },
    runs := s.runs.put commit.fence.runId
      { owner.run with status := commit.status.runStatus, currentFencingToken := next },
    tasks := s.tasks.put owner.run.taskId
      { task with status := commit.status.taskStatus, revision := task.revision + 1 },
    sessions :=
      if owner.turn.kind = .canonical then
        s.sessions.put owner.turn.sessionId { owner.session with activeTurnId := none }
      else s.sessions,
    turns := s.turns.put owner.turnId { owner.turn with status := commit.status.turnStatus } }

def completeRun (commit : CompleteRunCommit) (s : Store) : Txn := do
  let next ← nextToken commit.fence.fencingToken "completion fencing token overflow"
  let (owner, task) ← s.loadCompletion commit
  let settled ← match commit.finalMessage with
    | some message => do
      ensure (commit.status = .succeeded)
        (.invariantViolation "only a successful run may publish a final message")
      insertFinalMessage commit message s
    | none => settleIncompleteAgentWork commit.fence.runId commit.status commit.completedAt s
  let finished ← finishRun commit owner task next settled
  if owner.turn.kind = .delegated then settleDelegatedChild commit owner.run.taskId finished
  else pure finished

end Mealy
