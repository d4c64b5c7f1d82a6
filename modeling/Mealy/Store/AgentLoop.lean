import Mealy.Store.Budget
import Mealy.Store.Scheduler

/-! The agent loop of a leased run (`agent.rs`): model attempts with their budget
reservations, read-tool calls, and the context a model attempt is compiled from. -/

namespace Mealy
open Relational Transaction

/-! ### The fenced owner -/

structure FencedOwner where
  run : Run
  turnId : TurnId
  turn : Turn
  session : Session

def Store.turnBound (s : Store) (turnId : TurnId) (turn : Turn) (session : Session) : Bool :=
  match turn.kind with
  | .canonical => session.activeTurnId = some turnId
  | .delegated => s.delegations.any fun _ delegation =>
      delegation.childRunId = turn.runId ∧ delegation.state = .running

def Store.loadFencedOwner (s : Store) (fence : LeaseFence) (now : Millis) :
    Except StoreError FencedOwner := do
  let run ← require (s.runningUnder fence) .staleFence
  let lease ← require (s.heldLease fence) .staleFence
  ensure (lease.heartbeatAt ≤ now ∧ now < lease.expiresAt) .staleFence
  let (turnId, turn) ← require (s.turnOfRun fence.runId) .staleFence
  let session ← require (s.sessions.get turn.sessionId) .staleFence
  ensure (turn.taskId = run.taskId ∧ turn.status = .active ∧ s.turnBound turnId turn session) .staleFence
  pure { run, turnId, turn, session }

def Run.ensureNotCancelled (run : Run) : Except StoreError Unit :=
  ensure (run.cancellationRequestedAt = none) .cancelled

/-- `UPDATE run_budget_usage … WHERE run_id = ?`: one row must change. -/
def putBudget (runId : RunId) (changed : RunBudget → Option RunBudget) (e : StoreError) (s : Store) :
    Txn := do
  let budget ← require (s.budgets.get runId) e
  let next ← require (changed budget) e
  pure { s with budgets := s.budgets.put runId next }

/-- `UPDATE budget_reservation SET state = … WHERE state = 'active'`. -/
def closeReservation (attemptId : AttemptId) (reservation : BudgetReservation) (state : ReservationState)
    (at_ : Millis) (s : Store) : Txn := do
  ensure (reservation.createdAt ≤ at_) .conflict
  pure { s with reservations := s.reservations.put attemptId { reservation with state } }

def Store.activeReservation (s : Store) (attemptId : AttemptId) : Option BudgetReservation :=
  (s.reservations.get attemptId).filter fun reservation => reservation.state = .active

def Store.loopAtAttempt (s : Store) (runId : RunId) (action : AgentNextAction) (attemptId : AttemptId) :
    Option RunLoopState :=
  (s.loops.get runId).filter fun state =>
    state.nextAction = action ∧ state.currentAttemptId = some attemptId

def Store.loopAtTool (s : Store) (runId : RunId) (toolCallId : ToolCallId) : Option RunLoopState :=
  (s.loops.get runId).filter fun state =>
    state.nextAction = .dispatchReadTool ∧ state.currentToolCallId = some toolCallId

def Store.fencedAttempt (s : Store) (fence : LeaseFence) (attemptId : AttemptId)
    (state : ModelAttemptState) : Option ModelAttempt :=
  (s.modelAttempts.get attemptId).filter fun attempt =>
    attempt.runId = fence.runId ∧ attempt.state = state ∧ attempt.preparedFence = fence ∧
      (s.loopAtAttempt fence.runId .dispatchModel attemptId).isSome

def Store.fencedTool (s : Store) (fence : LeaseFence) (toolCallId : ToolCallId) (state : ToolCallState) :
    Option ToolCall :=
  (s.toolCalls.get toolCallId).filter fun tool =>
    tool.runId = fence.runId ∧ tool.state = state ∧ tool.preparedFence = fence ∧
      (s.loopAtTool fence.runId toolCallId).isSome

/-! ### Context sources -/

def Store.contextInputs (s : Store) (turnId : TurnId) (turn : Turn) : List InboxEntryId :=
  let history := s.turns.select fun otherId other =>
    otherId ≠ turnId ∧ other.sessionId = turn.sessionId ∧ other.status = .completed ∧
      (s.inbox.get turn.inboxEntryId).any fun current =>
        (s.inbox.get other.inboxEntryId).any fun entry =>
          entry.state = .promoted ∧ entry.promotedTurnId = some otherId ∧ entry.sequence < current.sequence
  match turn.kind with
  | .canonical => turn.inboxEntryId :: history.map fun row => row.2.inboxEntryId
  | .delegated => [turn.inboxEntryId]

/-! ### Model attempts -/

structure AgentLoopLimits where
  maximum : Usage
  (maximumRetries maximumWallTimeMs : Nat)

structure PrepareModelAttemptCommit where
  fence : LeaseFence
  attemptId : AttemptId
  iteration : Nat
  inputSources : List InboxEntryId
  limits : AgentLoopLimits
  (reservedInputTokens maximumOutputTokens reservedCostMicrounits reservedOutputBytes : Nat)
  (runBudgetStartedAt preparedAt deadlineAt : Millis)

def initializeBudget (commit : PrepareModelAttemptCommit) (s : Store) : Store :=
  if (s.budgets.get commit.fence.runId).isSome ∨ commit.limits.maximumWallTimeMs = 0 then s
  else { s with
    budgets := s.budgets.put commit.fence.runId
      { maximum := commit.limits.maximum, used := {}, reserved := {},
        maximumRetries := commit.limits.maximumRetries, usedRetries := 0,
        startedAt := commit.runBudgetStartedAt,
        deadlineAt := commit.runBudgetStartedAt + commit.limits.maximumWallTimeMs,
        cancellationRequestedAt := none } }

def advanceToModelDispatch (commit : PrepareModelAttemptCommit) (s : Store) : Txn := do
  match s.loops.get commit.fence.runId with
  | some state =>
    ensure ((state.nextAction = .compileContext ∨ state.nextAction = .compileAfterTool) ∧
      state.iteration + 1 = commit.iteration) .conflict
    pure { s with
      loops := s.loops.put commit.fence.runId
        { state with
          iteration := commit.iteration, nextAction := .dispatchModel,
          currentAttemptId := some commit.attemptId } }
  | none =>
    ensure (commit.iteration = 1) .conflict
    pure { s with
      loops := s.loops.put commit.fence.runId
        { iteration := 1, nextAction := .dispatchModel, currentAttemptId := some commit.attemptId,
          currentToolCallId := none } }

def PrepareModelAttemptCommit.reservation (commit : PrepareModelAttemptCommit) : BudgetReservation where
  inputTokens := commit.reservedInputTokens
  outputTokens := commit.maximumOutputTokens
  costMicrounits := commit.reservedCostMicrounits
  outputBytes := commit.reservedOutputBytes
  state := .active
  createdAt := commit.preparedAt

def prepareModelAttempt (commit : PrepareModelAttemptCommit) (s : Store) : Txn := do
  ensure (commit.runBudgetStartedAt ≤ commit.preparedAt)
    (.invariantViolation "run budget cannot start after provider attempt preparation")
  let _ ← s.loadFencedOwner commit.fence commit.preparedAt
  ensure (commit.preparedAt < commit.deadlineAt)
    (.invariantViolation "provider request deadline mismatch")
  ensure (s.modelAttempts.get commit.attemptId = none ∧ s.reservations.get commit.attemptId = none)
    .conflict
  let budgeted := initializeBudget commit s
  let prepared := { budgeted with
    modelAttempts := budgeted.modelAttempts.put commit.attemptId
      { runId := commit.fence.runId, state := .prepared, response := none,
        preparedAt := commit.preparedAt, deadlineAt := commit.deadlineAt,
        preparedFence := commit.fence, inputSources := commit.inputSources } }
  let reserved ← putBudget commit.fence.runId
    (fun budget => budget.reserve commit.reservation.usage commit.preparedAt)
    (.budgetExceeded "provider reservation exceeds an effective run limit")
    { prepared with
      reservations := prepared.reservations.put commit.attemptId commit.reservation }
  advanceToModelDispatch commit reserved

structure DispatchModelAttemptCommit where
  fence : LeaseFence
  attemptId : AttemptId
  (minimumExecutionWindowMs dispatchedAt : Millis)

def retireUnviableModelDispatch (commit : DispatchModelAttemptCommit) (s : Store) : Txn := do
  let attempt ← require (s.fencedAttempt commit.fence commit.attemptId .prepared) .conflict
  ensure (commit.minimumExecutionWindowMs ≤ attempt.deadlineAt - attempt.preparedAt)
    (.invariantViolation "provider minimum execution window exceeds the attempt timeout")
  ensure (attempt.deadlineAt < commit.dispatchedAt + commit.minimumExecutionWindowMs) .conflict
  ensure (attempt.preparedAt ≤ commit.dispatchedAt) .conflict
  let state ← require (s.loopAtAttempt commit.fence.runId .dispatchModel commit.attemptId) .conflict
  let reservation ← require (s.activeReservation commit.attemptId) .conflict
  let released ← closeReservation commit.attemptId reservation .released commit.dispatchedAt s
  let budgeted ← putBudget commit.fence.runId (fun budget => budget.settle reservation.usage {}) .conflict
    released
  pure { budgeted with
    modelAttempts := budgeted.modelAttempts.put commit.attemptId { attempt with state := .interrupted },
    loops := budgeted.loops.put commit.fence.runId { state with nextAction := .compileContext } }

def dispatchModelAttempt (commit : DispatchModelAttemptCommit) (s : Store) : Txn := do
  ensure (0 < commit.minimumExecutionWindowMs)
    (.invariantViolation "provider minimum execution window must be positive")
  let owner ← s.loadFencedOwner commit.fence commit.dispatchedAt
  owner.run.ensureNotCancelled
  match (s.fencedAttempt commit.fence commit.attemptId .prepared).filter fun attempt =>
      commit.dispatchedAt + commit.minimumExecutionWindowMs ≤ attempt.deadlineAt with
  | some attempt =>
    ensure (attempt.preparedAt ≤ commit.dispatchedAt) .conflict
    pure { s with
      modelAttempts := s.modelAttempts.put commit.attemptId { attempt with state := .dispatching } }
  | none => retireUnviableModelDispatch commit s

structure ProviderUsage where
  (inputTokens outputTokens costMicrounits : Nat)

structure RecordModelResultCommit where
  fence : LeaseFence
  attemptId : AttemptId
  response : ProviderResponse
  usage : ProviderUsage
  responseBytes : Nat
  completedAt : Millis

def RecordModelResultCommit.charge (commit : RecordModelResultCommit) : Usage where
  modelCalls := 1
  inputTokens := commit.usage.inputTokens
  outputTokens := commit.usage.outputTokens
  costMicrounits := commit.usage.costMicrounits
  outputBytes := commit.responseBytes

/-- Where the loop continues after a model result. -/
def ProviderResponse.nextAction : ProviderResponse → AgentNextAction
  | .final _ => .commitFinal
  | .toolCall .. => .consumeModelResult

def recordModelResult (commit : RecordModelResultCommit) (s : Store) : Txn := do
  let owner ← s.loadFencedOwner commit.fence commit.completedAt
  owner.run.ensureNotCancelled
  let reservation ← require (s.activeReservation commit.attemptId) .conflict
  ensure (commit.charge ≤ reservation.usage)
    (.budgetExceeded "provider usage exceeded its durable reservation")
  let attempt ← require (s.fencedAttempt commit.fence commit.attemptId .dispatching) .conflict
  ensure (commit.completedAt ≤ attempt.deadlineAt ∧ attempt.preparedAt ≤ commit.completedAt) .conflict
  let state ← require (s.loopAtAttempt commit.fence.runId .dispatchModel commit.attemptId) .conflict
  let settled ← closeReservation commit.attemptId reservation .settled commit.completedAt s
  let budgeted ← putBudget commit.fence.runId
    (fun budget => budget.settle reservation.usage commit.charge) .conflict settled
  pure { budgeted with
    modelAttempts := budgeted.modelAttempts.put commit.attemptId
      { attempt with state := .completed, response := some commit.response },
    loops := budgeted.loops.put commit.fence.runId
      { state with nextAction := commit.response.nextAction } }

structure RecordModelFailureCommit where
  fence : LeaseFence
  attemptId : AttemptId
  errorMessage : String
  retryable : Bool
  (retryDelayMs completedAt : Millis)

/-- The evidence bounds of a provider failure: a message of 1 to 4096 bytes without
control characters and a delay between a millisecond and an hour. -/
def RecordModelFailureCommit.valid (commit : RecordModelFailureCommit) : Bool :=
  commit.errorMessage ≠ "" ∧ commit.errorMessage.utf8ByteSize ≤ 4096 ∧
  commit.errorMessage.toList.all (fun c => 32 ≤ c.toNat ∧ (c.toNat < 127 ∨ 160 ≤ c.toNat)) ∧
  1 ≤ commit.retryDelayMs ∧ commit.retryDelayMs ≤ 3600000

/-- The budget leaves room for another attempt at this time. -/
def RunBudget.allowsRetry (budget : RunBudget) (retryAt : Millis) : Bool :=
  budget.usedRetries < budget.maximumRetries ∧
  budget.used.modelCalls + 1 < budget.maximum.modelCalls ∧ retryAt < budget.deadlineAt

def requeueProviderRetry (fence : LeaseFence) (completedAt retryAt : Millis) (next : Nat) (s : Store) :
    Txn := do
  let lease ← require (s.heldLease fence) .staleFence
  ensure (lease.heartbeatAt ≤ completedAt ∧ completedAt < lease.expiresAt) .staleFence
  let run ← require (s.runningUnder fence) .staleFence
  pure { s with
    leases := s.leases.put fence.leaseId
      { lease with state := .released, releasedAt := some completedAt },
    runs := s.runs.put fence.runId
      { run with status := .queued, currentFencingToken := next, nextAttemptAt := some retryAt } }

def recordModelFailure (commit : RecordModelFailureCommit) (s : Store) : Txn := do
  ensure commit.valid (.invariantViolation "provider failure evidence is invalid")
  let retryAt := commit.completedAt + commit.retryDelayMs
  let next ← nextToken commit.fence.fencingToken "provider retry fence overflowed"
  let owner ← s.loadFencedOwner commit.fence commit.completedAt
  owner.run.ensureNotCancelled
  let reservation ← require (s.activeReservation commit.attemptId) .conflict
  let budget ← require (s.budgets.get commit.fence.runId) .conflict
  let retryScheduled := commit.retryable && budget.allowsRetry retryAt
  let attempt ← require (s.fencedAttempt commit.fence commit.attemptId .dispatching) .conflict
  ensure (attempt.preparedAt ≤ commit.completedAt) .conflict
  let state ← require (s.loopAtAttempt commit.fence.runId .dispatchModel commit.attemptId) .conflict
  let settled ← closeReservation commit.attemptId reservation .settled commit.completedAt s
  let budgeted ← putBudget commit.fence.runId
    (fun budget => (budget.settle reservation.usage { modelCalls := 1 }).map (·.retry retryScheduled))
    .conflict settled
  let failed := { budgeted with
    modelAttempts := budgeted.modelAttempts.put commit.attemptId { attempt with state := .failed },
    loops := budgeted.loops.put commit.fence.runId
      { state with nextAction := if retryScheduled then .compileContext else .dispatchModel } }
  if retryScheduled then requeueProviderRetry commit.fence commit.completedAt retryAt next failed
  else pure failed

/-! ### Read tools -/

structure ReadToolDescriptor where
  toolId : ToolId
  timeoutMs : Millis
  maximumOutputBytes : Nat

/-- `valid_recorded_read_tool_descriptor`: the timeouts and output bounds that each
read tool is declared with. -/
def ReadToolDescriptor.valid (descriptor : ReadToolDescriptor) : Bool :=
  0 < descriptor.timeoutMs &&
  match descriptor.toolId with
  | .fixtureRead => true
  | .workspaceList | .workspaceStat | .workspaceRead | .workspaceSearch | .webFetch | .webSearch =>
    descriptor.timeoutMs = 10000 ∧ descriptor.maximumOutputBytes = 1024 * 1024
  | .skillReadResource =>
    (descriptor.timeoutMs = 1000 ∨ descriptor.timeoutMs = 5000) ∧
      descriptor.maximumOutputBytes = 128 * 1024
  | .agentDelegate => descriptor.timeoutMs = 300000 ∧ descriptor.maximumOutputBytes = 64 * 1024
  | .browserSnapshot => descriptor.timeoutMs = 30000 ∧ descriptor.maximumOutputBytes = 1024 * 1024
  | .mcp _ _ =>
    (100 ≤ descriptor.timeoutMs ∧ descriptor.timeoutMs ≤ 60000) ∧
      (1 ≤ descriptor.maximumOutputBytes ∧ descriptor.maximumOutputBytes ≤ 1024 * 1024)
  | .fixtureWriteFile | .workspaceCreateFile | .workspaceReplaceFile | .workspaceManagePath
  | .processRun | .other _ => false

structure PrepareReadToolCommit where
  fence : LeaseFence
  toolCallId : ToolCallId
  modelAttemptId : AttemptId
  descriptor : ReadToolDescriptor
  arguments : String
  preparedAt : Millis

def Store.modelResultMatches (s : Store) (runId : RunId) (attemptId : AttemptId) (toolId : ToolId)
    (arguments : String) : Bool :=
  (s.modelAttempts.get attemptId).any fun attempt =>
    attempt.runId = runId ∧ attempt.state = .completed ∧
      attempt.response = some (.toolCall toolId arguments)

def prepareReadTool (commit : PrepareReadToolCommit) (s : Store) : Txn := do
  ensure (commit.descriptor.valid ∧ commit.arguments.utf8ByteSize ≤ 64 * 1024)
    (.invariantViolation "read-tool descriptor or arguments evidence is invalid")
  let owner ← s.loadFencedOwner commit.fence commit.preparedAt
  owner.run.ensureNotCancelled
  ensure (s.modelResultMatches commit.fence.runId commit.modelAttemptId commit.descriptor.toolId
      commit.arguments)
    (.invariantViolation "tool call differs from the committed normalized model result")
  let reserved ← putBudget commit.fence.runId
    (fun budget => budget.reserve { toolCalls := 1 } commit.preparedAt)
    (.budgetExceeded "read-tool call exceeds the effective run limit") s
  ensure (s.toolCalls.get commit.toolCallId = none) .conflict
  let state ← require (s.loopAtAttempt commit.fence.runId .consumeModelResult commit.modelAttemptId)
    .conflict
  pure { reserved with
    toolCalls := reserved.toolCalls.put commit.toolCallId
      { runId := commit.fence.runId, modelAttemptId := commit.modelAttemptId,
        toolId := commit.descriptor.toolId, state := .prepared,
        timeoutMs := commit.descriptor.timeoutMs,
        maximumOutputBytes := commit.descriptor.maximumOutputBytes, preparedAt := commit.preparedAt,
        startedAt := none, preparedFence := commit.fence },
    loops := reserved.loops.put commit.fence.runId
      { state with nextAction := .dispatchReadTool, currentToolCallId := some commit.toolCallId } }

structure DispatchReadToolCommit where
  fence : LeaseFence
  toolCallId : ToolCallId
  startedAt : Millis

def dispatchReadTool (commit : DispatchReadToolCommit) (s : Store) : Txn := do
  let owner ← s.loadFencedOwner commit.fence commit.startedAt
  owner.run.ensureNotCancelled
  let tool ← require (s.fencedTool commit.fence commit.toolCallId .prepared) .conflict
  ensure (tool.preparedAt ≤ commit.startedAt) .conflict
  pure { s with
    toolCalls := s.toolCalls.put commit.toolCallId
      { tool with state := .running, startedAt := some commit.startedAt } }

structure RecordReadToolResultCommit where
  fence : LeaseFence
  toolCallId : ToolCallId
  outputSizeBytes : Nat
  completedAt : Millis

def ToolCall.withinTimeout (tool : ToolCall) (at_ : Millis) : Bool :=
  tool.startedAt.any fun started => started ≤ at_ ∧ at_ ≤ started + tool.timeoutMs

def recordReadToolResult (commit : RecordReadToolResultCommit) (s : Store) : Txn := do
  let owner ← s.loadFencedOwner commit.fence commit.completedAt
  owner.run.ensureNotCancelled
  let tool ← require (s.fencedTool commit.fence commit.toolCallId .running) .conflict
  ensure (commit.outputSizeBytes ≤ tool.maximumOutputBytes)
    (.invariantViolation "read-tool output provenance or descriptor bound is invalid")
  ensure (tool.withinTimeout commit.completedAt) .conflict
  let state ← require (s.loopAtTool commit.fence.runId commit.toolCallId) .conflict
  let budgeted ← putBudget commit.fence.runId
    (fun budget => budget.settle { toolCalls := 1 }
      { toolCalls := 1, outputBytes := commit.outputSizeBytes }) .conflict s
  pure { budgeted with
    toolCalls := budgeted.toolCalls.put commit.toolCallId { tool with state := .succeeded },
    loops := budgeted.loops.put commit.fence.runId { state with nextAction := .compileAfterTool } }

end Mealy
