import Mealy.Lib.Json
import Mealy.Lib.Table
import Mealy.Lib.Transaction

/-! The canonical store: identifiers, lifecycle enumerations, rows and tables of
the migrations, restricted to the columns that a modelled transaction reads.
Times are epoch milliseconds. The journal, timeline, outbox and checkpoint tables
are append-only records of the transitions below and are not part of the state. -/

namespace Mealy
open Relational

/-! ### Identifiers -/

structure PrincipalId where
  id : Nat
deriving DecidableEq

structure ChannelBindingId where
  id : Nat
deriving DecidableEq

structure SessionId where
  id : Nat
deriving DecidableEq

structure InboxEntryId where
  id : Nat
deriving DecidableEq

structure TurnId where
  id : Nat
deriving DecidableEq

structure TaskId where
  id : Nat
deriving DecidableEq

structure RunId where
  id : Nat
deriving DecidableEq

structure LeaseId where
  id : Nat
deriving DecidableEq

structure WorkerId where
  id : Nat
deriving DecidableEq

structure DelegationId where
  id : Nat
deriving DecidableEq

/-- Model attempts and effect attempts share one identifier type. -/
structure AttemptId where
  id : Nat
deriving DecidableEq

structure ToolCallId where
  id : Nat
deriving DecidableEq

structure EffectId where
  id : Nat
deriving DecidableEq

structure ApprovalId where
  id : Nat
deriving DecidableEq

structure ValidationId where
  id : Nat
deriving DecidableEq

structure EventId where
  id : Nat
deriving DecidableEq

abbrev Millis := Nat

/-- Largest value of the `INTEGER` columns that hold fencing tokens. -/
def maximumI64 : Nat := 2 ^ 63 - 1

/-- `OwnershipContext`: the authenticated principal and its channel binding. -/
structure OwnershipContext where
  principalId : PrincipalId
  channelBindingId : ChannelBindingId
deriving DecidableEq

/-- `LeaseFence`: what a worker has to present with every fenced write. -/
structure LeaseFence where
  leaseId : LeaseId
  runId : RunId
  ownerId : WorkerId
  fencingToken : Nat
deriving DecidableEq

/-! ### Lifecycle enumerations -/

inductive TaskStatus where
  | queued | running | waiting | paused | cancelling | succeeded | failed | cancelled
deriving DecidableEq

inductive RunStatus where
  | queued | running | waiting | succeeded | failed | cancelled
deriving DecidableEq

def TaskStatus.isTerminal : TaskStatus → Bool
  | .succeeded | .failed | .cancelled => true
  | .queued | .running | .waiting | .paused | .cancelling => false

def RunStatus.isTerminal : RunStatus → Bool
  | .succeeded | .failed | .cancelled => true
  | .queued | .running | .waiting => false

/-- `run.status IN ('queued', 'running', 'waiting')`. -/
abbrev RunStatus.isLive (s : RunStatus) : Bool := !s.isTerminal

inductive LeaseState where
  | active | released | expired
deriving DecidableEq

inductive TurnKind where
  | canonical | delegated
deriving DecidableEq

inductive TurnStatus where
  | active | completed | failed | cancelled
deriving DecidableEq

inductive DeliveryMode where
  | queue | steerAtBoundary | interruptThenQueue
deriving DecidableEq

inductive InboxState where
  | pending | promoted
deriving DecidableEq

inductive RunInputState where
  | pending | consumed
deriving DecidableEq

inductive DelegationState where
  | queued | running | succeeded | failed | cancelled
deriving DecidableEq

def DelegationState.isActive : DelegationState → Bool
  | .queued | .running => true
  | .succeeded | .failed | .cancelled => false

inductive ModelAttemptState where
  | prepared | dispatching | completed | failed | cancelled | interrupted
deriving DecidableEq

def ModelAttemptState.isIncomplete : ModelAttemptState → Bool
  | .prepared | .dispatching => true
  | .completed | .failed | .cancelled | .interrupted => false

inductive ToolCallState where
  | prepared | running | succeeded | failed | cancelled | interrupted
deriving DecidableEq

def ToolCallState.isIncomplete : ToolCallState → Bool
  | .prepared | .running => true
  | .succeeded | .failed | .cancelled | .interrupted => false

inductive ReservationState where
  | active | settled | chargedUnknown | released
deriving DecidableEq

/-- `AgentNextAction`: the durable position of the agent loop. -/
inductive AgentNextAction where
  | compileContext | dispatchModel | consumeModelResult | dispatchReadTool | compileAfterTool
  | commitFinal | terminal
deriving DecidableEq

inductive EffectStatus where
  | proposed | awaitingApproval | authorized | dispatching | succeeded | failed | outcomeUnknown
  | compensated | denied
deriving DecidableEq

inductive EffectClass where
  | readOnly | reversible | idempotent | nonIdempotent
deriving DecidableEq

inductive IdempotencyClass where
  | pure | idempotent | keyed | nonIdempotent
deriving DecidableEq

inductive RecoveryStrategy where
  | retry | reconcile | compensate | neverRetry
deriving DecidableEq

inductive PolicyDecision where
  | allow | requireApproval | deny
deriving DecidableEq

inductive ApprovalDecision where
  | approve | deny
deriving DecidableEq

inductive ApprovalStatus where
  | pending | approved | denied | expired | revoked
deriving DecidableEq

inductive EffectAttemptState where
  | prepared | running | succeeded | failed | outcomeUnknown | interruptedRetryable
  | interruptedUndispatched
deriving DecidableEq

def EffectAttemptState.isUnsettled : EffectAttemptState → Bool
  | .prepared | .running | .outcomeUnknown => true
  | .succeeded | .failed | .interruptedRetryable | .interruptedUndispatched => false

inductive EffectOutcomeKind where
  | succeeded | failed | outcomeUnknown | compensated
deriving DecidableEq

inductive ValidationOutcome where
  | passed | needsRevision | failed | inconclusive | waived
deriving DecidableEq

/-- `run.agent_role`. Promotion takes the configured role; child runs are always
`delegate` and validator runs always `validator`. -/
inductive AgentRole where
  | delegate | validator | named (name : String)
deriving DecidableEq

/-- Tool identities: the read tools whose descriptors the store accepts, the
governed tools that the effect runtime offers, and anything else a model may name. -/
inductive ToolId where
  | fixtureRead | workspaceList | workspaceStat | workspaceRead | workspaceSearch
  | webFetch | webSearch | skillReadResource | agentDelegate | browserSnapshot
  | mcp (serverId remoteName : String)
  | fixtureWriteFile | workspaceCreateFile | workspaceReplaceFile | workspaceManagePath | processRun
  | other (name : String)
deriving DecidableEq

def ToolId.isGoverned : ToolId → Bool
  | .fixtureWriteFile | .workspaceCreateFile | .workspaceReplaceFile | .workspaceManagePath
  | .processRun => true
  | .fixtureRead | .workspaceList | .workspaceStat | .workspaceRead | .workspaceSearch
  | .webFetch | .webSearch | .skillReadResource | .agentDelegate | .browserSnapshot | .mcp ..
  | .other _ => false

/-! ### Rows -/

structure Session where
  principalId : PrincipalId
  channelBindingId : ChannelBindingId
  activeTurnId : Option TurnId
  nextInboxSequence : Nat
deriving DecidableEq

structure InboxEntry where
  sessionId : SessionId
  sequence : Nat
  dedupeKey : String
  deliveryMode : DeliveryMode
  content : String
  state : InboxState
  promotedTurnId : Option TurnId
  interruptRequestedAt : Option Millis
deriving DecidableEq

structure Turn where
  sessionId : SessionId
  inboxEntryId : InboxEntryId
  taskId : TaskId
  runId : RunId
  kind : TurnKind
  status : TurnStatus
  createdAt : Millis
deriving DecidableEq

structure Task where
  status : TaskStatus
  revision : Nat
  validationRequired : Bool
  validationId : Option ValidationId
deriving DecidableEq

structure Run where
  taskId : TaskId
  agentRole : AgentRole
  status : RunStatus
  currentFencingToken : Nat
  (cancellationRequestedAt nextAttemptAt : Option Millis)
  createdAt : Millis
deriving DecidableEq

structure WorkLease where
  runId : RunId
  ownerId : WorkerId
  fencingToken : Nat
  state : LeaseState
  (acquiredAt heartbeatAt expiresAt : Millis)
  releasedAt : Option Millis

structure RunInput where
  runId : RunId
  inboxSequence : Nat
  state : RunInputState
  attachedAt : Millis

structure Delegation where
  parentRunId : RunId
  childTaskId : TaskId
  childRunId : RunId
  parentToolCallId : ToolCallId
  state : DelegationState
  createdAt : Millis

/-- One amount per accounted axis of `run_budget_usage`. -/
structure Usage where
  modelCalls : Nat := 0
  toolCalls : Nat := 0
  inputTokens : Nat := 0
  outputTokens : Nat := 0
  costMicrounits : Nat := 0
  outputBytes : Nat := 0
  delegatedRuns : Nat := 0
deriving DecidableEq

structure RunBudget where
  (maximum used reserved : Usage)
  (maximumRetries usedRetries : Nat)
  (startedAt deadlineAt : Millis)
  cancellationRequestedAt : Option Millis

/-- `budget_reservation`, under its model attempt. Every reservation is for one
model call. -/
structure BudgetReservation where
  (inputTokens outputTokens costMicrounits outputBytes : Nat)
  state : ReservationState
  createdAt : Millis

structure RunLoopState where
  iteration : Nat
  nextAction : AgentNextAction
  currentAttemptId : Option AttemptId
  currentToolCallId : Option ToolCallId

/-- `ProviderResponse`, as normalised into `model_attempt.response_json`. -/
inductive ProviderResponse where
  | final (text : String)
  | toolCall (toolId : ToolId) (arguments : String)
deriving DecidableEq

structure ModelAttempt where
  runId : RunId
  state : ModelAttemptState
  response : Option ProviderResponse
  (preparedAt deadlineAt : Millis)
  preparedFence : LeaseFence
  inputSources : List InboxEntryId

structure ToolCall where
  runId : RunId
  modelAttemptId : AttemptId
  toolId : ToolId
  state : ToolCallState
  timeoutMs : Millis
  maximumOutputBytes : Nat
  preparedAt : Millis
  startedAt : Option Millis
  preparedFence : LeaseFence

/-- An `effect` with its immutable `effect_intent` and policy evaluation. -/
structure Effect where
  taskId : TaskId
  runId : RunId
  sessionId : SessionId
  ownership : OwnershipContext
  toolId : ToolId
  arguments : String
  argumentsDigest : Json.Digest
  idempotencyClass : IdempotencyClass
  recoveryStrategy : RecoveryStrategy
  decision : PolicyDecision
  status : EffectStatus
  revision : Nat
  updatedAt : Millis

structure ApprovalRequest where
  effectId : EffectId
  subjectDigest : Json.Digest
  status : ApprovalStatus
  decidedBy : Option PrincipalId
  (requestedAt expiresAt : Millis)
  resolvedAt : Option Millis

structure EffectAttempt where
  effectId : EffectId
  ordinal : Nat
  state : EffectAttemptState
  preparedFence : LeaseFence
  preparedAt : Millis
  startedAt : Option Millis

/-- `effect_outcome`, under its attempt and sequence number, with the
`effect.retry_authorized` type of its journal event where it has that type. -/
structure EffectOutcome where
  effectId : EffectId
  kind : EffectOutcomeKind
  evidence : Json.Value
  evidenceDigest : Json.Digest
  eventId : EventId
  retryAuthorized : Bool
  recordedAt : Millis

/-- The commands that `effect_command_receipt` deduplicates. -/
inductive EffectCommand where
  | approvalResolution (approvalId : ApprovalId) (decision : ApprovalDecision) (subjectDigest : Json.Digest)
  | reconciliation (effectId : EffectId) (attemptId : AttemptId) (outcome : EffectOutcomeKind)
      (expectedRevision : Nat) (evidenceDetails : String)
deriving DecidableEq

inductive EffectCommandKind where
  | approvalResolution | reconciliation
deriving DecidableEq

structure AgentEffectInvocation where
  runId : RunId
  taskId : TaskId
  modelAttemptId : AttemptId
  toolCallId : ToolCallId

structure AgentEffectObservation where
  runId : RunId
  modelAttemptId : AttemptId
  toolCallId : ToolCallId
  effectRevision : Nat

structure ValidationRecord where
  taskId : TaskId
  outcome : ValidationOutcome

/-- `task_cancellation`: the receipt under which a repeated request is a duplicate. -/
structure TaskCancellation where
  taskId : TaskId
  reason : String
  taskRevision : Nat

/-! ### The store -/

structure Store where
  sessions : Table SessionId Session := .empty
  inbox : Table InboxEntryId InboxEntry := .empty
  turns : Table TurnId Turn := .empty
  tasks : Table TaskId Task := .empty
  runs : Table RunId Run := .empty
  leases : Table LeaseId WorkLease := .empty
  runInputs : Table InboxEntryId RunInput := .empty
  delegations : Table DelegationId Delegation := .empty
  budgets : Table RunId RunBudget := .empty
  reservations : Table AttemptId BudgetReservation := .empty
  loops : Table RunId RunLoopState := .empty
  modelAttempts : Table AttemptId ModelAttempt := .empty
  toolCalls : Table ToolCallId ToolCall := .empty
  effects : Table EffectId Effect := .empty
  approvals : Table ApprovalId ApprovalRequest := .empty
  attempts : Table AttemptId EffectAttempt := .empty
  outcomes : Table (AttemptId × Nat) EffectOutcome := .empty
  invocations : Table EffectId AgentEffectInvocation := .empty
  observations : Table EffectId AgentEffectObservation := .empty
  effectReceipts : Table (OwnershipContext × EffectCommandKind × String) EffectCommand := .empty
  validations : Table ValidationId ValidationRecord := .empty
  cancellations : Table (OwnershipContext × String) TaskCancellation := .empty

/-- The error kinds of the store ports. A statement that a `CHECK`, a unique
index or a trigger rejects surfaces as `conflict`. -/
inductive StoreError where
  | unauthorized | notFound | staleFence | conflict | cancelled | backpressure
  | idempotencyConflict | subjectMismatch | approvalExpired | expiryNotReached
  | budgetExceeded (reason : String)
  | invalidEvidence (reason : String)
  | invariantViolation (reason : String)
  | unavailable (reason : String)
deriving DecidableEq

/-- A transaction on the store: it commits a new store or leaves it unchanged. -/
abbrev Txn := Except StoreError Store

open Transaction

/-- `token.checked_add(1)`: the token that supersedes a fence. -/
def nextToken (token : Nat) (overflow : String) : Except StoreError Nat :=
  if token + 1 ≤ maximumI64 then .ok (token + 1) else .error (.invariantViolation overflow)

@[simp] theorem nextToken_eq_ok {token next overflow} :
    nextToken token overflow = .ok next ↔ token + 1 ≤ maximumI64 ∧ next = token + 1 := by
  unfold nextToken
  split
  next fits => simp [fits, eq_comm]
  next overflows => simp [overflows]

namespace Store

def runOfTask (s : Store) (taskId : TaskId) : Option (RunId × Run) :=
  s.runs.find fun _ run => run.taskId = taskId

def turnOfRun (s : Store) (runId : RunId) : Option (TurnId × Turn) :=
  s.turns.find fun _ turn => turn.runId = runId

/-- `EXISTS(SELECT 1 FROM work_lease WHERE run_id = ? AND state = 'active')`. -/
def hasActiveLease (s : Store) (runId : RunId) : Bool :=
  s.leases.any fun _ lease => lease.runId = runId ∧ lease.state = .active

/-- The lease a fence names: same run, owner and token, and still active. -/
def heldLease (s : Store) (fence : LeaseFence) : Option WorkLease :=
  (s.leases.get fence.leaseId).filter fun lease =>
    lease.runId = fence.runId ∧ lease.ownerId = fence.ownerId ∧
      lease.fencingToken = fence.fencingToken ∧ lease.state = .active

def runningUnder (s : Store) (fence : LeaseFence) : Option Run :=
  (s.runs.get fence.runId).filter fun run =>
    run.status = .running ∧ run.currentFencingToken = fence.fencingToken

def delegationOfChild (s : Store) (runId : RunId) : Option (DelegationId × Delegation) :=
  s.delegations.find fun _ delegation => delegation.childRunId = runId

theorem heldLease_eq_some {s : Store} {fence : LeaseFence} {lease : WorkLease} :
    s.heldLease fence = some lease ↔
      s.leases.get fence.leaseId = some lease ∧ lease.runId = fence.runId ∧
        lease.ownerId = fence.ownerId ∧ lease.fencingToken = fence.fencingToken ∧
        lease.state = .active := by
  simp [heldLease, Option.filter_eq_some_iff]

theorem runningUnder_eq_some {s : Store} {fence : LeaseFence} {run : Run} :
    s.runningUnder fence = some run ↔
      s.runs.get fence.runId = some run ∧ run.status = .running ∧
        run.currentFencingToken = fence.fencingToken := by
  simp [runningUnder, Option.filter_eq_some_iff]

end Store
end Mealy
