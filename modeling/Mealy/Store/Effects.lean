import Mealy.Store.Evidence
import Mealy.Store.Sessions

/-! The effect ledger (`effects.rs` under the triggers of `0005_effect_ledger.sql`):
proposals, approvals, attempts, outcomes and their recovery. Every status change of
an effect passes `effect_phase3_transition_guard`, every state change of an attempt
passes `effect_attempt_state_guard`, and every outcome passes its insert guard. -/

namespace Mealy
open Relational Transaction

/-! ### Triggers -/

def Store.outcomeUnder (s : Store) (effectId : EffectId) (state : EffectAttemptState)
    (p : Nat → EffectOutcome → Bool) : Bool :=
  s.attempts.any fun attemptId attempt =>
    attempt.effectId = effectId ∧ attempt.state = state ∧
      s.outcomes.any fun key outcome =>
        key.1 = attemptId ∧ outcome.effectId = effectId ∧ p key.2 outcome

def Store.effectEdge (s : Store) (effectId : EffectId) (effect : Effect) (status : EffectStatus) : Bool :=
  match effect.status, status with
  | .awaitingApproval, .authorized =>
    s.approvals.any fun _ approval => approval.effectId = effectId ∧ approval.status = .approved
  | .awaitingApproval, .denied =>
    s.approvals.any fun _ approval => approval.effectId = effectId ∧
      (approval.status = .denied ∨ approval.status = .expired ∨ approval.status = .revoked)
  | .authorized, .dispatching =>
    s.attempts.any fun _ attempt => attempt.effectId = effectId ∧ attempt.state = .prepared
  | .dispatching, .authorized =>
    retryableIntent effect.idempotencyClass effect.recoveryStrategy ∧
      s.outcomeUnder effectId .running fun sequence outcome =>
        sequence = 0 ∧ outcome.kind = .outcomeUnknown ∧ outcome.retryAuthorized
  | .dispatching, .succeeded =>
    s.outcomeUnder effectId .running fun sequence outcome => sequence = 0 ∧ outcome.kind = .succeeded
  | .dispatching, .failed =>
    s.outcomeUnder effectId .running fun sequence outcome => sequence = 0 ∧ outcome.kind = .failed
  | .dispatching, .outcomeUnknown =>
    s.outcomeUnder effectId .running fun sequence outcome => sequence = 0 ∧ outcome.kind = .outcomeUnknown
  | .outcomeUnknown, .succeeded =>
    s.outcomeUnder effectId .outcomeUnknown fun sequence outcome => 0 < sequence ∧ outcome.kind = .succeeded
  | .outcomeUnknown, .failed =>
    s.outcomeUnder effectId .outcomeUnknown fun sequence outcome => 0 < sequence ∧ outcome.kind = .failed
  | .outcomeUnknown, .compensated =>
    s.outcomeUnder effectId .outcomeUnknown fun sequence outcome => 0 < sequence ∧ outcome.kind = .compensated
  | _, _ => false

/-- An `UPDATE` of the effect under its transition and revision guards. -/
def updateEffect (effectId : EffectId) (status : EffectStatus) (updatedAt : Millis) (s : Store) : Txn := do
  let effect ← require (s.effects.get effectId) .conflict
  ensure (effect.status = status ∨ s.effectEdge effectId effect status) .conflict
  ensure (effect.updatedAt ≤ updatedAt) .conflict
  pure { s with
    effects := s.effects.put effectId
      { effect with status, revision := effect.revision + 1, updatedAt } }

def Store.effectIs (s : Store) (effectId : EffectId) (status : EffectStatus) : Bool :=
  (s.effects.get effectId).any fun effect => effect.status = status

def Store.initialOutcome (s : Store) (attemptId : AttemptId) (effectId : EffectId)
    (kind : EffectOutcomeKind) (retryAuthorized : Bool) : Bool :=
  (s.outcomes.get (attemptId, 0)).any fun outcome =>
    outcome.effectId = effectId ∧ outcome.kind = kind ∧ outcome.retryAuthorized = retryAuthorized

def Store.attemptEdge (s : Store) (attemptId : AttemptId) (attempt : EffectAttempt)
    (state : EffectAttemptState) : Bool :=
  match attempt.state, state with
  | .prepared, .running => s.effectIs attempt.effectId .dispatching
  | .prepared, .interruptedUndispatched => s.effectIs attempt.effectId .authorized
  | .running, .interruptedRetryable =>
    s.effectIs attempt.effectId .authorized ∧
      s.initialOutcome attemptId attempt.effectId .outcomeUnknown true
  | .running, .succeeded =>
    s.effectIs attempt.effectId .succeeded ∧ s.initialOutcome attemptId attempt.effectId .succeeded false
  | .running, .failed =>
    s.effectIs attempt.effectId .failed ∧ s.initialOutcome attemptId attempt.effectId .failed false
  | .running, .outcomeUnknown =>
    s.effectIs attempt.effectId .outcomeUnknown ∧
      s.initialOutcome attemptId attempt.effectId .outcomeUnknown false
  | _, _ => false

/-- An `UPDATE` of an attempt to another state at this time. -/
def updateAttempt (attemptId : AttemptId) (state : EffectAttemptState) (at_ : Millis) (s : Store) : Txn := do
  let attempt ← require (s.attempts.get attemptId) .conflict
  ensure (s.attemptEdge attemptId attempt state) .conflict
  -- Timestamps of an attempt never run backwards.
  ensure (attempt.startedAt.getD attempt.preparedAt ≤ at_) .conflict
  pure { s with
    attempts := s.attempts.put attemptId
      { attempt with
        state, startedAt := if state = .running then some at_ else attempt.startedAt } }

def insertEffectOutcome (attemptId : AttemptId) (sequence : Nat) (outcome : EffectOutcome) (s : Store) :
    Txn := do
  ensure ((s.outcomes.get (attemptId, sequence)).isNone) .conflict
  let attempt ← require (s.attempts.get attemptId) .conflict
  let effect ← require (s.effects.get outcome.effectId) .conflict
  ensure (attempt.effectId = outcome.effectId) .conflict
  ensure ((sequence = 0 ∧ attempt.state = .running ∧ effect.status = .dispatching ∧
        outcome.kind ≠ .compensated) ∨
      (sequence = 1 ∧ attempt.state = .outcomeUnknown ∧ effect.status = .outcomeUnknown ∧
        outcome.kind ≠ .outcomeUnknown ∧
        s.initialOutcome attemptId outcome.effectId .outcomeUnknown false)) .conflict
  ensure (2 ≤ outcome.evidence.render.length ∧ outcome.evidence.render.length ≤ 65536) .conflict
  pure { s with outcomes := s.outcomes.put (attemptId, sequence) outcome }

/-! ### Proposals and approvals -/

structure ApprovalRequestDraft where
  approvalId : ApprovalId
  effectId : EffectId
  subjectDigest : Json.Digest
  expiresAt : Millis

/-- `RecordEffectProposalCommit`, with the parts of the policy request and the
evaluation that the ledger keeps. -/
structure RecordEffectProposalCommit where
  effectId : EffectId
  ownership : OwnershipContext
  taskId : TaskId
  runId : RunId
  toolId : ToolId
  arguments : String
  argumentsDigest : Json.Digest
  effectClass : EffectClass
  idempotencyClass : IdempotencyClass
  recoveryStrategy : RecoveryStrategy
  decision : PolicyDecision
  approval : Option ApprovalRequestDraft
  proposedAt : Millis

def intentCombination : EffectClass → IdempotencyClass → RecoveryStrategy → Bool
  | .readOnly, .pure, .retry => true
  | .idempotent, .idempotent, .retry | .idempotent, .idempotent, .neverRetry => true
  | .reversible, .idempotent, .retry | .reversible, .idempotent, .neverRetry => true
  | .idempotent, .keyed, .retry | .idempotent, .keyed, .reconcile | .idempotent, .keyed, .neverRetry => true
  | .reversible, .keyed, .retry | .reversible, .keyed, .reconcile | .reversible, .keyed, .neverRetry => true
  | .nonIdempotent, .nonIdempotent, .reconcile | .nonIdempotent, .nonIdempotent, .neverRetry => true
  | .reversible, .nonIdempotent, .reconcile | .reversible, .nonIdempotent, .neverRetry => true
  | .reversible, .idempotent, .compensate | .reversible, .keyed, .compensate
  | .reversible, .nonIdempotent, .compensate => true
  | _, _, _ => false

def PolicyDecision.effectStatus : PolicyDecision → EffectStatus
  | .allow => .authorized
  | .requireApproval => .awaitingApproval
  | .deny => .denied

def RecordEffectProposalCommit.approvalMatches (commit : RecordEffectProposalCommit) : Bool :=
  match commit.decision, commit.approval with
  | .requireApproval, some draft =>
    draft.effectId = commit.effectId ∧ commit.proposedAt < draft.expiresAt
  | .requireApproval, none => false
  | .allow, approval | .deny, approval => approval.isNone

def Store.authorizedSessionId (s : Store) (ownership : OwnershipContext) (taskId : TaskId) (runId : RunId) :
    Except StoreError SessionId := do
  let run ← require (s.runs.get runId) .notFound
  let (_, turn) ← require (s.turns.find fun _ turn => turn.taskId = taskId ∧ turn.runId = runId) .notFound
  let session ← require (s.sessions.get turn.sessionId) .notFound
  ensure (run.taskId = taskId ∧ session.ownedBy ownership) .notFound
  pure turn.sessionId

def RecordEffectProposalCommit.effect (commit : RecordEffectProposalCommit) (sessionId : SessionId) : Effect where
  taskId := commit.taskId
  runId := commit.runId
  sessionId := sessionId
  ownership := commit.ownership
  toolId := commit.toolId
  arguments := commit.arguments
  argumentsDigest := commit.argumentsDigest
  idempotencyClass := commit.idempotencyClass
  recoveryStrategy := commit.recoveryStrategy
  decision := commit.decision
  status := commit.decision.effectStatus
  revision := 1
  updatedAt := commit.proposedAt

/-- The approval row that a proposal inserts. -/
def ApprovalRequestDraft.request (draft : ApprovalRequestDraft) (effectId : EffectId) (requestedAt : Millis) :
    ApprovalRequest where
  effectId := effectId
  subjectDigest := draft.subjectDigest
  status := .pending
  decidedBy := none
  requestedAt := requestedAt
  expiresAt := draft.expiresAt
  resolvedAt := none

def insertApprovalRequest (effectId : EffectId) (draft : ApprovalRequestDraft) (requestedAt : Millis)
    (s : Store) : Txn := do
  ensure (s.approvals.get draft.approvalId = none ∧
    !(s.approvals.any fun _ approval => approval.effectId = effectId)) .conflict
  pure { s with
    approvals := s.approvals.put draft.approvalId (draft.request effectId requestedAt) }

def recordEffectProposal (commit : RecordEffectProposalCommit) (s : Store) : Txn := do
  ensure commit.approvalMatches
    (.invalidEvidence "approval subject does not exactly bind the policy request")
  let sessionId ← s.authorizedSessionId commit.ownership commit.taskId commit.runId
  ensure (intentCombination commit.effectClass commit.idempotencyClass commit.recoveryStrategy) .conflict
  ensure (s.effects.get commit.effectId = none) .conflict
  let proposed := { s with effects := s.effects.put commit.effectId (commit.effect sessionId) }
  match commit.approval with
  | none => pure proposed
  | some draft => insertApprovalRequest commit.effectId draft commit.proposedAt proposed

def Store.loadPendingApproval (s : Store) (ownership : Option OwnershipContext) (approvalId : ApprovalId) :
    Except StoreError ApprovalRequest := do
  let approval ← require (s.approvals.get approvalId) .notFound
  let effect ← require (s.effects.get approval.effectId) .notFound
  let session ← require (s.sessions.get effect.sessionId) .notFound
  ensure (approval.status = .pending ∧ effect.status = .awaitingApproval ∧
    ∀ owner ∈ ownership, session.ownedBy owner) .notFound
  pure approval

/-- The `CHECK` on the resolution time of each final approval status. -/
def ApprovalRequest.resolvableAs (approval : ApprovalRequest) (status : ApprovalStatus) (at_ : Millis) : Bool :=
  match status with
  | .pending => false
  | .approved | .denied => approval.requestedAt ≤ at_ ∧ at_ < approval.expiresAt
  | .expired => approval.requestedAt ≤ at_ ∧ approval.expiresAt ≤ at_
  | .revoked => approval.requestedAt ≤ at_

def updateApproval (approvalId : ApprovalId) (status : ApprovalStatus) (decidedBy : Option PrincipalId)
    (resolvedAt : Millis) (s : Store) : Txn := do
  let approval ← require (s.approvals.get approvalId) .conflict
  ensure (approval.status = .pending ∧ approval.resolvableAs status resolvedAt) .conflict
  pure { s with
    approvals := s.approvals.put approvalId
      { approval with status, decidedBy, resolvedAt := some resolvedAt } }

structure ResolveApprovalCommit where
  ownership : OwnershipContext
  approvalId : ApprovalId
  expectedSubjectDigest : Json.Digest
  decision : ApprovalDecision
  idempotencyKey : String
  decidedAt : Millis

/-- `validate_effect_command_idempotency_key`. -/
def validIdempotencyKey (key : String) : Bool := key ≠ "" ∧ key.utf8ByteSize ≤ 256

def ApprovalDecision.approvalStatus : ApprovalDecision → ApprovalStatus
  | .approve => .approved
  | .deny => .denied

def ApprovalDecision.effectStatus : ApprovalDecision → EffectStatus
  | .approve => .authorized
  | .deny => .denied

def resolveApproval (commit : ResolveApprovalCommit) (s : Store) : Txn := do
  ensure (validIdempotencyKey commit.idempotencyKey) (.invalidEvidence
    "effect command idempotency key must contain between 1 and 256 UTF-8 bytes")
  let command : EffectCommand :=
    .approvalResolution commit.approvalId commit.decision commit.expectedSubjectDigest
  let receiptKey := (commit.ownership, EffectCommandKind.approvalResolution, commit.idempotencyKey)
  match s.effectReceipts.get receiptKey with
  | some recorded =>
    ensure (recorded = command) .conflict
    pure s
  | none =>
    let pending ← s.loadPendingApproval (some commit.ownership) commit.approvalId
    ensure (pending.subjectDigest = commit.expectedSubjectDigest) .subjectMismatch
    ensure (commit.decidedAt < pending.expiresAt) .approvalExpired
    let resolved ← updateApproval commit.approvalId commit.decision.approvalStatus
      (some commit.ownership.principalId) commit.decidedAt s
    let settled ← updateEffect pending.effectId commit.decision.effectStatus commit.decidedAt resolved
    pure { settled with effectReceipts := settled.effectReceipts.put receiptKey command }

structure ExpireApprovalCommit where
  approvalId : ApprovalId
  expiredAt : Millis

def expireApproval (commit : ExpireApprovalCommit) (s : Store) : Txn := do
  let pending ← s.loadPendingApproval none commit.approvalId
  ensure (pending.expiresAt ≤ commit.expiredAt) .expiryNotReached
  let resolved ← updateApproval commit.approvalId .expired none commit.expiredAt s
  updateEffect pending.effectId .denied commit.expiredAt resolved

def Store.undispatchedAgentEffects (s : Store) (taskId : TaskId) : List (ApprovalId × ApprovalRequest) :=
  s.approvals.select fun _ approval =>
    (s.invocations.get approval.effectId).any (fun invocation => invocation.taskId = taskId) ∧
    (s.effectIs approval.effectId .awaitingApproval ∨ s.effectIs approval.effectId .authorized) ∧
    !(s.attempts.any fun _ attempt => attempt.effectId = approval.effectId)

def cancelUndispatchedAgentEffect (taskId : TaskId) (actor : PrincipalId) (cancelledAt : Millis)
    (s : Store) : Txn := do
  match s.undispatchedAgentEffects taskId with
  | [] => pure s
  | [(approvalId, approval)] =>
    let effect ← require (s.effects.get approval.effectId) .conflict
    ensure (effect.updatedAt ≤ cancelledAt) .conflict
    let revoked ← if effect.status = .awaitingApproval
      then updateApproval approvalId .revoked (some actor) cancelledAt s
      else pure s
    updateEffect approval.effectId .denied cancelledAt revoked
  | _ :: _ :: _ =>
    .error (.invariantViolation "one cancelled task owns multiple undispatched agent effects")

/-! ### Attempts -/

def Store.activeFence (s : Store) (fence : LeaseFence) (at_ : Millis) : Bool :=
  (s.heldLease fence).any (fun lease => lease.acquiredAt ≤ at_ ∧ at_ < lease.expiresAt) ∧
  (s.runningUnder fence).isSome

def Store.attemptsOf (s : Store) (effectId : EffectId) : List (AttemptId × EffectAttempt) :=
  s.attempts.select fun _ attempt => attempt.effectId = effectId

def Store.lastOrdinal (s : Store) (effectId : EffectId) : Nat :=
  ((s.attemptsOf effectId).map fun row => row.2.ordinal).foldr max 0

/-- `effect_attempt_one_unsettled_idx` and its sibling per lease. -/
def Store.hasUnsettledAttempt (s : Store) (effectId : EffectId) (fence : LeaseFence) : Bool :=
  s.attempts.any fun _ attempt => attempt.state.isUnsettled ∧
    (attempt.effectId = effectId ∨
      (attempt.preparedFence.leaseId = fence.leaseId ∧ attempt.preparedFence.ownerId = fence.ownerId ∧
        attempt.preparedFence.fencingToken = fence.fencingToken))

structure PrepareEffectAttemptCommit where
  effectId : EffectId
  attemptId : AttemptId
  expectedEffectRevision : Nat
  fence : LeaseFence
  preparedAt : Millis

def prepareEffectAttempt (commit : PrepareEffectAttemptCommit) (s : Store) : Txn := do
  ensure (s.activeFence commit.fence commit.preparedAt) .conflict
  let effect ← require (s.effects.get commit.effectId) .conflict
  ensure (effect.runId = commit.fence.runId ∧ effect.status = .authorized ∧
    effect.revision = commit.expectedEffectRevision) .conflict
  ensure (s.attempts.get commit.attemptId = none ∧
    !(s.hasUnsettledAttempt commit.effectId commit.fence)) .conflict
  let prepared := { s with
    attempts := s.attempts.put commit.attemptId
      { effectId := commit.effectId, ordinal := s.lastOrdinal commit.effectId + 1, state := .prepared,
        preparedFence := commit.fence, preparedAt := commit.preparedAt, startedAt := none } }
  updateEffect commit.effectId .authorized commit.preparedAt prepared

def Store.transitionEvidence (s : Store) (effectId : EffectId) (attemptId : AttemptId) (fence : LeaseFence)
    (expectedRevision : Nat) (state : EffectAttemptState) (status : EffectStatus) : Bool :=
  (s.attempts.get attemptId).any (fun attempt =>
    attempt.effectId = effectId ∧ attempt.state = state ∧ attempt.preparedFence = fence) ∧
  (s.effects.get effectId).any (fun effect =>
    effect.runId = fence.runId ∧ effect.status = status ∧ effect.revision = expectedRevision)

structure MarkEffectAttemptRunningCommit where
  effectId : EffectId
  attemptId : AttemptId
  expectedEffectRevision : Nat
  fence : LeaseFence
  dispatchedAt : Millis

def markEffectAttemptRunning (commit : MarkEffectAttemptRunningCommit) (s : Store) : Txn := do
  ensure (s.activeFence commit.fence commit.dispatchedAt) .conflict
  ensure (s.transitionEvidence commit.effectId commit.attemptId commit.fence commit.expectedEffectRevision
    .prepared .authorized) .conflict
  let dispatched ← updateEffect commit.effectId .dispatching commit.dispatchedAt s
  updateAttempt commit.attemptId .running commit.dispatchedAt dispatched

inductive EffectAttemptOutcome where
  | succeeded | failed | outcomeUnknown

def EffectAttemptOutcome.kind : EffectAttemptOutcome → EffectOutcomeKind
  | .succeeded => .succeeded
  | .failed => .failed
  | .outcomeUnknown => .outcomeUnknown

def EffectAttemptOutcome.effectStatus : EffectAttemptOutcome → EffectStatus
  | .succeeded => .succeeded
  | .failed => .failed
  | .outcomeUnknown => .outcomeUnknown

def EffectAttemptOutcome.attemptState : EffectAttemptOutcome → EffectAttemptState
  | .succeeded => .succeeded
  | .failed => .failed
  | .outcomeUnknown => .outcomeUnknown

structure RecordEffectAttemptOutcomeCommit where
  effectId : EffectId
  attemptId : AttemptId
  expectedEffectRevision : Nat
  fence : LeaseFence
  outcome : EffectAttemptOutcome
  evidenceDetails : Json.Value
  evidenceDigest : Json.Digest
  errorClass : Option String
  eventId : EventId
  completedAt : Millis

def RecordEffectAttemptOutcomeCommit.validOutcome (commit : RecordEffectAttemptOutcomeCommit) : Bool :=
  match commit.outcome, commit.errorClass with
  | .succeeded, errorClass => errorClass.isNone
  | .failed, some value | .outcomeUnknown, some value => value ≠ "" ∧ value.utf8ByteSize ≤ 128
  | .failed, none | .outcomeUnknown, none => false

def recordEffectAttemptOutcome (commit : RecordEffectAttemptOutcomeCommit) (s : Store) : Txn := do
  ensure commit.validOutcome (.invalidEvidence
    "success forbids an error class; failed and unknown outcomes require one")
  let evidence ← effectOutcomeEvidenceMaterial commit.effectId commit.attemptId 0 commit.outcome.kind
    commit.evidenceDetails commit.errorClass commit.completedAt
  ensure (s.activeFence commit.fence commit.completedAt) .conflict
  ensure (s.transitionEvidence commit.effectId commit.attemptId commit.fence commit.expectedEffectRevision
    .running .dispatching) .conflict
  let recorded ← insertEffectOutcome commit.attemptId 0
    { effectId := commit.effectId, kind := commit.outcome.kind, evidence,
      evidenceDigest := commit.evidenceDigest, eventId := commit.eventId, retryAuthorized := false,
      recordedAt := commit.completedAt } s
  let settled ← updateEffect commit.effectId commit.outcome.effectStatus commit.completedAt recorded
  updateAttempt commit.attemptId commit.outcome.attemptState commit.completedAt settled

/-! ### Recovery and reconciliation -/

structure RecoverInterruptedEffectCommit where
  effectId : EffectId
  attemptId : AttemptId
  expectedEffectRevision : Nat
  eventId : EventId
  evidenceDigest : Json.Digest
  recoveredAt : Millis

/-- The attempt, its effect and its lease, when the attempt is open at this boundary
and the lease that prepared it has ended no later than the recovery. -/
structure InterruptedEvidence where
  attempt : EffectAttempt
  effect : Effect
  lease : WorkLease
  releasedAt : Millis

def Store.interruptedEvidence (s : Store) (commit : RecoverInterruptedEffectCommit)
    (state : EffectAttemptState) (status : EffectStatus) : Except StoreError InterruptedEvidence := do
  let attempt ← require (s.attempts.get commit.attemptId) .conflict
  let effect ← require (s.effects.get commit.effectId) .conflict
  let lease ← require (s.leases.get attempt.preparedFence.leaseId) .conflict
  ensure (attempt.effectId = commit.effectId ∧ attempt.state = state ∧ effect.status = status ∧
    effect.revision = commit.expectedEffectRevision ∧ lease.runId = effect.runId ∧
    lease.ownerId = attempt.preparedFence.ownerId ∧
    lease.fencingToken = attempt.preparedFence.fencingToken ∧ lease.state ≠ .active) .conflict
  let releasedAt ← require lease.releasedAt .conflict
  ensure (releasedAt ≤ commit.recoveredAt ∧
    attempt.startedAt.getD attempt.preparedAt ≤ commit.recoveredAt ∧
    effect.updatedAt ≤ commit.recoveredAt) .conflict
  pure { attempt, effect, lease, releasedAt }

def Store.interruptedRecoveryEvidence (s : Store) (commit : RecoverInterruptedEffectCommit) :
    Except StoreError (InterruptedEvidence × EffectRecoveryDisposition) := do
  let evidence ← s.interruptedEvidence commit .running .dispatching
  ensure (!(s.outcomes.any fun key _ => key.1 = commit.attemptId)) .conflict
  pure (evidence,
    classifyRecovery .running evidence.effect.idempotencyClass evidence.effect.recoveryStrategy)

def idempotencyKeyJson (effectId : EffectId) (idempotency : IdempotencyClass) : Json.Value :=
  if idempotency = .keyed then .string ("mealy-effect-v1:" ++ Json.uuidText effectId.id) else .null

def interruptionDetails (commit : RecoverInterruptedEffectCommit) (classification : String)
    (evidence : InterruptedEvidence) (disposition : EffectRecoveryDisposition) : Json.Value :=
  .object
    [("classification", .string classification),
     ("fencingToken", .nat evidence.lease.fencingToken),
     ("idempotency", .string evidence.effect.idempotencyClass.text),
     ("idempotencyKey", idempotencyKeyJson commit.effectId evidence.effect.idempotencyClass),
     ("interruptedBoundary", .string "running"),
     ("leaseExpiresAtMs", .nat evidence.lease.expiresAt),
     ("leaseId", .string (Json.uuidText evidence.attempt.preparedFence.leaseId.id)),
     ("leaseReleasedAtMs", .nat evidence.releasedAt),
     ("leaseState", .string evidence.lease.state.text),
     ("ownerId", .string (Json.uuidText evidence.lease.ownerId.id)),
     ("recoveryDisposition", .string disposition.text),
     ("recoveryStrategy", .string evidence.effect.recoveryStrategy.text),
     ("runId", .string (Json.uuidText evidence.lease.runId.id))]

def settleInterrupted (commit : RecoverInterruptedEffectCommit) (classification errorClass : String)
    (retryAuthorized : Bool) (status : EffectStatus) (state : EffectAttemptState)
    (found : InterruptedEvidence × EffectRecoveryDisposition) (s : Store) : Txn := do
  let evidence ← effectOutcomeEvidenceMaterial commit.effectId commit.attemptId 0 .outcomeUnknown
    (interruptionDetails commit classification found.1 found.2) (some errorClass) commit.recoveredAt
  let recorded ← insertEffectOutcome commit.attemptId 0
    { effectId := commit.effectId, kind := .outcomeUnknown, evidence,
      evidenceDigest := commit.evidenceDigest, eventId := commit.eventId, retryAuthorized,
      recordedAt := commit.recoveredAt } s
  let settled ← updateEffect commit.effectId status commit.recoveredAt recorded
  updateAttempt commit.attemptId state commit.recoveredAt settled

def recoverInterruptedEffectTransaction (commit : RecoverInterruptedEffectCommit) (s : Store) : Txn := do
  let found ← s.interruptedRecoveryEvidence commit
  ensure (!found.2.isRetry ∧ found.2 ≠ .resumePrepared) .conflict
  settleInterrupted commit interruptedEffectOutcomeClassification interruptedEffectOutcomeErrorClass false
    .outcomeUnknown .outcomeUnknown found s

def recoverRetryableEffect (commit : RecoverInterruptedEffectCommit) (s : Store) : Txn := do
  let found ← s.interruptedRecoveryEvidence commit
  ensure found.2.isRetry .conflict
  settleInterrupted commit interruptedEffectRetryClassification interruptedEffectRetryErrorClass true
    .authorized .interruptedRetryable found s

def recoverUndispatchedEffect (commit : RecoverInterruptedEffectCommit) (s : Store) : Txn := do
  let _ ← s.interruptedEvidence commit .prepared .authorized
  let closed ← updateAttempt commit.attemptId .interruptedUndispatched commit.recoveredAt s
  updateEffect commit.effectId .authorized commit.recoveredAt closed

/-- `interrupted_recovery_already_committed`: this very recovery is on record. -/
def Store.recoveryCommitted (s : Store) (commit : RecoverInterruptedEffectCommit) : Bool :=
  (s.attempts.get commit.attemptId).any (fun attempt =>
    attempt.effectId = commit.effectId ∧ attempt.state = .outcomeUnknown) ∧
  (s.effects.get commit.effectId).any (fun effect =>
    effect.status = .outcomeUnknown ∧ effect.revision = commit.expectedEffectRevision + 1 ∧
      effect.updatedAt = commit.recoveredAt) ∧
  (s.outcomes.get (commit.attemptId, 0)).any (fun outcome =>
    outcome.effectId = commit.effectId ∧ outcome.kind = .outcomeUnknown ∧
      outcome.eventId = commit.eventId ∧ outcome.recordedAt = commit.recoveredAt ∧
      (outcome.evidence.field "errorClass" >>= Json.Value.asString) =
        some interruptedEffectOutcomeErrorClass ∧
      ((outcome.evidence.field "evidence" >>= (·.field "classification")) >>= Json.Value.asString) =
        some interruptedEffectOutcomeClassification)

def recoverInterruptedEffect (commit : RecoverInterruptedEffectCommit) (s : Store) : Txn :=
  if s.recoveryCommitted commit then .ok s else recoverInterruptedEffectTransaction commit s

inductive EffectReconciliationOutcome where
  | succeeded | failed

def EffectReconciliationOutcome.kind : EffectReconciliationOutcome → EffectOutcomeKind
  | .succeeded => .succeeded
  | .failed => .failed

def EffectReconciliationOutcome.effectStatus : EffectReconciliationOutcome → EffectStatus
  | .succeeded => .succeeded
  | .failed => .failed

structure ReconcileEffectOutcomeCommit where
  ownership : OwnershipContext
  effectId : EffectId
  attemptId : AttemptId
  expectedEffectRevision : Nat
  outcome : EffectReconciliationOutcome
  evidenceDetails : Json.Value
  evidenceDigest : Json.Digest
  idempotencyKey : String
  eventId : EventId
  reconciledAt : Millis

def Store.authorizeEffectOwner (s : Store) (ownership : OwnershipContext) (effectId : EffectId) :
    Except StoreError Effect := do
  let effect ← require (s.effects.get effectId) .notFound
  let session ← require (s.sessions.get effect.sessionId) .notFound
  ensure (session.ownedBy ownership) .notFound
  pure effect

def reconcileEffectOutcome (commit : ReconcileEffectOutcomeCommit) (s : Store) : Txn := do
  ensure (validIdempotencyKey commit.idempotencyKey) (.invalidEvidence
    "effect command idempotency key must contain between 1 and 256 UTF-8 bytes")
  acceptsDetails "effect reconciliation evidence details" commit.evidenceDetails
  let command : EffectCommand := .reconciliation commit.effectId commit.attemptId commit.outcome.kind
    commit.expectedEffectRevision commit.evidenceDetails.render
  let receiptKey := (commit.ownership, EffectCommandKind.reconciliation, commit.idempotencyKey)
  match s.effectReceipts.get receiptKey with
  | some recorded =>
    ensure (recorded = command) .conflict
    pure s
  | none =>
    let effect ← s.authorizeEffectOwner commit.ownership commit.effectId
    let attempt ← require (s.attempts.get commit.attemptId) .conflict
    ensure (effect.status = .outcomeUnknown ∧ effect.revision = commit.expectedEffectRevision ∧
      attempt.effectId = commit.effectId ∧ attempt.state = .outcomeUnknown ∧
      (s.outcomes.get (commit.attemptId, 0)).any (fun outcome =>
        outcome.effectId = commit.effectId ∧ outcome.kind = .outcomeUnknown) ∧
      !(s.outcomes.any fun key _ => key.1 = commit.attemptId ∧ 0 < key.2)) .conflict
    let evidence ← effectOutcomeEvidenceMaterial commit.effectId commit.attemptId 1 commit.outcome.kind
      commit.evidenceDetails none commit.reconciledAt
    let recorded ← insertEffectOutcome commit.attemptId 1
      { effectId := commit.effectId, kind := commit.outcome.kind, evidence,
        evidenceDigest := commit.evidenceDigest, eventId := commit.eventId, retryAuthorized := false,
        recordedAt := commit.reconciledAt } s
    let settled ← updateEffect commit.effectId commit.outcome.effectStatus commit.reconciledAt recorded
    pure { settled with effectReceipts := settled.effectReceipts.put receiptKey command }

end Mealy
