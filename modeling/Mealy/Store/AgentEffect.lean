import Mealy.Store.AgentLoop

/-! Governed effects proposed by the agent loop (`agent_effect.rs`). A proposal parks
its run while the approval is pending; the run is resumed when the effect is ready
and records the terminal effect as an observation of its model call. -/

namespace Mealy
open Relational Transaction

def Store.loadFencedEffectOwner (s : Store) (fence : LeaseFence) (modelAttemptId : AttemptId)
    (observedAt : Millis) : Except StoreError Run := do
  let run ← require (s.runningUnder fence) .staleFence
  let task ← require (s.tasks.get run.taskId) .staleFence
  ensure (task.status = .running ∧ run.cancellationRequestedAt = none) .staleFence
  let lease ← require (s.heldLease fence) .staleFence
  ensure (lease.acquiredAt ≤ observedAt ∧ observedAt < lease.expiresAt) .staleFence
  let (turnId, turn) ← require (s.turnOfRun fence.runId) .staleFence
  let session ← require (s.sessions.get turn.sessionId) .staleFence
  ensure (turn.taskId = run.taskId ∧ turn.status = .active ∧ session.activeTurnId = some turnId) .staleFence
  let _ ← require (s.loopAtAttempt fence.runId .consumeModelResult modelAttemptId) .staleFence
  let attempt ← require (s.modelAttempts.get modelAttemptId) .staleFence
  ensure (attempt.runId = fence.runId ∧ attempt.state = .completed) .staleFence
  match attempt.response with
  | some (.toolCall _ _) => pure run
  | some (.final _) | none => .error .staleFence

/-- Release the fence's lease and leave run and task waiting under the next token. -/
def parkRun (fence : LeaseFence) (run : Run) (parkedAt : Millis) (next : Nat) (s : Store) : Txn := do
  let lease ← require (s.heldLease fence) .staleFence
  -- `released_at_ms >= acquired_at_ms` of the lease.
  ensure (lease.acquiredAt ≤ parkedAt ∧ parkedAt < lease.expiresAt) .staleFence
  let task ← require (s.tasks.get run.taskId) .staleFence
  ensure (task.status = .running) .staleFence
  pure { s with
    leases := s.leases.put fence.leaseId { lease with state := .released, releasedAt := some parkedAt },
    runs := s.runs.put fence.runId { run with status := .waiting, currentFencingToken := next },
    tasks := s.tasks.put run.taskId { task with status := .waiting, revision := task.revision + 1 } }

structure RecordAgentEffectProposalCommit where
  fence : LeaseFence
  modelAttemptId : AttemptId
  toolCallId : ToolCallId
  proposal : RecordEffectProposalCommit
  parkedAt : Millis

def RecordAgentEffectProposalCommit.valid (commit : RecordAgentEffectProposalCommit) : Bool :=
  commit.proposal.runId = commit.fence.runId ∧ commit.proposal.decision = .requireApproval ∧
  commit.proposal.approval.any (fun draft => draft.effectId = commit.proposal.effectId) ∧
  commit.proposal.proposedAt = commit.parkedAt

/-- The unique columns and the origin trigger of `agent_effect_invocation`. -/
def insertInvocation (effectId : EffectId) (invocation : AgentEffectInvocation) (toolId : ToolId)
    (arguments : String) (s : Store) : Txn := do
  ensure (s.invocations.get effectId = none ∧
    !(s.invocations.any fun _ other =>
      other.modelAttemptId = invocation.modelAttemptId ∨ other.toolCallId = invocation.toolCallId))
    .conflict
  ensure (s.modelResultMatches invocation.runId invocation.modelAttemptId toolId arguments) .conflict
  pure { s with invocations := s.invocations.put effectId invocation }

def recordAgentEffectProposal (commit : RecordAgentEffectProposalCommit) (s : Store) : Txn := do
  ensure commit.valid (.invariantViolation
    "agent effect proposal does not match its approval wait boundary")
  let run ← s.loadFencedEffectOwner commit.fence commit.modelAttemptId commit.parkedAt
  ensure (run.taskId = commit.proposal.taskId) .conflict
  let reserved ← putBudget commit.fence.runId
    (fun budget => budget.reserve { toolCalls := 1 } commit.parkedAt)
    (.budgetExceeded "governed effect exceeds the effective run tool-call limit") s
  let proposed ← recordEffectProposal commit.proposal reserved
  let invoked ← insertInvocation commit.proposal.effectId
    { runId := commit.fence.runId, taskId := run.taskId, modelAttemptId := commit.modelAttemptId,
      toolCallId := commit.toolCallId }
    commit.proposal.toolId commit.proposal.arguments proposed
  let next ← nextToken commit.fence.fencingToken "agent effect fencing token overflow"
  parkRun commit.fence run commit.parkedAt next invoked

/-! ### Leaving the parked state -/

def EffectStatus.isTerminal : EffectStatus → Bool
  | .denied | .succeeded | .failed | .compensated => true
  | .proposed | .awaitingApproval | .authorized | .dispatching | .outcomeUnknown => false

def Store.approvalOf (s : Store) (effectId : EffectId) : Option (ApprovalId × ApprovalRequest) :=
  s.approvals.find fun _ approval => approval.effectId = effectId

/-- The run and the task of an invocation both wait, without an active lease and
without an observation of the effect. -/
def Store.parked (s : Store) (effectId : EffectId) (invocation : AgentEffectInvocation) : Bool :=
  (s.runs.get invocation.runId).any (fun run =>
    run.taskId = invocation.taskId ∧ run.status = .waiting) ∧
  (s.tasks.get invocation.taskId).any (fun task => task.status = .waiting) ∧
  !s.hasActiveLease invocation.runId ∧ (s.observations.get effectId).isNone

def Store.agentEffectReady (s : Store) (effectId : EffectId) (invocation : AgentEffectInvocation)
    (observedAt : Millis) : Bool :=
  s.parked effectId invocation ∧
  (s.effects.get effectId).any fun effect =>
    effect.status.isTerminal ∨
      (effect.status = .authorized ∧
        (s.approvalOf effectId).any fun (_, approval) =>
          approval.status = .approved ∧ observedAt < approval.expiresAt)

def Store.readyAgentEffects (s : Store) (observedAt : Millis) : List EffectId :=
  (s.invocations.select fun effectId invocation => s.agentEffectReady effectId invocation observedAt).map
    Prod.fst

def Store.expiredAgentEffectApprovals (s : Store) (observedAt : Millis) : List ApprovalId :=
  (s.approvals.select fun _ approval =>
    approval.status = .pending ∧ approval.expiresAt ≤ observedAt ∧
      (s.invocations.get approval.effectId).any fun invocation =>
        (s.runs.get invocation.runId).any (fun run =>
          run.taskId = invocation.taskId ∧ run.status = .waiting) ∧
        (s.tasks.get invocation.taskId).any (fun task => task.status = .waiting)).map Prod.fst

structure ResumeAgentEffectRunCommit where
  effectId : EffectId
  resumedAt : Millis

def resumeAgentEffectRun (commit : ResumeAgentEffectRunCommit) (s : Store) : Txn := do
  match (s.invocations.get commit.effectId).filter fun invocation =>
      s.agentEffectReady commit.effectId invocation commit.resumedAt with
  | none => pure s
  | some invocation =>
    let run ← require (s.runs.get invocation.runId) .conflict
    let task ← require (s.tasks.get invocation.taskId) .conflict
    ensure (run.status = .waiting ∧ task.status = .waiting) .conflict
    pure { s with
      runs := s.runs.put invocation.runId { run with status := .queued, nextAttemptAt := none },
      tasks := s.tasks.put invocation.taskId
        { task with status := .queued, revision := task.revision + 1 } }

structure ParkAgentEffectRunCommit where
  fence : LeaseFence
  effectId : EffectId
  parkedAt : Millis

def parkAgentEffectRun (commit : ParkAgentEffectRunCommit) (s : Store) : Txn := do
  let next ← nextToken commit.fence.fencingToken "agent effect fencing token overflow"
  let invocation ← require (s.invocations.get commit.effectId) .staleFence
  let run ← require (s.runningUnder commit.fence) .staleFence
  ensure (invocation.runId = commit.fence.runId ∧ run.taskId = invocation.taskId ∧
    s.effectIs commit.effectId .outcomeUnknown) .staleFence
  parkRun commit.fence run commit.parkedAt next s

/-! ### Observing the terminal effect -/

def agentEffectObservationContractVersion : String := "mealy.agent-effect-observation.v1"

def EffectStatus.text : EffectStatus → String
  | .proposed => "proposed"
  | .awaitingApproval => "awaiting_approval"
  | .authorized => "authorized"
  | .dispatching => "dispatching"
  | .succeeded => "succeeded"
  | .failed => "failed"
  | .outcomeUnknown => "outcome_unknown"
  | .compensated => "compensated"
  | .denied => "denied"

def Store.lastAttempt (s : Store) (effectId : EffectId) : Option (AttemptId × EffectAttempt) :=
  (s.attemptsOf effectId).find? fun row => row.2.ordinal = s.lastOrdinal effectId

def Store.lastOutcome (s : Store) (attemptId : AttemptId) : Option EffectOutcome :=
  (s.outcomes.get (attemptId, 1)).or (s.outcomes.get (attemptId, 0))

def Store.projectedOutcome (s : Store) (effectId : EffectId) (effect : Effect) :
    Except StoreError Json.Value :=
  match effect.status with
  | .denied => do
    ensure ((s.lastAttempt effectId).isNone)
      (.invariantViolation "denied agent effect unexpectedly has dispatch evidence")
    pure .null
  | .succeeded | .failed | .compensated => do
    let (attemptId, _) ← require (s.lastAttempt effectId)
      (.invariantViolation "terminal agent effect has no attempt")
    let outcome ← require (s.lastOutcome attemptId)
      (.invariantViolation "terminal agent effect has no outcome kind")
    ensure (outcome.kind.text = effect.status.text)
      (.invariantViolation "terminal agent effect evidence diverged from current status")
    pure (.object
      [("attemptId", .string (Json.uuidText attemptId.id)),
       ("evidence", outcome.evidence),
       ("evidenceDigest", .string outcome.evidenceDigest.text),
       ("kind", .string outcome.kind.text)])
  | .proposed | .awaitingApproval | .authorized | .dispatching | .outcomeUnknown => .error .conflict

def observationContent (effectId : EffectId) (effect : Effect) (toolCallId : ToolCallId)
    (outcome : Json.Value) : Json.Value :=
  .object
    [("argumentsDigest", .string effect.argumentsDigest.text),
     ("contractVersion", .string agentEffectObservationContractVersion),
     ("effectId", .string (Json.uuidText effectId.id)),
     ("effectRevision", .nat effect.revision),
     ("outcome", outcome),
     ("status", .string effect.status.text),
     ("toolCallId", .string (Json.uuidText toolCallId.id))]

def Store.loadTerminalProjection (s : Store) (effectId : EffectId) (invocation : AgentEffectInvocation) :
    Except StoreError (Nat × Json.Value) := do
  let effect ← require (s.effects.get effectId) .notFound
  ensure (effect.runId = invocation.runId ∧ effect.taskId = invocation.taskId) .notFound
  let outcome ← s.projectedOutcome effectId effect
  pure (effect.revision, observationContent effectId effect invocation.toolCallId outcome)

structure RecordAgentEffectObservationCommit where
  fence : LeaseFence
  effectId : EffectId
  modelAttemptId : AttemptId
  toolCallId : ToolCallId
  observedAt : Millis

def recordAgentEffectObservation (commit : RecordAgentEffectObservationCommit) (s : Store) : Txn := do
  let run ← s.loadFencedEffectOwner commit.fence commit.modelAttemptId commit.observedAt
  let (effectId, invocation) ← require
    (s.invocations.find fun _ invocation => invocation.modelAttemptId = commit.modelAttemptId) .conflict
  ensure (effectId = commit.effectId ∧ invocation.runId = commit.fence.runId ∧
    invocation.taskId = run.taskId ∧ invocation.toolCallId = commit.toolCallId) .conflict
  let (revision, content) ← s.loadTerminalProjection effectId invocation
  ensure (content.size ≤ 65536)
    (.invariantViolation "canonical effect observation exceeds message bound")
  let budgeted ← putBudget commit.fence.runId
    (fun budget => budget.settle { toolCalls := 1 } { toolCalls := 1, outputBytes := content.size })
    (.budgetExceeded "governed effect observation exceeds the effective run output limit") s
  ensure ((s.observations.get effectId).isNone) .conflict
  let state ← require (s.loopAtAttempt commit.fence.runId .consumeModelResult commit.modelAttemptId)
    .conflict
  pure { budgeted with
    observations := budgeted.observations.put effectId
      { runId := commit.fence.runId, modelAttemptId := commit.modelAttemptId,
        toolCallId := commit.toolCallId, effectRevision := revision },
    loops := budgeted.loops.put commit.fence.runId
      { state with nextAction := .compileContext, currentToolCallId := none } }

end Mealy
