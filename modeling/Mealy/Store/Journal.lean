import Mealy.Lib.EventLog
import Mealy.Store.DelegationStore

/-! What every operation writes to the journal. The stores have their own copies of
`append_event`, `next_sequence` and `set_sequence`; here they are the placements of
one event log, and an operation is described by the entries it appends, in order. -/

namespace Mealy
open Relational Transaction EventLog

structure MessageId where
  id : Nat
deriving DecidableEq

structure ContextEpochId where
  id : Nat
deriving DecidableEq

structure ContextManifestId where
  id : Nat
deriving DecidableEq

structure ArtifactId where
  id : Nat
deriving DecidableEq

structure MemoryId where
  id : Nat
deriving DecidableEq

structure CompactionId where
  id : Nat
deriving DecidableEq

inductive Aggregate where
  | session (id : SessionId)
  | task (id : TaskId)
  | run (id : RunId)
  | turn (id : TurnId)
  | lease (id : LeaseId)
  | message (id : MessageId)
  | contextEpoch (id : ContextEpochId)
  | contextManifest (id : ContextManifestId)
  | modelAttempt (id : AttemptId)
  | toolCall (id : ToolCallId)
  | artifact (id : ArtifactId)
  | effect (id : EffectId)
  | approval (id : ApprovalId)
  | delegation (id : DelegationId)
  | resourceClaim (id : EventId)
  | validation (id : ValidationId)
  | memory (id : MemoryId)
  | compaction (id : CompactionId)
deriving DecidableEq

abbrev Journal := Log Aggregate EventId
abbrev JournalEntry := Entry Aggregate EventId

/-- The `…_event_id` fields of the commits and of `LeaseRecoveryEventIds`. -/
inductive EventField where
  | event | promotion | session | turn | task | run | lease | checkpoint | attempt | manifest | epoch | artifact
  | message | effect | approval | approvalRequested | delegation | tool | parentTool | parentRun | parentTask
  | parentCheckpoint | leaseExpired | agentBoundaryRecovered | runRequeued | taskWaiting

/-- The identities a commit brings for the records it may write. Nothing says that
they are fresh or different from each other. -/
structure Reserved where
  event : EventField → EventId
  messageId : MessageId
  contextEpochId : Option ContextEpochId
  contextManifestId : ContextManifestId
  artifactId : Option ArtifactId

def appendNext (eventId : EventId) (aggregate : Aggregate) (eventType : String) : JournalEntry :=
  { placement := .next, eventId, aggregate, eventType }

def appendFirst (eventId : EventId) (aggregate : Aggregate) (eventType : String) : JournalEntry :=
  { placement := .first, eventId, aggregate, eventType }

def sessionCreatedEntry (eventId : EventId) (sessionId : SessionId) : JournalEntry :=
  { placement := .created, eventId, aggregate := .session sessionId, eventType := "session.created" }

def inputAcceptedEntry (eventId : EventId) (sessionId : SessionId) : JournalEntry :=
  { placement := .existing, eventId, aggregate := .session sessionId, eventType := "input.accepted" }

/-- `append_checkpoint` also records the loop position in the journal of the run. -/
def appendCheckpoint (eventId : EventId) (runId : RunId) : JournalEntry :=
  appendNext eventId (.run runId) "agent.loop.checkpoint"

def appendArtifact (reserved : Reserved) : List JournalEntry :=
  reserved.artifactId.toList.map fun id => appendNext (reserved.event .artifact) (.artifact id) "artifact.committed"

/-! ### Promotion -/

def PromotionCommit.entries (commit : PromotionCommit) (reserved : Reserved) (s : Store) : List JournalEntry :=
  let session := Aggregate.session commit.sessionId
  match s.loadPendingHead commit.sessionId, (s.sessions.get commit.sessionId).bind Session.activeTurnId with
  | none, _ => []
  | some _, none =>
    [appendNext (reserved.event .promotion) session "input.promoted",
     appendFirst (reserved.event .task) (.task commit.taskId) "task.created",
     appendFirst (reserved.event .run) (.run commit.runId) "run.created"]
  | some (_, entry), some activeTurnId =>
    match entry.deliveryMode, s.turns.get activeTurnId with
    | .steerAtBoundary, some turn =>
      [appendNext (reserved.event .promotion) session "input.steered",
       appendNext (reserved.event .run) (.run turn.runId) "run.input_attached"]
    | .interruptThenQueue, some turn =>
      if entry.interruptRequestedAt.isSome then []
      else
        let beforeClaim : Bool := (s.runs.get turn.runId).any fun run => run.status = .queued
        [appendNext (reserved.event .promotion) session "input.interrupt_requested",
         appendNext (reserved.event .task) (.task turn.taskId)
           (if beforeClaim then "task.cancelled" else "task.cancelling"),
         appendNext (reserved.event .run) (.run turn.runId)
           (if beforeClaim then "run.cancelled" else "run.cancellation_requested")]
    | _, _ => []

/-! ### Scheduling -/

def LeaseClaimCommit.entries (commit : LeaseClaimCommit) (reserved : Reserved) (s : Store) : List JournalEntry :=
  match s.loadRunnable commit.claimedAt commit.concurrencyLimits with
  | none => []
  | some (runId, run) =>
    appendNext (reserved.event .run) (.run runId) "run.started" ::
      if (s.tasks.get run.taskId).any fun task => task.status = .queued
      then [appendNext (reserved.event .task) (.task run.taskId) "task.started"] else []

def RunCompletionStatus.turnEventType : RunCompletionStatus → String
  | .succeeded => "turn.completed"
  | .failed => "turn.failed"
  | .cancelled => "turn.cancelled"

/-- The events of `settle_delegated_child`. -/
def CompleteRunCommit.childEntries (commit : CompleteRunCommit) (reserved : Reserved) (s : Store) :
    List JournalEntry :=
  match s.delegationOfChild commit.fence.runId with
  | none => []
  | some (delegationId, delegation) =>
    let parentTask := (s.runs.get delegation.parentRunId).toList.map fun parent =>
      appendNext (reserved.event .parentTask) (.task parent.taskId) "task.delegation_ready"
    [appendNext (reserved.event .delegation) (.delegation delegationId) ("delegation." ++ commit.status.text),
     appendNext (reserved.event .parentTool) (.toolCall delegation.parentToolCallId) "tool.call.succeeded",
     appendNext (reserved.event .parentRun) (.run delegation.parentRunId) "run.delegation_ready"] ++
    parentTask ++ [appendCheckpoint (reserved.event .parentCheckpoint) delegation.parentRunId]

def CompleteRunCommit.entries (commit : CompleteRunCommit) (reserved : Reserved) (s : Store) : List JournalEntry :=
  let message := commit.finalMessage.toList.map fun _ =>
    appendNext (reserved.event .message) (.message reserved.messageId) "message.assistant.final"
  match s.turnOfRun commit.fence.runId with
  | none => message
  | some (turnId, turn) =>
    let completed :=
      [appendNext (reserved.event .run) (.run commit.fence.runId) ("run." ++ commit.status.text),
       appendNext (reserved.event .task) (.task turn.taskId) ("task." ++ commit.status.text),
       appendNext (reserved.event .turn) (.turn turnId) commit.status.turnEventType]
    match turn.kind with
    | .canonical =>
      message ++ completed ++ [appendNext (reserved.event .session) (.session turn.sessionId) commit.status.turnEventType]
    | .delegated => message ++ commit.childEntries reserved s ++ completed

/-! ### Effects -/

def RecordEffectProposalCommit.entries (commit : RecordEffectProposalCommit) (reserved : Reserved) :
    List JournalEntry :=
  appendFirst (reserved.event .effect) (.effect commit.effectId) "effect.proposed" ::
    commit.approval.toList.map fun draft =>
      appendFirst (reserved.event .approvalRequested) (.approval draft.approvalId) "approval.requested"

def waitEntries (reserved : Reserved) (leaseId : LeaseId) (runId : RunId) (taskId : TaskId) (reason : String) :
    List JournalEntry :=
  [appendNext (reserved.event .lease) (.lease leaseId) ("lease.released_for_" ++ reason),
   appendNext (reserved.event .run) (.run runId) ("run.waiting_for_" ++ reason),
   appendNext (reserved.event .task) (.task taskId) ("task.waiting_for_" ++ reason)]

def resolutionEntries (reserved : Reserved) (s : Store) (approvalId : ApprovalId) (approvalEvent effectEvent : String) :
    List JournalEntry :=
  appendNext (reserved.event .approval) (.approval approvalId) approvalEvent ::
    (s.approvals.get approvalId).toList.map fun approval =>
      appendNext (reserved.event .effect) (.effect approval.effectId) effectEvent

def ApprovalDecision.eventTypes : ApprovalDecision → String × String
  | .approve => ("approval.approved", "effect.authorized")
  | .deny => ("approval.denied", "effect.denied")

def EffectAttemptOutcome.eventType : EffectAttemptOutcome → String
  | .succeeded => "effect.succeeded"
  | .failed => "effect.failed"
  | .outcomeUnknown => "effect.outcome_unknown"

def cancelledEffectEntries (reserved : Reserved) (taskId : TaskId) (s : Store) : List JournalEntry :=
  (s.undispatchedAgentEffects taskId).flatMap fun (approvalId, approval) =>
    (if s.effectIs approval.effectId .awaitingApproval
      then [appendNext (reserved.event .approval) (.approval approvalId) "approval.revoked"] else []) ++
    [appendNext (reserved.event .effect) (.effect approval.effectId) "effect.denied"]

/-! ### Recovery and control -/

def recoveredEffectEntries (eventId : EventId) (effect : InterruptedEffect) : List JournalEntry :=
  match effect.boundary, classifyLeaseRecovery (some effect) with
  | .prepared, .ok .requeued => [appendNext eventId (.effect effect.effectId) "effect.preparation_interrupted"]
  | .running, .ok .requeued => [appendNext eventId (.effect effect.effectId) "effect.retry_authorized"]
  | .running, .ok .waiting => [appendNext eventId (.effect effect.effectId) "effect.outcome_unknown"]
  | _, _ => []

def Store.hasOpenBoundary (s : Store) (runId : RunId) : Bool :=
  (s.loops.get runId).any fun state => (s.openTool state).isSome || (s.openAttempt state).isSome

def RecoverLeaseCommit.entries (commit : RecoverLeaseCommit) (reserved : Reserved) (s : Store) : List JournalEntry :=
  match s.leases.get commit.leaseId with
  | none => []
  | some lease =>
    let effects := s.interruptedEffects commit.leaseId lease
    let waits : Bool := effects.any fun effect => (classifyLeaseRecovery (some effect)).toOption = some .waiting
    let boundary := if s.hasOpenBoundary lease.runId
      then [appendNext (reserved.event .agentBoundaryRecovered) (.run lease.runId) "agent.boundary_recovered"] else []
    let waiting := (s.runs.get lease.runId).toList.filterMap fun run =>
      if waits && (s.tasks.get run.taskId).any (fun task => task.status = .running)
      then some (appendNext (reserved.event .taskWaiting) (.task run.taskId) "task.waiting") else none
    appendNext (reserved.event .leaseExpired) (.lease commit.leaseId) "lease.expired" ::
      effects.flatMap (recoveredEffectEntries commit.eventId) ++ boundary ++
      [appendNext (reserved.event .runRequeued) (.run lease.runId) (if waits then "run.waiting" else "run.requeued")] ++
      waiting

def RequestTaskCancellationCommit.entries (commit : RequestTaskCancellationCommit) (reserved : Reserved) (s : Store) :
    List JournalEntry :=
  match s.cancellations.get (commit.ownership, commit.idempotencyKey), s.runOfTask commit.taskId with
  | none, some (runId, run) =>
    let active := s.activeDelegations runId
    let children := active.flatMap fun (_, delegation) =>
      [appendNext (reserved.event .approval) (.run delegation.childRunId) "run.cancellation_requested_by_parent",
       appendNext (reserved.event .effect) (.task delegation.childTaskId) "task.cancellation_requested_by_parent"]
    let waiting := if run.status = .waiting
      then [appendNext (reserved.event .run) (.run runId)
        (if active.isEmpty then "run.cancellation_ready" else "run.cancellation_waiting_for_delegation")] else []
    children ++ cancelledEffectEntries reserved commit.taskId s ++ waiting ++
      [appendNext (reserved.event .event) (.task commit.taskId) "task.cancellation_requested"]
  | _, _ => []

def TaskControlCommit.entries (commit : TaskControlCommit) (reserved : Reserved) (s : Store) : List JournalEntry :=
  match commit.action with
  | .pause =>
    let fenced := match s.runOfTask commit.taskId with
      | some (runId, run) =>
        if run.status = .running then
          (s.activeLease runId).toList.flatMap fun (leaseId, _) =>
            RecoverLeaseCommit.entries
              { leaseId, recoverAllActive := true, eventId := commit.eventId,
                evidenceDigest := commit.evidenceDigest, now := commit.controlledAt } reserved s
        else []
      | none => []
    fenced ++ [appendNext (reserved.event .event) (.task commit.taskId) "task.paused"]
  | .resume => [appendNext (reserved.event .event) (.task commit.taskId) "task.resumed"]

/-! ### Every operation -/

def Operation.entries (op : Operation) (reserved : Reserved) (s : Store) : List JournalEntry :=
  let id := reserved.event
  match op with
  | createSession commit => [sessionCreatedEntry (id .event) commit.sessionId]
  | admitInput commit =>
    if (s.loadAdmission commit.sessionId commit.dedupeKey).isSome then []
    else [inputAcceptedEntry (id .event) commit.sessionId]
  | promoteNext commit => commit.entries reserved s
  | claimNext commit => commit.entries reserved s
  | heartbeat _ => []
  | release commit => [appendNext (id .event) (.run commit.fence.runId) "run.requeued"]
  | completeRun commit => commit.entries reserved s
  | prepareModelAttempt commit =>
    (reserved.contextEpochId.toList.map fun epochId =>
      appendNext (id .epoch) (.contextEpoch epochId) "context.epoch.created") ++
    [appendNext (id .manifest) (.contextManifest reserved.contextManifestId) "context.manifest.created",
     appendNext (id .attempt) (.modelAttempt commit.attemptId) "model.attempt.prepared",
     appendCheckpoint (id .checkpoint) commit.fence.runId]
  | dispatchModelAttempt commit =>
    -- A retired attempt leaves a checkpoint under the same identity.
    if (s.fencedAttempt commit.fence commit.attemptId .prepared).any fun attempt =>
        commit.dispatchedAt + commit.minimumExecutionWindowMs ≤ attempt.deadlineAt
    then [appendNext (id .event) (.modelAttempt commit.attemptId) "model.attempt.dispatched"]
    else [appendCheckpoint (id .event) commit.fence.runId]
  | recordModelResult commit =>
    appendArtifact reserved ++
    [appendNext (id .event) (.modelAttempt commit.attemptId) "model.attempt.completed",
     appendCheckpoint (id .checkpoint) commit.fence.runId]
  | recordModelFailure commit =>
    appendNext (id .attempt) (.modelAttempt commit.attemptId) "model.attempt.failed" ::
      if commit.retryable && (s.budgets.get commit.fence.runId).any
          (fun budget => budget.allowsRetry (commit.completedAt + commit.retryDelayMs))
      then [appendCheckpoint (id .checkpoint) commit.fence.runId,
            appendNext (id .lease) (.run commit.fence.runId) "run.requeued"]
      else []
  | prepareReadTool commit => [appendNext (id .event) (.toolCall commit.toolCallId) "tool.call.prepared"]
  | dispatchReadTool commit => [appendNext (id .event) (.toolCall commit.toolCallId) "tool.call.started"]
  | recordReadToolResult commit =>
    appendArtifact reserved ++
    [appendNext (id .event) (.toolCall commit.toolCallId) "tool.call.succeeded",
     appendCheckpoint (id .checkpoint) commit.fence.runId]
  | recordEffectProposal commit => commit.entries reserved
  | recordAgentEffectProposal commit =>
    commit.proposal.entries reserved ++
    waitEntries reserved commit.fence.leaseId commit.fence.runId commit.proposal.taskId "approval" ++
    [appendCheckpoint (id .checkpoint) commit.fence.runId]
  | resolveApproval commit =>
    if (s.effectReceipts.get (commit.ownership, .approvalResolution, commit.idempotencyKey)).isSome then []
    else resolutionEntries reserved s commit.approvalId commit.decision.eventTypes.1 commit.decision.eventTypes.2
  | expireApproval commit => resolutionEntries reserved s commit.approvalId "approval.expired" "effect.denied"
  | prepareEffectAttempt commit => [appendNext (id .event) (.effect commit.effectId) "effect.attempt_prepared"]
  | markEffectAttemptRunning commit => [appendNext (id .event) (.effect commit.effectId) "effect.dispatched"]
  | recordEffectAttemptOutcome commit =>
    [appendNext commit.eventId (.effect commit.effectId) commit.outcome.eventType]
  | recoverInterruptedEffect commit =>
    if s.recoveryCommitted commit then []
    else [appendNext commit.eventId (.effect commit.effectId) "effect.outcome_unknown"]
  | reconcileEffectOutcome commit =>
    if (s.effectReceipts.get (commit.ownership, .reconciliation, commit.idempotencyKey)).isSome then []
    else [appendNext commit.eventId (.effect commit.effectId) "effect.reconciled"]
  | resumeAgentEffectRun commit =>
    ((s.invocations.get commit.effectId).filter fun invocation =>
      s.agentEffectReady commit.effectId invocation commit.resumedAt).toList.flatMap fun invocation =>
        [appendNext (id .run) (.run invocation.runId) "run.effect_ready",
         appendNext (id .task) (.task invocation.taskId) "task.effect_ready"]
  | parkAgentEffectRun commit =>
    (s.invocations.get commit.effectId).toList.flatMap fun invocation =>
      waitEntries reserved commit.fence.leaseId commit.fence.runId invocation.taskId "reconciliation"
  | recordAgentEffectObservation commit =>
    [appendNext (id .event) (.message reserved.messageId) "message.tool.effect_observed",
     appendCheckpoint (id .checkpoint) commit.fence.runId]
  | launchAgentDelegation commit =>
    [appendNext (id .event) (.delegation commit.delegationId) "delegation.prepared",
     appendNext (id .tool) (.toolCall commit.parentToolCallId) "tool.call.started",
     appendNext (id .lease) (.lease commit.parentFence.leaseId) "lease.released_for_delegation",
     appendNext (id .parentRun) (.run commit.parentFence.runId) "run.waiting_for_delegation"] ++
    (s.runs.get commit.parentFence.runId).toList.map fun parent =>
      appendNext (id .parentTask) (.task parent.taskId) "task.waiting_for_delegation"
  | recoverLease commit => commit.entries reserved s
  | recordValidation commit => [appendNext (id .event) (.validation commit.validationId) "validation.completed"]
  | requestTaskCancellation commit => commit.entries reserved s
  | controlTask commit => commit.entries reserved s
  | recoverUndispatchedEffect commit =>
    [appendNext commit.eventId (.effect commit.effectId) "effect.preparation_interrupted"]
  | recoverRetryableEffect commit =>
    [appendNext commit.eventId (.effect commit.effectId) "effect.retry_authorized"]
  | cancelUndispatchedAgentEffect taskId _ _ => cancelledEffectEntries reserved taskId s

def DelegationOperation.entries (op : DelegationOperation) (reserved : Reserved) (s : DelegationStore) :
    List JournalEntry :=
  match op with
  | daemon op _ => op.entries reserved s.core
  | promote commit _ => commit.entries reserved s.core
  | launch commit _ _ => (Operation.launchAgentDelegation commit).entries reserved s.core
  | prepareDelegation commit =>
    [appendNext (reserved.event .event) (.delegation commit.delegationId) "delegation.prepared"]
  | startDelegation commit =>
    [appendNext (reserved.event .event) (.delegation commit.delegationId) "delegation.started"]
  | acquireResourceClaim commit =>
    [appendNext (reserved.event .event) (.resourceClaim commit.claimId) "resource_claim.acquired"]
  | recordDelegationResult commit =>
    [appendNext (reserved.event .event) (.delegation commit.delegationId)
      (if commit.succeeded then "delegation.succeeded" else "delegation.failed")]

end Mealy
