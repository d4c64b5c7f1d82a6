import Mealy.Store.TaskControl

/-! The store as a transition system: every transaction that the daemon performs is
one atomic step, and any sequence of them, by any number of workers and with any
observed times, is a run of the system. -/

namespace Mealy
open Relational Transaction

/-- The store operations. The three ledger transactions at the end run inside lease
recovery and task cancellation; they are also steps of their own here. -/
inductive Operation where
  | createSession (commit : SessionCreationCommit)
  | admitInput (commit : InputAdmissionCommit)
  | promoteNext (commit : PromotionCommit)
  | claimNext (commit : LeaseClaimCommit)
  | heartbeat (commit : HeartbeatCommit)
  | release (commit : ReleaseLeaseCommit)
  | completeRun (commit : CompleteRunCommit)
  | prepareModelAttempt (commit : PrepareModelAttemptCommit)
  | dispatchModelAttempt (commit : DispatchModelAttemptCommit)
  | recordModelResult (commit : RecordModelResultCommit)
  | recordModelFailure (commit : RecordModelFailureCommit)
  | prepareReadTool (commit : PrepareReadToolCommit)
  | dispatchReadTool (commit : DispatchReadToolCommit)
  | recordReadToolResult (commit : RecordReadToolResultCommit)
  | recordEffectProposal (commit : RecordEffectProposalCommit)
  | recordAgentEffectProposal (commit : RecordAgentEffectProposalCommit)
  | resolveApproval (commit : ResolveApprovalCommit)
  | expireApproval (commit : ExpireApprovalCommit)
  | prepareEffectAttempt (commit : PrepareEffectAttemptCommit)
  | markEffectAttemptRunning (commit : MarkEffectAttemptRunningCommit)
  | recordEffectAttemptOutcome (commit : RecordEffectAttemptOutcomeCommit)
  | recoverInterruptedEffect (commit : RecoverInterruptedEffectCommit)
  | reconcileEffectOutcome (commit : ReconcileEffectOutcomeCommit)
  | resumeAgentEffectRun (commit : ResumeAgentEffectRunCommit)
  | parkAgentEffectRun (commit : ParkAgentEffectRunCommit)
  | recordAgentEffectObservation (commit : RecordAgentEffectObservationCommit)
  | launchAgentDelegation (commit : LaunchAgentDelegationCommit)
  | recoverLease (commit : RecoverLeaseCommit)
  | recordValidation (commit : RecordValidationCommit)
  | requestTaskCancellation (commit : RequestTaskCancellationCommit)
  | controlTask (commit : TaskControlCommit)
  | recoverUndispatchedEffect (commit : RecoverInterruptedEffectCommit)
  | recoverRetryableEffect (commit : RecoverInterruptedEffectCommit)
  | cancelUndispatchedAgentEffect (taskId : TaskId) (actor : PrincipalId) (cancelledAt : Millis)

namespace Operation

/-- What the daemon guarantees about its own calls: promotion uses the configured
assistant role, only governed tools are proposed as effects, and a model context is
compiled from the sources that were loaded for the run's turn. -/
def Issued (op : Operation) (s : Store) : Prop :=
  match op with
  | promoteNext commit => commit.initialAgentRole = .named "assistant"
  | recordAgentEffectProposal commit => commit.proposal.toolId.isGoverned = true
  | prepareModelAttempt commit =>
    ∀ row ∈ s.turnOfRun commit.fence.runId, commit.inputSources ⊆ s.contextInputs row.1 row.2
  | _ => True

instance (op : Operation) (s : Store) : Decidable (op.Issued s) := by
  unfold Issued
  split <;> infer_instance

def transaction : Operation → Store → Txn
  | createSession commit, s => Mealy.createSession commit s
  | admitInput commit, s => Mealy.admitInput commit s
  | promoteNext commit, s => Mealy.promoteNext commit s
  | claimNext commit, s => Mealy.claimNext commit s
  | heartbeat commit, s => Mealy.heartbeat commit s
  | release commit, s => Mealy.release commit s
  | completeRun commit, s => Mealy.completeRun commit s
  | prepareModelAttempt commit, s => Mealy.prepareModelAttempt commit s
  | dispatchModelAttempt commit, s => Mealy.dispatchModelAttempt commit s
  | recordModelResult commit, s => Mealy.recordModelResult commit s
  | recordModelFailure commit, s => Mealy.recordModelFailure commit s
  | prepareReadTool commit, s => Mealy.prepareReadTool commit s
  | dispatchReadTool commit, s => Mealy.dispatchReadTool commit s
  | recordReadToolResult commit, s => Mealy.recordReadToolResult commit s
  | recordEffectProposal commit, s => Mealy.recordEffectProposal commit s
  | recordAgentEffectProposal commit, s => Mealy.recordAgentEffectProposal commit s
  | resolveApproval commit, s => Mealy.resolveApproval commit s
  | expireApproval commit, s => Mealy.expireApproval commit s
  | prepareEffectAttempt commit, s => Mealy.prepareEffectAttempt commit s
  | markEffectAttemptRunning commit, s => Mealy.markEffectAttemptRunning commit s
  | recordEffectAttemptOutcome commit, s => Mealy.recordEffectAttemptOutcome commit s
  | recoverInterruptedEffect commit, s => Mealy.recoverInterruptedEffect commit s
  | reconcileEffectOutcome commit, s => Mealy.reconcileEffectOutcome commit s
  | resumeAgentEffectRun commit, s => Mealy.resumeAgentEffectRun commit s
  | parkAgentEffectRun commit, s => Mealy.parkAgentEffectRun commit s
  | recordAgentEffectObservation commit, s => Mealy.recordAgentEffectObservation commit s
  | launchAgentDelegation commit, s => Mealy.launchAgentDelegation commit s
  | recoverLease commit, s => Mealy.recoverLease commit s
  | recordValidation commit, s => Mealy.recordValidation commit s
  | requestTaskCancellation commit, s => Mealy.requestTaskCancellation commit s
  | controlTask commit, s => Mealy.controlTask commit s
  | recoverUndispatchedEffect commit, s => Mealy.recoverUndispatchedEffect commit s
  | recoverRetryableEffect commit, s => Mealy.recoverRetryableEffect commit s
  | cancelUndispatchedAgentEffect taskId actor at_, s => Mealy.cancelUndispatchedAgentEffect taskId actor at_ s

def exec (op : Operation) (s : Store) : Txn := do
  ensure (op.Issued s) (.invariantViolation "the daemon does not issue this operation")
  op.transaction s

theorem exec_eq_ok {op : Operation} {s s' : Store} :
    op.exec s = .ok s' ↔ op.Issued s ∧ op.transaction s = .ok s' := by
  simp [exec]

end Operation

/-- The canonical store from its empty state. -/
def storeSystem : System StoreError Store Operation where
  initial := {}
  exec := Operation.exec

/-- A store that some run of the daemon's operations reaches. -/
abbrev Store.Reachable (s : Store) : Prop := storeSystem.Reachable s

end Mealy
