import Mealy.Store.Effects

/-! What a committed transaction of the effect ledger has checked and written: one
inversion lemma for each of them. -/

namespace Mealy
open Relational Transaction

variable {s s' : Store} {status : EffectStatus} {commit : RecoverInterruptedEffectCommit}
  {state : EffectAttemptState} {effectId : EffectId} {attemptId : AttemptId} {at_ : Millis}
  {approvalId : ApprovalId} {approval : ApprovalRequest}

/-! ### Triggers -/

theorem updateEffect_ok {updatedAt} (ok : updateEffect effectId status updatedAt s = .ok s') :
    ∃ effect, s.effects.get effectId = some effect ∧
      (effect.status = status ∨ s.effectEdge effectId effect status = true) ∧
      s' = { s with
        effects := s.effects.put effectId { effect with status, revision := effect.revision + 1, updatedAt } } := by
  simp only [updateEffect, eq_ok] at ok
  obtain ⟨effect, found, _, edge, _, _, rfl⟩ := ok
  exact ⟨effect, found, edge, rfl⟩

theorem updateAttempt_ok (ok : updateAttempt attemptId state at_ s = .ok s') :
    ∃ attempt startedAt, s.attempts.get attemptId = some attempt ∧
      s' = { s with attempts := s.attempts.put attemptId { attempt with state, startedAt } } := by
  simp only [updateAttempt, eq_ok] at ok
  obtain ⟨attempt, found, _, _, _, _, rfl⟩ := ok
  exact ⟨attempt, _, found, rfl⟩

theorem insertEffectOutcome_ok {sequence outcome}
    (ok : insertEffectOutcome attemptId sequence outcome s = .ok s') :
    ∃ attempt effect, s.attempts.get attemptId = some attempt ∧ s.effects.get outcome.effectId = some effect ∧
      attempt.effectId = outcome.effectId ∧
      ((sequence = 0 ∧ attempt.state = .running ∧ effect.status = .dispatching) ∨
        (sequence = 1 ∧ attempt.state = .outcomeUnknown ∧ effect.status = .outcomeUnknown)) ∧
      s' = { s with outcomes := s.outcomes.put (attemptId, sequence) outcome } := by
  simp only [insertEffectOutcome, eq_ok] at ok
  obtain ⟨_, _, attempt, attemptFound, effect, effectFound, _, of, _, stage, _, _, rfl⟩ := ok
  refine ⟨attempt, effect, attemptFound, effectFound, of, ?_, rfl⟩
  rcases stage with ⟨zero, running, dispatching, _⟩ | ⟨one, unknown, effectUnknown, _⟩
  · exact .inl ⟨zero, running, dispatching⟩
  · exact .inr ⟨one, unknown, effectUnknown⟩

theorem updateApproval_ok {status decidedBy resolvedAt}
    (ok : updateApproval approvalId status decidedBy resolvedAt s = .ok s') :
    ∃ approval, s.approvals.get approvalId = some approval ∧ approval.status = .pending ∧
      s' = { s with
        approvals := s.approvals.put approvalId
          { approval with status, decidedBy, resolvedAt := some resolvedAt } } := by
  simp only [updateApproval, eq_ok] at ok
  obtain ⟨approval, found, _, ⟨pending, _⟩, rfl⟩ := ok
  exact ⟨approval, found, pending, rfl⟩

/-! ### Proposals and approvals -/

theorem Store.authorizedSessionId_ok {ownership taskId runId sessionId} (authorized : s.authorizedSessionId ownership taskId runId = .ok sessionId) :
    ∃ run session, s.runs.get runId = some run ∧ run.taskId = taskId ∧
      s.sessions.get sessionId = some session ∧ session.ownedBy ownership = true := by
  simp only [authorizedSessionId, eq_ok] at authorized
  obtain ⟨run, runFound, ⟨_, turn⟩, _, session, sessionFound, _, ⟨task, owned⟩, rfl⟩ := authorized
  exact ⟨run, session, runFound, task, sessionFound, owned⟩

theorem recordEffectProposal_ok {commit}
    (ok : recordEffectProposal commit s = .ok s') :
    ∃ sessionId run session, s.runs.get commit.runId = some run ∧ run.taskId = commit.taskId ∧
      s.sessions.get sessionId = some session ∧ session.ownedBy commit.ownership = true ∧
      s.effects.get commit.effectId = none ∧
      ((commit.decision ≠ .requireApproval ∧
        s' = { s with effects := s.effects.put commit.effectId (commit.effect sessionId) }) ∨
      ∃ draft : ApprovalRequestDraft, commit.decision = .requireApproval ∧
        s.approvals.get draft.approvalId = none ∧
        (∀ approvalId approval, s.approvals.get approvalId = some approval → approval.effectId ≠ commit.effectId) ∧
        s' = { s with
          effects := s.effects.put commit.effectId (commit.effect sessionId),
          approvals := s.approvals.put draft.approvalId
            (draft.request commit.effectId commit.proposedAt) }) := by
  simp only [recordEffectProposal, eq_ok] at ok
  obtain ⟨_, matched, sessionId, authorized, _, _, _, fresh, ok⟩ := ok
  obtain ⟨run, session, runFound, ofTask, sessionFound, owned⟩ := Store.authorizedSessionId_ok authorized
  refine ⟨sessionId, run, session, runFound, ofTask, sessionFound, owned, fresh, ?_⟩
  split at ok
  next none =>
    refine .inl ⟨fun required => ?_, (pure_eq_ok.mp ok).symm⟩
    simp [RecordEffectProposalCommit.approvalMatches, required, none] at matched
  next draft some =>
    simp only [insertApprovalRequest, eq_ok, Bool.not_eq_true', Table.any_eq_false, decide_eq_false_iff_not] at ok
    obtain ⟨_, ⟨freshApproval, unique⟩, rfl⟩ := ok
    refine .inr ⟨draft, ?_, freshApproval, unique, rfl⟩
    cases decision : commit.decision with
    | requireApproval => rfl
    | allow | deny => simp [RecordEffectProposalCommit.approvalMatches, decision, some] at matched

theorem Store.loadPendingApproval_ok {ownership}
    (loaded : s.loadPendingApproval ownership approvalId = .ok approval) :
    ∃ effect session, s.approvals.get approvalId = some approval ∧
      s.effects.get approval.effectId = some effect ∧ s.sessions.get effect.sessionId = some session ∧
      approval.status = .pending ∧ effect.status = .awaitingApproval ∧
      ∀ owner ∈ ownership, session.ownedBy owner = true := by
  simp only [loadPendingApproval, eq_ok] at loaded
  obtain ⟨approval, approvalFound, effect, effectFound, session, sessionFound, _,
    ⟨pending, awaiting, owned⟩, rfl⟩ := loaded
  exact ⟨effect, session, approvalFound, effectFound, sessionFound, pending, awaiting, owned⟩

/-- The pending request of a waiting effect is decided, and the effect with it. -/
def Resolves (s s' : Store) (approvalId : ApprovalId) (approval : ApprovalRequest) (effect : Effect)
    (approvalStatus : ApprovalStatus) (status : EffectStatus) : Prop :=
  s.approvals.get approvalId = some approval ∧ approval.status = .pending ∧
    s.effects.get approval.effectId = some effect ∧ effect.status = .awaitingApproval ∧
    ∃ decidedBy resolvedAt revision updatedAt, s' = { s with
      approvals := s.approvals.put approvalId { approval with status := approvalStatus, decidedBy, resolvedAt },
      effects := s.effects.put approval.effectId { effect with status, revision, updatedAt } }

theorem resolve_ok {effect approvalStatus decidedBy resolved} (approvalFound : s.approvals.get approvalId = some approval)
    (effectFound : s.effects.get approval.effectId = some effect) (awaiting : effect.status = .awaitingApproval)
    (first : updateApproval approvalId approvalStatus decidedBy at_ s = .ok resolved)
    (last : updateEffect approval.effectId status at_ resolved = .ok s') :
    Resolves s s' approvalId approval effect approvalStatus status := by
  obtain ⟨stored, storedFound, pending, rfl⟩ := updateApproval_ok first
  obtain ⟨current, currentFound, _, rfl⟩ := updateEffect_ok last
  cases approvalFound.symm.trans storedFound
  cases effectFound.symm.trans currentFound
  exact ⟨approvalFound, pending, effectFound, awaiting, _, _, _, _, rfl⟩

theorem resolveApproval_ok {commit} (ok : resolveApproval commit s = .ok s') :
    s' = s ∨ ∃ approval effect session settled effectReceipts, s.sessions.get effect.sessionId = some session ∧
      session.ownedBy commit.ownership = true ∧ approval.subjectDigest = commit.expectedSubjectDigest ∧
      commit.decidedAt < approval.expiresAt ∧ Resolves s settled commit.approvalId approval effect
        commit.decision.approvalStatus commit.decision.effectStatus ∧ s' = { settled with effectReceipts } := by
  simp only [resolveApproval, eq_ok] at ok
  obtain ⟨_, _, ok⟩ := ok
  split at ok
  next =>
    simp only [eq_ok] at ok
    obtain ⟨_, _, rfl⟩ := ok
    exact .inl rfl
  next =>
    simp only [eq_ok] at ok
    obtain ⟨approval, loaded, _, digest, _, early, _, first, settled, last, rfl⟩ := ok
    obtain ⟨effect, session, approvalFound, effectFound, sessionFound, _, awaiting, owned⟩ :=
      Store.loadPendingApproval_ok loaded
    exact .inr ⟨approval, effect, session, settled, _, sessionFound, owned _ rfl, digest, early,
      resolve_ok approvalFound effectFound awaiting first last, rfl⟩

theorem expireApproval_ok {commit} (ok : expireApproval commit s = .ok s') :
    ∃ approval effect, Resolves s s' commit.approvalId approval effect .expired .denied := by
  simp only [expireApproval, eq_ok] at ok
  obtain ⟨approval, loaded, _, _, _, first, last⟩ := ok
  obtain ⟨effect, _, approvalFound, effectFound, _, _, awaiting, _⟩ := Store.loadPendingApproval_ok loaded
  exact ⟨approval, effect, resolve_ok approvalFound effectFound awaiting first last⟩

@[simp] theorem Store.effectIs_iff :
    s.effectIs effectId status = true ↔ ∃ effect, s.effects.get effectId = some effect ∧ effect.status = status := by
  cases found : s.effects.get effectId <;> simp [effectIs, found]

theorem Store.mem_undispatchedAgentEffects {taskId} :
    (approvalId, approval) ∈ s.undispatchedAgentEffects taskId ↔
      s.approvals.get approvalId = some approval ∧
      (∃ invocation, s.invocations.get approval.effectId = some invocation ∧ invocation.taskId = taskId) ∧
      (∃ effect, s.effects.get approval.effectId = some effect ∧
        (effect.status = .awaitingApproval ∨ effect.status = .authorized)) ∧
      ∀ attemptId attempt, s.attempts.get attemptId = some attempt → attempt.effectId ≠ approval.effectId := by
  simp only [undispatchedAgentEffects, Table.mem_select, Bool.decide_and, Bool.decide_or, Bool.decide_eq_true,
    Bool.and_eq_true, Bool.or_eq_true, effectIs_iff, Bool.not_eq_true', Table.any_eq_false,
    decide_eq_false_iff_not, Option.any_eq_true, decide_eq_true_eq]
  grind

theorem cancelUndispatchedAgentEffect_ok {taskId actor cancelledAt}
    (ok : cancelUndispatchedAgentEffect taskId actor cancelledAt s = .ok s') :
    s' = s ∨ ∃ approvalId approval effect, Resolves s s' approvalId approval effect .revoked .denied := by
  unfold cancelUndispatchedAgentEffect at ok
  split at ok
  next => exact .inl (pure_eq_ok.mp ok).symm
  next approvalId approval one =>
    simp only [eq_ok] at ok
    obtain ⟨effect, effectFound, _, _, ok⟩ := ok
    have listed : (approvalId, approval) ∈ s.undispatchedAgentEffects taskId := by simp [one]
    obtain ⟨approvalFound, _, ⟨_, sameEffect, stage⟩, _⟩ := Store.mem_undispatchedAgentEffects.mp listed
    cases effectFound.symm.trans sameEffect
    split at ok
    next awaiting =>
      obtain ⟨_, first, last⟩ := bind_eq_ok.mp ok
      exact .inr ⟨approvalId, approval, effect, resolve_ok approvalFound effectFound awaiting first last⟩
    next notAwaiting =>
      obtain ⟨_, same, last⟩ := bind_eq_ok.mp ok
      obtain rfl := pure_eq_ok.mp same
      obtain ⟨current, currentFound, edge, _⟩ := updateEffect_ok last
      cases effectFound.symm.trans currentFound
      simp [stage.resolve_left notAwaiting, Store.effectEdge] at edge
  next => cases ok

/-! ### Attempts -/

theorem Store.activeFence_iff {fence} :
    s.activeFence fence at_ = true ↔ ∃ lease run, s.heldLease fence = some lease ∧ lease.acquiredAt ≤ at_ ∧
      at_ < lease.expiresAt ∧ s.runningUnder fence = some run := by
  cases held : s.heldLease fence <;> cases running : s.runningUnder fence <;> simp [activeFence, held, running]

theorem Store.hasUnsettledAttempt_eq_false {fence} :
    s.hasUnsettledAttempt effectId fence = false ↔ ∀ attemptId attempt,
      s.attempts.get attemptId = some attempt → attempt.state.isUnsettled = true →
        attempt.effectId ≠ effectId ∧ ¬(attempt.preparedFence.leaseId = fence.leaseId ∧
          attempt.preparedFence.ownerId = fence.ownerId ∧
          attempt.preparedFence.fencingToken = fence.fencingToken) := by
  simp only [hasUnsettledAttempt, Table.any_eq_false, decide_eq_false_iff_not, not_and, not_or, ne_eq]

theorem Store.transitionEvidence_iff {fence revision} :
    s.transitionEvidence effectId attemptId fence revision state status = true ↔ ∃ attempt effect,
      s.attempts.get attemptId = some attempt ∧ s.effects.get effectId = some effect ∧
      attempt.effectId = effectId ∧ attempt.state = state ∧ attempt.preparedFence = fence ∧
      effect.runId = fence.runId ∧ effect.status = status ∧ effect.revision = revision := by
  cases attemptFound : s.attempts.get attemptId <;> cases effectFound : s.effects.get effectId <;>
    simp [transitionEvidence, attemptFound, effectFound, and_assoc]

/-- A running attempt ends with an outcome. -/
def EndsAttempt (s s' : Store) (attemptId : AttemptId) (outcome : EffectOutcome) (status : EffectStatus)
    (state : EffectAttemptState) : Prop :=
  ∃ attempt effect startedAt revision updatedAt, s.attempts.get attemptId = some attempt ∧
    s.effects.get outcome.effectId = some effect ∧ attempt.effectId = outcome.effectId ∧
    attempt.state = .running ∧ effect.status = .dispatching ∧ s' = { s with
      outcomes := s.outcomes.put (attemptId, 0) outcome,
      effects := s.effects.put outcome.effectId { effect with status, revision, updatedAt },
      attempts := s.attempts.put attemptId { attempt with state, startedAt } }

theorem settleAttempt_ok {outcome recorded settled} (first : insertEffectOutcome attemptId 0 outcome s = .ok recorded)
    (second : updateEffect outcome.effectId status at_ recorded = .ok settled)
    (last : updateAttempt attemptId state at_ settled = .ok s') : EndsAttempt s s' attemptId outcome status state := by
  obtain ⟨attempt, effect, attemptFound, effectFound, of, stage, rfl⟩ := insertEffectOutcome_ok first
  obtain ⟨current, currentFound, _, rfl⟩ := updateEffect_ok second
  obtain ⟨stored, startedAt, storedFound, rfl⟩ := updateAttempt_ok last
  cases effectFound.symm.trans currentFound
  cases attemptFound.symm.trans storedFound
  rcases stage with ⟨_, running, dispatching⟩ | ⟨impossible, _⟩
  · exact ⟨attempt, effect, startedAt, _, _, attemptFound, effectFound, of, running, dispatching, rfl⟩
  · cases impossible

theorem recordEffectAttemptOutcome_ok {commit} (ok : recordEffectAttemptOutcome commit s = .ok s') :
    s.activeFence commit.fence commit.completedAt = true ∧ ∃ outcome, outcome.kind = commit.outcome.kind ∧
      outcome.retryAuthorized = false ∧
      EndsAttempt s s' commit.attemptId outcome commit.outcome.effectStatus commit.outcome.attemptState := by
  simp only [recordEffectAttemptOutcome, eq_ok] at ok
  obtain ⟨_, _, _, _, _, active, _, _, _, first, _, second, last⟩ := ok
  exact ⟨active, _, rfl, rfl, settleAttempt_ok first second last⟩

/-! ### Recovery and reconciliation -/

theorem Store.interruptedEvidence_ok {evidence} (loaded : s.interruptedEvidence commit state status = .ok evidence) :
    s.attempts.get commit.attemptId = some evidence.attempt ∧
      s.effects.get commit.effectId = some evidence.effect ∧
      evidence.attempt.effectId = commit.effectId ∧ evidence.attempt.state = state ∧
      evidence.effect.status = status := by
  simp only [interruptedEvidence, eq_ok] at loaded
  obtain ⟨attempt, attemptFound, effect, effectFound, _, _, _, ⟨of, attemptState, effectStatus, _⟩, _, _, _, _,
    rfl⟩ := loaded
  exact ⟨attemptFound, effectFound, of, attemptState, effectStatus⟩

theorem Store.interruptedRecoveryEvidence_ok {found} (loaded : s.interruptedRecoveryEvidence commit = .ok found) :
    s.effects.get commit.effectId = some found.1.effect ∧
      found.2 = classifyRecovery .running found.1.effect.idempotencyClass found.1.effect.recoveryStrategy := by
  simp only [interruptedRecoveryEvidence, eq_ok] at loaded
  obtain ⟨evidence, evidenceFound, _, _, rfl⟩ := loaded
  obtain ⟨_, effectFound, _⟩ := interruptedEvidence_ok evidenceFound
  exact ⟨effectFound, rfl⟩

theorem settleInterrupted_ok {classification errorClass retryAuthorized found}
    (ok : settleInterrupted commit classification errorClass retryAuthorized status state found s = .ok s') :
    ∃ outcome, outcome.effectId = commit.effectId ∧ outcome.kind = .outcomeUnknown ∧
      outcome.retryAuthorized = retryAuthorized ∧ EndsAttempt s s' commit.attemptId outcome status state := by
  simp only [settleInterrupted, bind_eq_ok] at ok
  obtain ⟨_, _, _, first, _, second, last⟩ := ok
  exact ⟨_, rfl, rfl, rfl, settleAttempt_ok first second last⟩

theorem recoverInterruptedEffectTransaction_ok (ok : recoverInterruptedEffectTransaction commit s = .ok s') :
    ∃ found, settleInterrupted commit interruptedEffectOutcomeClassification interruptedEffectOutcomeErrorClass
      false .outcomeUnknown .outcomeUnknown found s = .ok s' := by
  simp only [recoverInterruptedEffectTransaction, eq_ok] at ok
  obtain ⟨found, _, _, _, settled⟩ := ok
  exact ⟨found, settled⟩

theorem recoverRetryableEffect_ok (ok : recoverRetryableEffect commit s = .ok s') :
    ∃ found, (∀ effect, s.effects.get commit.effectId = some effect →
        retryableIntent effect.idempotencyClass effect.recoveryStrategy = true) ∧
      settleInterrupted commit interruptedEffectRetryClassification interruptedEffectRetryErrorClass
        true .authorized .interruptedRetryable found s = .ok s' := by
  simp only [recoverRetryableEffect, eq_ok] at ok
  obtain ⟨found, loaded, _, retry, settled⟩ := ok
  obtain ⟨effectFound, disposition⟩ := Store.interruptedRecoveryEvidence_ok loaded
  refine ⟨found, fun effect stored => ?_, settled⟩
  cases effectFound.symm.trans stored
  rw [← classifyRecovery_running_isRetry, ← disposition]
  exact retry

theorem recoverInterruptedEffect_ok (ok : recoverInterruptedEffect commit s = .ok s') :
    s' = s ∨ recoverInterruptedEffectTransaction commit s = .ok s' := by
  unfold recoverInterruptedEffect at ok
  split at ok
  next => exact .inl (Except.ok.inj ok).symm
  next => exact .inr ok

theorem reconcileEffectOutcome_ok {commit} (ok : reconcileEffectOutcome commit s = .ok s') :
    s' = s ∨ ∃ effect attempt outcome revision updatedAt effectReceipts, s.effects.get commit.effectId = some effect ∧
      s.attempts.get commit.attemptId = some attempt ∧ attempt.effectId = commit.effectId ∧
      effect.status = .outcomeUnknown ∧ attempt.state = .outcomeUnknown ∧ s' = { s with
        outcomes := s.outcomes.put (commit.attemptId, 1) outcome,
        effects := s.effects.put commit.effectId
          { effect with status := commit.outcome.effectStatus, revision, updatedAt }, effectReceipts } := by
  simp only [reconcileEffectOutcome, eq_ok] at ok
  obtain ⟨_, _, _, _, ok⟩ := ok
  split at ok
  next =>
    simp only [eq_ok] at ok
    obtain ⟨_, _, rfl⟩ := ok
    exact .inl rfl
  next =>
    simp only [Store.authorizeEffectOwner, eq_ok] at ok
    obtain ⟨_, ⟨effect, effectFound, _, _, _, _, rfl⟩, attempt, attemptFound, _, ⟨unknown, _, of, attemptUnknown, _⟩,
      _, _, _, first, _, last, rfl⟩ := ok
    obtain ⟨_, _, _, _, _, _, rfl⟩ := insertEffectOutcome_ok first
    obtain ⟨current, currentFound, _, rfl⟩ := updateEffect_ok last
    cases effectFound.symm.trans currentFound
    exact .inr ⟨effect, attempt, _, _, _, _, effectFound, attemptFound, of, unknown, attemptUnknown, rfl⟩

end Mealy
