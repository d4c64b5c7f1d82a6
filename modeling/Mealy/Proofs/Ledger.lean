import Mealy.Store.Frames

/-! The moves of the effect ledger. Every operation of the store either leaves the
ledger alone or makes exactly one of the moves below, so that the history of an effect
is a path along the edges of its lifecycle. -/

namespace Mealy
open Relational Transaction

variable {s s' : Store} {op : Operation}

/-- How a dispatched attempt may be settled: the status of the effect, the state of
the attempt and the outcome belong together. -/
inductive Settlement (effect : Effect) : EffectStatus → EffectAttemptState → EffectOutcome → Prop where
  | succeeded {outcome} : Settlement effect .succeeded .succeeded outcome
  | failed {outcome} : Settlement effect .failed .failed outcome
  | unknown {outcome} (kind : outcome.kind = .outcomeUnknown)
      (final : outcome.retryAuthorized = false) : Settlement effect .outcomeUnknown .outcomeUnknown outcome
  | retryable {outcome} (safe : retryableIntent effect.idempotencyClass effect.recoveryStrategy = true) :
      Settlement effect .authorized .interruptedRetryable outcome

def ApprovedBy (op : Operation) (s : Store) (approvalId : ApprovalId) (approval : ApprovalRequest)
    (effect : Effect) : Prop :=
  ∃ commit session, op = .resolveApproval commit ∧ commit.decision = .approve ∧
    commit.approvalId = approvalId ∧ approval.subjectDigest = commit.expectedSubjectDigest ∧
    commit.decidedAt < approval.expiresAt ∧ s.sessions.get effect.sessionId = some session ∧
    session.ownedBy commit.ownership = true

inductive LedgerMove (op : Operation) (s s' : Store) : Prop where
  | same (unchanged : SameLedger s s')
  | proposed {effectId effect run session}
      (fresh : s.effects.get effectId = none) (initial : effect.status = effect.decision.effectStatus)
      (ofRun : s.runs.get effect.runId = some run) (ofTask : run.taskId = effect.taskId)
      (ofSession : s.sessions.get effect.sessionId = some session) (owned : session.ownedBy effect.ownership = true)
      (effects : s'.effects = s.effects.put effectId effect)
      (approvals : (effect.decision ≠ .requireApproval ∧ s'.approvals = s.approvals) ∨
        ∃ approvalId approval, effect.decision = .requireApproval ∧ s.approvals.get approvalId = none ∧
          (∀ otherId other, s.approvals.get otherId = some other → other.effectId ≠ effectId) ∧
          approval.effectId = effectId ∧ approval.status = .pending ∧
          s'.approvals = s.approvals.put approvalId approval)
      (attempts : s'.attempts = s.attempts) (outcomes : s'.outcomes = s.outcomes)
  | resolved {approvalId approval approval' effect status revision updatedAt}
      (requested : s.approvals.get approvalId = some approval) (pending : approval.status = .pending)
      (found : s.effects.get approval.effectId = some effect) (awaiting : effect.status = .awaitingApproval)
      (kept : approval'.effectId = approval.effectId)
      (decided : (approval'.status = .approved ∧ status = .authorized ∧ ApprovedBy op s approvalId approval effect) ∨
        (approval'.status ≠ .approved ∧ approval'.status ≠ .pending ∧ status = .denied))
      (effects : s'.effects = s.effects.put approval.effectId { effect with status, revision, updatedAt })
      (approvals : s'.approvals = s.approvals.put approvalId approval')
      (attempts : s'.attempts = s.attempts) (outcomes : s'.outcomes = s.outcomes)
  | prepared {effectId effect run attemptId attempt revision updatedAt} (found : s.effects.get effectId = some effect)
      (authorized : effect.status = .authorized) (ofRun : s.runs.get effect.runId = some run)
      (running : run.status = .running) (fresh : s.attempts.get attemptId = none)
      (alone : ∀ otherId other, s.attempts.get otherId = some other → other.effectId = effectId →
        other.state.isUnsettled = false)
      (of : attempt.effectId = effectId) (state : attempt.state = .prepared)
      (effects : s'.effects = s.effects.put effectId { effect with status := .authorized, revision, updatedAt })
      (approvals : s'.approvals = s.approvals) (attempts : s'.attempts = s.attempts.put attemptId attempt)
      (outcomes : s'.outcomes = s.outcomes) (runs : s'.runs = s.runs)
  | dispatched {effectId effect run attemptId attempt startedAt revision updatedAt}
      (found : s.effects.get effectId = some effect) (authorized : effect.status = .authorized)
      (ofRun : s.runs.get effect.runId = some run) (running : run.status = .running)
      (stored : s.attempts.get attemptId = some attempt) (of : attempt.effectId = effectId)
      (state : attempt.state = .prepared)
      (effects : s'.effects = s.effects.put effectId { effect with status := .dispatching, revision, updatedAt })
      (approvals : s'.approvals = s.approvals)
      (attempts : s'.attempts = s.attempts.put attemptId { attempt with state := .running, startedAt })
      (outcomes : s'.outcomes = s.outcomes) (runs : s'.runs = s.runs)
  | settled {effectId effect attemptId attempt outcome startedAt status state revision updatedAt} (found : s.effects.get effectId = some effect)
      (dispatching : effect.status = .dispatching) (stored : s.attempts.get attemptId = some attempt)
      (of : attempt.effectId = effectId) (running : attempt.state = .running)
      (settlement : Settlement effect status state outcome) (outcomeOf : outcome.effectId = effectId)
      (effects : s'.effects = s.effects.put effectId { effect with status, revision, updatedAt })
      (approvals : s'.approvals = s.approvals)
      (attempts : s'.attempts = s.attempts.put attemptId { attempt with state, startedAt })
      (outcomes : s'.outcomes = s.outcomes.put (attemptId, 0) outcome)
  | undispatched {effectId effect attemptId attempt startedAt revision updatedAt}
      (found : s.effects.get effectId = some effect) (authorized : effect.status = .authorized)
      (stored : s.attempts.get attemptId = some attempt) (of : attempt.effectId = effectId)
      (state : attempt.state = .prepared)
      (effects : s'.effects = s.effects.put effectId { effect with status := .authorized, revision, updatedAt })
      (approvals : s'.approvals = s.approvals)
      (attempts : s'.attempts = s.attempts.put attemptId { attempt with state := .interruptedUndispatched, startedAt })
      (outcomes : s'.outcomes = s.outcomes)
  | reconciled {commit effect attempt outcome revision updatedAt} (by_ : op = .reconcileEffectOutcome commit)
      (found : s.effects.get commit.effectId = some effect) (unknown : effect.status = .outcomeUnknown)
      (stored : s.attempts.get commit.attemptId = some attempt) (of : attempt.effectId = commit.effectId)
      (open_ : attempt.state = .outcomeUnknown) (effects : s'.effects = s.effects.put commit.effectId
        { effect with status := commit.outcome.effectStatus, revision, updatedAt })
      (approvals : s'.approvals = s.approvals) (attempts : s'.attempts = s.attempts)
      (outcomes : s'.outcomes = s.outcomes.put (commit.attemptId, 1) outcome)

/-! ### Every operation makes one move -/

theorem endsAttempt_moves {t t' attemptId outcome status state} (before : SameLedger s t)
    (ends : EndsAttempt t t' attemptId outcome status state) (after : SameLedger t' s')
    (settlement : ∀ effect, t.effects.get outcome.effectId = some effect → Settlement effect status state outcome) :
    LedgerMove op s s' := by
  obtain ⟨e, p, a, o⟩ := before
  obtain ⟨e', p', a', o'⟩ := after
  obtain ⟨attempt, effect, startedAt, _, _, stored, found, of, running, dispatching, rfl⟩ := ends
  have settled := settlement effect found
  rw [a] at stored
  rw [e] at found
  exact .settled found dispatching stored of running settled rfl (by rw [e', ← e]) (p'.trans p) (by rw [a', ← a])
    (by rw [o', ← o])

theorem resolves_moves {t t' approvalId approval effect approvalStatus status} (before : SameLedger s t)
    (resolves : Resolves t t' approvalId approval effect approvalStatus status) (after : SameLedger t' s')
    (decided : (approvalStatus = .approved ∧ status = .authorized ∧ ApprovedBy op s approvalId approval effect) ∨
      (approvalStatus ≠ .approved ∧ approvalStatus ≠ .pending ∧ status = .denied)) : LedgerMove op s s' := by
  obtain ⟨e, p, a, o⟩ := before
  obtain ⟨e', p', a', o'⟩ := after
  obtain ⟨requested, pending, found, awaiting, _, _, _, _, rfl⟩ := resolves
  rw [p] at requested
  rw [e] at found
  refine .resolved requested pending found awaiting ?_ ?_ (by rw [e', ← e]) (by rw [p', ← p]) (a'.trans a) (o'.trans o)
  · rfl
  · exact decided

theorem recoversEffect_moves {t t' disposition}
    (before : SameLedger s t) (recovers : RecoversEffect t disposition t') (after : SameLedger t' s') :
    LedgerMove op s s' := by
  cases recovers with
  | nothing | unknown => exact .same (before.trans after)
  | undispatched ok =>
    simp only [recoverUndispatchedEffect, bind_eq_ok] at ok
    obtain ⟨evidence, loaded, _, first, last⟩ := ok
    obtain ⟨attemptFound, effectFound, of, prepared, authorized⟩ := Store.interruptedEvidence_ok loaded
    obtain ⟨stored, startedAt, storedFound, rfl⟩ := updateAttempt_ok first
    obtain ⟨current, currentFound, _, rfl⟩ := updateEffect_ok last
    cases attemptFound.symm.trans storedFound
    cases effectFound.symm.trans currentFound
    obtain ⟨e, p, a, o⟩ := before
    obtain ⟨e', p', a', o'⟩ := after
    rw [a] at attemptFound
    rw [e] at effectFound
    exact .undispatched effectFound authorized attemptFound of prepared (by rw [e', ← e]) (p'.trans p) (by rw [a', ← a])
      (o'.trans o)
  | retryable ok =>
    obtain ⟨_, safe, settled⟩ := recoverRetryableEffect_ok ok
    obtain ⟨outcome, own, _, _, ends⟩ := settleInterrupted_ok settled
    exact endsAttempt_moves before ends after fun effect found => .retryable (safe effect (own ▸ found))
  | interrupted ok =>
    obtain ⟨_, settled⟩ := recoverInterruptedEffectTransaction_ok ok
    obtain ⟨outcome, _, kind, final, ends⟩ := settleInterrupted_ok settled
    exact endsAttempt_moves before ends after fun _ _ => .unknown kind final

theorem cancelUndispatched_moves {taskId actor at_ t t'} (before : SameLedger s t)
    (ok : cancelUndispatchedAgentEffect taskId actor at_ t = .ok t') (after : SameLedger t' s') :
    LedgerMove op s s' := by
  rcases cancelUndispatchedAgentEffect_ok ok with rfl | ⟨_, _, _, resolves⟩
  · exact .same (before.trans after)
  · exact resolves_moves before resolves after (.inr ⟨nofun, nofun, rfl⟩)

theorem recoverLease_moves {commit t}
    (ok : recoverLease commit s = .ok t) (after : SameLedger t s') : LedgerMove op s s' := by
  obtain ⟨lease, recovered, settled, _, disposition, run, tasks, _, _, boundary, _, _, recovers, _, _, _, _, rfl⟩ :=
    recoverLease_ok ok
  have before : SameLedger s { recovered with
      leases := recovered.leases.put commit.leaseId
        { lease with state := .expired, releasedAt := some commit.now } } := by
    obtain ⟨_, rfl⟩ := recoverIncompleteAgentBoundary_writes boundary
    exact ⟨rfl, rfl, rfl, rfl⟩
  exact recoversEffect_moves before recovers ⟨after.effects, after.approvals, after.attempts, after.outcomes⟩

theorem requestTaskCancellation_moves {commit}
    (ok : requestTaskCancellation commit s = .ok s') : LedgerMove op s s' := by
  rcases requestTaskCancellation_ok ok with ⟨rfl, _⟩ | ⟨row, budgets, active, propagated, denied, ready, _, _, _, _,
    _, _, child, cancelled, requeued, rfl⟩
  · exact .same (.refl _)
  · have before : SameLedger s propagated := by
      obtain ⟨_, rfl⟩ := cancelActiveChild_writes child
      exact ⟨rfl, rfl, rfl, rfl⟩
    have after : SameLedger denied ready := by
      rcases requeued with ⟨_, _, requeued⟩ | ⟨_, rfl⟩
      · obtain ⟨_, _, _, rfl⟩ := requeueCancelled_ok requeued
        exact ⟨rfl, rfl, rfl, rfl⟩
      · exact .refl _
    exact cancelUndispatched_moves before cancelled ⟨after.effects, after.approvals, after.attempts, after.outcomes⟩

theorem controlTask_moves {commit} (ok : controlTask commit s = .ok s') : LedgerMove op s s' := by
  obtain ⟨_, fenced, _, ⟨_, paused, stopped⟩ | ⟨_, _, _, rfl, resumed⟩⟩ := controlTask_ok ok
  · obtain ⟨_, _, rfl⟩ := controlledTo_ok paused
    rcases stopped with ⟨_, rfl⟩ | ⟨_, _, _, _, _, recovered⟩
    · exact .same ⟨rfl, rfl, rfl, rfl⟩
    · exact recoverLease_moves recovered ⟨rfl, rfl, rfl, rfl⟩
  · obtain ⟨_, _, rfl⟩ := controlledTo_ok resumed
    exact .same ⟨rfl, rfl, rfl, rfl⟩

theorem recordEffectProposal_moves {commit}
    (ok : recordEffectProposal commit s = .ok s') : LedgerMove op s s' := by
  obtain ⟨sessionId, run, session, ofRun, ofTask, ofSession, owned, fresh, stage⟩ := recordEffectProposal_ok ok
  rcases stage with ⟨unrequired, rfl⟩ | ⟨draft, required, freshApproval, unique, rfl⟩
  · exact .proposed fresh rfl ofRun ofTask ofSession owned rfl (.inl ⟨unrequired, rfl⟩) rfl rfl
  · exact .proposed fresh rfl ofRun ofTask ofSession owned rfl
      (.inr ⟨draft.approvalId, _, required, freshApproval, unique, rfl, rfl, rfl⟩) rfl rfl

theorem recordAgentEffectProposal_moves {commit}
    (ok : recordAgentEffectProposal commit s = .ok s') : LedgerMove op s s' := by
  obtain ⟨run, _, _, _, sessionId, owning, draft, running, _, _, _, ofRun, ofTask, required, owningFound, owned,
    fresh, freshApproval, unique, rfl⟩ := recordAgentEffectProposal_ok ok
  have found : s.runs.get commit.proposal.runId = some run := by
    rw [ofRun]
    exact (Store.runningUnder_eq_some.mp running).1
  exact .proposed fresh rfl found ofTask.symm owningFound owned rfl
    (.inr ⟨draft.approvalId, _, required, freshApproval, unique, rfl, rfl, rfl⟩) rfl rfl

theorem resolveApproval_moves {commit}
    (ok : resolveApproval commit s = .ok s') : LedgerMove (.resolveApproval commit) s s' := by
  rcases resolveApproval_ok ok with rfl | ⟨approval, effect, session, _, _, ofSession, owned, digest, early, resolves, rfl⟩
  · exact .same (.refl _)
  · refine resolves_moves (.refl _) resolves ⟨rfl, rfl, rfl, rfl⟩ ?_
    cases decision : commit.decision with
    | approve => exact .inl ⟨rfl, rfl, commit, session, rfl, decision, rfl, digest, early, ofSession, owned⟩
    | deny => exact .inr ⟨nofun, nofun, rfl⟩

theorem prepareEffectAttempt_moves {commit} (ok : prepareEffectAttempt commit s = .ok s') : LedgerMove op s s' := by
  simp only [prepareEffectAttempt, eq_ok, Bool.not_eq_true'] at ok
  obtain ⟨_, active, effect, found, _, ⟨ofRun, authorized, _⟩, _, ⟨fresh, alone⟩, last⟩ := ok
  obtain ⟨current, currentFound, _, rfl⟩ := updateEffect_ok last
  cases found.symm.trans currentFound
  obtain ⟨_, run, _, _, _, running⟩ := Store.activeFence_iff.mp active
  obtain ⟨runFound, running, _⟩ := Store.runningUnder_eq_some.mp running
  rw [← ofRun] at runFound
  refine .prepared found authorized runFound running fresh (fun otherId other stored of => ?_) ?_ ?_ rfl rfl rfl rfl rfl
  · have settled := Store.hasUnsettledAttempt_eq_false.mp alone otherId other stored
    exact Bool.eq_false_of_not_eq_true fun unsettled => (settled unsettled).1 of
  · rfl
  · rfl

theorem markEffectAttemptRunning_moves {commit} (ok : markEffectAttemptRunning commit s = .ok s') : LedgerMove op s s' := by
  simp only [markEffectAttemptRunning, eq_ok, Store.transitionEvidence_iff] at ok
  obtain ⟨_, active, _, ⟨attempt, effect, stored, found, of, prepared, _, ofRun, authorized, _⟩, _, first, last⟩ := ok
  obtain ⟨current, currentFound, _, rfl⟩ := updateEffect_ok first
  obtain ⟨held, startedAt, heldFound, rfl⟩ := updateAttempt_ok last
  cases found.symm.trans currentFound
  cases stored.symm.trans heldFound
  obtain ⟨_, run, _, _, _, running⟩ := Store.activeFence_iff.mp active
  obtain ⟨runFound, running, _⟩ := Store.runningUnder_eq_some.mp running
  rw [← ofRun] at runFound
  exact .dispatched found authorized runFound running stored of prepared rfl rfl rfl rfl rfl

theorem ledger_move (ok : op.transaction s = .ok s') : LedgerMove op s s' := by
  cases op with
  | recordEffectProposal commit => exact recordEffectProposal_moves ok
  | recordAgentEffectProposal commit => exact recordAgentEffectProposal_moves ok
  | resolveApproval commit => exact resolveApproval_moves ok
  | expireApproval commit =>
    obtain ⟨_, _, resolves⟩ := expireApproval_ok ok
    exact resolves_moves (.refl _) resolves (.refl _) (.inr ⟨nofun, nofun, rfl⟩)
  | prepareEffectAttempt commit => exact prepareEffectAttempt_moves ok
  | markEffectAttemptRunning commit => exact markEffectAttemptRunning_moves ok
  | recordEffectAttemptOutcome commit =>
    obtain ⟨_, _, kind, final, ends⟩ := recordEffectAttemptOutcome_ok ok
    refine endsAttempt_moves (.refl _) ends (.refl _) fun _ _ => ?_
    cases outcome : commit.outcome with
    | succeeded => exact .succeeded
    | failed => exact .failed
    | outcomeUnknown => exact .unknown (kind.trans (by rw [outcome]; rfl)) final
  | recoverInterruptedEffect commit =>
    obtain rfl | recovered := recoverInterruptedEffect_ok ok
    · exact .same (.refl _)
    · exact recoversEffect_moves (.refl _) (.interrupted recovered) (.refl _)
  | recoverUndispatchedEffect commit => exact recoversEffect_moves (.refl _) (.undispatched ok) (.refl _)
  | recoverRetryableEffect commit => exact recoversEffect_moves (.refl _) (.retryable ok) (.refl _)
  | reconcileEffectOutcome commit =>
    obtain rfl | ⟨effect, attempt, _, _, _, _, found, stored, of, unknown, open_, rfl⟩ := reconcileEffectOutcome_ok ok
    · exact .same (.refl _)
    · exact .reconciled rfl found unknown stored of open_ rfl rfl rfl rfl
  | recoverLease commit => exact recoverLease_moves ok (.refl _)
  | requestTaskCancellation commit => exact requestTaskCancellation_moves ok
  | controlTask commit => exact controlTask_moves ok
  | cancelUndispatchedAgentEffect taskId actor at_ => exact cancelUndispatched_moves (.refl _) ok (.refl _)
  | _ =>
    obtain ⟨_, rfl⟩ := Operation.frame ok
    exact .same ⟨rfl, rfl, rfl, rfl⟩

end Mealy
