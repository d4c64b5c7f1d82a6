import Mealy.Proofs.Leases
import Mealy.Proofs.Ledger

/-! The invariant of the effect ledger and the safety of every effect's history: who may
authorize it, how many attempts may be open, how often it is dispatched and how it
leaves an unknown outcome. -/

namespace Mealy
open Relational Transaction

variable {s s' : Store} {op : Operation} {effectId : EffectId} {effect : Effect} {status : EffectStatus}

theorem EffectReconciliationOutcome.effectStatus_isTerminal (outcome : EffectReconciliationOutcome) :
    outcome.effectStatus.isTerminal = true := by
  cases outcome <;> rfl

theorem PolicyDecision.effectStatus_cases (decision : PolicyDecision) :
    (decision = .allow ∧ decision.effectStatus = .authorized) ∨
      (decision = .requireApproval ∧ decision.effectStatus = .awaitingApproval) ∨
      (decision = .deny ∧ decision.effectStatus = .denied) := by
  cases decision <;> decide

/-- Attempts against their effects: an open attempt pins the status of its effect, and
at most one attempt of an effect is open. -/
structure AttemptsValid (s : Store) : Prop where
  effect : ∀ attemptId attempt, s.attempts.get attemptId = some attempt →
    ∃ effect, s.effects.get attempt.effectId = some effect ∧
      (attempt.state = .prepared → effect.status = .authorized) ∧
      (attempt.state = .running → effect.status = .dispatching) ∧
      (attempt.state = .outcomeUnknown → effect.status = .outcomeUnknown ∨ effect.status.isTerminal = true)
  unique : ∀ firstId secondId first second, s.attempts.get firstId = some first →
    s.attempts.get secondId = some second → first.effectId = second.effectId →
    first.state.isUnsettled = true → second.state.isUnsettled = true → firstId = secondId

theorem attemptsValid_move (valid : AttemptsValid s) (move : LedgerMove op s s') :
    AttemptsValid s' := by
  obtain ⟨effect, unique⟩ := valid
  cases move with
  | same unchanged =>
    obtain ⟨e, _, a, _⟩ := unchanged
    rw [← e, ← a] at effect
    rw [← a] at unique
    exact ⟨effect, unique⟩
  | proposed fresh initial _ _ _ _ effects _ attempts _ =>
    constructor
    · grind [Table.get_put]
    · grind [Table.get_put]
  | resolved requested pending found awaiting _ decided effects approvals attempts _ =>
    constructor
    · grind [Table.get_put, EffectStatus.isTerminal]
    · grind [Table.get_put]
  | prepared found authorized _ _ fresh alone of state effects _ attempts _ =>
    constructor
    · grind [Table.get_put, EffectStatus.isTerminal]
    · grind [Table.get_put, EffectAttemptState.isUnsettled]
  | dispatched found authorized _ _ stored of state effects _ attempts _ =>
    constructor
    · grind [Table.get_put, EffectStatus.isTerminal, EffectAttemptState.isUnsettled]
    · grind [Table.get_put, EffectAttemptState.isUnsettled]
  | settled found dispatching stored of running settlement _ effects _ attempts _ =>
    constructor
    · cases settlement <;> grind [Table.get_put, EffectStatus.isTerminal, EffectAttemptState.isUnsettled]
    · cases settlement <;> grind [Table.get_put, EffectAttemptState.isUnsettled]
  | undispatched found authorized stored of state effects _ attempts _ =>
    constructor
    · grind [Table.get_put, EffectStatus.isTerminal, EffectAttemptState.isUnsettled]
    · grind [Table.get_put, EffectAttemptState.isUnsettled]
  | reconciled by_ found unknown stored of open_ effects _ attempts _ =>
    constructor
    · grind [Table.get_put, EffectStatus.isTerminal, EffectReconciliationOutcome.effectStatus_isTerminal]
    · grind [Table.get_put]

/-- Outcomes against their attempts: an open attempt has none, and only an attempt of
unknown outcome has a second one. -/
structure OutcomesValid (s : Store) : Prop where
  attempt : ∀ attemptId sequence outcome, s.outcomes.get (attemptId, sequence) = some outcome →
    ∃ attempt, s.attempts.get attemptId = some attempt ∧ attempt.state ≠ .prepared ∧ attempt.state ≠ .running ∧
      (sequence ≠ 0 → ∃ effect, s.effects.get attempt.effectId = some effect ∧ effect.status.isTerminal = true)
  unknown : ∀ effectId effect, s.effects.get effectId = some effect → effect.status = .outcomeUnknown →
    ∃ attemptId attempt outcome, s.attempts.get attemptId = some attempt ∧ attempt.effectId = effectId ∧
      attempt.state = .outcomeUnknown ∧ s.outcomes.get (attemptId, 0) = some outcome ∧
      outcome.effectId = effectId ∧ outcome.kind = .outcomeUnknown ∧ outcome.retryAuthorized = false

theorem outcomesValid_move (attempts : AttemptsValid s) (valid : OutcomesValid s)
    (move : LedgerMove op s s') : OutcomesValid s' := by
  obtain ⟨effect, unique⟩ := attempts
  obtain ⟨attempt, unknown⟩ := valid
  cases move with
  | same unchanged =>
    obtain ⟨e, _, a, o⟩ := unchanged
    rw [← e, ← a, ← o] at attempt unknown
    exact ⟨attempt, unknown⟩
  | proposed fresh initial _ _ _ _ effects _ attempts outcomes =>
    constructor
    · grind [Table.get_put]
    · grind [Table.get_put, PolicyDecision.effectStatus_cases]
  | resolved requested pending found awaiting _ decided effects approvals attempts outcomes =>
    constructor
    · grind [Table.get_put, EffectStatus.isTerminal]
    · grind [Table.get_put]
  | prepared found authorized _ _ fresh alone of state effects _ attempts outcomes =>
    constructor
    · grind [Table.get_put, EffectStatus.isTerminal]
    · grind [Table.get_put]
  | dispatched found authorized _ _ stored of state effects _ attempts outcomes =>
    constructor
    · grind [Table.get_put, EffectStatus.isTerminal]
    · grind [Table.get_put]
  | @settled effectId _ attemptId _ outcome _ _ _ _ _ found dispatching stored of running settlement outcomeOf effects
      _ attempts outcomes =>
    refine ⟨by cases settlement <;> grind [Table.get_put, EffectStatus.isTerminal], fun otherId other otherFound open_ => ?_⟩
    rw [effects, Table.get_put] at otherFound
    rw [attempts, outcomes]
    split at otherFound
    next same =>
      cases otherFound
      cases settlement with
      | unknown kind final =>
        exact ⟨attemptId, _, outcome, Table.get_put_self .., of.trans same.symm, rfl, Table.get_put_self ..,
          outcomeOf.trans same.symm, kind, final⟩
      | succeeded | failed | retryable => cases open_
    next different =>
      -- The attempt of another effect is another attempt.
      obtain ⟨id, attempt, first, attemptFound, ofOther, rest⟩ := unknown otherId other otherFound open_
      have apart : id ≠ attemptId := by grind
      refine ⟨id, attempt, first, ?_, ofOther, rest.1, ?_, rest.2.2⟩
      · rw [Table.get_put_ne _ _ apart, attemptFound]
      · rw [Table.get_put_ne _ _ (by simp [apart]), rest.2.1]
  | undispatched found authorized stored of state effects _ attempts outcomes =>
    constructor
    · grind [Table.get_put, EffectStatus.isTerminal]
    · grind [Table.get_put]
  | reconciled by_ found isUnknown stored of open_ effects _ attempts outcomes =>
    constructor
    · grind [Table.get_put, EffectStatus.isTerminal, EffectReconciliationOutcome.effectStatus_isTerminal]
    · grind [Table.get_put, EffectStatus.isTerminal, EffectReconciliationOutcome.effectStatus_isTerminal]

def Store.Requested (s : Store) (effectId : EffectId) : Prop :=
  ∃ approvalId approval, s.approvals.get approvalId = some approval ∧ approval.effectId = effectId

/-- Approval requests against their effects: one request for every effect that requires
approval, pending exactly while the effect awaits it. -/
structure ApprovalsValid (s : Store) : Prop where
  effect : ∀ approvalId approval, s.approvals.get approvalId = some approval →
    ∃ effect, s.effects.get approval.effectId = some effect ∧ effect.decision = .requireApproval ∧
      (approval.status = .pending ↔ effect.status = .awaitingApproval) ∧
      (approval.status ≠ .pending → approval.status ≠ .approved → effect.status = .denied)
  unique : ∀ firstId secondId first second, s.approvals.get firstId = some first →
    s.approvals.get secondId = some second → first.effectId = second.effectId → firstId = secondId
  required : ∀ effectId effect, s.effects.get effectId = some effect → effect.decision = .requireApproval →
    s.Requested effectId
  decided : ∀ effectId effect, s.effects.get effectId = some effect → effect.status ≠ .proposed

theorem requests_kept {approvalId approval} (approvals : s'.approvals = s.approvals.put approvalId approval)
    (stays : ∀ before, s.approvals.get approvalId = some before → approval.effectId = before.effectId)
    (effectId) (requested : s.Requested effectId) : s'.Requested effectId := by
  obtain ⟨id, request, found, of⟩ := requested
  by_cases same : id = approvalId
  · refine ⟨id, approval, by rw [approvals, same, Table.get_put_self], ?_⟩
    rw [stays request (same ▸ found), of]
  · exact ⟨id, request, by rw [approvals, Table.get_put_ne _ _ same, found], of⟩

theorem approvalsValid_move (valid : ApprovalsValid s) (move : LedgerMove op s s') :
    ApprovalsValid s' := by
  obtain ⟨effect, unique, required, decided⟩ := valid
  have unchanged (approvals : s'.approvals = s.approvals) (effectId : EffectId) (requested : s.Requested effectId) :
      s'.Requested effectId := by
    rwa [Store.Requested, approvals]
  cases move with
  | same untouched =>
    obtain ⟨e, p, _, _⟩ := untouched
    constructor <;> grind
  | proposed fresh initial _ _ _ _ effects stage attempts outcomes =>
    rcases stage with ⟨unrequired, approvals⟩ | ⟨approvalId, approval, needed, freshApproval, alone, of, pending,
      approvals⟩
    · constructor <;> grind [Table.get_put, PolicyDecision.effectStatus_cases]
    · have requests := requests_kept approvals (by simp [freshApproval])
      have requested : s'.Requested approval.effectId :=
        ⟨approvalId, approval, by rw [approvals, Table.get_put_self], rfl⟩
      constructor <;> grind [Table.get_put, PolicyDecision.effectStatus_cases]
  | resolved requested pending found awaiting kept outcome effects approvals =>
    have requests := requests_kept approvals (by simp [requested, kept])
    constructor <;> grind [Table.get_put]
  | prepared found authorized _ _ fresh alone of state effects approvals =>
    constructor <;> grind [Table.get_put]
  | dispatched found authorized _ _ stored of state effects approvals =>
    constructor <;> grind [Table.get_put]
  | settled found dispatching stored of running settlement outcomeOf effects approvals =>
    cases settlement <;> constructor <;> grind [Table.get_put]
  | undispatched found authorized stored of state effects approvals =>
    constructor <;> grind [Table.get_put]
  | @reconciled commit _ _ _ _ _ by_ found isUnknown stored of open_ effects approvals =>
    have ended := commit.outcome.effectStatus_isTerminal
    constructor <;> grind [Table.get_put, EffectStatus.isTerminal]

/-- Every effect belongs to a session of its owner. -/
def EffectsOwned (s : Store) : Prop :=
  ∀ effectId effect, s.effects.get effectId = some effect →
    ∃ session, s.sessions.get effect.sessionId = some session ∧ session.ownedBy effect.ownership = true

/-! ### The history of one effect -/

/-- The parts of an effect that are never rewritten. -/
def Effect.SameIntent (effect effect' : Effect) : Prop :=
  effect'.runId = effect.runId ∧ effect'.taskId = effect.taskId ∧ effect'.sessionId = effect.sessionId ∧
    effect'.ownership = effect.ownership ∧ effect'.idempotencyClass = effect.idempotencyClass ∧
    effect'.recoveryStrategy = effect.recoveryStrategy ∧ effect'.decision = effect.decision

inductive EffectEdge (op : Operation) (s : Store) (effectId : EffectId) (effect : Effect) : EffectStatus → Prop where
  | stay : EffectEdge op s effectId effect effect.status
  | approve {approvalId approval} (awaiting : effect.status = .awaitingApproval)
      (requested : s.approvals.get approvalId = some approval) (of : approval.effectId = effectId)
      (approved : ApprovedBy op s approvalId approval effect) : EffectEdge op s effectId effect .authorized
  | deny (awaiting : effect.status = .awaitingApproval) : EffectEdge op s effectId effect .denied
  | dispatch (authorized : effect.status = .authorized) : EffectEdge op s effectId effect .dispatching
  | settle {status state outcome}
      (dispatching : effect.status = .dispatching) (settlement : Settlement effect status state outcome) :
      EffectEdge op s effectId effect status
  | reconcile {commit} (by_ : op = .reconcileEffectOutcome commit)
      (same : commit.effectId = effectId) (unknown : effect.status = .outcomeUnknown) :
      EffectEdge op s effectId effect commit.outcome.effectStatus

theorem effect_edge (ok : op.transaction s = .ok s') (found : s.effects.get effectId = some effect) :
    ∃ effect', s'.effects.get effectId = some effect' ∧ effect.SameIntent effect' ∧
      EffectEdge op s effectId effect effect'.status := by
  have untouched (same : s'.effects.get effectId = s.effects.get effectId) :
      ∃ effect', s'.effects.get effectId = some effect' ∧ effect.SameIntent effect' ∧
        EffectEdge op s effectId effect effect'.status :=
    ⟨effect, by rw [same, found], ⟨rfl, rfl, rfl, rfl, rfl, rfl, rfl⟩, .stay⟩
  have written {otherId : EffectId} {other : Effect} {status : EffectStatus} {revision : Nat} {updatedAt : Millis}
      (otherFound : s.effects.get otherId = some other)
      (effects : s'.effects = s.effects.put otherId { other with status, revision, updatedAt })
      (edge : otherId = effectId → EffectEdge op s effectId other status) :
      ∃ effect', s'.effects.get effectId = some effect' ∧ effect.SameIntent effect' ∧
        EffectEdge op s effectId effect effect'.status := by
    by_cases same : effectId = otherId
    · subst same
      cases otherFound.symm.trans found
      exact ⟨{ effect with status, revision, updatedAt }, by rw [effects, Table.get_put_self],
        ⟨rfl, rfl, rfl, rfl, rfl, rfl, rfl⟩, edge rfl⟩
    · exact untouched (by rw [effects, Table.get_put_ne _ _ same])
  cases ledger_move ok with
  | same unchanged => exact untouched (by rw [unchanged.effects])
  | @proposed freshId _ _ _ fresh _ _ _ _ _ effects =>
    have apart : effectId ≠ freshId := by
      rintro rfl
      simp [fresh] at found
    exact untouched (by rw [effects, Table.get_put_ne _ _ apart])
  | resolved requested pending stored awaiting kept decided effects =>
    refine written stored effects fun same => ?_
    rcases decided with ⟨_, rfl, approved⟩ | ⟨_, _, rfl⟩
    · exact .approve awaiting requested same approved
    · exact .deny awaiting
  | prepared stored authorized _ _ _ _ _ _ effects => exact written stored effects fun _ => authorized ▸ .stay
  | dispatched stored authorized _ _ _ _ _ effects => exact written stored effects fun _ => .dispatch authorized
  | settled stored dispatching _ _ _ settlement _ effects =>
    exact written stored effects fun _ => .settle dispatching settlement
  | undispatched stored authorized _ _ _ effects => exact written stored effects fun _ => authorized ▸ .stay
  | reconciled by_ stored unknown _ _ _ effects => exact written stored effects fun same => .reconcile by_ same unknown

theorem effect_added (ok : op.transaction s = .ok s') (fresh : s.effects.get effectId = none)
    (found : s'.effects.get effectId = some effect) :
    effect.status = effect.decision.effectStatus ∧ ∃ run session, s.runs.get effect.runId = some run ∧
      run.taskId = effect.taskId ∧ s.sessions.get effect.sessionId = some session ∧
      session.ownedBy effect.ownership = true := by
  cases ledger_move ok with
  | same unchanged => simp [unchanged.effects, fresh] at found
  | proposed _ initial ofRun ofTask ofSession owned effects =>
    rw [effects, Table.get_put] at found
    split at found
    · cases found
      exact ⟨initial, _, _, ofRun, ofTask, ofSession, owned⟩
    · simp [fresh] at found
  | resolved _ _ _ _ _ _ effects | prepared _ _ _ _ _ _ _ _ effects | dispatched _ _ _ _ _ _ _ effects
  | settled _ _ _ _ _ _ _ effects | undispatched _ _ _ _ _ effects | reconciled _ _ _ _ _ _ effects =>
    grind [Table.get_put]

theorem effectsOwned_step (owned : EffectsOwned s) (ok : op.transaction s = .ok s') : EffectsOwned s' := by
  intro effectId effect' found'
  have carried (owned : ∃ session, s.sessions.get effect'.sessionId = some session ∧
      session.ownedBy effect'.ownership = true) :
      ∃ session, s'.sessions.get effect'.sessionId = some session ∧ session.ownedBy effect'.ownership = true := by
    obtain ⟨session, stored, owner⟩ := owned
    obtain ⟨session', stored', principal, channel⟩ := sessions_kept ok _ session stored
    exact ⟨session', stored', by simpa [Session.ownedBy, principal, channel] using owner⟩
  cases found : s.effects.get effectId with
  | none =>
    obtain ⟨_, _, session, _, _, stored, owner⟩ := effect_added ok found found'
    exact carried ⟨session, stored, owner⟩
  | some effect =>
    obtain ⟨_, stored', ⟨_, _, sameSession, sameOwner, _⟩, _⟩ := effect_edge ok found
    rw [found'] at stored'
    cases stored'
    refine carried ?_
    rw [sameSession, sameOwner]
    exact owned effectId effect found

structure LedgerValid (s : Store) : Prop where
  attempts : AttemptsValid s
  outcomes : OutcomesValid s
  approvals : ApprovalsValid s
  owned : EffectsOwned s

theorem ledgerValid (reached : s.Reachable) : LedgerValid s := by
  have start : LedgerValid {} :=
    ⟨⟨by simp, by simp⟩, ⟨by simp, by simp⟩, ⟨by simp, by simp, by simp, by simp⟩, by simp [EffectsOwned]⟩
  have kept (op : Operation) (s s' : Store) (valid : LedgerValid s) (_ : True) (step : op.exec s = .ok s') :
      LedgerValid s' := by
    have ok := (Operation.exec_eq_ok.mp step).2
    have move := ledger_move ok
    exact ⟨attemptsValid_move valid.attempts move, outcomesValid_move valid.attempts valid.outcomes move,
      approvalsValid_move valid.approvals move, effectsOwned_step valid.owned ok⟩
  exact System.ReachableIf.invariant start kept reached

/-! ### First authorization -/

theorem EffectEdge.ne_dispatching
    (edge : EffectEdge op s effectId effect status) (before : effect.status ≠ .authorized)
    (idle : effect.status ≠ .dispatching) : status ≠ .dispatching := by
  cases edge with
  | stay => exact idle
  | approve | deny => nofun
  | dispatch authorized => exact absurd authorized before
  | settle dispatching _ => exact absurd dispatching idle
  | @reconcile commit _ _ _ => cases commit.outcome <;> nofun

theorem unauthorized_idle
    (reached : storeSystem.ReachableIf (fun _ before => before.effectIs effectId .authorized = false) s) :
    ∀ effect, s.effects.get effectId = some effect → effect.status ≠ .dispatching := by
  have kept (op : Operation) (s s' : Store)
      (idle : ∀ effect, s.effects.get effectId = some effect → effect.status ≠ .dispatching)
      (unauthorized : s.effectIs effectId .authorized = false) (step : op.exec s = .ok s') :
      ∀ effect, s'.effects.get effectId = some effect → effect.status ≠ .dispatching := by
    intro effect' found'
    have ok := (Operation.exec_eq_ok.mp step).2
    cases found : s.effects.get effectId with
    | none =>
      rw [(effect_added ok found found').1]
      cases effect'.decision <;> nofun
    | some effect =>
      obtain ⟨_, stored', _, edge⟩ := effect_edge ok found
      rw [found'] at stored'
      cases stored'
      refine edge.ne_dispatching (fun authorized => ?_) (idle effect found)
      rw [Store.effectIs_iff.mpr ⟨effect, found, authorized⟩] at unauthorized
      cases unauthorized
  exact System.ReachableIf.invariant (by simp [storeSystem]) kept reached

theorem first_authorization {effect'} (ok : op.transaction s = .ok s') (valid : LedgerValid s)
    (idle : ∀ effect, s.effects.get effectId = some effect → effect.status ≠ .dispatching)
    (unauthorized : s.effectIs effectId .authorized = false) (found' : s'.effects.get effectId = some effect')
    (required : effect'.decision = .requireApproval) (authorized : effect'.status = .authorized) :
    ∃ commit approval, op = .resolveApproval commit ∧ commit.decision = .approve ∧
      s.approvals.get commit.approvalId = some approval ∧ approval.effectId = effectId ∧
      commit.expectedSubjectDigest = approval.subjectDigest ∧ commit.ownership = effect'.ownership ∧
      commit.decidedAt < approval.expiresAt := by
  cases found : s.effects.get effectId with
  | none =>
    have initial := (effect_added ok found found').1
    rw [authorized, required] at initial
    cases initial
  | some effect =>
    obtain ⟨_, stored', ⟨_, _, _, sameOwner, _⟩, edge⟩ := effect_edge ok found
    rw [found'] at stored'
    cases stored'
    rw [authorized] at edge
    generalize reached : EffectStatus.authorized = status at edge
    cases edge with
    | stay =>
      rw [Store.effectIs_iff.mpr ⟨effect, found, reached.symm⟩] at unauthorized
      cases unauthorized
    | approve awaiting requested of approved =>
      obtain ⟨commit, session, rfl, decision, rfl, digest, early, stored, owner⟩ := approved
      refine ⟨commit, _, rfl, decision, requested, of, digest.symm, ?_, early⟩
      -- The session of the effect has one owner.
      obtain ⟨session', stored'', owner'⟩ := valid.owned effectId effect found
      rw [stored] at stored''
      cases stored''
      rw [sameOwner, Session.ownedBy_unique owner owner']
    | deny => cases reached
    | dispatch => cases reached
    | settle dispatching _ => exact absurd dispatching (idle effect found)
    | @reconcile commit _ _ _ =>
      cases outcome : commit.outcome <;> rw [outcome] at reached <;> cases reached

/-! ### At most one dispatch -/

/-- How far along its lifecycle an effect is. -/
def EffectStatus.progress : EffectStatus → Nat
  | .proposed | .awaitingApproval => 0
  | .authorized => 1
  | .dispatching => 2
  | .outcomeUnknown => 3
  | .succeeded | .failed | .compensated | .denied => 4

theorem EffectEdge.progress_le (edge : EffectEdge op s effectId effect status)
    (final : retryableIntent effect.idempotencyClass effect.recoveryStrategy = false) :
    effect.status.progress ≤ status.progress := by
  cases edge with
  | stay => exact le_rfl
  | approve awaiting => simp [awaiting, EffectStatus.progress]
  | deny awaiting => simp [awaiting, EffectStatus.progress]
  | dispatch authorized => simp [authorized, EffectStatus.progress]
  | settle dispatching settlement =>
    cases settlement with
    | succeeded | failed | unknown => simp [dispatching, EffectStatus.progress]
    | retryable safe => simp [final] at safe
  | @reconcile commit _ _ unknown => cases commit.outcome <;> simp [unknown, EffectStatus.progress,
      EffectReconciliationOutcome.effectStatus]

/-- A final effect of `s` is one of `s'`, at least as far along. -/
def Advances (effectId : EffectId) (s s' : Store) : Prop :=
  ∀ effect, s.effects.get effectId = some effect →
    retryableIntent effect.idempotencyClass effect.recoveryStrategy = false →
    ∃ effect', s'.effects.get effectId = some effect' ∧ effect.SameIntent effect' ∧
      effect.status.progress ≤ effect'.status.progress

theorem advances_later (later : storeSystem.Later s s') :
    Advances effectId s s' := by
  refine System.Later.preserves (Advances effectId) (fun s effect found _ => ?_) (fun {a b c} first second => ?_)
    (fun op s s' step effect found final => ?_) later
  · exact ⟨effect, found, ⟨rfl, rfl, rfl, rfl, rfl, rfl, rfl⟩, le_rfl⟩
  · intro effect found final
    obtain ⟨middle, middleFound, ⟨r, k, n, o, i, y, d⟩, le⟩ := first effect found final
    obtain ⟨last, lastFound, ⟨r', k', n', o', i', y', d'⟩, le'⟩ := second middle middleFound (by rw [i, y]; exact final)
    exact ⟨last, lastFound, ⟨r'.trans r, k'.trans k, n'.trans n, o'.trans o, i'.trans i, y'.trans y, d'.trans d⟩,
      le.trans le'⟩
  · obtain ⟨effect', found', same, edge⟩ := effect_edge (Operation.exec_eq_ok.mp step).2 found
    exact ⟨effect', found', same, edge.progress_le final⟩

theorem not_dispatched_again (ok : op.transaction s = .ok s') (found : s.effects.get effectId = some effect)
    (past : EffectStatus.dispatching.progress ≤ effect.status.progress)
    (idle : s.effectIs effectId .dispatching = false) : s'.effectIs effectId .dispatching = false := by
  obtain ⟨effect', found', _, edge⟩ := effect_edge ok found
  have notAuthorized : effect.status ≠ .authorized := by
    intro authorized
    simp [authorized, EffectStatus.progress] at past
  have notDispatching : effect.status ≠ .dispatching := by
    intro dispatching
    rw [Store.effectIs_iff.mpr ⟨effect, found, dispatching⟩] at idle
    cases idle
  refine Bool.eq_false_of_not_eq_true fun again => ?_
  obtain ⟨_, stored, dispatching⟩ := Store.effectIs_iff.mp again
  rw [found'] at stored
  cases stored
  exact edge.ne_dispatching notAuthorized notDispatching dispatching

/-! ### Unknown and terminal statuses -/

theorem unknown_left (ok : op.transaction s = .ok s')
    (unknown : s.effectIs effectId .outcomeUnknown = true) :
    s'.effectIs effectId .outcomeUnknown = true ∨ ∃ commit, op = .reconcileEffectOutcome commit ∧
      commit.effectId = effectId ∧ s'.effectIs effectId commit.outcome.effectStatus = true ∧
      commit.outcome.effectStatus.isTerminal = true := by
  obtain ⟨effect, found, status⟩ := Store.effectIs_iff.mp unknown
  obtain ⟨effect', found', _, edge⟩ := effect_edge ok found
  generalize next : effect'.status = status' at edge
  cases edge with
  | stay => exact .inl (Store.effectIs_iff.mpr ⟨effect', found', next.trans status⟩)
  | approve awaiting => rw [status] at awaiting; cases awaiting
  | deny awaiting => rw [status] at awaiting; cases awaiting
  | dispatch authorized => rw [status] at authorized; cases authorized
  | settle dispatching => rw [status] at dispatching; cases dispatching
  | @reconcile commit by_ same _ =>
    exact .inr ⟨commit, by_, same, Store.effectIs_iff.mpr ⟨effect', found', next⟩,
      commit.outcome.effectStatus_isTerminal⟩

theorem terminal_stays (ok : op.transaction s = .ok s') (terminal : status.isTerminal = true)
    (is : s.effectIs effectId status = true) : s'.effectIs effectId status = true := by
  obtain ⟨effect, found, rfl⟩ := Store.effectIs_iff.mp is
  obtain ⟨effect', found', _, edge⟩ := effect_edge ok found
  generalize next : effect'.status = status' at edge
  cases edge with
  | stay => exact Store.effectIs_iff.mpr ⟨effect', found', next⟩
  | approve awaiting | deny awaiting => rw [awaiting] at terminal; cases terminal
  | dispatch authorized => rw [authorized] at terminal; cases terminal
  | settle dispatching => rw [dispatching] at terminal; cases terminal
  | reconcile _ _ unknown => rw [unknown] at terminal; cases terminal

/-- Safety of the effect ledger over every run: the first authorization of an effect that
requires approval is an approval of its digest by its owner before the expiry; at most
one attempt of an effect is open; an effect that must not be retried enters its dispatch
once; an unknown outcome is left by reconciliation alone, and a terminal status never. -/
theorem effect_ledger_safety {op : Operation} {s s' : Store} (reached : s.Reachable) (step : op.exec s = .ok s')
    (effectId : EffectId) :
    (∀ effect', s'.effects.get effectId = some effect' → effect'.decision = .requireApproval →
      effect'.status = .authorized →
      storeSystem.ReachableIf (fun _ before => before.effectIs effectId .authorized = false) s →
      s.effectIs effectId .authorized = false →
      ∃ commit approval, op = .resolveApproval commit ∧ commit.decision = .approve ∧
        s.approvals.get commit.approvalId = some approval ∧ approval.effectId = effectId ∧
        commit.expectedSubjectDigest = approval.subjectDigest ∧ commit.ownership = effect'.ownership ∧
        commit.decidedAt < approval.expiresAt) ∧
    (∀ firstId secondId first second, s'.attempts.get firstId = some first → s'.attempts.get secondId = some second →
      first.effectId = effectId → second.effectId = effectId → first.state.isUnsettled = true →
      second.state.isUnsettled = true → firstId = secondId) ∧
    (∀ effect', s'.effects.get effectId = some effect' →
      (classifyRecovery .running effect'.idempotencyClass effect'.recoveryStrategy).isRetry = false →
      s.effectIs effectId .dispatching = false → effect'.status = .dispatching →
      ∀ {later : Operation} {t t' : Store}, storeSystem.Later s' t → later.exec t = .ok t' →
        t.effectIs effectId .dispatching = false → t'.effectIs effectId .dispatching = false) ∧
    (s.effectIs effectId .outcomeUnknown = true →
      s'.effectIs effectId .outcomeUnknown = true ∨ ∃ commit, op = .reconcileEffectOutcome commit ∧
        commit.effectId = effectId ∧ s'.effectIs effectId commit.outcome.effectStatus = true ∧
        commit.outcome.effectStatus.isTerminal = true) ∧
    (∀ status : EffectStatus, status.isTerminal = true → s.effectIs effectId status = true →
      s'.effectIs effectId status = true) := by
  have valid := ledgerValid reached
  have valid' := ledgerValid (reached.step trivial step)
  have committed := (Operation.exec_eq_ok.mp step).2
  refine ⟨fun effect' found' required authorized before unauthorized =>
      first_authorization committed valid (unauthorized_idle before) unauthorized found' required authorized,
    fun firstId secondId first second firstFound secondFound ofFirst ofSecond =>
      valid'.attempts.unique firstId secondId first second firstFound secondFound (ofFirst.trans ofSecond.symm),
    fun effect' found' final _ dispatching op' t t' later next idle => ?_,
    unknown_left committed, fun status terminal is => terminal_stays committed terminal is⟩
  rw [classifyRecovery_running_isRetry] at final
  obtain ⟨effect, found, _, past⟩ := advances_later later effect' found' final
  rw [dispatching] at past
  exact not_dispatched_again (Operation.exec_eq_ok.mp next).2 found past idle

def sampleProposal : RecordEffectProposalCommit where
  effectId := ⟨0⟩
  ownership := sampleOwner
  taskId := ⟨0⟩
  runId := ⟨0⟩
  toolId := .workspaceCreateFile
  arguments := "\x7b\x7d"
  argumentsDigest := .ofNat 0
  effectClass := .nonIdempotent
  idempotencyClass := .nonIdempotent
  recoveryStrategy := .reconcile
  decision := .requireApproval
  approval := some ⟨⟨0⟩, ⟨0⟩, .ofNat 1, 500⟩
  proposedAt := 30

def sampleApproval : ResolveApprovalCommit := ⟨sampleOwner, ⟨0⟩, .ofNat 1, .approve, "approve", 40⟩

theorem effect_ledger_safety_approved :
    ∃ (s s' : Store) (approval : ApprovalRequest), s.Reachable ∧
      Operation.exec (.resolveApproval sampleApproval) s = .ok s' ∧ s'.effectIs ⟨0⟩ .authorized = true ∧
      s.approvals.get sampleApproval.approvalId = some approval ∧
      sampleApproval.expectedSubjectDigest = approval.subjectDigest ∧
      sampleApproval.decidedAt < approval.expiresAt := by
  obtain ⟨s, s', reached, step, unauthorized, approved⟩ : ∃ s s' : Store,
      storeSystem.ReachableIf (fun _ before => before.effectIs ⟨0⟩ .authorized = false) s ∧
      storeSystem.exec (.resolveApproval sampleApproval) s = .ok s' ∧ s.effectIs ⟨0⟩ .authorized = false ∧
      (s'.effects.get ⟨0⟩).any (fun effect => effect.status = .authorized ∧ effect.decision = .requireApproval) = true :=
    System.exists_step (claimedRun ++ [.recordEffectProposal sampleProposal]) (by decide +kernel)
  simp only [Option.any_eq_true, decide_eq_true_eq] at approved
  obtain ⟨effect, found, authorized, required⟩ := approved
  obtain ⟨commit, approval, same, _, requested, _, digest, _, early⟩ :=
    (effect_ledger_safety reached.reachable step ⟨0⟩).1 effect found required authorized reached unauthorized
  cases same
  exact ⟨s, s', approval, reached.reachable, step, Store.effectIs_iff.mpr ⟨effect, found, authorized⟩, requested,
    digest, early⟩

end Mealy
