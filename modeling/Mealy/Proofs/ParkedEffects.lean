import Mealy.Proofs.TerminalEffects

/-! The exits of a parked effect run. The daemon resumes the run of a ready effect and
expires an approval that was left pending, and the owner resolves a pending approval or
reconciles an unknown outcome. An approval that was granted in time may expire before the
run is resumed, and then none of them applies. -/

namespace Mealy
open Relational Transaction

variable {s s' : Store} {op : Operation} {effectId : EffectId} {effect : Effect} {status : EffectStatus}
  {invocation : AgentEffectInvocation} {at_ : Millis}

/-! ### Invocations and their effects -/

/-- The effect of every invocation is stored and requires approval. -/
def InvocationsValid (s : Store) : Prop :=
  ∀ effectId invocation, s.invocations.get effectId = some invocation →
    ∃ effect, s.effects.get effectId = some effect ∧ effect.decision = .requireApproval

theorem invocation_origin (ok : op.transaction s = .ok s') (invoked : s'.invocations.get effectId = some invocation) :
    s.invocations.get effectId = some invocation ∨
      ∃ effect, s'.effects.get effectId = some effect ∧ effect.decision = .requireApproval := by
  cases op with
  | recordAgentEffectProposal commit =>
    obtain ⟨_, _, _, _, sessionId, _, _, _, _, _, _, _, _, required, _, _, _, _, _, rfl⟩ :=
      recordAgentEffectProposal_ok ok
    rcases Table.of_get_put invoked with ⟨rfl, _⟩ | ⟨_, before⟩
    · exact .inr ⟨commit.proposal.effect sessionId, Table.get_put_self .., required⟩
    · exact .inl before
  | _ =>
    obtain ⟨_, rfl⟩ := Operation.frame ok
    exact .inl invoked

theorem invocationsValid (reached : s.Reachable) : InvocationsValid s := by
  have start : InvocationsValid {} := fun _ _ invoked => by simp at invoked
  have kept (op : Operation) (s s' : Store) (valid : InvocationsValid s) (_ : True) (step : op.exec s = .ok s') :
      InvocationsValid s' := by
    intro effectId invocation invoked
    have ok := (Operation.exec_eq_ok.mp step).2
    rcases invocation_origin ok invoked with before | added
    · obtain ⟨effect, found, required⟩ := valid effectId invocation before
      obtain ⟨effect', found', ⟨_, _, _, _, _, _, sameDecision⟩, _⟩ := effect_edge ok found
      exact ⟨effect', found', sameDecision.trans required⟩
    · exact added
  exact System.ReachableIf.invariant start kept reached

/-! ### Exits -/

/-- The rows that `reconcile_effect_outcome` asks for. -/
def Store.Reconcilable (s : Store) (effectId : EffectId) : Prop :=
  ∃ attemptId attempt outcome, s.attempts.get attemptId = some attempt ∧ attempt.effectId = effectId ∧
    attempt.state = .outcomeUnknown ∧ s.outcomes.get (attemptId, 0) = some outcome ∧ outcome.effectId = effectId ∧
    outcome.kind = .outcomeUnknown ∧ ∀ sequence, 0 < sequence → s.outcomes.get (attemptId, sequence) = none

inductive Store.Exit (s : Store) (effectId : EffectId) (at_ : Millis) : Prop where
  | resume (listed : effectId ∈ s.readyAgentEffects at_)
  | resolve {approvalId approval} (requested : s.approvals.get approvalId = some approval)
      (of : approval.effectId = effectId) (pending : approval.status = .pending)
      (timely : at_ < approval.expiresAt ∨ approvalId ∈ s.expiredAgentEffectApprovals at_)
  | reconcile (unknown : s.effectIs effectId .outcomeUnknown = true) (rows : s.Reconcilable effectId)

/-- The effect is not being dispatched, and if it is authorized, its approval lasts. -/
def Store.CanMove (s : Store) (effectId : EffectId) (at_ : Millis) : Prop :=
  s.effectIs effectId .dispatching = false ∧ (s.effectIs effectId .authorized = true →
    ∀ approvalId approval, s.approvals.get approvalId = some approval → approval.effectId = effectId →
      at_ < approval.expiresAt)

theorem Store.effectIs_eq (found : s.effects.get effectId = some effect) :
    s.effectIs effectId status = decide (effect.status = status) := by
  simp [Store.effectIs, found]

theorem Store.mem_readyAgentEffects : effectId ∈ s.readyAgentEffects at_ ↔
    ∃ invocation, s.invocations.get effectId = some invocation ∧
      s.agentEffectReady effectId invocation at_ = true := by
  simp [readyAgentEffects]

theorem Store.Exit.canMove (valid : ApprovalsValid s) (exit : s.Exit effectId at_) : s.CanMove effectId at_ := by
  cases exit with
  | resume listed =>
    obtain ⟨_, _, ready⟩ := Store.mem_readyAgentEffects.mp listed
    simp only [Store.agentEffectReady, Bool.decide_and, Bool.and_eq_true, decide_eq_true_eq, Option.any_eq_true,
      Bool.decide_or, Bool.or_eq_true] at ready
    obtain ⟨_, effect, found, stage⟩ := ready
    unfold Store.CanMove
    rw [Store.effectIs_eq found, Store.effectIs_eq found]
    rcases stage with ended | ⟨authorized, ⟨approvalId, approval⟩, requested, _, lasts⟩
    · cases status : effect.status <;> simp_all [EffectStatus.isTerminal]
    · obtain ⟨requested, of⟩ := Table.find_some requested
      refine ⟨by simp [authorized], fun _ otherId other found' ofOther => ?_⟩
      -- An effect has one approval request.
      have same := valid.unique _ _ _ _ requested found' ((of_decide_eq_true of).trans ofOther.symm)
      rw [← same, requested] at found'
      cases found'
      exact lasts
  | resolve requested of pending =>
    obtain ⟨effect, found, _, awaits, _⟩ := valid.effect _ _ requested
    rw [of] at found
    simp [Store.CanMove, Store.effectIs_eq found, awaits.mp pending]
  | reconcile unknown =>
    obtain ⟨effect, found, status⟩ := Store.effectIs_iff.mp unknown
    simp [Store.CanMove, Store.effectIs_eq found, status]

theorem Store.reconcilable (valid : OutcomesValid s) (unknown : s.effectIs effectId .outcomeUnknown = true) :
    s.Reconcilable effectId := by
  obtain ⟨effect, found, status⟩ := Store.effectIs_iff.mp unknown
  obtain ⟨attemptId, attempt, outcome, stored, of, state, recorded, ofEffect, kind, _⟩ :=
    valid.unknown effectId effect found status
  refine ⟨attemptId, attempt, outcome, stored, of, state, recorded, ofEffect, kind, fun sequence later => ?_⟩
  refine Option.eq_none_iff_forall_ne_some.mpr fun second stored' => ?_
  -- A second outcome would have ended the effect.
  obtain ⟨_, again, _, _, ended⟩ := valid.attempt _ _ _ stored'
  cases stored.symm.trans again
  obtain ⟨_, found', terminal⟩ := ended (Nat.ne_of_gt later)
  rw [of, found] at found'
  cases found'
  simp [status, EffectStatus.isTerminal] at terminal

theorem Store.parked_exit (valid : LedgerValid s) (invoked : s.invocations.get effectId = some invocation)
    (parked : s.parked effectId invocation = true) (found : s.effects.get effectId = some effect)
    (required : effect.decision = .requireApproval) (moves : s.CanMove effectId at_) : s.Exit effectId at_ := by
  obtain ⟨approvalId, approval, requested, of⟩ := valid.approvals.required effectId effect found required
  obtain ⟨_, found', _, awaits, refused⟩ := valid.approvals.effect approvalId approval requested
  rw [of, found] at found'
  cases found'
  have listed (stage : effect.status.isTerminal = true ∨
      (effect.status = .authorized ∧ approval.status = .approved ∧ at_ < approval.expiresAt)) :
      s.Exit effectId at_ := by
    have approvalOf : s.approvalOf effectId = some (approvalId, approval) := by
      refine Table.find_eq_some_of_unique requested (decide_eq_true of) fun otherId other found' ofOther => ?_
      exact valid.approvals.unique _ _ _ _ found' requested ((of_decide_eq_true ofOther).trans of.symm)
    refine .resume (Store.mem_readyAgentEffects.mpr ⟨invocation, invoked, ?_⟩)
    simpa [Store.agentEffectReady, parked, found, approvalOf] using stage
  rw [Store.CanMove, Store.effectIs_eq found, Store.effectIs_eq found] at moves
  cases status : effect.status with
  | proposed => exact absurd status (valid.approvals.decided effectId effect found)
  | awaitingApproval =>
    have pending := awaits.mpr status
    refine .resolve requested of pending ?_
    by_cases open_ : at_ < approval.expiresAt
    · exact .inl open_
    · simp only [Store.parked, Bool.decide_and, Bool.and_eq_true, decide_eq_true_eq] at parked
      simp [Store.expiredAgentEffectApprovals, requested, pending, Nat.le_of_not_lt open_, of, invoked, parked]
  | authorized =>
    have decided : approval.status ≠ .pending := fun pending => by simp [awaits.mp pending] at status
    have approved : approval.status = .approved := by
      by_contra other
      simp [refused decided other] at status
    exact listed (.inr ⟨status, approved, moves.2 (by simp [status]) _ _ requested of⟩)
  | dispatching => simp [status] at moves
  | outcomeUnknown =>
    have unknown := Store.effectIs_iff.mpr ⟨effect, found, status⟩
    exact .reconcile unknown (Store.reconcilable valid.outcomes unknown)
  | succeeded | failed | compensated | denied => exact listed (.inl (by rw [status]; rfl))

/-- A parked effect of a reachable store has an exit at a time exactly when it is not
being dispatched and the approval of an authorized effect has not expired by then. -/
theorem parked_effect_exit_iff {s : Store} {effectId : EffectId} {invocation : AgentEffectInvocation}
    (reached : s.Reachable) (invoked : s.invocations.get effectId = some invocation)
    (parked : s.parked effectId invocation = true) (at_ : Millis) :
    s.Exit effectId at_ ↔ s.CanMove effectId at_ := by
  have valid := ledgerValid reached
  constructor
  · exact Store.Exit.canMove valid.approvals
  · intro moves
    obtain ⟨effect, found, required⟩ := invocationsValid reached effectId invocation invoked
    exact Store.parked_exit valid invoked parked found required moves

theorem approved_run_parks :
    ∃ (s : Store) (invocation : AgentEffectInvocation) (approvalId : ApprovalId) (approval : ApprovalRequest),
      s.Reachable ∧ s.invocations.get ⟨0⟩ = some invocation ∧ s.parked ⟨0⟩ invocation = true ∧
      s.effectIs ⟨0⟩ .authorized = true ∧ s.approvals.get approvalId = some approval ∧ approval.effectId = ⟨0⟩ ∧
      approval.expiresAt = 500 := by
  obtain ⟨s, reached, authorized, parked, expires⟩ : ∃ s : Store, s.Reachable ∧ s.effectIs ⟨0⟩ .authorized = true ∧
      (s.invocations.get ⟨0⟩).any (s.parked ⟨0⟩) = true ∧
      (s.approvals.get ⟨0⟩).any (fun approval => approval.effectId = ⟨0⟩ ∧ approval.expiresAt = 500) = true :=
    System.exists_reachableIf approvedRun (by decide +kernel)
  simp only [Option.any_eq_true, decide_eq_true_eq] at parked expires
  obtain ⟨invocation, invoked, parked⟩ := parked
  obtain ⟨approval, requested, of, expires⟩ := expires
  exact ⟨s, invocation, ⟨0⟩, approval, reached, invoked, parked, authorized, requested, of, expires⟩

/-- An approval granted at 40 that expires at 500, before the run was resumed: the run
waits without an exit. -/
theorem expired_approval_strands :
    ∃ (s : Store) (invocation : AgentEffectInvocation), s.Reachable ∧ s.invocations.get ⟨0⟩ = some invocation ∧
      s.parked ⟨0⟩ invocation = true ∧ s.effectIs ⟨0⟩ .authorized = true ∧ ¬ s.Exit ⟨0⟩ 500 := by
  obtain ⟨s, invocation, _, _, reached, invoked, parked, authorized, requested, of, expires⟩ := approved_run_parks
  refine ⟨s, invocation, reached, invoked, parked, authorized, fun exit => ?_⟩
  have lasts := (exit.canMove (ledgerValid reached).approvals).2 authorized _ _ requested of
  rw [expires] at lasts
  exact absurd lasts (Nat.lt_irrefl _)

/-- One millisecond earlier the same run can be resumed. -/
theorem unexpired_approval_exits :
    ∃ (s : Store) (invocation : AgentEffectInvocation), s.Reachable ∧ s.invocations.get ⟨0⟩ = some invocation ∧
      s.parked ⟨0⟩ invocation = true ∧ s.Exit ⟨0⟩ 499 := by
  obtain ⟨s, invocation, approvalId, approval, reached, invoked, parked, authorized, requested, of, expires⟩ :=
    approved_run_parks
  obtain ⟨effect, found, status⟩ := Store.effectIs_iff.mp authorized
  refine ⟨s, invocation, reached, invoked, parked, (parked_effect_exit_iff reached invoked parked 499).mpr ⟨?_, ?_⟩⟩
  · simp [Store.effectIs_eq found, status]
  · intro _ otherId other stored ofOther
    have same := (ledgerValid reached).approvals.unique _ _ _ _ stored requested (ofOther.trans of.symm)
    rw [same, requested] at stored
    cases stored
    rw [expires]
    decide

end Mealy
