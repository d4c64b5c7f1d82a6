import Mealy.Proofs.Requeue
import Mealy.Store.DelegationStore

/-! Resource claims against leases. A claim is taken under a live fence; of the ways a
lease ends, only a recorded delegation result releases the claims with it. Which
operation ends which lease is said once, and both directions are read from that. -/

namespace Mealy
open Relational Transaction FencedLease

variable {s : DelegationStore} {s' : Store} {op : DelegationOperation} {delegation : Delegation}

/-! ### Leases that end -/

def Operation.retires (op : Operation) (s : Store) : Option LeaseId :=
  match op with
  | release commit => some commit.fence.leaseId
  | completeRun commit => some commit.fence.leaseId
  | recoverLease commit => some commit.leaseId
  | recordAgentEffectProposal commit => some commit.fence.leaseId
  | parkAgentEffectRun commit => some commit.fence.leaseId
  | launchAgentDelegation commit => some commit.parentFence.leaseId
  | recordModelFailure commit => if commit.retries s then some commit.fence.leaseId else none
  | controlTask commit =>
    match commit.action, s.runOfTask commit.taskId with
    | .pause, some (runId, run) => if run.status = .running then (s.activeLease runId).map Prod.fst else none
    | _, _ => none
  | _ => none

/-- Every lease stays what it was, its times apart. -/
def GrantsKept (s s' : Store) : Prop :=
  ∀ leaseId lease, s.leases.get leaseId = some lease →
    ∃ lease', s'.leases.get leaseId = some lease' ∧ lease'.grant = lease.grant

def GrantEnds (s : Store) (leaseId : LeaseId) (s' : Store) : Prop :=
  ∃ lease lease', s.leases.get leaseId = some lease ∧ lease.state = .active ∧ lease'.state ≠ .active ∧
    s'.leases = s.leases.put leaseId lease'

/-- What becomes of the leases: none ends, or the one that the operation retires. -/
inductive LeaseFate (s : Store) : Option LeaseId → Store → Prop where
  | kept {s' : Store} (kept : GrantsKept s s') : LeaseFate s none s'
  | ended {leaseId s'} (ends : GrantEnds s leaseId s') : LeaseFate s (some leaseId) s'

theorem LeaseFate.same {s s'} (leases : s'.leases = s.leases) : LeaseFate s none s' :=
  .kept fun _ lease found => ⟨lease, by rw [leases, found], rfl⟩

theorem LeaseFate.fenced {s s' fence lease lease'}
    (held : s.heldLease fence = some lease) (leases : s'.leases = s.leases.put fence.leaseId lease')
    (ended : lease'.state ≠ .active) : LeaseFate s (some fence.leaseId) s' := by
  obtain ⟨found, _, _, _, active⟩ := Store.heldLease_eq_some.mp held
  exact .ended ⟨lease, lease', found, active, ended, leases⟩

theorem LeaseFate.granted {s leaseId lease} (fresh : s.leases.get leaseId = none)
    (leases : s'.leases = s.leases.put leaseId lease) : LeaseFate s none s' := by
  refine .kept fun otherId other found => ⟨other, ?_, rfl⟩
  rw [leases, Table.kept_put_fresh fresh _ _ found]

theorem recoverLease_fate {commit s} (ok : recoverLease commit s = .ok s') :
    LeaseFate s (some commit.leaseId) s' := by
  obtain ⟨lease, recovered, settled, _, _, _, _, found, active, boundary, _, _, recovers, _, _, _, _, rfl⟩ :=
    recoverLease_ok ok
  obtain ⟨_, rfl⟩ := recovers.writes
  obtain ⟨_, rfl⟩ := recoverIncompleteAgentBoundary_writes boundary
  exact .ended ⟨lease, { lease with state := .expired, releasedAt := some commit.now }, found, active, nofun, rfl⟩

theorem completeRun_fate {commit s} (ok : completeRun commit s = .ok s') :
    LeaseFate s (some commit.fence.leaseId) s' := by
  obtain ⟨_, _, settled, _, _, settles, finishes, delivers⟩ := completeRun_ok ok
  obtain ⟨_, rfl⟩ := settles.writes
  obtain ⟨lease, _, held, _, rfl⟩ := finishRun_ok finishes
  have held : s.heldLease commit.fence = some lease := held
  rcases delivers with ⟨_, delivered⟩ | ⟨_, rfl⟩
  · obtain ⟨_, rfl⟩ := settleDelegatedChild_writes delivered
    exact .fenced held rfl nofun
  · exact .fenced held rfl nofun

theorem controlTask_fate {commit s} (ok : controlTask commit s = .ok s') :
    LeaseFate s (Operation.retires (.controlTask commit) s) s' := by
  obtain ⟨row, fenced, loaded, stage⟩ := controlTask_ok ok
  obtain ⟨_, joined⟩ := Store.loadControlledTask_ok loaded
  rcases stage with ⟨⟨action, _⟩, paused, ⟨idle, rfl⟩ | ⟨recovery, lease, ⟨running, held⟩, _, _, recovered⟩⟩ |
    ⟨_, ⟨action, _⟩, _, rfl, controlled⟩
  · obtain ⟨_, _, rfl⟩ := controlledTo_ok paused
    simp only [Operation.retires, action, joined, if_neg idle]
    exact .same rfl
  · obtain ⟨_, _, rfl⟩ := controlledTo_ok paused
    simp only [Operation.retires, action, joined, if_pos running, held, Option.map_some]
    cases recoverLease_fate recovered with
    | ended ends => exact .ended ends
  · obtain ⟨_, _, rfl⟩ := controlledTo_ok controlled
    simp only [Operation.retires, action]
    exact .same rfl

theorem recordModelFailure_fate {commit s}
    (ok : recordModelFailure commit s = .ok s') :
    LeaseFate s (Operation.retires (.recordModelFailure commit) s) s' := by
  obtain ⟨_, failed, _, _, moves, ended⟩ := recordModelFailure_ok ok
  obtain ⟨_, rfl⟩ := moves.writes
  rcases ended with ⟨final, rfl⟩ | ⟨retries, requeued⟩
  · simp only [Operation.retires, final, Bool.false_eq_true, if_false]
    exact .same rfl
  · obtain ⟨lease, _, held, _, rfl⟩ := requeueProviderRetry_ok requeued
    have held : s.heldLease commit.fence = some lease := held
    simp only [Operation.retires, retries, if_true]
    exact .fenced held rfl nofun

theorem lease_fate {op : Operation} {s : Store} (ok : op.transaction s = .ok s') :
    LeaseFate s (op.retires s) s' := by
  cases op with
  | claimNext commit =>
    rcases claimNext_ok ok with rfl | ⟨_, _, _, _, _, _, fresh, _, _, rfl⟩
    · exact .same rfl
    · exact .granted fresh rfl
  | heartbeat commit =>
    obtain ⟨lease, held, _, rfl⟩ := heartbeat_ok ok
    have found := (Store.heldLease_eq_some.mp held).1
    refine .kept fun leaseId other stored => ?_
    by_cases same : leaseId = commit.fence.leaseId
    · subst same
      cases found.symm.trans stored
      exact ⟨_, Table.get_put_self .., rfl⟩
    · exact ⟨other, (Table.get_put_ne _ _ same).trans stored, rfl⟩
  | release commit =>
    obtain ⟨_, _, held, _, _, rfl⟩ := release_ok ok
    exact .fenced held rfl nofun
  | completeRun commit => exact completeRun_fate ok
  | recordModelFailure commit => exact recordModelFailure_fate ok
  | recordAgentEffectProposal commit =>
    obtain ⟨_, _, _, _, _, _, _, _, held, _, _, _, _, _, _, _, _, _, _, rfl⟩ := recordAgentEffectProposal_ok ok
    exact .fenced held rfl nofun
  | parkAgentEffectRun commit =>
    obtain ⟨_, _, parked⟩ := parkAgentEffectRun_ok ok
    obtain ⟨_, _, held, _, _, rfl⟩ := parkRun_ok parked
    exact .fenced held rfl nofun
  | launchAgentDelegation commit =>
    obtain ⟨_, _, _, _, _, _, _, _, held, _, _, _, _, _, _, _, rfl⟩ := launchAgentDelegation_ok ok
    exact .fenced held rfl nofun
  | recoverLease commit => exact recoverLease_fate ok
  | controlTask commit => exact controlTask_fate ok
  | _ =>
    obtain ⟨_, rfl⟩ := Operation.frame ok
    exact .same rfl

/-! ### The delegation port -/

def DelegationOperation.retires (op : DelegationOperation) (s : DelegationStore) : Option LeaseId :=
  match op with
  | daemon op _ => op.retires s.core
  | launch commit _ _ => some commit.parentFence.leaseId
  | recordDelegationResult commit => some commit.childFence.leaseId
  | promote .. | prepareDelegation _ | startDelegation _ | acquireResourceClaim _ => none

theorem delegation_lease_fate {s' : DelegationStore} (ok : op.transaction s = .ok s') :
    LeaseFate s.core (op.retires s) s'.core := by
  cases op with
  | daemon op => exact lease_fate (daemon_ok ok).1
  | promote commit ceiling => exact lease_fate (promote_ok ok).1
  | launch commit requested policy => exact lease_fate (launch_ok ok).1
  | prepareDelegation commit =>
    obtain ⟨_, _, inserted, rfl⟩ := prepareDelegation_ok ok
    obtain ⟨_, _, _, _, _, rfl⟩ := insertDelegationGraph_ok inserted
    exact .same rfl
  | startDelegation commit =>
    simp only [DelegationOperation.transaction, eq_ok] at ok
    obtain ⟨_, ok, rfl⟩ := ok
    obtain ⟨_, _, _, _, _, _, _, _, fresh, rfl⟩ := startDelegationLease_ok ok
    exact .granted fresh rfl
  | acquireResourceClaim commit =>
    obtain ⟨_, _, _, _, _, rfl⟩ := acquireResourceClaim_ok.mp ok
    exact .same rfl
  | recordDelegationResult commit =>
    obtain ⟨_, _, _, _, _, fenced, rfl⟩ := recordDelegationResult_ok ok
    obtain ⟨_, _, _, held, _⟩ := Store.ensureChildFence_ok.mp fenced
    exact .fenced held rfl (by simp)

theorem delegation_simulated {s'} (ok : op.transaction s = .ok s') :
    Steps s.core.leaseView s'.core.leaseView := by
  cases op with
  | daemon op => exact transaction_simulated (daemon_ok ok).1
  | promote commit ceiling => exact transaction_simulated (promote_ok ok).1
  | launch commit requested policy => exact transaction_simulated (launch_ok ok).1
  | prepareDelegation commit =>
    obtain ⟨_, _, inserted, rfl⟩ := prepareDelegation_ok ok
    obtain ⟨_, _, fresh, _, _, rfl⟩ := insertDelegationGraph_ok inserted
    exact .single (add_simulated fresh rfl rfl (by rintro ⟨⟩))
  | startDelegation commit =>
    simp only [DelegationOperation.transaction, eq_ok] at ok
    obtain ⟨_, ok, rfl⟩ := ok
    obtain ⟨_, run, _, _, found, _, queued, _, fresh, rfl⟩ := startDelegationLease_ok ok
    exact .single (claim_simulated found (by simp [queued]) fresh rfl rfl rfl rfl)
  | acquireResourceClaim commit =>
    obtain ⟨_, _, _, _, _, rfl⟩ := acquireResourceClaim_ok.mp ok
    exact .refl
  | recordDelegationResult commit =>
    obtain ⟨_, run, _, _, _, fenced, rfl⟩ := recordDelegationResult_ok ok
    obtain ⟨_, under, _, held, _⟩ := Store.ensureChildFence_ok.mp fenced
    refine .single (giveUp_simulated held under rfl rfl rfl ?_ ?_)
    · cases commit.succeeded <;> simp
    · exact (Store.runningUnder_eq_some.mp under).2.2.ge

theorem delegation_leaseView_valid (reached : delegationSystem.Reachable s) :
    Valid s.core.leaseView := by
  have start : Valid delegationSystem.initial.core.leaseView := Valid.empty
  have kept (op : DelegationOperation) (s s' : DelegationStore) (valid : Valid s.core.leaseView) (_ : True)
      (ok : delegationSystem.exec op s = .ok s') : Valid s'.core.leaseView :=
    Steps.preserves (delegation_simulated (DelegationOperation.exec_eq_ok.mp ok).2) valid
  exact System.ReachableIf.invariant start kept reached

/-! ### Delegations and claims -/

/-- A claim is of the child of its delegation, under a lease with its run, owner and
token. -/
structure ResourceClaim.Backed (claim : ResourceClaim) (s : Store) : Prop where
  leased : ∃ lease, s.leases.get claim.leaseId = some lease ∧ lease.runId = claim.runId ∧
    lease.ownerId = claim.ownerId ∧ lease.fencingToken = claim.fencingToken
  delegated : ∃ delegation, s.delegations.get claim.delegationId = some delegation ∧
    delegation.childRunId = claim.runId

structure ClaimsValid (s : DelegationStore) : Prop where
  unique : ∀ firstId secondId first second, s.core.delegations.get firstId = some first →
    s.core.delegations.get secondId = some second → first.childRunId = second.childRunId → firstId = secondId
  backed : ∀ claimId claim, s.claims.get claimId = some claim → claim.Backed s.core

/-- Every delegation of `s` is one of `s'` with the same child, and at most one is new,
with a child of its own. -/
structure ChildrenKept (s s' : Store) : Prop where
  kept : ∀ delegationId delegation, s.delegations.get delegationId = some delegation →
    ∃ delegation', s'.delegations.get delegationId = some delegation' ∧
      delegation'.childRunId = delegation.childRunId
  origin : ∀ delegationId delegation', s'.delegations.get delegationId = some delegation' →
    (∃ delegation, s.delegations.get delegationId = some delegation ∧
      delegation'.childRunId = delegation.childRunId) ∨
    ∀ otherId other', s'.delegations.get otherId = some other' → other'.childRunId = delegation'.childRunId →
      otherId = delegationId

theorem ChildrenKept.same {s} (delegations : s'.delegations = s.delegations) : ChildrenKept s s' where
  kept delegationId delegation found := ⟨delegation, by rw [delegations, found], rfl⟩
  origin delegationId delegation' found := .inl ⟨delegation', by rw [← delegations, found], rfl⟩

theorem ChildrenKept.moved {s delegationId delegation'} (stored : s.delegations.get delegationId = some delegation)
    (delegations : s'.delegations = s.delegations.put delegationId delegation')
    (child : delegation'.childRunId = delegation.childRunId) : ChildrenKept s s' where
  kept otherId other found := by
    by_cases same : otherId = delegationId
    · subst same
      cases stored.symm.trans found
      exact ⟨delegation', by rw [delegations, Table.get_put_self], child⟩
    · exact ⟨other, by rw [delegations, Table.get_put_ne _ _ same, found], rfl⟩
  origin otherId other' found := by
    rw [delegations, Table.get_put] at found
    split at found
    next same => cases found; exact .inl ⟨delegation, by rw [same, stored], child⟩
    next => exact .inl ⟨other', found, rfl⟩

theorem ChildrenKept.added {s delegationId} (fresh : s.delegations.get delegationId = none)
    (new : ∀ otherId other, s.delegations.get otherId = some other → other.childRunId ≠ delegation.childRunId)
    (delegations : s'.delegations = s.delegations.put delegationId delegation) : ChildrenKept s s' where
  kept otherId other found :=
    ⟨other, by rw [delegations, Table.kept_put_fresh fresh _ _ found], rfl⟩
  origin otherId other' found := by
    rw [delegations, Table.get_put] at found
    split at found
    next same =>
      cases found
      refine .inr fun thirdId third thirdFound shared => ?_
      rw [delegations, Table.get_put] at thirdFound
      split at thirdFound
      next isSame => rw [isSame, same]
      next => exact absurd shared (new thirdId third thirdFound)
    next => exact .inl ⟨other', found, rfl⟩

theorem children_kept {op : Operation} {s : Store} (ok : op.transaction s = .ok s') : ChildrenKept s s' := by
  cases op with
  | claimNext commit =>
    rcases claimNext_ok ok with rfl | ⟨_, _, _, _, _, _, _, _, ⟨_, rfl⟩ | ⟨_, _, _, ofChild, _, rfl⟩, rfl⟩
    · exact .same rfl
    · exact .same rfl
    · exact .moved (Table.find_some ofChild).1 rfl rfl
  | completeRun commit =>
    obtain ⟨_, _, settled, _, _, settles, finishes, delivers⟩ := completeRun_ok ok
    obtain ⟨_, rfl⟩ := settles.writes
    obtain ⟨_, _, _, _, rfl⟩ := finishRun_ok finishes
    rcases delivers with ⟨_, delivered⟩ | ⟨_, rfl⟩
    · obtain ⟨_, _, _, _, _, _, _, _, stored, _, _, _, _, _, _, _, rfl⟩ := settleDelegatedChild_ok delivered
      exact .moved (s := s) stored rfl rfl
    · exact .same rfl
  | launchAgentDelegation commit =>
    obtain ⟨_, _, _, _, _, _, _, _, _, _, _, _, _, fresh, new, _, rfl⟩ := launchAgentDelegation_ok ok
    exact .added fresh new rfl
  | _ =>
    obtain ⟨_, rfl⟩ := Operation.frame ok
    exact .same rfl

theorem delegation_children_kept {s' : DelegationStore}
    (ok : op.transaction s = .ok s') : ChildrenKept s.core s'.core := by
  cases op with
  | daemon op => exact children_kept (daemon_ok ok).1
  | promote commit ceiling => exact children_kept (promote_ok ok).1
  | launch commit requested policy => exact children_kept (launch_ok ok).1
  | prepareDelegation commit =>
    obtain ⟨_, _, inserted, rfl⟩ := prepareDelegation_ok ok
    obtain ⟨_, _, _, fresh, new, rfl⟩ := insertDelegationGraph_ok inserted
    exact .added fresh (fun otherId other found => (new otherId other found).1) rfl
  | startDelegation commit =>
    simp only [DelegationOperation.transaction, eq_ok] at ok
    obtain ⟨_, ok, rfl⟩ := ok
    obtain ⟨_, _, _, stored, _, _, _, _, _, rfl⟩ := startDelegationLease_ok ok
    exact .moved stored rfl rfl
  | acquireResourceClaim commit =>
    obtain ⟨_, _, _, _, _, rfl⟩ := acquireResourceClaim_ok.mp ok
    exact .same rfl
  | recordDelegationResult commit =>
    obtain ⟨_, _, _, _, _, fenced, rfl⟩ := recordDelegationResult_ok ok
    exact .moved (Store.ensureChildFence_ok.mp fenced).1 rfl rfl

def DelegationOperation.releasesClaims : DelegationOperation → Bool
  | recordDelegationResult _ => true
  | _ => false

inductive ClaimStep (s : DelegationStore) : DelegationOperation → DelegationStore → Prop where
  | same {op : DelegationOperation} {s' : DelegationStore} (keeps : op.releasesClaims = false)
      (claims : s'.claims = s.claims) : ClaimStep s op s'
  | acquired {commit s' delegation lease}
      (delegated : s.core.delegations.get commit.delegationId = some delegation)
      (child : delegation.childRunId = commit.fence.runId) (held : s.core.heldLease commit.fence = some lease)
      (core : s'.core = s.core) (claims : s'.claims = s.claims.put commit.claimId commit.claim) :
      ClaimStep s (.acquireResourceClaim commit) s'
  | released {commit s' delegation lease} (delegated : s.core.delegations.get commit.delegationId = some delegation)
      (child : delegation.childRunId = commit.childFence.runId)
      (held : s.core.heldLease commit.childFence = some lease)
      (claims : s'.claims = s.claims.update fun _ claim =>
        if commit.releases claim then { claim with active := false } else claim) :
      ClaimStep s (.recordDelegationResult commit) s'

theorem claim_step {s'} (ok : op.transaction s = .ok s') :
    ClaimStep s op s' := by
  cases op with
  | daemon op => exact .same rfl (daemon_ok ok).2
  | promote commit ceiling => exact .same rfl (promote_ok ok).2
  | launch commit requested policy => exact .same rfl (launch_ok ok).2
  | startDelegation commit =>
    simp only [DelegationOperation.transaction, eq_ok] at ok
    obtain ⟨_, _, rfl⟩ := ok
    exact .same rfl rfl
  | prepareDelegation commit =>
    obtain ⟨_, _, _, rfl⟩ := prepareDelegation_ok ok
    exact .same rfl rfl
  | acquireResourceClaim commit =>
    obtain ⟨_, ⟨⟨delegation, _, _, lease⟩, fenced⟩, _, _, _, rfl⟩ := acquireResourceClaim_ok.mp ok
    obtain ⟨delegated, _, _, held, child, _⟩ := Store.ensureChildFence_ok.mp fenced
    exact .acquired delegated child held rfl rfl
  | recordDelegationResult commit =>
    obtain ⟨_, _, _, _, _, fenced, rfl⟩ := recordDelegationResult_ok ok
    obtain ⟨delegated, _, _, held, child, _⟩ := Store.ensureChildFence_ok.mp fenced
    exact .released delegated child held rfl

/-! ### Invariants -/

theorem ResourceClaim.Backed.step {s' : DelegationStore} {claim : ResourceClaim}
    (backed : claim.Backed s.core) (ok : op.transaction s = .ok s') : claim.Backed s'.core := by
  obtain ⟨⟨lease, found, run, owner, token⟩, ⟨delegation, stored, child⟩⟩ := backed
  constructor
  · have grows := Steps.grows (delegation_simulated ok)
    obtain ⟨grant, granted, sameRun, sameOwner, sameToken, _⟩ :=
      grows.grants claim.leaseId lease.grant (by simp [Store.leaseView, found])
    simp only [Store.leaseView, Option.map_eq_some_iff] at granted
    obtain ⟨lease', found', rfl⟩ := granted
    exact ⟨lease', found', sameRun.trans run, sameOwner.trans owner, sameToken.trans token⟩
  · obtain ⟨delegation', stored', same⟩ := (delegation_children_kept ok).kept _ _ stored
    exact ⟨delegation', stored', same.trans child⟩

theorem ChildrenKept.unique {s} (children : ChildrenKept s s')
    (unique : ∀ firstId secondId first second, s.delegations.get firstId = some first →
      s.delegations.get secondId = some second → first.childRunId = second.childRunId → firstId = secondId)
    {firstId secondId first second} (firstFound : s'.delegations.get firstId = some first)
    (secondFound : s'.delegations.get secondId = some second) (shared : first.childRunId = second.childRunId) :
    firstId = secondId := by
  rcases children.origin _ _ firstFound with ⟨firstBefore, firstStored, firstSame⟩ | alone
  · rcases children.origin _ _ secondFound with ⟨secondBefore, secondStored, secondSame⟩ | alone
    · exact unique _ _ _ _ firstStored secondStored (firstSame.symm.trans (shared.trans secondSame))
    · exact alone firstId first firstFound shared
  · exact (alone secondId second secondFound shared.symm).symm

theorem ClaimsValid.step {s' : DelegationStore} (valid : ClaimsValid s)
    (ok : op.transaction s = .ok s') : ClaimsValid s' := by
  refine ⟨fun _ _ _ _ => (delegation_children_kept ok).unique valid.unique, fun claimId claim found => ?_⟩
  have before (claim : ResourceClaim) (stored : s.claims.get claimId = some claim) : claim.Backed s'.core :=
    (valid.backed claimId claim stored).step ok
  cases claim_step ok with
  | same _ claims => exact before claim (by rw [← claims, found])
  | @acquired commit _ delegation lease stored child held core claims =>
    rw [claims, Table.get_put] at found
    split at found
    next =>
      cases found
      obtain ⟨leaseFound, run, owner, token, _⟩ := Store.heldLease_eq_some.mp held
      rw [core]
      exact ⟨⟨lease, leaseFound, run, owner, token⟩, ⟨delegation, stored, child⟩⟩
    next => exact before claim found
  | released stored child held claims =>
    rw [claims, Table.get_update, Option.map_eq_some_iff] at found
    obtain ⟨old, stored, rfl⟩ := found
    obtain ⟨leased, delegated⟩ := before old stored
    split <;> exact ⟨leased, delegated⟩

theorem claimsValid (reached : delegationSystem.Reachable s) : ClaimsValid s := by
  have start : ClaimsValid delegationSystem.initial :=
    ⟨fun _ _ _ _ found => by simp [delegationSystem] at found, fun _ _ found => by simp [delegationSystem] at found⟩
  exact reached.invariant start fun _ _ _ valid _ ok => valid.step (DelegationOperation.exec_eq_ok.mp ok).2

/-- The operation ends a lease, other than by a recorded result, while a claim is active
under it. -/
def DelegationOperation.strandsClaim (op : DelegationOperation) (s : DelegationStore) : Bool :=
  !op.releasesClaims && (op.retires s).any fun leaseId =>
    s.claims.any fun _ claim => claim.active ∧ claim.leaseId = leaseId

theorem DelegationOperation.strandsClaim_iff :
    op.strandsClaim s = true ↔ op.releasesClaims = false ∧ ∃ claimId claim, s.claims.get claimId = some claim ∧
      claim.active = true ∧ op.retires s = some claim.leaseId := by
  simp only [strandsClaim, Bool.and_eq_true, Bool.not_eq_true', Option.any_eq_true, Table.any_iff, decide_eq_true_eq]
  refine and_congr_right fun _ => ?_
  constructor
  · rintro ⟨leaseId, retired, claimId, claim, found, active, rfl⟩
    exact ⟨claimId, claim, found, active, retired⟩
  · rintro ⟨claimId, claim, found, active, retired⟩
    exact ⟨claim.leaseId, retired, claimId, claim, found, active, rfl⟩

def ResourceClaim.Held (claim : ResourceClaim) (s : Store) : Prop :=
  ∃ leaseId lease, s.leases.get leaseId = some lease ∧ lease.runId = claim.runId ∧ lease.state = .active ∧
    lease.fencingToken = claim.fencingToken

def ClaimsHeld (s : DelegationStore) : Prop :=
  ∀ claimId claim, s.claims.get claimId = some claim → claim.active = true → claim.Held s.core

def ClaimsLeased (s : DelegationStore) : Prop :=
  ∀ claimId claim, s.claims.get claimId = some claim → claim.active = true →
    ∃ lease, s.core.leases.get claim.leaseId = some lease ∧ lease.state = .active

theorem ClaimsLeased.held (leased : ClaimsLeased s) (valid : ClaimsValid s) : ClaimsHeld s := by
  intro claimId claim found active
  obtain ⟨lease, stored, live⟩ := leased claimId claim found active
  obtain ⟨lease', stored', run, _, token⟩ := (valid.backed claimId claim found).leased
  rw [stored] at stored'
  cases stored'
  exact ⟨claim.leaseId, lease, stored, run, live, token⟩

theorem LeaseFate.stays {s retired} (fate : LeaseFate s retired s') {leaseId lease}
    (found : s.leases.get leaseId = some lease) (active : lease.state = .active)
    (other : retired ≠ some leaseId) : ∃ lease', s'.leases.get leaseId = some lease' ∧ lease'.state = .active := by
  cases fate with
  | kept kept =>
    obtain ⟨lease', found', same⟩ := kept leaseId lease found
    refine ⟨lease', found', ?_⟩
    simpa [WorkLease.grant, active] using congrArg Grant.live same
  | @ended endedId _ ends =>
    obtain ⟨_, _, _, _, _, leases⟩ := ends
    refine ⟨lease, ?_, active⟩
    rw [leases, Table.get_put_ne _ _ (fun same => other (by rw [same])), found]

theorem released_elsewhere {commit : RecordDelegationResultCommit}
    {lease : WorkLease} {claimId : EventId} {claim : ResourceClaim} (valid : ClaimsValid s)
    (stored : s.core.delegations.get commit.delegationId = some delegation)
    (child : delegation.childRunId = commit.childFence.runId)
    (held : s.core.heldLease commit.childFence = some lease) (found : s.claims.get claimId = some claim)
    (active : claim.active = true) (remains : commit.releases claim = false) :
    claim.leaseId ≠ commit.childFence.leaseId := by
  intro same
  obtain ⟨leaseFound, run, owner, token, _⟩ := Store.heldLease_eq_some.mp held
  obtain ⟨⟨lease', leaseFound', claimRun, claimOwner, claimToken⟩, ⟨delegation', stored', claimChild⟩⟩ :=
    valid.backed claimId claim found
  rw [same, leaseFound] at leaseFound'
  cases leaseFound'
  have sameDelegation : claim.delegationId = commit.delegationId :=
    valid.unique _ _ _ _ stored' stored (claimChild.trans (claimRun.symm.trans (run.trans child.symm)))
  have releases : commit.releases claim = true := by
    simp only [RecordDelegationResultCommit.releases, decide_eq_true_eq]
    exact ⟨sameDelegation, claimRun.symm.trans run, active, same, claimOwner.symm.trans owner,
      claimToken.symm.trans token⟩
  cases releases.symm.trans remains

theorem ClaimsLeased.step {s' : DelegationStore} (leased : ClaimsLeased s)
    (valid : ClaimsValid s) (meets : op.strandsClaim s = false) (ok : op.transaction s = .ok s') : ClaimsLeased s' := by
  intro claimId claim found active
  have fate := delegation_lease_fate ok
  cases claim_step ok with
  | same keeps claims =>
    rw [claims] at found
    obtain ⟨lease, stored, live⟩ := leased claimId claim found active
    refine fate.stays stored live fun retired => ?_
    rw [DelegationOperation.strandsClaim_iff.mpr ⟨keeps, claimId, claim, found, active, retired⟩] at meets
    cases meets
  | @acquired commit _ delegation lease stored child held core claims =>
    rw [claims, Table.get_put] at found
    rw [core]
    split at found
    next =>
      cases found
      obtain ⟨leaseFound, _, _, _, live⟩ := Store.heldLease_eq_some.mp held
      exact ⟨lease, leaseFound, live⟩
    next => exact leased claimId claim found active
  | @released commit _ delegation lease stored child held claims =>
    rw [claims, Table.get_update, Option.map_eq_some_iff] at found
    obtain ⟨old, oldFound, rfl⟩ := found
    split at active
    next => cases active
    next remains =>
      rw [if_neg remains]
      obtain ⟨lease, leaseFound, live⟩ := leased claimId old oldFound active
      refine fate.stays leaseFound live fun retired => ?_
      exact released_elsewhere valid stored child held oldFound active (by simpa using remains)
        (Option.some.inj retired).symm

theorem claimsLeased
    (reached : delegationSystem.ReachableIf (fun op s => op.strandsClaim s = false) s) : ClaimsLeased s := by
  have start : ClaimsLeased delegationSystem.initial := fun _ _ found => by simp [delegationSystem] at found
  exact System.ReachableIf.invariant_with (fun _ => claimsValid) start
    (fun _ _ _ valid leased meets ok =>
      leased.step valid meets (DelegationOperation.exec_eq_ok.mp ok).2) reached

theorem stranded {s'} (reached : delegationSystem.Reachable s)
    (ok : op.transaction s = .ok s') (strands : op.strandsClaim s = true) : ¬ ClaimsHeld s' := by
  obtain ⟨keeps, claimId, claim, found, active, retired⟩ := DelegationOperation.strandsClaim_iff.mp strands
  have fate := delegation_lease_fate ok
  rw [retired] at fate
  intro held
  cases fate with
  | ended ends =>
    obtain ⟨lease, lease', leaseFound, live, dead, leases⟩ := ends
    have claims : s'.claims = s.claims := by
      cases claim_step ok with
      | same _ claims => exact claims
      | acquired => cases retired
      | released => cases keeps
    obtain ⟨otherId, other, otherFound, run, otherLive, _⟩ := held claimId claim (by rw [claims, found]) active
    rw [leases, Table.get_put] at otherFound
    split at otherFound
    next =>
      cases otherFound
      exact dead otherLive
    next apart =>
      -- The other lease was active before as well, beside the one that ended.
      obtain ⟨own, ownFound, ownRun, _⟩ := ((claimsValid reached).backed claimId claim found).leased
      cases leaseFound.symm.trans ownFound
      exact apart (active_lease_unique (delegation_leaseView_valid reached) otherFound leaseFound otherLive live
        (run.trans ownRun.symm))

/-- Claims follow leases in every run in which no lease ends under an active claim except
by a recorded result. A resource whose former holders hold no lease is then free for every
authorised child under a live fence. A step that does end a lease so breaks the property. -/
theorem resource_claims_follow_leases {s : DelegationStore} :
    (delegationSystem.ReachableIf (fun op s => op.strandsClaim s = false) s →
      ClaimsHeld s ∧
      ∀ (commit : AcquireResourceClaimCommit) (ceiling : CapabilityGrant),
        isCanonicalItem commit.resourceKey = true →
        (s.core.ensureChildFence commit.delegationId commit.fence commit.acquiredAt).isOk = true →
        s.ceilings.get commit.fence.runId = some ceiling → ceiling.validate = true →
        ceiling.authorizesClaim commit.resourceClass commit.resourceKey = true →
        s.claims.get commit.claimId = none →
        (∀ claimId claim, s.claims.get claimId = some claim → claim.resourceClass = commit.resourceClass →
          claim.resourceKey = commit.resourceKey → ¬ claim.Held s.core) →
        ∃ s', delegationSystem.exec (.acquireResourceClaim commit) s = .ok s') ∧
    ∀ (op : DelegationOperation) (s' : DelegationStore), delegationSystem.Reachable s →
      delegationSystem.exec op s = .ok s' → op.strandsClaim s = true → ¬ ClaimsHeld s' := by
  refine ⟨fun reached => ?_, fun op s' reached committed strands =>
    stranded reached (DelegationOperation.exec_eq_ok.mp committed).2 strands⟩
  have held := (claimsLeased reached).held (claimsValid reached.reachable)
  refine ⟨held, fun commit ceiling canonical fenced granted valid authorized fresh ended => ?_⟩
  have free : s.isClaimed commit.resourceClass commit.resourceKey = false := by
    rw [DelegationStore.isClaimed, Table.any_eq_false]
    intro claimId claim found
    simp only [decide_eq_false_iff_not]
    rintro ⟨active, sameClass, sameKey⟩
    exact ended claimId claim found sameClass sameKey (held claimId claim found active)
  obtain ⟨row, loaded⟩ : ∃ row, s.core.ensureChildFence commit.delegationId commit.fence commit.acquiredAt =
      .ok row := by
    cases loaded : s.core.ensureChildFence commit.delegationId commit.fence commit.acquiredAt with
    | error => simp [loaded, Except.isOk, Except.toBool] at fenced
    | ok row => exact ⟨row, rfl⟩
  exact ⟨_, acquireResourceClaim_ok.mpr ⟨canonical, ⟨row, loaded⟩, ⟨ceiling, granted, valid, authorized⟩, fresh, free,
    rfl⟩⟩

def sampleCeiling : CapabilityGrant := { effectClasses := [.idempotent], maximumDelegatedRuns := 1 }

def sampleClaim : AcquireResourceClaimCommit := ⟨sampleChildFence, ⟨0⟩, ⟨0⟩, .memoryNamespace, "notes", 26⟩

def claimedResource : List DelegationOperation :=
  [.daemon (.createSession ⟨⟨0⟩, sampleOwner⟩) rfl,
   .daemon (.admitInput ⟨⟨0⟩, sampleOwner, ⟨0⟩, "first", .queue, "hello", 10⟩) rfl,
   .promote ⟨⟨0⟩, sampleOwner, ⟨0⟩, ⟨0⟩, ⟨0⟩, .named "assistant", false, 10⟩ sampleCeiling,
   .daemon (.claimNext ⟨⟨0⟩, ⟨0⟩, 20, 100000, ⟨5, 5, 5⟩⟩) rfl,
   .daemon (.prepareModelAttempt ⟨sampleFence, ⟨0⟩, 1, [⟨0⟩], sampleLimits, 10, 10, 10, 100, 20, 20, 5000⟩) rfl,
   .daemon (.dispatchModelAttempt ⟨sampleFence, ⟨0⟩, 100, 21⟩) rfl,
   .daemon (.recordModelResult ⟨sampleFence, ⟨0⟩, .toolCall .agentDelegate "\x7b\x7d", ⟨1, 1, 1⟩, 10, 22⟩) rfl,
   .daemon (.prepareReadTool
     ⟨sampleFence, ⟨0⟩, ⟨0⟩, ⟨.agentDelegate, 300000, 65536⟩, "\x7b\x7d", 23⟩) rfl,
   .launch ⟨sampleFence, ⟨0⟩, ⟨0⟩, ⟨1⟩, ⟨1⟩, ⟨1⟩, ⟨1⟩, "work package", false, 24⟩ sampleCeiling sampleCeiling,
   .daemon (.claimNext ⟨⟨1⟩, ⟨0⟩, 25, 200000, ⟨5, 5, 5⟩⟩) rfl,
   .acquireResourceClaim sampleClaim]

def sampleChildFailure : CompleteRunCommit := ⟨sampleChildFence, .failed, "child failed", none, 30⟩

theorem resource_claims_follow_leases_child :
    ∃ (s s' : DelegationStore) (claim : ResourceClaim), s.claims.get ⟨0⟩ = some claim ∧ claim.active = true ∧
      claim.Held s.core ∧ delegationSystem.exec (.daemon (.completeRun sampleChildFailure) rfl) s = .ok s' ∧
      ¬ ClaimsHeld s' := by
  obtain ⟨s, s', reached, step, claimed, strands⟩ : ∃ s s' : DelegationStore,
      delegationSystem.ReachableIf (fun op s => op.strandsClaim s = false) s ∧
      delegationSystem.exec (.daemon (.completeRun sampleChildFailure) rfl) s = .ok s' ∧
      (s.claims.get ⟨0⟩).any (fun claim => claim.active) = true ∧
      DelegationOperation.strandsClaim (.daemon (.completeRun sampleChildFailure) rfl) s = true :=
    System.exists_step claimedResource (by decide +kernel)
  obtain ⟨claim, found, active⟩ := (Option.any_eq_true ..).mp claimed
  exact ⟨s, s', claim, found, active, (resource_claims_follow_leases.1 reached).1 _ _ found active, step,
    resource_claims_follow_leases.2 _ _ reached.reachable step strands⟩

/-- A child that completes through the scheduler keeps its claim: the run has ended, its
lease is released, and the resource stays claimed. -/
theorem completed_child_keeps_claim :
    ∃ (s : DelegationStore) (claim : ResourceClaim) (run : Run), delegationSystem.Reachable s ∧
      s.claims.get ⟨0⟩ = some claim ∧ claim.active = true ∧ s.core.runs.get claim.runId = some run ∧
      run.status = .failed ∧ s.isClaimed claim.resourceClass claim.resourceKey = true ∧
      ∀ leaseId lease, s.core.leases.get leaseId = some lease → lease.runId = claim.runId → lease.state ≠ .active := by
  obtain ⟨s, reached, claimed, idle⟩ : ∃ s : DelegationStore, delegationSystem.Reachable s ∧
      (s.claims.get ⟨0⟩).any (fun claim => claim.active ∧ claim.runId = ⟨1⟩ ∧
        (s.core.runs.get claim.runId).any (fun run => run.status = .failed) ∧
        s.isClaimed claim.resourceClass claim.resourceKey) = true ∧
      (s.core.leases.any fun _ lease => lease.runId = ⟨1⟩ ∧ lease.state = .active) = false :=
    System.exists_reachableIf (claimedResource ++ [.daemon (.completeRun sampleChildFailure) rfl]) (by decide +kernel)
  simp only [Option.any_eq_true, decide_eq_true_eq] at claimed
  obtain ⟨claim, found, active, ofChild, ⟨run, runFound, failed⟩, stays⟩ := claimed
  refine ⟨s, claim, run, reached, found, active, runFound, failed, stays, fun leaseId lease stored of live => ?_⟩
  simpa [of, ofChild, live] using (Table.any_eq_false ..).mp idle _ _ stored

end Mealy
