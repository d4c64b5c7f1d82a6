import Mealy.Store.Frames

/-! The delegation port (`delegation.rs`) beside the operations of the daemon: a
delegation may also be prepared without a turn, started under its own lease and ended
by a recorded result, and a child under a live fence may claim resources. The state
adds the capability ceilings of the runs and the resource claims. -/

namespace Mealy
open Relational Transaction

/-! ### Capabilities -/

/-- `char::is_whitespace`: the Unicode property `White_Space`. -/
def isWhitespace (c : Char) : Bool :=
  let n := c.toNat
  (9 ≤ n ∧ n ≤ 13) ∨ n = 0x20 ∨ n = 0x85 ∨ n = 0xA0 ∨ n = 0x1680 ∨ (0x2000 ≤ n ∧ n ≤ 0x200A) ∨
    n = 0x2028 ∨ n = 0x2029 ∨ n = 0x202F ∨ n = 0x205F ∨ n = 0x3000

def isControl (c : Char) : Bool := c.toNat < 0x20 ∨ (0x7F ≤ c.toNat ∧ c.toNat < 0xA0)

def isTrimmed (text : String) : Bool :=
  text.toList.head?.all (fun c => !isWhitespace c) ∧ text.toList.getLast?.all fun c => !isWhitespace c

def isCanonicalItem (text : String) : Bool :=
  text ≠ "" ∧ text.utf8ByteSize ≤ 1024 ∧ isTrimmed text ∧ text.toList.all fun c => !isControl c

inductive PolicyProfile where
  | observe | workspaceWrite | networked | serviceOperator | fullTrust
deriving DecidableEq

def EffectClass.isMutating : EffectClass → Bool
  | .readOnly => false
  | .reversible | .idempotent | .nonIdempotent => true

structure CapabilityGrant where
  tools : List String := []
  effectClasses : List EffectClass := []
  workspaceRoots : List String := []
  writableWorkspaceRoots : List String := []
  networkDestinations : List String := []
  executableIdentityDigests : List String := []
  secretReferences : List String := []
  profiles : List PolicyProfile := []
  maximumDelegatedRuns : Nat := 0
deriving DecidableEq

namespace CapabilityGrant

/-- The sets of a grant are lists without repetition. -/
def validate (grant : CapabilityGrant) : Bool :=
  [grant.tools, grant.workspaceRoots, grant.writableWorkspaceRoots, grant.networkDestinations,
    grant.executableIdentityDigests, grant.secretReferences].all (fun items =>
      items.length ≤ 256 ∧ items.all isCanonicalItem) ∧
  grant.effectClasses.length ≤ 256 ∧ grant.profiles.length ≤ 256 ∧
  grant.writableWorkspaceRoots ⊆ grant.workspaceRoots

def intersection3 {α : Type} [DecidableEq α] (first second third : List α) : List α :=
  first.filter fun item => item ∈ second ∧ item ∈ third

/-- The child's authority: parent, request and policy intersected, one delegation used. -/
def intersectForChild (grant requested policy : CapabilityGrant) : CapabilityGrant where
  tools := intersection3 grant.tools requested.tools policy.tools
  effectClasses := intersection3 grant.effectClasses requested.effectClasses policy.effectClasses
  workspaceRoots := intersection3 grant.workspaceRoots requested.workspaceRoots policy.workspaceRoots
  writableWorkspaceRoots :=
    intersection3 grant.writableWorkspaceRoots requested.writableWorkspaceRoots policy.writableWorkspaceRoots
  networkDestinations :=
    intersection3 grant.networkDestinations requested.networkDestinations policy.networkDestinations
  executableIdentityDigests :=
    intersection3 grant.executableIdentityDigests requested.executableIdentityDigests policy.executableIdentityDigests
  secretReferences := intersection3 grant.secretReferences requested.secretReferences policy.secretReferences
  profiles := intersection3 grant.profiles requested.profiles policy.profiles
  maximumDelegatedRuns :=
    min (min (grant.maximumDelegatedRuns - 1) requested.maximumDelegatedRuns) policy.maximumDelegatedRuns

def contains (grant child : CapabilityGrant) : Bool :=
  child.tools ⊆ grant.tools ∧ child.effectClasses ⊆ grant.effectClasses ∧
    child.workspaceRoots ⊆ grant.workspaceRoots ∧ child.writableWorkspaceRoots ⊆ grant.writableWorkspaceRoots ∧
    child.networkDestinations ⊆ grant.networkDestinations ∧
    child.executableIdentityDigests ⊆ grant.executableIdentityDigests ∧
    child.secretReferences ⊆ grant.secretReferences ∧ child.profiles ⊆ grant.profiles ∧
    child.maximumDelegatedRuns ≤ grant.maximumDelegatedRuns

end CapabilityGrant

/-! ### The extended store -/

inductive ResourceClass where
  | workspaceWrite | serviceMutation | memoryNamespace | device
deriving DecidableEq

structure ResourceClaim where
  runId : RunId
  delegationId : DelegationId
  resourceClass : ResourceClass
  resourceKey : String
  active : Bool
  leaseId : LeaseId
  ownerId : WorkerId
  fencingToken : Nat
  acquiredAt : Millis

structure DelegationStore where
  core : Store := {}
  ceilings : Table RunId CapabilityGrant := .empty
  claims : Table EventId ResourceClaim := .empty

abbrev DelegationTxn := Except StoreError DelegationStore

def DelegationStore.childCeiling (s : DelegationStore) (parentRunId : RunId) (requested policy : CapabilityGrant) :
    Except StoreError CapabilityGrant := do
  ensure (requested.validate ∧ policy.validate) (.invariantViolation "delegation contract is invalid")
  let ceiling ← require (s.ceilings.get parentRunId) (.invariantViolation "parent capability ceiling is invalid")
  ensure ceiling.validate (.invariantViolation "parent capability ceiling is not canonical")
  ensure (ceiling.maximumDelegatedRuns ≠ 0) (.budgetExceeded "parent run has no delegation authority")
  pure (ceiling.intersectForChild requested policy)

structure PrepareDelegationCommit where
  parentFence : LeaseFence
  delegationId : DelegationId
  childTaskId : TaskId
  childRunId : RunId
  parentToolCallId : ToolCallId
  validationRequired : Bool
  (requestedCapabilities policyCapabilities : CapabilityGrant)
  preparedAt : Millis

/-- The part of the contract that `insert_delegation_graph` reads; no turn goes with it. -/
def PrepareDelegationCommit.contract (commit : PrepareDelegationCommit) : LaunchAgentDelegationCommit where
  parentFence := commit.parentFence
  parentToolCallId := commit.parentToolCallId
  delegationId := commit.delegationId
  childTaskId := commit.childTaskId
  childRunId := commit.childRunId
  childTurnId := ⟨0⟩
  childInboxEntryId := ⟨0⟩
  packageText := ""
  validationRequired := commit.validationRequired
  preparedAt := commit.preparedAt

def prepareDelegation (commit : PrepareDelegationCommit) (s : DelegationStore) : DelegationTxn := do
  ensure (commit.childRunId ≠ commit.parentFence.runId) (.invariantViolation "delegation contract is invalid")
  let _ ← s.core.loadParent commit.parentFence commit.preparedAt
  let ceiling ← s.childCeiling commit.parentFence.runId commit.requestedCapabilities commit.policyCapabilities
  let core ← insertDelegationGraph commit.contract s.core
  pure { s with core, ceilings := s.ceilings.put commit.childRunId ceiling }

structure StartDelegationCommit where
  delegationId : DelegationId
  leaseId : LeaseId
  ownerId : WorkerId
  (startedAt expiresAt : Millis)

def startDelegationLease (commit : StartDelegationCommit) (s : Store) : Txn := do
  ensure (commit.startedAt < commit.expiresAt) .conflict
  let delegation ← require (s.delegations.get commit.delegationId) .conflict
  let run ← require (s.runs.get delegation.childRunId) .conflict
  let task ← require (s.tasks.get delegation.childTaskId) .conflict
  ensure (delegation.state = .queued ∧ run.status = .queued ∧ task.status = .queued) .conflict
  let token ← nextToken run.currentFencingToken "child fencing token overflow"
  let leased ← insertLease commit.leaseId
    { runId := delegation.childRunId, ownerId := commit.ownerId, fencingToken := token, state := .active,
      acquiredAt := commit.startedAt, heartbeatAt := commit.startedAt, expiresAt := commit.expiresAt,
      releasedAt := none } s
  pure { leased with
    runs := leased.runs.put delegation.childRunId { run with status := .running, currentFencingToken := token },
    tasks := leased.tasks.put delegation.childTaskId
      { task with status := .running, revision := task.revision + 1 },
    delegations := leased.delegations.put commit.delegationId { delegation with state := .running } }

def Store.ensureChildFence (s : Store) (delegationId : DelegationId) (fence : LeaseFence) (observedAt : Millis) :
    Except StoreError (Delegation × Run × Task × WorkLease) := do
  let delegation ← require (s.delegations.get delegationId) .staleFence
  let run ← require (s.runningUnder fence) .staleFence
  let task ← require (s.tasks.get delegation.childTaskId) .staleFence
  let lease ← require (s.heldLease fence) .staleFence
  ensure (delegation.childRunId = fence.runId ∧ delegation.state = .running ∧ task.status = .running ∧
    lease.acquiredAt ≤ observedAt ∧ observedAt < lease.expiresAt) .staleFence
  pure (delegation, run, task, lease)

structure AcquireResourceClaimCommit where
  fence : LeaseFence
  delegationId : DelegationId
  claimId : EventId
  resourceClass : ResourceClass
  resourceKey : String
  acquiredAt : Millis

def isUnderRoot (root key : String) : Bool :=
  key = root ∨ (root.toList.isPrefixOf key.toList ∧ (key.toList.drop root.toList.length).head? = some '/')

def CapabilityGrant.authorizesClaim (grant : CapabilityGrant) (resourceClass : ResourceClass) (key : String) : Bool :=
  let mutating := grant.effectClasses.any EffectClass.isMutating
  match resourceClass with
  | .workspaceWrite =>
    mutating ∧ PolicyProfile.workspaceWrite ∈ grant.profiles ∧ grant.workspaceRoots.any fun root => isUnderRoot root key
  | .serviceMutation => mutating ∧ PolicyProfile.serviceOperator ∈ grant.profiles
  | .memoryNamespace => mutating
  | .device => mutating ∧ PolicyProfile.fullTrust ∈ grant.profiles

def DelegationStore.isClaimed (s : DelegationStore) (resourceClass : ResourceClass) (key : String) : Bool :=
  s.claims.any fun _ claim => claim.active ∧ claim.resourceClass = resourceClass ∧ claim.resourceKey = key

def acquireResourceClaim (commit : AcquireResourceClaimCommit) (s : DelegationStore) : DelegationTxn := do
  ensure (isCanonicalItem commit.resourceKey) .conflict
  let _ ← s.core.ensureChildFence commit.delegationId commit.fence commit.acquiredAt
  let ceiling ← require (s.ceilings.get commit.fence.runId)
    (.invariantViolation "delegated child capabilities are invalid")
  ensure ceiling.validate (.invariantViolation "delegated child capabilities are non-canonical")
  ensure (ceiling.authorizesClaim commit.resourceClass commit.resourceKey) .conflict
  -- The primary key, and `resource_claim_one_active_owner_idx`.
  ensure (s.claims.get commit.claimId = none ∧ !s.isClaimed commit.resourceClass commit.resourceKey) .conflict
  pure { s with
    claims := s.claims.put commit.claimId
      { runId := commit.fence.runId, delegationId := commit.delegationId, resourceClass := commit.resourceClass,
        resourceKey := commit.resourceKey, active := true, leaseId := commit.fence.leaseId,
        ownerId := commit.fence.ownerId, fencingToken := commit.fence.fencingToken, acquiredAt := commit.acquiredAt } }

structure RecordDelegationResultCommit where
  childFence : LeaseFence
  delegationId : DelegationId
  result : Json.Value
  succeeded : Bool
  completedAt : Millis

/-- `canonical_object` and the bound of the result column. -/
def RecordDelegationResultCommit.wellFormed (commit : RecordDelegationResultCommit) : Bool :=
  match commit.result with
  | .object fields => fields ≠ [] ∧ commit.result.size ≤ 262144
  | _ => false

def RecordDelegationResultCommit.releases (commit : RecordDelegationResultCommit) (claim : ResourceClaim) : Bool :=
  claim.delegationId = commit.delegationId ∧ claim.runId = commit.childFence.runId ∧ claim.active ∧
    claim.leaseId = commit.childFence.leaseId ∧ claim.ownerId = commit.childFence.ownerId ∧
    claim.fencingToken = commit.childFence.fencingToken

/-- The child ends and the parent's reservation of it is settled. -/
def endDelegatedRun (commit : RecordDelegationResultCommit) (delegation : Delegation) (run : Run) (task : Task)
    (lease : WorkLease) (s : Store) : Txn := do
  -- `completed_at_ms >= created_at_ms` of the run and of the delegation.
  ensure (run.createdAt ≤ commit.completedAt ∧ delegation.createdAt ≤ commit.completedAt) .conflict
  ensure (commit.succeeded = true → s.validationGate delegation.childTaskId task) .conflict
  putBudget delegation.parentRunId (fun budget => budget.settle { delegatedRuns := 1 } { delegatedRuns := 1 })
    .conflict
    { s with
      leases := s.leases.put commit.childFence.leaseId
        { lease with state := .released, releasedAt := some commit.completedAt },
      runs := s.runs.put commit.childFence.runId
        { run with status := if commit.succeeded then .succeeded else .failed },
      tasks := s.tasks.put delegation.childTaskId
        { task with
          status := if commit.succeeded then .succeeded else .failed, revision := task.revision + 1 },
      delegations := s.delegations.put commit.delegationId
        { delegation with state := if commit.succeeded then .succeeded else .failed } }

def recordDelegationResult (commit : RecordDelegationResultCommit) (s : DelegationStore) : DelegationTxn := do
  ensure commit.wellFormed (.invariantViolation "delegation result is not a nonempty object")
  let (delegation, run, task, lease) ←
    s.core.ensureChildFence commit.delegationId commit.childFence commit.completedAt
  -- `released_at_ms >= acquired_at_ms` of every released claim.
  ensure (!(s.claims.any fun _ claim => commit.releases claim ∧ commit.completedAt < claim.acquiredAt)) .conflict
  let core ← endDelegatedRun commit delegation run task lease s.core
  pure { s with
    core,
    claims := s.claims.update fun _ claim => if commit.releases claim then { claim with active := false } else claim }

/-! ### The system -/

def Operation.insertsRun : Operation → Bool
  | .promoteNext _ | .launchAgentDelegation _ => true
  | _ => false

/-- Every operation of the daemon, with the ceilings of the runs that it inserts, and
the operations of the delegation port that the daemon does not issue. -/
inductive DelegationOperation where
  | daemon (op : Operation) (runless : op.insertsRun = false)
  | promote (commit : PromotionCommit) (ceiling : CapabilityGrant)
  | launch (commit : LaunchAgentDelegationCommit) (requested policy : CapabilityGrant)
  | prepareDelegation (commit : PrepareDelegationCommit)
  | startDelegation (commit : StartDelegationCommit)
  | acquireResourceClaim (commit : AcquireResourceClaimCommit)
  | recordDelegationResult (commit : RecordDelegationResultCommit)

namespace DelegationOperation

/-- The guarantees of the daemon about its own calls. -/
def Issued (op : DelegationOperation) (s : DelegationStore) : Prop :=
  match op with
  | daemon op _ => op.Issued s.core
  | promote commit _ => (Operation.promoteNext commit).Issued s.core
  | _ => True

instance (op : DelegationOperation) (s : DelegationStore) : Decidable (op.Issued s) := by
  unfold Issued
  split <;> infer_instance

def transaction (op : DelegationOperation) (s : DelegationStore) : DelegationTxn :=
  match op with
  | daemon op _ => do
    let core ← op.transaction s.core
    pure { s with core }
  | promote commit ceiling => do
    let core ← (Operation.promoteNext commit).transaction s.core
    -- A promotion that steers, interrupts or finds nothing to do inserts no run.
    pure { s with
      core,
      ceilings := if (s.core.runs.get commit.runId).isNone ∧ (core.runs.get commit.runId).isSome
        then s.ceilings.put commit.runId ceiling else s.ceilings }
  | launch commit requested policy => do
    let ceiling ← s.childCeiling commit.parentFence.runId requested policy
    let core ← (Operation.launchAgentDelegation commit).transaction s.core
    pure { s with core, ceilings := s.ceilings.put commit.childRunId ceiling }
  | prepareDelegation commit => Mealy.prepareDelegation commit s
  | startDelegation commit => do
    let core ← startDelegationLease commit s.core
    pure { s with core }
  | acquireResourceClaim commit => Mealy.acquireResourceClaim commit s
  | recordDelegationResult commit => Mealy.recordDelegationResult commit s

def exec (op : DelegationOperation) (s : DelegationStore) : DelegationTxn := do
  ensure (op.Issued s) (.invariantViolation "the daemon does not issue this operation")
  op.transaction s

theorem exec_eq_ok {op : DelegationOperation} {s s' : DelegationStore} :
    op.exec s = .ok s' ↔ op.Issued s ∧ op.transaction s = .ok s' := by
  simp [exec]

end DelegationOperation

/-! ### Committed transactions -/

theorem daemon_ok {op runless s s'} (ok : DelegationOperation.transaction (.daemon op runless) s = .ok s') :
    op.transaction s.core = .ok s'.core ∧ s'.claims = s.claims := by
  simp only [DelegationOperation.transaction, eq_ok] at ok
  obtain ⟨_, ok, rfl⟩ := ok
  exact ⟨ok, rfl⟩

theorem promote_ok {commit ceiling s s'}
    (ok : DelegationOperation.transaction (.promote commit ceiling) s = .ok s') :
    (Operation.promoteNext commit).transaction s.core = .ok s'.core ∧ s'.claims = s.claims := by
  simp only [DelegationOperation.transaction, eq_ok] at ok
  obtain ⟨_, ok, rfl⟩ := ok
  exact ⟨ok, rfl⟩

theorem launch_ok {commit requested policy s s'}
    (ok : DelegationOperation.transaction (.launch commit requested policy) s = .ok s') :
    (Operation.launchAgentDelegation commit).transaction s.core = .ok s'.core ∧ s'.claims = s.claims := by
  simp only [DelegationOperation.transaction, eq_ok] at ok
  obtain ⟨_, _, _, ok, rfl⟩ := ok
  exact ⟨ok, rfl⟩

theorem insertDelegationGraph_ok {commit s s'} (ok : insertDelegationGraph commit s = .ok s') :
    ∃ budgets, s.tasks.get commit.childTaskId = none ∧ s.runs.get commit.childRunId = none ∧
      s.delegations.get commit.delegationId = none ∧
      (∀ otherId other, s.delegations.get otherId = some other →
        other.childRunId ≠ commit.childRunId ∧ other.childTaskId ≠ commit.childTaskId) ∧
      s' = { s with
        budgets,
        tasks := s.tasks.put commit.childTaskId commit.childTask,
        runs := s.runs.put commit.childRunId commit.childRun,
        delegations := s.delegations.put commit.delegationId commit.delegation } := by
  simp only [insertDelegationGraph, eq_ok, putBudget_ok, Bool.not_eq_true', Table.any_eq_false, decide_eq_false_iff_not, not_or] at ok
  obtain ⟨_, ⟨_, _, _, _, rfl⟩, _, ⟨freshTask, freshRun, freshDelegation, unique⟩, rfl⟩ := ok
  exact ⟨_, freshTask, freshRun, freshDelegation, unique, rfl⟩

theorem prepareDelegation_ok {commit s s'} (ok : prepareDelegation commit s = .ok s') :
    ∃ core ceiling, insertDelegationGraph commit.contract s.core = .ok core ∧
      s' = { s with core, ceilings := s.ceilings.put commit.childRunId ceiling } := by
  simp only [prepareDelegation, eq_ok] at ok
  obtain ⟨_, _, _, _, ceiling, _, core, inserted, rfl⟩ := ok
  exact ⟨core, ceiling, inserted, rfl⟩

theorem startDelegationLease_ok {commit s s'} (ok : startDelegationLease commit s = .ok s') :
    ∃ delegation run task, s.delegations.get commit.delegationId = some delegation ∧
      s.runs.get delegation.childRunId = some run ∧ s.tasks.get delegation.childTaskId = some task ∧
      run.status = .queued ∧ task.status = .queued ∧ s.leases.get commit.leaseId = none ∧
      s' = { s with
        leases := s.leases.put commit.leaseId
          { runId := delegation.childRunId, ownerId := commit.ownerId, fencingToken := run.currentFencingToken + 1,
            state := .active, acquiredAt := commit.startedAt, heartbeatAt := commit.startedAt,
            expiresAt := commit.expiresAt, releasedAt := none },
        runs := s.runs.put delegation.childRunId
          { run with status := .running, currentFencingToken := run.currentFencingToken + 1 },
        tasks := s.tasks.put delegation.childTaskId { task with status := .running, revision := task.revision + 1 },
        delegations := s.delegations.put commit.delegationId { delegation with state := .running } } := by
  simp only [startDelegationLease, insertLease, eq_ok, nextToken_eq_ok] at ok
  obtain ⟨_, _, delegation, found, run, runFound, task, taskFound, _, ⟨_, runQueued, taskQueued⟩, _, ⟨_, rfl⟩, _,
    ⟨_, ⟨fresh, _⟩, rfl⟩, rfl⟩ := ok
  exact ⟨delegation, run, task, found, runFound, taskFound, runQueued, taskQueued, fresh, rfl⟩

theorem Store.ensureChildFence_ok {s : Store} {delegationId : DelegationId} {fence : LeaseFence} {at_ : Millis}
    {delegation : Delegation} {run : Run} {task : Task} {lease : WorkLease} :
    s.ensureChildFence delegationId fence at_ = .ok (delegation, run, task, lease) ↔
      s.delegations.get delegationId = some delegation ∧ s.runningUnder fence = some run ∧
      s.tasks.get delegation.childTaskId = some task ∧ s.heldLease fence = some lease ∧
      delegation.childRunId = fence.runId ∧ delegation.state = .running ∧ task.status = .running ∧
      lease.acquiredAt ≤ at_ ∧ at_ < lease.expiresAt := by
  simp only [ensureChildFence, eq_ok, Prod.mk.injEq]
  constructor
  · rintro ⟨_, found, _, under, _, taskFound, _, held, _, current, rfl, rfl, rfl, rfl⟩
    exact ⟨found, under, taskFound, held, current⟩
  · rintro ⟨found, under, taskFound, held, current⟩
    exact ⟨_, found, _, under, _, taskFound, _, held, ⟨⟩, current, rfl, rfl, rfl, rfl⟩

/-- The row that an acquisition inserts. -/
def AcquireResourceClaimCommit.claim (commit : AcquireResourceClaimCommit) : ResourceClaim where
  runId := commit.fence.runId
  delegationId := commit.delegationId
  resourceClass := commit.resourceClass
  resourceKey := commit.resourceKey
  active := true
  leaseId := commit.fence.leaseId
  ownerId := commit.fence.ownerId
  fencingToken := commit.fence.fencingToken
  acquiredAt := commit.acquiredAt

theorem acquireResourceClaim_ok {commit s s'} :
    acquireResourceClaim commit s = .ok s' ↔ isCanonicalItem commit.resourceKey = true ∧
      (∃ row, s.core.ensureChildFence commit.delegationId commit.fence commit.acquiredAt = .ok row) ∧
      (∃ ceiling, s.ceilings.get commit.fence.runId = some ceiling ∧ ceiling.validate = true ∧
        ceiling.authorizesClaim commit.resourceClass commit.resourceKey = true) ∧
      s.claims.get commit.claimId = none ∧ s.isClaimed commit.resourceClass commit.resourceKey = false ∧
      s' = { s with claims := s.claims.put commit.claimId commit.claim } := by
  simp only [acquireResourceClaim, eq_ok, Bool.not_eq_true']
  constructor
  · rintro ⟨_, canonical, row, fenced, ceiling, granted, _, valid, _, authorized, _, ⟨fresh, free⟩, rfl⟩
    exact ⟨canonical, ⟨row, fenced⟩, ⟨ceiling, granted, valid, authorized⟩, fresh, free, rfl⟩
  · rintro ⟨canonical, ⟨row, fenced⟩, ⟨ceiling, granted, valid, authorized⟩, fresh, free, rfl⟩
    exact ⟨⟨⟩, canonical, row, fenced, ceiling, granted, ⟨⟩, valid, ⟨⟩, authorized, ⟨⟩, ⟨fresh, free⟩, rfl⟩

theorem recordDelegationResult_ok {commit s s'} (ok : recordDelegationResult commit s = .ok s') :
    ∃ delegation run task lease budgets,
      s.core.ensureChildFence commit.delegationId commit.childFence commit.completedAt =
        .ok (delegation, run, task, lease) ∧
      s' = { s with
        core := { s.core with
          budgets,
          leases := s.core.leases.put commit.childFence.leaseId
            { lease with state := .released, releasedAt := some commit.completedAt },
          runs := s.core.runs.put commit.childFence.runId
            { run with status := if commit.succeeded then .succeeded else .failed },
          tasks := s.core.tasks.put delegation.childTaskId
            { task with
              status := if commit.succeeded then .succeeded else .failed, revision := task.revision + 1 },
          delegations := s.core.delegations.put commit.delegationId
            { delegation with state := if commit.succeeded then .succeeded else .failed } },
        claims := s.claims.update fun _ claim =>
          if commit.releases claim then { claim with active := false } else claim } := by
  simp only [recordDelegationResult, endDelegatedRun, eq_ok, putBudget_ok] at ok
  obtain ⟨_, _, ⟨delegation, run, task, lease⟩, fenced, _, _, _, ⟨_, _, _, _, _, _, _, _, rfl⟩, rfl⟩ := ok
  exact ⟨delegation, run, task, lease, _, fenced, rfl⟩

def delegationSystem : System StoreError DelegationStore DelegationOperation where
  initial := {}
  exec := DelegationOperation.exec

end Mealy
