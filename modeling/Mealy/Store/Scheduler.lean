import Mealy.Store.Effects

/-! Claiming, renewing and releasing work (`scheduler.rs`). A claim takes the first
runnable run, a fence names the lease it created, and giving a lease up bumps the
token of its run. -/

namespace Mealy
open Relational Transaction

structure LeaseConcurrencyLimits where
  (maximumPerPrincipal maximumPerSession maximumPerAgentRole : Nat)

def Store.sessionOfRun (s : Store) (runId : RunId) : Option (SessionId × Session) :=
  match s.turnOfRun runId with
  | none => none
  | some (_, turn) => (s.sessions.get turn.sessionId).map fun session => (turn.sessionId, session)

def WorkLease.isLive (lease : WorkLease) (now : Millis) : Bool :=
  lease.state = .active ∧ now < lease.expiresAt

/-- The three concurrency counts of `load_runnable` for a candidate run. -/
def Store.withinLimits (s : Store) (now : Millis) (limits : LeaseConcurrencyLimits) (runId : RunId)
    (run : Run) : Bool :=
  (s.sessionOfRun runId).any fun (sessionId, session) =>
    s.leases.count (fun _ lease => lease.isLive now ∧
        (s.sessionOfRun lease.runId).any fun owner => owner.2.principalId = session.principalId)
      < limits.maximumPerPrincipal ∧
    s.leases.count (fun _ lease => lease.isLive now ∧
        (s.turnOfRun lease.runId).any fun active => active.2.sessionId = sessionId)
      < limits.maximumPerSession ∧
    s.leases.count (fun _ lease => lease.isLive now ∧
        (s.runs.get lease.runId).any fun active => active.agentRole = run.agentRole)
      < limits.maximumPerAgentRole

def TaskStatus.admitsClaim : TaskStatus → Bool
  | .queued | .running | .cancelling => true
  | .waiting | .paused | .succeeded | .failed | .cancelled => false

def Store.delegationAdmitsClaim (s : Store) (runId : RunId) (run : Run) : Bool :=
  match s.delegationOfChild runId with
  | none => run.agentRole ≠ .delegate
  | some (_, delegation) => run.agentRole = .delegate ∧ delegation.state = .queued

def Store.selectable (s : Store) (runId : RunId) (run : Run) : Bool :=
  run.status = .queued ∧
  (s.tasks.get run.taskId).any (fun task => task.status.admitsClaim) ∧
  (s.sessionOfRun runId).isSome ∧
  s.delegationAdmitsClaim runId run ∧
  !s.hasActiveLease runId

def Run.retryDue (run : Run) (now : Millis) : Bool := run.nextAttemptAt.all fun at_ => at_ ≤ now

/-- `load_runnable`'s predicate. -/
def Store.runnable (s : Store) (now : Millis) (limits : LeaseConcurrencyLimits) (runId : RunId)
    (run : Run) : Bool :=
  s.selectable runId run ∧ run.retryDue now ∧ s.withinLimits now limits runId run

/-- `ORDER BY COALESCE(next_attempt_at_ms, created_at_ms), created_at_ms, id`. -/
def claimsBefore (a b : RunId × Run) : Bool :=
  let due (run : Run) := run.nextAttemptAt.getD run.createdAt
  due a.2 < due b.2 ∨ (due a.2 = due b.2 ∧
    (a.2.createdAt < b.2.createdAt ∨ (a.2.createdAt = b.2.createdAt ∧ a.1.id ≤ b.1.id)))

def Store.loadRunnable (s : Store) (now : Millis) (limits : LeaseConcurrencyLimits) :
    Option (RunId × Run) :=
  Table.firstBy claimsBefore (s.runs.select (s.runnable now limits))

structure LeaseClaimCommit where
  leaseId : LeaseId
  ownerId : WorkerId
  (claimedAt expiresAt : Millis)
  concurrencyLimits : LeaseConcurrencyLimits

def insertLease (leaseId : LeaseId) (lease : WorkLease) (s : Store) : Txn := do
  ensure (s.leases.get leaseId = none ∧ !s.hasActiveLease lease.runId ∧
    !(s.leases.any fun _ other =>
      other.runId = lease.runId ∧ other.fencingToken = lease.fencingToken)) .conflict
  pure { s with leases := s.leases.put leaseId lease }

def startDelegation (runId : RunId) (run : Run) (s : Store) : Txn :=
  if run.agentRole = .delegate then do
    let (delegationId, delegation) ← require (s.delegationOfChild runId)
      (.invariantViolation "delegated run has no delegation contract")
    ensure (delegation.state = .queued) .conflict
    pure { s with delegations := s.delegations.put delegationId { delegation with state := .running } }
  else .ok s

def claimNext (commit : LeaseClaimCommit) (s : Store) : Txn := do
  match s.loadRunnable commit.claimedAt commit.concurrencyLimits with
  | none => pure s
  | some (runId, run) =>
    let token ← nextToken run.currentFencingToken "run fencing token overflow"
    ensure (commit.claimedAt < commit.expiresAt)
      (.invariantViolation "lease expiry must be later than acquisition")
    let leased ← insertLease commit.leaseId
      { runId, ownerId := commit.ownerId, fencingToken := token, state := .active,
        acquiredAt := commit.claimedAt, heartbeatAt := commit.claimedAt,
        expiresAt := commit.expiresAt, releasedAt := none } s
    let started ← startDelegation runId run
      { leased with
        runs := leased.runs.put runId
          { run with status := .running, currentFencingToken := token, nextAttemptAt := none } }
    let task ← require (started.tasks.get run.taskId)
      (.invariantViolation "queued run belongs to a non-runnable task")
    pure { started with
      tasks := started.tasks.put run.taskId
        (if task.status = .queued then { task with status := .running, revision := task.revision + 1 }
         else task) }

/-! ### Fenced writes to the lease -/

def Store.fencedLease (s : Store) (fence : LeaseFence) : Option WorkLease :=
  (s.heldLease fence).filter fun _ =>
    (s.runs.get fence.runId).any fun run => run.currentFencingToken = fence.fencingToken

structure HeartbeatCommit where
  fence : LeaseFence
  (heartbeatAt expiresAt : Millis)

def heartbeat (commit : HeartbeatCommit) (s : Store) : Txn := do
  let lease ← require (s.fencedLease commit.fence) .staleFence
  ensure (commit.heartbeatAt < lease.expiresAt ∧ lease.heartbeatAt ≤ commit.heartbeatAt ∧
    lease.expiresAt < commit.expiresAt) .staleFence
  pure { s with
    leases := s.leases.put commit.fence.leaseId
      { lease with heartbeatAt := commit.heartbeatAt, expiresAt := commit.expiresAt } }

structure ReleaseLeaseCommit where
  fence : LeaseFence
  releasedAt : Millis

def release (commit : ReleaseLeaseCommit) (s : Store) : Txn := do
  let next ← nextToken commit.fence.fencingToken "release fencing token overflow"
  let lease ← require (s.fencedLease commit.fence) .staleFence
  ensure (lease.heartbeatAt ≤ commit.releasedAt ∧ commit.releasedAt < lease.expiresAt) .staleFence
  let run ← require (s.runningUnder commit.fence) .staleFence
  pure { s with
    leases := s.leases.put commit.fence.leaseId
      { lease with state := .released, releasedAt := some commit.releasedAt },
    runs := s.runs.put commit.fence.runId { run with status := .queued, currentFencingToken := next } }

/-! ### Committed transactions -/

theorem Store.hasActiveLease_eq_false {s : Store} {runId : RunId} :
    s.hasActiveLease runId = false ↔
      ∀ leaseId lease, s.leases.get leaseId = some lease → lease.runId = runId → lease.state ≠ .active := by
  simp [hasActiveLease, Table.any_eq_false]

theorem Store.selectable_iff {s : Store} {runId : RunId} {run : Run} :
    s.selectable runId run = true ↔ run.status = .queued ∧
      (∃ task, s.tasks.get run.taskId = some task ∧ task.status.admitsClaim = true) ∧
      (∃ row, s.sessionOfRun runId = some row) ∧ s.delegationAdmitsClaim runId run = true ∧
      s.hasActiveLease runId = false := by
  simp [selectable, Option.any_eq_true, Option.isSome_iff_exists]

theorem Store.loadRunnable_some {s : Store} {now : Millis} {limits : LeaseConcurrencyLimits} {runId : RunId}
    {run : Run} (loaded : s.loadRunnable now limits = some (runId, run)) :
    s.runs.get runId = some run ∧ s.selectable runId run = true := by
  obtain ⟨found, accepted⟩ := (Table.mem_select ..).mp (Table.firstBy_mem loaded)
  simp only [runnable, Bool.decide_and, Bool.and_eq_true, decide_eq_true_eq] at accepted
  exact ⟨found, accepted.1⟩

theorem startDelegation_ok {runId run s s'} (ok : startDelegation runId run s = .ok s') :
    ∃ delegations, s' = { s with delegations } ∧
      ((run.agentRole ≠ .delegate ∧ delegations = s.delegations) ∨
        ∃ delegationId delegation, run.agentRole = .delegate ∧
          s.delegationOfChild runId = some (delegationId, delegation) ∧ delegation.state = .queued ∧
          delegations = s.delegations.put delegationId { delegation with state := .running }) := by
  unfold startDelegation at ok
  split at ok
  next delegate =>
    simp only [eq_ok] at ok
    obtain ⟨⟨delegationId, delegation⟩, found, _, queued, rfl⟩ := ok
    exact ⟨_, rfl, .inr ⟨delegationId, delegation, delegate, found, queued, rfl⟩⟩
  next other =>
    cases ok
    exact ⟨s.delegations, rfl, .inl ⟨other, rfl⟩⟩

theorem claimNext_ok {commit : LeaseClaimCommit} {s s' : Store} (ok : claimNext commit s = .ok s') :
    s' = s ∨ ∃ runId run task delegations, s.runs.get runId = some run ∧ s.selectable runId run = true ∧
      s.leases.get commit.leaseId = none ∧ s.tasks.get run.taskId = some task ∧
      ((run.agentRole ≠ .delegate ∧ delegations = s.delegations) ∨
        ∃ delegationId delegation, run.agentRole = .delegate ∧
          s.delegationOfChild runId = some (delegationId, delegation) ∧ delegation.state = .queued ∧
          delegations = s.delegations.put delegationId { delegation with state := .running }) ∧
      s' = { s with
        leases := s.leases.put commit.leaseId
          { runId, ownerId := commit.ownerId, fencingToken := run.currentFencingToken + 1, state := .active,
            acquiredAt := commit.claimedAt, heartbeatAt := commit.claimedAt,
            expiresAt := commit.expiresAt, releasedAt := none },
        runs := s.runs.put runId
          { run with
            status := .running, currentFencingToken := run.currentFencingToken + 1, nextAttemptAt := none },
        delegations,
        tasks := s.tasks.put run.taskId
          (if task.status = .queued then { task with status := .running, revision := task.revision + 1 }
           else task) } := by
  unfold claimNext at ok
  split at ok
  next => exact .inl (pure_eq_ok.mp ok).symm
  next runId run loaded =>
    simp only [insertLease, eq_ok, nextToken_eq_ok] at ok
    obtain ⟨_, ⟨_, rfl⟩, _, _, _, ⟨_, ⟨fresh, _⟩, rfl⟩, _, started, task, taskFound, rfl⟩ := ok
    obtain ⟨delegations, rfl, stage⟩ := startDelegation_ok started
    obtain ⟨found, selectable⟩ := Store.loadRunnable_some loaded
    exact .inr ⟨runId, run, task, delegations, found, selectable, fresh, taskFound, stage, rfl⟩

theorem Store.fencedLease_eq_some {s : Store} {fence : LeaseFence} {lease : WorkLease} :
    s.fencedLease fence = some lease ↔ s.heldLease fence = some lease ∧
      ∃ run, s.runs.get fence.runId = some run ∧ run.currentFencingToken = fence.fencingToken := by
  simp [fencedLease, Option.filter_eq_some_iff, Option.any_eq_true]

theorem heartbeat_ok {commit : HeartbeatCommit} {s s' : Store} (ok : heartbeat commit s = .ok s') :
    ∃ lease, s.heldLease commit.fence = some lease ∧ commit.heartbeatAt < lease.expiresAt ∧
      s' = { s with
        leases := s.leases.put commit.fence.leaseId
          { lease with heartbeatAt := commit.heartbeatAt, expiresAt := commit.expiresAt } } := by
  simp only [heartbeat, eq_ok, Store.fencedLease_eq_some]
    at ok
  obtain ⟨lease, ⟨held, _⟩, _, ⟨early, _⟩, rfl⟩ := ok
  exact ⟨lease, held, early, rfl⟩

theorem release_ok {commit : ReleaseLeaseCommit} {s s' : Store} (ok : release commit s = .ok s') :
    ∃ lease run, s.heldLease commit.fence = some lease ∧ s.runningUnder commit.fence = some run ∧
      commit.releasedAt < lease.expiresAt ∧
      s' = { s with
        leases := s.leases.put commit.fence.leaseId
          { lease with state := .released, releasedAt := some commit.releasedAt },
        runs := s.runs.put commit.fence.runId
          { run with status := .queued, currentFencingToken := commit.fence.fencingToken + 1 } } := by
  simp only [release, eq_ok, nextToken_eq_ok, Store.fencedLease_eq_some] at ok
  obtain ⟨_, ⟨_, rfl⟩, lease, ⟨held, _⟩, _, ⟨_, early⟩, run, running, rfl⟩ := ok
  exact ⟨lease, run, held, running, early, rfl⟩

end Mealy
