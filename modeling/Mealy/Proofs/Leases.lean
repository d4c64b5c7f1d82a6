import Mealy.Lib.FencedLease
import Mealy.Store.Frames

/-! The scheduler refines the fenced-lease protocol. Runs are its resources, busy while
they are `running`; leases are its grants, live while they are `active`. Every store
operation projects to protocol steps, whatever times its caller observed. -/

namespace Mealy
open Relational Transaction FencedLease

variable {s s' : Store} {run : Run} {lease : WorkLease} {leaseId : LeaseId} {op : Operation}

def Run.slot (run : Run) : Slot := ⟨run.currentFencingToken, run.status = .running⟩

def WorkLease.grant (lease : WorkLease) : Grant RunId WorkerId :=
  ⟨lease.runId, lease.ownerId, lease.fencingToken, lease.state = .active⟩

def Store.leaseView (s : Store) : FencedLease.State RunId WorkerId LeaseId where
  slot runId := (s.runs.get runId).map Run.slot
  grant leaseId := (s.leases.get leaseId).map WorkLease.grant

theorem leaseView_congr (runs : ∀ runId, (s'.runs.get runId).map Run.slot = (s.runs.get runId).map Run.slot)
    (leases : ∀ leaseId, (s'.leases.get leaseId).map WorkLease.grant = (s.leases.get leaseId).map WorkLease.grant) :
    s'.leaseView = s.leaseView := by
  simp only [Store.leaseView, runs, leases]

theorem stutters (same : s'.leaseView = s.leaseView) : Steps s.leaseView s'.leaseView := by
  rw [same]

theorem rewrite_stutters {runId run'} (found : s.runs.get runId = some run)
    (runs : s'.runs = s.runs.put runId run') (leases : s'.leases = s.leases)
    (token : run'.currentFencingToken = run.currentFencingToken)
    (status : run'.status = .running ↔ run.status = .running) : s'.leaseView = s.leaseView := by
  refine leaseView_congr ?_ (by simp [leases])
  rw [runs]
  exact Table.map_get_put_same found (by simp [Run.slot, token, status])

/-! ### Single steps -/

theorem add_simulated {runId} (fresh : s.runs.get runId = none)
    (runs : s'.runs = s.runs.put runId run) (leases : s'.leases = s.leases) (idle : run.status ≠ .running) :
    Step s.leaseView s'.leaseView := by
  have view : s'.leaseView = { s.leaseView with
      slot := Function.update s.leaseView.slot runId (some ⟨run.currentFencingToken, false⟩) } := by
    simp only [Store.leaseView, runs, leases, Table.map_get_put, Run.slot, idle, decide_false]
  rw [view]
  exact .add (by simp [Store.leaseView, fresh])

theorem giveUp_simulated {fence lease' run'}
    (held : s.heldLease fence = some lease) (running : s.runningUnder fence = some run)
    (leases : s'.leases = s.leases.put fence.leaseId lease') (runs : s'.runs = s.runs.put fence.runId run')
    (row : lease'.grant = ⟨lease.runId, lease.ownerId, lease.fencingToken, false⟩) (idle : run'.status ≠ .running)
    (grows : fence.fencingToken ≤ run'.currentFencingToken) :
    Step s.leaseView s'.leaseView := by
  obtain ⟨leaseFound, ofRun, owner, token, active⟩ := Store.heldLease_eq_some.mp held
  obtain ⟨runFound, busy, current⟩ := Store.runningUnder_eq_some.mp running
  have view : s'.leaseView =
      { slot := Function.update s.leaseView.slot fence.runId (some ⟨run'.currentFencingToken, false⟩),
        grant := Function.update s.leaseView.grant fence.leaseId
          (some ⟨fence.runId, fence.ownerId, fence.fencingToken, false⟩) } := by
    simp only [Store.leaseView, runs, leases, Table.map_get_put, row, Run.slot, idle, decide_false, ofRun, owner,
      token]
  rw [view]
  refine .giveUp ?_ ?_ grows
  · simp [Store.leaseView, leaseFound, WorkLease.grant, ofRun, owner, token, active]
  · simp [Store.leaseView, runFound, Run.slot, busy, current]

theorem recoverLease_simulated {commit} (ok : recoverLease commit s = .ok s') : Step s.leaseView s'.leaseView := by
  obtain ⟨lease, recovered, settled, _, disposition, run, _, leaseFound, active, boundary, _, _, recovers, runFound,
    running, token, _, rfl⟩ := recoverLease_ok ok
  let fence : LeaseFence := ⟨commit.leaseId, lease.runId, lease.ownerId, lease.fencingToken⟩
  have held : s.heldLease fence = some lease := Store.heldLease_eq_some.mpr ⟨leaseFound, rfl, rfl, rfl, active⟩
  have under : s.runningUnder fence = some run := Store.runningUnder_eq_some.mpr ⟨runFound, running, token⟩
  have leases : settled.leases = s.leases.put fence.leaseId
      { lease with state := .expired, releasedAt := some commit.now } := by
    obtain ⟨_, rfl⟩ := recovers.writes
    obtain ⟨_, rfl⟩ := recoverIncompleteAgentBoundary_writes boundary
    rfl
  refine giveUp_simulated held under leases rfl rfl ?_ (Nat.le_succ _)
  cases disposition <;> nofun

theorem claim_simulated {runId run'}
    (found : s.runs.get runId = some run) (idle : run.status ≠ .running) (fresh : s.leases.get leaseId = none)
    (runs : s'.runs = s.runs.put runId run') (leases : s'.leases = s.leases.put leaseId lease)
    (busy : run'.slot = ⟨run.currentFencingToken + 1, true⟩)
    (row : lease.grant = ⟨runId, lease.ownerId, run.currentFencingToken + 1, true⟩) :
    Step s.leaseView s'.leaseView := by
  have slot : s.leaseView.slot runId = some ⟨run.currentFencingToken, false⟩ := by
    simp [Store.leaseView, found, Run.slot, idle]
  have claim : Step s.leaseView _ :=
    .claim slot (by simp [Store.leaseView, fresh] : s.leaseView.grant leaseId = none)
      (Nat.lt_succ_self run.currentFencingToken) (o := lease.ownerId)
  convert claim using 1
  simp only [Store.leaseView, runs, leases, Table.map_get_put, busy, row]

theorem claimNext_simulated {commit} (ok : claimNext commit s = .ok s') :
    Steps s.leaseView s'.leaseView := by
  rcases claimNext_ok ok with rfl | ⟨runId, run, _, _, found, selectable, fresh, _, _, rfl⟩
  · exact .refl
  have queued := (Store.selectable_iff.mp selectable).1
  exact .single (claim_simulated found (by simp [queued]) fresh rfl rfl rfl rfl)

theorem parkRun_simulated {fence parkedAt next}
    (running : s.runningUnder fence = some run) (grows : fence.fencingToken ≤ next)
    (ok : parkRun fence run parkedAt next s = .ok s') : Step s.leaseView s'.leaseView := by
  obtain ⟨lease, task, held, _, _, rfl⟩ := parkRun_ok ok
  exact giveUp_simulated held running rfl rfl rfl nofun grows

theorem promoteNext_simulated {commit} (ok : promoteNext commit s = .ok s') :
    Steps s.leaseView s'.leaseView := by
  rcases promoteNext_ok ok with rfl | ⟨_, _, _, _, _, ⟨_, started⟩ | ⟨_, active, _, loaded, steered |
    ⟨_, _, stopped⟩⟩⟩
  · exact .refl
  · obtain ⟨_, fresh, _, _, rfl⟩ := insertWorkGraph_ok started
    exact .single (add_simulated fresh rfl rfl nofun)
  · obtain ⟨_, rfl⟩ := steerActive_ok steered
    exact .refl
  · obtain ⟨_, _, _, runFound, _⟩ := Store.loadActive_ok loaded
    obtain ⟨_, ⟨queued, _, rfl⟩ | ⟨running, _, _, rfl⟩⟩ := interruptActive_ok stopped
    · -- A run cancelled before its first claim moves to the next token while it is free.
      have slot : s.leaseView.slot active.turn.runId = some ⟨active.run.currentFencingToken, false⟩ := by
        simp [Store.leaseView, runFound, Run.slot, queued]
      have step : Step s.leaseView _ := .supersede slot (Nat.le_succ _)
      refine .single ?_
      convert step using 1
      simp only [Store.leaseView, Table.map_get_put, Run.slot]
      rfl
    · exact stutters (rewrite_stutters runFound rfl rfl rfl Iff.rfl)

theorem recordModelFailure_simulated {commit}
    (ok : recordModelFailure commit s = .ok s') : Steps s.leaseView s'.leaseView := by
  obtain ⟨_, failed, _, _, moves, ended⟩ := recordModelFailure_ok ok
  have same : failed.leaseView = s.leaseView := by
    obtain ⟨_, rfl⟩ := moves.writes
    rfl
  rcases ended with ⟨_, rfl⟩ | ⟨_, requeued⟩
  · exact stutters same
  · obtain ⟨lease, run, held, running, rfl⟩ := requeueProviderRetry_ok requeued
    rw [← same]
    exact .single (giveUp_simulated held running rfl rfl rfl nofun (Nat.le_succ _))

theorem launchAgentDelegation_simulated {commit}
    (ok : launchAgentDelegation commit s = .ok s') : Steps s.leaseView s'.leaseView := by
  obtain ⟨parent, lease, _, _, _, _, different, loaded, held, _, _, _, fresh, _, _, _, rfl⟩ :=
    launchAgentDelegation_ok ok
  obtain ⟨running, _⟩ := Store.loadParent_ok loaded
  -- The child run appears first, then the parent gives its lease up.
  let added : Store := { s with runs := s.runs.put commit.childRunId commit.childRun }
  have first : Step s.leaseView added.leaseView := add_simulated fresh rfl rfl nofun
  have held' : added.heldLease commit.parentFence = some lease := held
  have running' : added.runningUnder commit.parentFence = some parent.run := by
    obtain ⟨found, current⟩ := Store.runningUnder_eq_some.mp running
    exact Store.runningUnder_eq_some.mpr ⟨(Table.get_put_ne _ _ different.symm).trans found, current⟩
  exact .tail (.single first) (giveUp_simulated held' running' rfl rfl rfl nofun (Nat.le_succ _))

theorem finishRun_simulated {commit owner task next} (running : s.runningUnder commit.fence = some owner.run)
    (grows : commit.fence.fencingToken ≤ next) (ok : finishRun commit owner task next s = .ok s') :
    Step s.leaseView s'.leaseView := by
  obtain ⟨lease, _, held, _, rfl⟩ := finishRun_ok ok
  refine giveUp_simulated held running rfl rfl rfl ?_ grows
  cases commit.status <;> nofun

theorem completeRun_simulated {commit} (ok : completeRun commit s = .ok s') : Steps s.leaseView s'.leaseView := by
  obtain ⟨owner, task, settled, finished, loaded, work, done, ended⟩ := completeRun_ok ok
  obtain ⟨ownerLoaded, _⟩ := Store.loadCompletion_ok loaded
  obtain ⟨_, running, _⟩ := Store.loadFencedOwner_ok.mp ownerLoaded
  have same : settled.runs = s.runs ∧ settled.leases = s.leases := by
    obtain ⟨_, rfl⟩ := work.writes
    exact ⟨rfl, rfl⟩
  have view : settled.leaseView = s.leaseView := by simp [Store.leaseView, same]
  have running' : settled.runningUnder commit.fence = some owner.run := by
    rw [Store.runningUnder, same.1]
    exact running
  have finish := finishRun_simulated running' (Nat.le_succ _) done
  rw [view] at finish
  rcases ended with ⟨_, delivered⟩ | ⟨_, rfl⟩
  · obtain ⟨_, delegation, parent, _, _, _, _, _, _, _, _, _, parentFound, waiting, _, _, rfl⟩ :=
      settleDelegatedChild_ok delivered
    refine .trans (.single finish) (stutters ?_)
    exact rewrite_stutters parentFound rfl rfl rfl (by simp [waiting])
  · exact .single finish

theorem requestTaskCancellation_stutters {commit}
    (ok : requestTaskCancellation commit s = .ok s') : s'.leaseView = s.leaseView := by
  rcases requestTaskCancellation_ok ok with ⟨rfl, _⟩ |
    ⟨row, budgets, active, propagated, denied, ready, _, loaded, _, _, _, _, child, effect, last, rfl⟩
  · rfl
  obtain ⟨_, ofTask⟩ := Store.loadControlledTask_ok loaded
  have marked : (cancellationMarked commit row budgets s).leaseView = s.leaseView :=
    rewrite_stutters (Store.runOfTask_some ofTask).1 rfl rfl rfl Iff.rfl
  have spread : propagated.leaseView = (cancellationMarked commit row budgets s).leaseView := by
    rcases cancelActiveChild_ok child with ⟨_, rfl⟩ | ⟨_, _, _, cancelled, _⟩
    · rfl
    · obtain ⟨_, _, _, _, found, _, _, _, rfl⟩ := cancelChild_ok cancelled
      exact rewrite_stutters found rfl rfl rfl Iff.rfl
  have refused : denied.leaseView = propagated.leaseView := by
    obtain ⟨_, rfl⟩ := cancelUndispatchedAgentEffect_writes effect
    rfl
  have queued : ready.leaseView = denied.leaseView := by
    rcases last with ⟨_, _, requeued⟩ | ⟨_, rfl⟩
    · obtain ⟨run, found, waiting, rfl⟩ := requeueCancelled_ok requeued
      exact rewrite_stutters found rfl rfl rfl (by simp [waiting])
    · rfl
  exact queued.trans (refused.trans (spread.trans marked))

theorem controlTask_simulated {commit} (ok : controlTask commit s = .ok s') : Steps s.leaseView s'.leaseView := by
  obtain ⟨row, fenced, _, ⟨_, paused, ⟨_, rfl⟩ | ⟨_, _, _, _, _, recovered⟩⟩ | ⟨_, _, _, rfl, resumed⟩⟩ :=
    controlTask_ok ok
  · obtain ⟨_, _, rfl⟩ := controlledTo_ok paused
    exact .refl
  · obtain ⟨_, _, rfl⟩ := controlledTo_ok paused
    have step := recoverLease_simulated recovered
    exact .single step
  · obtain ⟨_, _, rfl⟩ := controlledTo_ok resumed
    exact .refl

theorem recordValidation_simulated {commit}
    (ok : recordValidation commit s = .ok s') : Steps s.leaseView s'.leaseView := by
  obtain ⟨_, _, _, _, _, _, _, _, _, _, ⟨_, rfl⟩ | ⟨_, _, _, _, _, fresh, _, rfl, _, succeeded, _⟩, rfl⟩ :=
    recordValidation_ok ok
  · exact .refl
  · exact .single (add_simulated fresh rfl rfl (by simp [succeeded]))

theorem transaction_simulated (ok : op.transaction s = .ok s') :
    Steps s.leaseView s'.leaseView := by
  cases op with
  | promoteNext commit => exact promoteNext_simulated ok
  | claimNext commit => exact claimNext_simulated ok
  | completeRun commit => exact completeRun_simulated ok
  | recordModelFailure commit => exact recordModelFailure_simulated ok
  | launchAgentDelegation commit => exact launchAgentDelegation_simulated ok
  | recoverLease commit => exact .single (recoverLease_simulated ok)
  | recordValidation commit => exact recordValidation_simulated ok
  | requestTaskCancellation commit => exact stutters (requestTaskCancellation_stutters ok)
  | controlTask commit => exact controlTask_simulated ok
  | heartbeat commit =>
    obtain ⟨lease, held, _, rfl⟩ := heartbeat_ok ok
    have found := (Store.heldLease_eq_some.mp held).1
    exact stutters (leaseView_congr (fun _ => rfl) (Table.map_get_put_same found rfl))
  | release commit =>
    obtain ⟨lease, run, held, running, _, rfl⟩ := release_ok ok
    exact .single (giveUp_simulated held running rfl rfl rfl nofun (Nat.le_succ _))
  | recordAgentEffectProposal commit =>
    obtain ⟨run, lease, _, _, _, _, _, running, held, _, _, _, _, _, _, _, _, _, _, rfl⟩ :=
      recordAgentEffectProposal_ok ok
    exact .single (giveUp_simulated held running rfl rfl rfl nofun (Nat.le_succ _))
  | resumeAgentEffectRun commit =>
    obtain rfl | ⟨_, _, _, _, _, found, _, waiting, _, rfl⟩ := resumeAgentEffectRun_ok ok
    · exact .refl
    · exact stutters (rewrite_stutters found rfl rfl rfl (by simp [waiting]))
  | parkAgentEffectRun commit =>
    obtain ⟨_, running, parked⟩ := parkAgentEffectRun_ok ok
    exact .single (parkRun_simulated running (Nat.le_succ _) parked)
  | _ =>
    obtain ⟨_, rfl⟩ := Operation.frame ok
    exact .refl

/-! ### Runs of the store -/

theorem leaseView_valid (reached : s.Reachable) : Valid s.leaseView := by
  have kept (op : Operation) (s s' : Store) (valid : Valid s.leaseView) (_ : True)
      (ok : storeSystem.exec op s = .ok s') : Valid s'.leaseView :=
    Steps.preserves (transaction_simulated (Operation.exec_eq_ok.mp ok).2) valid
  exact System.ReachableIf.invariant Valid.empty kept reached

theorem leaseView_grows {later} (reaches : storeSystem.Later s later) :
    Grows s.leaseView later.leaseView := by
  have kept (op : Operation) (s s' : Store) (ok : storeSystem.exec op s = .ok s') :
      Grows s.leaseView s'.leaseView :=
    Steps.grows (transaction_simulated (Operation.exec_eq_ok.mp ok).2)
  exact System.Later.preserves (fun s s' => Grows s.leaseView s'.leaseView) (fun s => .refl s.leaseView) Grows.trans
    kept reaches

theorem active_lease_current (valid : Valid s.leaseView)
    (found : s.leases.get leaseId = some lease) (active : lease.state = .active) :
    ∃ run, s.runs.get lease.runId = some run ∧ run.status = .running ∧
      run.currentFencingToken = lease.fencingToken := by
  have current := valid.current leaseId lease.grant (by simp [Store.leaseView, found])
    (by simp [WorkLease.grant, active])
  simp only [Store.leaseView, Option.map_eq_some_iff, Run.slot, WorkLease.grant, Slot.mk.injEq,
    decide_eq_true_eq] at current
  obtain ⟨run, runFound, token, running⟩ := current
  exact ⟨run, runFound, running, token⟩

theorem active_lease_unique {s : Store} (valid : Valid s.leaseView) {i j : LeaseId} {a b : WorkLease}
    (first : s.leases.get i = some a) (second : s.leases.get j = some b) (active : a.state = .active)
    (active' : b.state = .active) (same : a.runId = b.runId) : i = j :=
  valid.unique i j a.grant b.grant (by simp [Store.leaseView, first]) (by simp [Store.leaseView, second])
    (by simp [WorkLease.grant, active]) (by simp [WorkLease.grant, active']) same

theorem idle_unleased {s : Store} (valid : Valid s.leaseView) {runId : RunId} {run : Run}
    (found : s.runs.get runId = some run) (idle : run.status ≠ .running) : s.hasActiveLease runId = false := by
  rw [Store.hasActiveLease_eq_false]
  rintro leaseId lease leaseFound rfl active
  obtain ⟨current, currentFound, running, _⟩ := active_lease_current valid leaseFound active
  cases found.symm.trans currentFound
  exact idle running

/-! ### Fenced operations -/

def Operation.fence : Operation → Option LeaseFence
  | heartbeat commit => some commit.fence
  | release commit => some commit.fence
  | completeRun commit => some commit.fence
  | prepareModelAttempt commit => some commit.fence
  | dispatchModelAttempt commit => some commit.fence
  | recordModelResult commit => some commit.fence
  | recordModelFailure commit => some commit.fence
  | prepareReadTool commit => some commit.fence
  | dispatchReadTool commit => some commit.fence
  | recordReadToolResult commit => some commit.fence
  | recordAgentEffectProposal commit => some commit.fence
  | prepareEffectAttempt commit => some commit.fence
  | markEffectAttemptRunning commit => some commit.fence
  | recordEffectAttemptOutcome commit => some commit.fence
  | parkAgentEffectRun commit => some commit.fence
  | recordAgentEffectObservation commit => some commit.fence
  | launchAgentDelegation commit => some commit.parentFence
  | recordValidation commit => some commit.producerFence
  | _ => none

def Operation.namedLease (op : Operation) : Option LeaseId :=
  match op with
  | recoverLease commit => some commit.leaseId
  | _ => op.fence.map LeaseFence.leaseId

theorem loadFencedOwner_held {fence at_ owner} (loaded : s.loadFencedOwner fence at_ = .ok owner) :
    ∃ lease, s.heldLease fence = some lease := by
  obtain ⟨lease, _, held, _⟩ := Store.loadFencedOwner_ok.mp loaded
  exact ⟨lease, held⟩

theorem activeFence_held {fence at_} (fenced : s.activeFence fence at_ = true) :
    ∃ lease, s.heldLease fence = some lease := by
  obtain ⟨lease, _, held, _⟩ := Store.activeFence_iff.mp fenced
  exact ⟨lease, held⟩

theorem fenced_held {fence} (presented : op.fence = some fence)
    (ok : op.transaction s = .ok s') : ∃ lease, s.heldLease fence = some lease := by
  cases op <;> cases presented
  case heartbeat commit =>
    obtain ⟨lease, held, _⟩ := heartbeat_ok ok
    exact ⟨lease, held⟩
  case release commit =>
    obtain ⟨lease, _, held, _⟩ := release_ok ok
    exact ⟨lease, held⟩
  case completeRun commit =>
    obtain ⟨_, _, _, _, loaded, _⟩ := completeRun_ok ok
    exact loadFencedOwner_held (Store.loadCompletion_ok loaded).1
  case prepareModelAttempt commit =>
    obtain ⟨_, loaded, _⟩ := prepareModelAttempt_ok ok
    exact loadFencedOwner_held loaded
  case dispatchModelAttempt commit =>
    obtain ⟨_, loaded, _⟩ := dispatchModelAttempt_ok ok
    exact loadFencedOwner_held loaded
  case recordModelResult commit =>
    obtain ⟨_, loaded, _⟩ := recordModelResult_ok ok
    exact loadFencedOwner_held loaded
  case recordModelFailure commit =>
    obtain ⟨_, _, _, loaded, _⟩ := recordModelFailure_ok ok
    exact loadFencedOwner_held loaded
  case prepareReadTool commit =>
    obtain ⟨_, loaded, _⟩ := prepareReadTool_ok ok
    exact loadFencedOwner_held loaded
  case dispatchReadTool commit =>
    obtain ⟨_, _, loaded, _⟩ := dispatchReadTool_ok ok
    exact loadFencedOwner_held loaded
  case recordReadToolResult commit =>
    obtain ⟨_, loaded, _⟩ := recordReadToolResult_ok ok
    exact loadFencedOwner_held loaded
  case recordAgentEffectProposal commit =>
    obtain ⟨_, lease, _, _, _, _, _, _, held, _⟩ := recordAgentEffectProposal_ok ok
    exact ⟨lease, held⟩
  case prepareEffectAttempt commit =>
    simp only [Operation.transaction, prepareEffectAttempt, eq_ok] at ok
    obtain ⟨_, fenced, _⟩ := ok
    exact activeFence_held fenced
  case markEffectAttemptRunning commit =>
    simp only [Operation.transaction, markEffectAttemptRunning, eq_ok] at ok
    obtain ⟨_, fenced, _⟩ := ok
    exact activeFence_held fenced
  case recordEffectAttemptOutcome commit =>
    exact activeFence_held (recordEffectAttemptOutcome_ok ok).1
  case parkAgentEffectRun commit =>
    obtain ⟨_, _, parked⟩ := parkAgentEffectRun_ok ok
    obtain ⟨lease, _, held, _⟩ := parkRun_ok parked
    exact ⟨lease, held⟩
  case recordAgentEffectObservation commit =>
    obtain ⟨lease, _, _, _, held, _⟩ := recordAgentEffectObservation_ok ok
    exact ⟨lease, held⟩
  case launchAgentDelegation commit =>
    obtain ⟨_, lease, _, _, _, _, _, _, held, _⟩ := launchAgentDelegation_ok ok
    exact ⟨lease, held⟩
  case recordValidation commit =>
    obtain ⟨_, _, _, _, _, _, _, _, _, held, _⟩ := recordValidation_ok ok
    exact held

theorem named_active (named : op.namedLease = some leaseId)
    (ok : op.transaction s = .ok s') : ∃ lease, s.leases.get leaseId = some lease ∧ lease.state = .active := by
  have fenced (same : op.fence.map LeaseFence.leaseId = some leaseId) :
      ∃ lease, s.leases.get leaseId = some lease ∧ lease.state = .active := by
    obtain ⟨fence, presented, rfl⟩ := Option.map_eq_some_iff.mp same
    obtain ⟨lease, held⟩ := fenced_held presented ok
    obtain ⟨found, _, _, _, active⟩ := Store.heldLease_eq_some.mp held
    exact ⟨lease, found, active⟩
  cases op with
  | recoverLease commit =>
    cases named
    obtain ⟨lease, _, _, _, _, _, _, found, active, _⟩ := recoverLease_ok ok
    exact ⟨lease, found, active⟩
  | _ => exact fenced named

theorem ended_lease_stays {later} (found : s.leases.get leaseId = some lease) (ended : lease.state ≠ .active)
    (reaches : storeSystem.Later s later) :
    ∃ lease', later.leases.get leaseId = some lease' ∧ lease'.state ≠ .active := by
  obtain ⟨grant, granted, _, _, _, alive⟩ :=
    (leaseView_grows reaches).grants leaseId lease.grant (by simp [Store.leaseView, found])
  simp only [Store.leaseView, Option.map_eq_some_iff] at granted
  obtain ⟨lease', leaseFound, rfl⟩ := granted
  refine ⟨lease', leaseFound, fun active => ended ?_⟩
  simpa [WorkLease.grant] using alive (by simp [WorkLease.grant, active])

def Operation.leaseUse : Operation → Option (LeaseFence × Millis)
  | heartbeat commit => some (commit.fence, commit.heartbeatAt)
  | release commit => some (commit.fence, commit.releasedAt)
  | completeRun commit => some (commit.fence, commit.completedAt)
  | _ => none

theorem leaseUse_unexpired {fence at_}
    (used : op.leaseUse = some (fence, at_)) (ok : op.transaction s = .ok s') :
    ∃ lease, s.heldLease fence = some lease ∧ at_ < lease.expiresAt := by
  cases op with
  | heartbeat commit =>
    cases used
    obtain ⟨lease, held, early, _⟩ := heartbeat_ok ok
    exact ⟨lease, held, early⟩
  | release commit =>
    cases used
    obtain ⟨lease, _, held, _, early, _⟩ := release_ok ok
    exact ⟨lease, held, early⟩
  | completeRun commit =>
    cases used
    obtain ⟨_, _, _, _, loaded, _⟩ := completeRun_ok ok
    obtain ⟨lease, _, held, _, early, _⟩ := Store.loadFencedOwner_ok.mp (Store.loadCompletion_ok loaded).1
    exact ⟨lease, held, early⟩
  | _ => cases used

/-- Lease fencing, in every reachable store and over every continuation: tokens never
decrease and every successful claim increases one; a run has at most one active lease,
under its current token and while it is running; a lease is used only through its exact
fence and before its expiry; and no operation ever succeeds again under an ended lease. -/
theorem lease_fencing {s : Store} (reached : s.Reachable) :
    (∀ later runId run, storeSystem.Later s later → s.runs.get runId = some run →
      ∃ run', later.runs.get runId = some run' ∧ run.currentFencingToken ≤ run'.currentFencingToken) ∧
    (∀ commit s' lease, storeSystem.exec (.claimNext commit) s = .ok s' →
      s.leases.get commit.leaseId = none → s'.leases.get commit.leaseId = some lease →
      ∃ run run', s.runs.get lease.runId = some run ∧ s'.runs.get lease.runId = some run' ∧
        run.currentFencingToken < run'.currentFencingToken) ∧
    (∀ leaseId lease, s.leases.get leaseId = some lease → lease.state = .active →
      (∃ run, s.runs.get lease.runId = some run ∧ run.status = .running ∧
        run.currentFencingToken = lease.fencingToken) ∧
      ∀ otherId other, s.leases.get otherId = some other → other.runId = lease.runId → other.state = .active →
        otherId = leaseId) ∧
    (∀ op s' fence at_, storeSystem.exec op s = .ok s' → op.leaseUse = some (fence, at_) →
      ∃ lease, s.leases.get fence.leaseId = some lease ∧ lease.runId = fence.runId ∧
        lease.ownerId = fence.ownerId ∧ lease.fencingToken = fence.fencingToken ∧ lease.state = .active ∧
        at_ < lease.expiresAt) ∧
    ∀ leaseId lease, s.leases.get leaseId = some lease → lease.state ≠ .active →
      ∀ later op s', storeSystem.Later s later → op.namedLease = some leaseId →
        storeSystem.exec op later ≠ .ok s' := by
  have valid := leaseView_valid reached
  refine ⟨?_, ?_, ?_, ?_, ?_⟩
  · intro later runId run reaches found
    obtain ⟨slot, slotFound, grows⟩ :=
      (leaseView_grows reaches).tokens runId run.slot (by simp [Store.leaseView, found])
    simp only [Store.leaseView, Option.map_eq_some_iff] at slotFound
    obtain ⟨run', runFound, rfl⟩ := slotFound
    exact ⟨run', runFound, grows⟩
  · intro commit s' lease committed fresh leased
    obtain ⟨_, claimed⟩ := Operation.exec_eq_ok.mp committed
    rcases claimNext_ok claimed with rfl | ⟨runId, run, _, _, found, _, _, _, _, rfl⟩
    · rw [fresh] at leased
      cases leased
    · obtain rfl : _ = lease := Option.some.inj ((Table.get_put_self ..).symm.trans leased)
      exact ⟨run, _, found, Table.get_put_self .., Nat.lt_succ_self _⟩
  · intro leaseId lease found active
    refine ⟨active_lease_current valid found active, fun otherId other otherFound same otherActive => ?_⟩
    exact active_lease_unique valid otherFound found otherActive active same
  · intro op s' fence at_ committed used
    obtain ⟨lease, held, early⟩ := leaseUse_unexpired used (Operation.exec_eq_ok.mp committed).2
    obtain ⟨found, ofRun, owner, token, active⟩ := Store.heldLease_eq_some.mp held
    exact ⟨lease, found, ofRun, owner, token, active, early⟩
  · intro leaseId lease found ended later op s' reaches named committed
    obtain ⟨lease', laterFound, dead⟩ := ended_lease_stays found ended reaches
    obtain ⟨current, currentFound, active⟩ := named_active named (Operation.exec_eq_ok.mp committed).2
    cases laterFound.symm.trans currentFound
    exact dead active

def sampleOwner : OwnershipContext := ⟨⟨0⟩, ⟨0⟩⟩

def claimedRun : List Operation :=
  [.createSession ⟨⟨0⟩, sampleOwner⟩,
   .admitInput ⟨⟨0⟩, sampleOwner, ⟨0⟩, "first", .queue, "hello", 10⟩,
   .promoteNext ⟨⟨0⟩, sampleOwner, ⟨0⟩, ⟨0⟩, ⟨0⟩, .named "assistant", false, 10⟩,
   .claimNext ⟨⟨0⟩, ⟨0⟩, 20, 100000, ⟨5, 5, 5⟩⟩]

theorem lease_fencing_claimed :
    ∃ (s : Store) (lease : WorkLease) (run : Run), s.Reachable ∧ s.leases.get ⟨0⟩ = some lease ∧ lease.state = .active ∧
      s.runs.get lease.runId = some run ∧ run.status = .running ∧
      run.currentFencingToken = lease.fencingToken := by
  obtain ⟨s, reached, leased⟩ : ∃ s : Store, s.Reachable ∧ (s.leases.get ⟨0⟩).map (·.state) = some .active :=
    System.exists_reachableIf claimedRun (by decide +kernel)
  obtain ⟨lease, found, active⟩ := Option.map_eq_some_iff.mp leased
  obtain ⟨⟨run, running⟩, _⟩ := (lease_fencing reached).2.2.1 _ lease found active
  exact ⟨s, lease, run, reached, found, active, running⟩

end Mealy
