import Mealy.Store.Completion
import Mealy.Store.EffectCommits
import Mealy.Store.LoopCommits

/-! What a committed transaction has checked and written when it hands a run over: a
parked proposal, a resumed or delegated run, and a completed one. -/

namespace Mealy
open Relational Transaction

variable {s s' : Store} {runId : RunId} {commit : CompleteRunCommit} {attemptId : AttemptId}

/-! ### Frames -/

/-- The tables of the store. -/
inductive StoreTable where
  | sessions | inbox | turns | tasks | runs | leases | runInputs | delegations | budgets | reservations | loops
  | modelAttempts | toolCalls | effects | approvals | attempts | outcomes | invocations | observations
  | effectReceipts | validations | cancellations
deriving DecidableEq

/-- The store `s` with the listed tables of `t`. -/
def Store.overlay (tables : List StoreTable) (s t : Store) : Store :=
  let pick (table : StoreTable) : Store := if tables.contains table then t else s
  { sessions := (pick .sessions).sessions, inbox := (pick .inbox).inbox, turns := (pick .turns).turns,
    tasks := (pick .tasks).tasks, runs := (pick .runs).runs, leases := (pick .leases).leases,
    runInputs := (pick .runInputs).runInputs, delegations := (pick .delegations).delegations,
    budgets := (pick .budgets).budgets, reservations := (pick .reservations).reservations,
    loops := (pick .loops).loops, modelAttempts := (pick .modelAttempts).modelAttempts,
    toolCalls := (pick .toolCalls).toolCalls, effects := (pick .effects).effects,
    approvals := (pick .approvals).approvals, attempts := (pick .attempts).attempts,
    outcomes := (pick .outcomes).outcomes, invocations := (pick .invocations).invocations,
    observations := (pick .observations).observations, effectReceipts := (pick .effectReceipts).effectReceipts,
    validations := (pick .validations).validations, cancellations := (pick .cancellations).cancellations }

/-- At most the listed tables differ. -/
def Writes (tables : List StoreTable) (s s' : Store) : Prop := ∃ t, s' = s.overlay tables t

theorem Writes.of_eq {tables s s'} (same : s' = s.overlay tables s') : Writes tables s s' := ⟨s', same⟩

theorem Resolves.writes {approvalId approval effect approvalStatus status}
    (resolves : Resolves s s' approvalId approval effect approvalStatus status) : Writes [.effects, .approvals] s s' := by
  obtain ⟨_, _, _, _, _, _, _, _, rfl⟩ := resolves
  exact .of_eq rfl

theorem EndsAttempt.writes {outcome status state} (ends : EndsAttempt s s' attemptId outcome status state) :
    Writes [.effects, .attempts, .outcomes] s s' := by
  obtain ⟨_, _, _, _, _, _, _, _, _, _, rfl⟩ := ends
  exact .of_eq rfl

structure SameLedger (s s' : Store) : Prop where
  effects : s'.effects = s.effects
  approvals : s'.approvals = s.approvals
  attempts : s'.attempts = s.attempts
  outcomes : s'.outcomes = s.outcomes

theorem SameLedger.refl (s) : SameLedger s s := ⟨rfl, rfl, rfl, rfl⟩

theorem SameLedger.trans {s t u} (first : SameLedger s t) (last : SameLedger t u) : SameLedger s u :=
  ⟨last.effects.trans first.effects, last.approvals.trans first.approvals, last.attempts.trans first.attempts,
    last.outcomes.trans first.outcomes⟩

def loopTables : List StoreTable := [.budgets, .reservations, .loops, .modelAttempts, .toolCalls]

theorem MovesLoop.writes (moves : MovesLoop s runId s') : Writes loopTables s s' := by
  obtain ⟨_, _, _, _, _, rfl⟩ := moves
  exact .of_eq rfl

/-! ### Agent effects -/

theorem parkRun_ok {fence run parkedAt next} (ok : parkRun fence run parkedAt next s = .ok s') :
    ∃ lease task, s.heldLease fence = some lease ∧ s.tasks.get run.taskId = some task ∧ task.status = .running ∧
      s' = { s with
        leases := s.leases.put fence.leaseId { lease with state := .released, releasedAt := some parkedAt },
        runs := s.runs.put fence.runId { run with status := .waiting, currentFencingToken := next },
        tasks := s.tasks.put run.taskId { task with status := .waiting, revision := task.revision + 1 } } := by
  simp only [parkRun, eq_ok] at ok
  obtain ⟨lease, held, _, _, task, found, _, running, rfl⟩ := ok
  exact ⟨lease, task, held, found, running, rfl⟩

theorem Store.loadFencedEffectOwner_ok {fence at_ run} (loaded : s.loadFencedEffectOwner fence attemptId at_ = .ok run) :
    ∃ lease, s.runningUnder fence = some run ∧ s.heldLease fence = some lease := by
  simp only [loadFencedEffectOwner, eq_ok] at loaded
  obtain ⟨run', running, _, _, _, _, lease, held, _, _, _, _, _, _, _, _, _, _, _, _, _, _, ended⟩ := loaded
  split at ended
  · obtain rfl := pure_eq_ok.mp ended
    exact ⟨lease, running, held⟩
  · cases ended
  · cases ended

theorem recordAgentEffectProposal_ok {commit}
    (ok : recordAgentEffectProposal commit s = .ok s') :
    ∃ run lease task budgets sessionId owning, ∃ draft : ApprovalRequestDraft,
      s.runningUnder commit.fence = some run ∧ s.heldLease commit.fence = some lease ∧
      s.tasks.get run.taskId = some task ∧ task.status = .running ∧
      commit.proposal.runId = commit.fence.runId ∧ commit.proposal.taskId = run.taskId ∧
      commit.proposal.decision = .requireApproval ∧ s.sessions.get sessionId = some owning ∧
      owning.ownedBy commit.proposal.ownership = true ∧
      s.effects.get commit.proposal.effectId = none ∧ s.approvals.get draft.approvalId = none ∧
      (∀ approvalId approval, s.approvals.get approvalId = some approval →
        approval.effectId ≠ commit.proposal.effectId) ∧
      s' = { s with
        budgets,
        effects := s.effects.put commit.proposal.effectId (commit.proposal.effect sessionId),
        approvals := s.approvals.put draft.approvalId
          (draft.request commit.proposal.effectId commit.proposal.proposedAt),
        invocations := s.invocations.put commit.proposal.effectId
          { runId := commit.fence.runId, taskId := run.taskId, modelAttemptId := commit.modelAttemptId,
            toolCallId := commit.toolCallId },
        leases := s.leases.put commit.fence.leaseId
          { lease with state := .released, releasedAt := some commit.parkedAt },
        runs := s.runs.put commit.fence.runId
          { run with status := .waiting, currentFencingToken := commit.fence.fencingToken + 1 },
        tasks := s.tasks.put run.taskId
          { task with status := .waiting, revision := task.revision + 1 } } := by
  simp only [recordAgentEffectProposal, insertInvocation, eq_ok, nextToken_eq_ok, putBudget_ok] at ok
  obtain ⟨_, valid, run, loaded, _, ofTask, _, ⟨_, _, _, _, rfl⟩, _, proposed, _, ⟨_, _, _, _, rfl⟩, _, ⟨_, rfl⟩,
    parked⟩ := ok
  simp only [RecordAgentEffectProposalCommit.valid, Bool.decide_and, Bool.and_eq_true, decide_eq_true_eq] at valid
  obtain ⟨_, running, _⟩ := Store.loadFencedEffectOwner_ok loaded
  obtain ⟨sessionId, _, owning, _, _, owningFound, owned, freshEffect, stage⟩ := recordEffectProposal_ok proposed
  rcases stage with ⟨unrequired, _⟩ | ⟨draft, required, freshApproval, unique, rfl⟩
  · exact absurd valid.2.1 unrequired
  obtain ⟨lease, task, held, taskFound, taskRunning, rfl⟩ := parkRun_ok parked
  exact ⟨run, lease, task, _, sessionId, owning, draft, running, held, taskFound, taskRunning, valid.1, ofTask.symm,
    required, owningFound, owned, freshEffect, freshApproval, unique, rfl⟩

theorem resumeAgentEffectRun_ok {commit} (ok : resumeAgentEffectRun commit s = .ok s') :
    s' = s ∨ ∃ invocation run task, s.invocations.get commit.effectId = some invocation ∧
      s.agentEffectReady commit.effectId invocation commit.resumedAt = true ∧
      s.runs.get invocation.runId = some run ∧ s.tasks.get invocation.taskId = some task ∧
      run.status = .waiting ∧ task.status = .waiting ∧
      s' = { s with
        runs := s.runs.put invocation.runId { run with status := .queued, nextAttemptAt := none },
        tasks := s.tasks.put invocation.taskId
          { task with status := .queued, revision := task.revision + 1 } } := by
  unfold resumeAgentEffectRun at ok
  split at ok
  next => exact .inl (pure_eq_ok.mp ok).symm
  next invocation found =>
    simp only [eq_ok] at ok
    obtain ⟨run, runFound, task, taskFound, _, ⟨waiting, taskWaiting⟩, rfl⟩ := ok
    obtain ⟨invoked, ready⟩ := Option.filter_eq_some_iff.mp found
    exact .inr ⟨invocation, run, task, invoked, ready, runFound, taskFound, waiting, taskWaiting, rfl⟩

theorem parkAgentEffectRun_ok {commit} (ok : parkAgentEffectRun commit s = .ok s') :
    ∃ run, s.runningUnder commit.fence = some run ∧
      parkRun commit.fence run commit.parkedAt (commit.fence.fencingToken + 1) s = .ok s' := by
  simp only [parkAgentEffectRun, eq_ok, nextToken_eq_ok] at ok
  obtain ⟨_, ⟨_, rfl⟩, _, _, run, running, _, _, parked⟩ := ok
  exact ⟨run, running, parked⟩

theorem recordAgentEffectObservation_ok {commit} (ok : recordAgentEffectObservation commit s = .ok s') :
    ∃ lease budgets observations state, s.heldLease commit.fence = some lease ∧
      s' = { s with budgets, observations, loops := s.loops.put commit.fence.runId state } := by
  simp only [recordAgentEffectObservation, eq_ok, putBudget_ok] at ok
  obtain ⟨run, loaded, ⟨effectId, invocation⟩, _, _, _, _, _, _, _, _, ⟨_, _, _, _, rfl⟩, _, _, state, _, rfl⟩ := ok
  obtain ⟨lease, _, held⟩ := Store.loadFencedEffectOwner_ok loaded
  exact ⟨lease, _, _, _, held, rfl⟩

/-! ### Delegation -/

theorem Store.loadParent_ok {fence at_ parent} (loaded : s.loadParent fence at_ = .ok parent) :
    s.runningUnder fence = some parent.run ∧
      s.turnOfRun fence.runId = some (parent.turnId, parent.turn) ∧
      s.sessions.get parent.turn.sessionId = some parent.session ∧ parent.turn.kind = .canonical := by
  simp only [loadParent, eq_ok] at loaded
  obtain ⟨run, running, _, _, _, _, _, _, _, _, ⟨turnId, turn⟩, carried, session, found, _, ⟨_, canonical, _⟩,
    rfl⟩ := loaded
  exact ⟨running, carried, found, canonical⟩

def LaunchAgentDelegationCommit.childRun (commit : LaunchAgentDelegationCommit) : Run where
  taskId := commit.childTaskId
  agentRole := .delegate
  status := .queued
  currentFencingToken := 0
  cancellationRequestedAt := none
  nextAttemptAt := none
  createdAt := commit.preparedAt

def LaunchAgentDelegationCommit.childTask (commit : LaunchAgentDelegationCommit) : Task where
  status := .queued
  revision := 0
  validationRequired := commit.validationRequired
  validationId := none

def LaunchAgentDelegationCommit.childTurn (commit : LaunchAgentDelegationCommit) (sessionId : SessionId) :
    Turn where
  sessionId := sessionId
  inboxEntryId := commit.childInboxEntryId
  taskId := commit.childTaskId
  runId := commit.childRunId
  kind := .delegated
  status := .active
  createdAt := commit.preparedAt

def LaunchAgentDelegationCommit.delegation (commit : LaunchAgentDelegationCommit) : Delegation where
  parentRunId := commit.parentFence.runId
  childTaskId := commit.childTaskId
  childRunId := commit.childRunId
  parentToolCallId := commit.parentToolCallId
  state := .queued
  createdAt := commit.preparedAt

theorem launchAgentDelegation_ok {commit} (ok : launchAgentDelegation commit s = .ok s') :
    ∃ parent lease task budgets inbox toolCalls,
      commit.childRunId ≠ commit.parentFence.runId ∧
      s.loadParent commit.parentFence commit.preparedAt = .ok parent ∧
      s.heldLease commit.parentFence = some lease ∧
      s.tasks.get parent.run.taskId = some task ∧ task.status = .running ∧
      s.tasks.get commit.childTaskId = none ∧ s.runs.get commit.childRunId = none ∧
      s.delegations.get commit.delegationId = none ∧
      (∀ otherId other, s.delegations.get otherId = some other → other.childRunId ≠ commit.childRunId) ∧
      s.turnIsFresh commit.childTurnId (commit.childTurn parent.turn.sessionId) = true ∧
      s' = { s with
        budgets, inbox, toolCalls,
        tasks := (s.tasks.put commit.childTaskId commit.childTask).put parent.run.taskId
          { task with status := .waiting, revision := task.revision + 1 },
        runs := (s.runs.put commit.childRunId commit.childRun).put commit.parentFence.runId
          { parent.run with
            status := .waiting, currentFencingToken := commit.parentFence.fencingToken + 1 },
        delegations := s.delegations.put commit.delegationId commit.delegation,
        sessions := s.sessions.put parent.turn.sessionId
          { parent.session with nextInboxSequence := parent.session.nextInboxSequence + 1 },
        turns := s.turns.put commit.childTurnId (commit.childTurn parent.turn.sessionId),
        leases := s.leases.put commit.parentFence.leaseId
          { lease with state := .released, releasedAt := some commit.preparedAt } } := by
  simp only [launchAgentDelegation, insertDelegationGraph, insertDelegatedTurn, parkParentForChild, eq_ok,
    nextToken_eq_ok, putBudget_ok, Bool.not_eq_true', Table.any_eq_false, decide_eq_false_iff_not, not_or] at ok
  obtain ⟨_, different, parent, loaded, _, _, _, _, _, _, _,
    ⟨_, ⟨_, _, _, _, rfl⟩, _, ⟨freshTask, freshRun, freshDelegation, uniqueChild⟩, rfl⟩,
    _, ⟨_, _, _, freshTurn, rfl⟩, _, ⟨_, rfl⟩, _, _, parked⟩ := ok
  obtain ⟨lease, task, held, taskFound, taskRunning, rfl⟩ := parkRun_ok parked
  -- The parent's task existed before the child's was inserted.
  have parentTask : s.tasks.get parent.run.taskId = some task := by
    have stored := taskFound
    simp only [Table.get_put] at stored
    split at stored
    next same =>
      simp only [Store.loadParent, eq_ok] at loaded
      obtain ⟨_, _, _, found, _, _, _, _, _, _, _, _, _, _, _, _, rfl⟩ := loaded
      rw [same] at found
      simp [freshTask] at found
    next => exact stored
  exact ⟨parent, lease, task, _, _, _, different, loaded, held, parentTask, taskRunning, freshTask, freshRun,
    freshDelegation, fun otherId other found => (uniqueChild otherId other found).1, freshTurn, rfl⟩

/-! ### Completion -/

theorem Store.loadCompletion_ok {owner task} (loaded : s.loadCompletion commit = .ok (owner, task)) :
    s.loadFencedOwner commit.fence commit.completedAt = .ok owner ∧
      s.tasks.get owner.run.taskId = some task ∧ (task.status = .running ∨ task.status = .cancelling) ∧
      (commit.status = .succeeded →
        task.status = .running ∧ owner.run.cancellationRequestedAt = none ∧
          ∀ budget ∈ s.budgets.get commit.fence.runId, commit.completedAt ≤ budget.deadlineAt) := by
  simp only [loadCompletion, eq_ok, Prod.mk.injEq] at loaded
  obtain ⟨_, ownerLoaded, _, found, _, stage, _, success, rfl, rfl⟩ := loaded
  exact ⟨ownerLoaded, found, stage, success⟩

theorem insertFinalMessage_ok {message} (ok : insertFinalMessage commit message s = .ok s') :
    ∃ state, s.loops.get commit.fence.runId = some state ∧ state.nextAction = .commitFinal ∧
      s' = { s with loops := s.loops.put commit.fence.runId { state with nextAction := .terminal } } := by
  simp only [insertFinalMessage, eq_ok, Store.loopAtAttempt_eq_some] at ok
  obtain ⟨_, _, _, _, _, _, _, _, _, _, state, ⟨found, action, _⟩, rfl⟩ := ok
  exact ⟨state, found, action, rfl⟩

theorem settleBudget_ok {runId s s'} (ok : settleBudget runId s = .ok s') : ∃ budgets, s' = { s with budgets } := by
  unfold settleBudget at ok
  split at ok
  next =>
    cases ok
    exact ⟨s.budgets, rfl⟩
  next =>
    simp only [eq_ok] at ok
    obtain ⟨_, _, _, _, rfl⟩ := ok
    exact ⟨_, rfl⟩

theorem settleIncompleteAgentWork_ok {status at_} (ok : settleIncompleteAgentWork runId status at_ s = .ok s') :
    ∃ budgets reservations modelAttempts toolCalls,
      s' = { s with budgets, reservations, modelAttempts, toolCalls } := by
  unfold settleIncompleteAgentWork at ok
  split at ok
  next =>
    cases ok
    exact ⟨_, _, _, _, rfl⟩
  next =>
    simp only [eq_ok] at ok
    obtain ⟨_, _, _, _, _, _, _, budgeted, rfl⟩ := ok
    obtain ⟨budgets, rfl⟩ := settleBudget_ok budgeted
    exact ⟨budgets, _, _, _, rfl⟩

def Settles (commit : CompleteRunCommit) (s settled : Store) : Prop :=
  (commit.status = .succeeded ∧ ∃ message, insertFinalMessage commit message s = .ok settled) ∨
    settleIncompleteAgentWork commit.fence.runId commit.status commit.completedAt s = .ok settled

theorem Settles.work {commit s settled} (settles : Settles commit s settled) :
    (∃ message, insertFinalMessage commit message s = .ok settled) ∨ ∃ budgets reservations modelAttempts toolCalls,
      settled = { s with budgets, reservations, modelAttempts, toolCalls } :=
  settles.imp And.right settleIncompleteAgentWork_ok

theorem Settles.writes {commit s settled} (settles : Settles commit s settled) : Writes loopTables s settled := by
  rcases settles.work with ⟨_, inserted⟩ | ⟨_, _, _, _, rfl⟩
  · obtain ⟨_, _, _, rfl⟩ := insertFinalMessage_ok inserted
    exact .of_eq rfl
  · exact .of_eq rfl

theorem Settles.kept {commit s settled} (settles : Settles commit s settled) :
    settled.tasks = s.tasks ∧ settled.runs = s.runs ∧ settled.delegations = s.delegations := by
  obtain ⟨_, rfl⟩ := settles.writes
  exact ⟨rfl, rfl, rfl⟩

theorem finishRun_ok {owner task next} (ok : finishRun commit owner task next s = .ok s') :
    ∃ lease sessions, s.heldLease commit.fence = some lease ∧
      (sessions = s.sessions ∨ sessions = s.sessions.put owner.turn.sessionId
        { owner.session with activeTurnId := none }) ∧
      s' = { s with
        leases := s.leases.put commit.fence.leaseId
          { lease with state := .released, releasedAt := some commit.completedAt },
        runs := s.runs.put commit.fence.runId
          { owner.run with status := commit.status.runStatus, currentFencingToken := next },
        tasks := s.tasks.put owner.run.taskId
          { task with status := commit.status.taskStatus, revision := task.revision + 1 },
        sessions,
        turns := s.turns.put owner.turnId { owner.turn with status := commit.status.turnStatus } } := by
  simp only [finishRun, eq_ok] at ok
  obtain ⟨lease, held, _, _, _, _, rfl⟩ := ok
  refine ⟨lease, _, held, ?_, rfl⟩
  split
  · exact .inr rfl
  · exact .inl rfl

theorem settleDelegatedChild_ok {childTaskId} (ok : settleDelegatedChild commit childTaskId s = .ok s') :
    ∃ delegationId delegation parent parentTask budgets toolCalls state taskStatus,
      s.delegations.get delegationId = some delegation ∧ delegation.childRunId = commit.fence.runId ∧
      s.delegations.find (fun _ row =>
        row.childRunId = commit.fence.runId ∧ row.childTaskId = childTaskId ∧ row.state = .running) =
          some (delegationId, delegation) ∧ delegation.state = .running ∧
      s.runs.get delegation.parentRunId = some parent ∧ parent.status = .waiting ∧
      s.tasks.get parent.taskId = some parentTask ∧
      ((parent.cancellationRequestedAt.isSome ∧ parentTask.status = .cancelling ∧ taskStatus = .cancelling) ∨
        (parent.cancellationRequestedAt = none ∧ parentTask.status = .waiting ∧ taskStatus = .queued)) ∧
      s' = { s with
        budgets, toolCalls,
        delegations := s.delegations.put delegationId
          { delegation with state := commit.status.delegationState },
        loops := s.loops.put delegation.parentRunId state,
        runs := s.runs.put delegation.parentRunId { parent with status := .queued, nextAttemptAt := none },
        tasks := s.tasks.put parent.taskId
          { parentTask with status := taskStatus, revision := parentTask.revision + 1 } } := by
  simp only [settleDelegatedChild, eq_ok, putBudget_ok] at ok
  obtain ⟨⟨delegationId, delegation⟩, found, parent, parentFound, parentTask, parentTaskFound, _, _, state, _, _,
    ⟨_, _, _, waiting, _, _⟩, _, _, _, _, _, _, _, ⟨_, _, _, _, rfl⟩, _, expected, rfl⟩ := ok
  obtain ⟨stored, matches_⟩ := Table.find_some found
  simp only [decide_eq_true_eq] at matches_
  refine ⟨delegationId, delegation, parent, parentTask, _, _, _, _, stored, matches_.1, found, matches_.2.2,
    parentFound, waiting, parentTaskFound, ?_, rfl⟩
  cases cancelled : parent.cancellationRequestedAt <;> simp [cancelled] at expected ⊢ <;> exact expected

theorem completeRun_ok (ok : completeRun commit s = .ok s') :
    ∃ owner task settled finished, s.loadCompletion commit = .ok (owner, task) ∧ Settles commit s settled ∧
      finishRun commit owner task (commit.fence.fencingToken + 1) settled = .ok finished ∧
      ((owner.turn.kind = .delegated ∧ settleDelegatedChild commit owner.run.taskId finished = .ok s') ∨
        (owner.turn.kind = .canonical ∧ s' = finished)) := by
  simp only [completeRun, bind_eq_ok, nextToken_eq_ok] at ok
  obtain ⟨_, ⟨_, rfl⟩, ⟨owner, task⟩, loaded, ok⟩ := ok
  have split_end {finished : Store}
      (ended : (if owner.turn.kind = .delegated then settleDelegatedChild commit owner.run.taskId finished
        else pure finished) = Except.ok s') :
      (owner.turn.kind = .delegated ∧ settleDelegatedChild commit owner.run.taskId finished = .ok s') ∨
        (owner.turn.kind = .canonical ∧ s' = finished) := by
    cases kind : owner.turn.kind with
    | delegated => rw [if_pos kind] at ended; exact .inl ⟨rfl, ended⟩
    | canonical => rw [if_neg (by simp [kind])] at ended; exact .inr ⟨rfl, (pure_eq_ok.mp ended).symm⟩
  cases final : commit.finalMessage with
  | some message =>
    simp only [final, eq_ok] at ok
    obtain ⟨_, succeeded, settled, inserted, finished, done, ended⟩ := ok
    exact ⟨owner, task, settled, finished, loaded, .inl ⟨succeeded, message, inserted⟩, done, split_end ended⟩
  | none =>
    simp only [final, bind_eq_ok] at ok
    obtain ⟨settled, work, finished, done, ended⟩ := ok
    exact ⟨owner, task, settled, finished, loaded, .inr work, done, split_end ended⟩

end Mealy
