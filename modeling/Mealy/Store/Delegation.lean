import Mealy.Store.AgentEffect

/-! Launching a delegated child (`delegation.rs`): the parent's prepared
`agent.delegate` call starts, a child task, run and turn are created for it, and the
parent parks until the child completes. -/

namespace Mealy
open Relational Transaction

/-- `LaunchAgentDelegationCommit`. The work order, criteria and capabilities are
digested into the delegation row and read by nothing modelled here. -/
structure LaunchAgentDelegationCommit where
  parentFence : LeaseFence
  parentToolCallId : ToolCallId
  delegationId : DelegationId
  childTaskId : TaskId
  childRunId : RunId
  childTurnId : TurnId
  childInboxEntryId : InboxEntryId
  packageText : String
  validationRequired : Bool
  preparedAt : Millis

def Store.loadParent (s : Store) (fence : LeaseFence) (observedAt : Millis) :
    Except StoreError FencedOwner := do
  let run ← require (s.runningUnder fence) .staleFence
  let task ← require (s.tasks.get run.taskId) .staleFence
  ensure (task.status = .running ∧ run.cancellationRequestedAt = none) .staleFence
  let lease ← require (s.heldLease fence) .staleFence
  ensure (lease.acquiredAt ≤ observedAt ∧ observedAt < lease.expiresAt) .staleFence
  let (turnId, turn) ← require (s.turnOfRun fence.runId) .staleFence
  let session ← require (s.sessions.get turn.sessionId) .staleFence
  ensure (turn.taskId = run.taskId ∧ turn.kind = .canonical ∧ turn.status = .active ∧
    session.activeTurnId = some turnId) .staleFence
  pure { run, turnId, turn, session }

def insertDelegationGraph (commit : LaunchAgentDelegationCommit) (s : Store) : Txn := do
  let reserved ← putBudget commit.parentFence.runId
    (fun budget =>
      let next := { budget with reserved := budget.reserved + { delegatedRuns := 1 } }
      if budget.cancellationRequestedAt = none ∧ next.Fits then some next else none)
    (.budgetExceeded "delegated run exceeds the effective parent limit") s
  ensure (s.tasks.get commit.childTaskId = none ∧ s.runs.get commit.childRunId = none ∧
    s.delegations.get commit.delegationId = none ∧
    !(s.delegations.any fun _ other =>
      other.childRunId = commit.childRunId ∨ other.childTaskId = commit.childTaskId)) .conflict
  pure { reserved with
    tasks := reserved.tasks.put commit.childTaskId
      { status := .queued, revision := 0, validationRequired := commit.validationRequired,
        validationId := none },
    runs := reserved.runs.put commit.childRunId
      { taskId := commit.childTaskId, agentRole := .delegate, status := .queued,
        currentFencingToken := 0, cancellationRequestedAt := none, nextAttemptAt := none,
        createdAt := commit.preparedAt },
    delegations := reserved.delegations.put commit.delegationId
      { parentRunId := commit.parentFence.runId, childTaskId := commit.childTaskId,
        childRunId := commit.childRunId, parentToolCallId := commit.parentToolCallId,
        state := .queued, createdAt := commit.preparedAt } }

def insertDelegatedTurn (commit : LaunchAgentDelegationCommit) (parent : FencedOwner) (s : Store) : Txn := do
  let turn : Turn :=
    { sessionId := parent.turn.sessionId, inboxEntryId := commit.childInboxEntryId,
      taskId := commit.childTaskId, runId := commit.childRunId, kind := .delegated, status := .active,
      createdAt := commit.preparedAt }
  let dedupeKey := "delegation:" ++ Json.uuidText commit.delegationId.id
  ensure (s.inbox.get commit.childInboxEntryId = none ∧
    s.loadAdmission parent.turn.sessionId dedupeKey = none) .conflict
  ensure (s.turnIsFresh commit.childTurnId turn) .conflict
  pure { s with
    inbox := s.inbox.put commit.childInboxEntryId
      { sessionId := parent.turn.sessionId, sequence := parent.session.nextInboxSequence, dedupeKey,
        deliveryMode := .queue, content := commit.packageText, state := .promoted,
        promotedTurnId := some commit.childTurnId, interruptRequestedAt := none },
    sessions := s.sessions.put parent.turn.sessionId
      { parent.session with nextInboxSequence := parent.session.nextInboxSequence + 1 },
    turns := s.turns.put commit.childTurnId turn }

def parkParentForChild (commit : LaunchAgentDelegationCommit) (parent : FencedOwner) (tool : ToolCall)
    (s : Store) : Txn := do
  let next ← nextToken commit.parentFence.fencingToken "parent delegation token overflow"
  ensure (tool.preparedAt ≤ commit.preparedAt) .conflict
  parkRun commit.parentFence parent.run commit.preparedAt next
    { s with
      toolCalls := s.toolCalls.put commit.parentToolCallId
        { tool with state := .running, startedAt := some commit.preparedAt } }

def launchAgentDelegation (commit : LaunchAgentDelegationCommit) (s : Store) : Txn := do
  ensure (commit.childRunId ≠ commit.parentFence.runId)
    (.invariantViolation "delegation contract is invalid")
  let parent ← s.loadParent commit.parentFence commit.preparedAt
  let tool ← require (s.fencedTool commit.parentFence commit.parentToolCallId .prepared) .conflict
  ensure (tool.toolId = .agentDelegate) .conflict
  ensure (commit.packageText.utf8ByteSize ≤ 240 * 1024)
    (.invariantViolation "rendered delegated work package exceeds the isolated context bound")
  let graph ← insertDelegationGraph commit s
  let child ← insertDelegatedTurn commit parent graph
  parkParentForChild commit parent tool child

end Mealy
