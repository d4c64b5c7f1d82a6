import Mealy.Store.JournalSystem

/-! `promote_next` with its answer. What the transaction did follows from the head of the
queue, its delivery mode and the active turn. -/

namespace Mealy
open Relational Transaction EventLog

structure PromotionReceipt where
  sessionId : SessionId
  inboxEntryId : InboxEntryId
  inboxSequence : Nat
  deliveryMode : DeliveryMode
  turnId : TurnId
  taskId : TaskId
  runId : RunId
  cursor : Nat
deriving DecidableEq

structure SteeringReceipt where
  sessionId : SessionId
  inboxEntryId : InboxEntryId
  inboxSequence : Nat
  turnId : TurnId
  runId : RunId
  cursor : Nat
deriving DecidableEq

structure InterruptionReceipt extends SteeringReceipt where
  cancelledBeforeClaim : Bool
deriving DecidableEq

inductive PromotionOutcome where
  | inboxEmpty
  | activeTurn (turnId : TurnId) (pendingMode : DeliveryMode)
  | steered (receipt : SteeringReceipt)
  | interruptRequested (receipt : InterruptionReceipt)
  | promoted (receipt : PromotionReceipt)
deriving DecidableEq

/-- The answer of a committed promotion from `s`, at the last cursor it wrote. -/
def PromotionCommit.outcome (commit : PromotionCommit) (s : Store) (cursor : Nat) : PromotionOutcome :=
  match s.loadPendingHead commit.sessionId, (s.sessions.get commit.sessionId).bind Session.activeTurnId with
  | none, _ => .inboxEmpty
  | some (inboxEntryId, entry), none =>
    .promoted
      { sessionId := commit.sessionId, inboxEntryId, inboxSequence := entry.sequence, deliveryMode := entry.deliveryMode,
        turnId := commit.turnId, taskId := commit.taskId, runId := commit.runId, cursor }
  | some (inboxEntryId, entry), some turnId =>
    let attached (turn : Turn) : SteeringReceipt :=
      { sessionId := commit.sessionId, inboxEntryId, inboxSequence := entry.sequence, turnId, runId := turn.runId, cursor }
    match entry.deliveryMode, s.turns.get turnId with
    | .steerAtBoundary, some turn => .steered (attached turn)
    | .interruptThenQueue, some turn =>
      if entry.interruptRequestedAt.isSome then .activeTurn turnId entry.deliveryMode
      else .interruptRequested
        { attached turn with
          cancelledBeforeClaim := (s.runs.get turn.runId).any fun run => run.status = .queued }
    | _, _ => .activeTurn turnId entry.deliveryMode

def JournaledStore.promoteNext (commit : PromotionCommit) (ceiling : CapabilityGrant) (reserved : Reserved)
    (delivery : Delivery) (s : JournaledStore) : Except StoreError (PromotionOutcome × JournaledStore) := do
  let s' ← journaled (.promote commit ceiling) reserved delivery s
  pure (commit.outcome s.core s'.journal.lastCursor, s')

end Mealy
