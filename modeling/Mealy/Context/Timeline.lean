import Mealy.Context.Sources

/-! The timeline of a session (`timeline.rs`): the events of the journal that belong to a
session, in the order of their cursors. The queries decide from the present rows which
aggregates belong to it. -/

namespace Mealy.Context
open Relational Transaction EventLog Memories

inductive TimelineStoreError where
  | sessionNotFound | unauthorized
  | gap (earliest : Nat)
  | cursorAhead

inductive TimelineUseCaseError where
  | invalidPageSize
  | store (error : TimelineStoreError)

structure TimelineEvent where
  cursor : Nat
  event : Event Aggregate EventId

structure TimelineQuery where
  sessionId : SessionId
  ownership : OwnershipContext
  after : Option Nat
  limit : Nat

structure TimelinePage where
  events : List TimelineEvent
  highWatermark : Nat
  hasMore : Bool

namespace HistoryStore

def runBelongs (s : HistoryStore) (sessionId : SessionId) (runId : RunId) : Bool :=
  (s.roots.get runId).any fun root => s.core.turns.any fun _ turn =>
    turn.runId = root ∧ turn.sessionId = sessionId ∧ turn.kind = .canonical

def belongs (s : HistoryStore) (sessionId : SessionId) (aggregate : Aggregate) : Bool :=
  match aggregate with
  | .session id => id = sessionId
  | .task id => s.core.runs.any fun runId run => run.taskId = id ∧ s.runBelongs sessionId runId
  | .run id => s.runBelongs sessionId id
  | .turn id => (s.core.turns.get id).any fun turn => turn.sessionId = sessionId
  | .lease _ => false
  | .message id => (s.messages.get id).any fun message => message.sessionId = sessionId
  | .contextEpoch id => (s.epochs.get id).any fun epoch => epoch.sessionId = sessionId
  | .contextManifest id => s.manifests.get id = some sessionId
  | .modelAttempt id => (s.core.modelAttempts.get id).any fun attempt => s.runBelongs sessionId attempt.runId
  | .toolCall id => (s.core.toolCalls.get id).any fun call => s.runBelongs sessionId call.runId
  | .artifact id => s.artifacts.get id = some sessionId
  | .effect id => (s.core.effects.get id).any fun effect => s.runBelongs sessionId effect.runId
  | .approval id => (s.core.approvals.get id).any fun approval =>
    (s.core.effects.get approval.effectId).any fun effect => s.runBelongs sessionId effect.runId
  | .delegation id => (s.core.delegations.get id).any fun delegation =>
    s.runBelongs sessionId delegation.parentRunId || s.runBelongs sessionId delegation.childRunId
  | .resourceClaim id => (s.base.store.claims.get id).any fun claim => s.runBelongs sessionId claim.runId
  | .validation id => (s.producers.get id).any fun runId => s.runBelongs sessionId runId
  | .memory id => (s.memory.memories.get id).any fun memory =>
    (s.core.sessions.get sessionId).any fun session => memory.principalId = session.principalId ∧
      s.epochs.any fun _ epoch => epoch.sessionId = sessionId ∧
        epoch.identity.workspaceIdentity = memory.workspaceIdentity
  | .compaction id => (s.compactions.get id).any fun compaction => compaction.sessionId = sessionId

def timeline (s : HistoryStore) (sessionId : SessionId) : List TimelineEvent :=
  s.base.journal.timeline.filterMap fun row => do
    let event ← s.base.journal.events.find? fun event => event.eventId = row.eventId
    if s.belongs sessionId event.aggregate then some ⟨row.cursor, event⟩ else none

def highWatermark (s : HistoryStore) (sessionId : SessionId) : Nat :=
  (s.timeline sessionId).getLast?.elim 0 TimelineEvent.cursor

def authorizeTimeline (s : HistoryStore) (sessionId : SessionId) (ownership : OwnershipContext) :
    Except TimelineStoreError Unit := do
  let session ← require (s.core.sessions.get sessionId) .sessionNotFound
  ensure (session.ownedBy ownership) .unauthorized

def timelinePage (s : HistoryStore) (query : TimelineQuery) : Except TimelineStoreError TimelinePage := do
  s.authorizeTimeline query.sessionId query.ownership
  let watermark := s.highWatermark query.sessionId
  ensure (query.after.all fun after => s.earliestCursor ≤ after + 1) (.gap s.earliestCursor)
  ensure (query.after.all fun after => after ≤ watermark) .cursorAhead
  let events := ((s.timeline query.sessionId).filter fun event => query.after.getD 0 < event.cursor).take (query.limit + 1)
  pure
    { events := events.take query.limit, highWatermark := watermark, hasMore := query.limit < events.length }

def queryTimeline (s : HistoryStore) (query : TimelineQuery) : Except TimelineUseCaseError TimelinePage := do
  ensure (1 ≤ query.limit ∧ query.limit ≤ 1000) .invalidPageSize
  (s.timelinePage query).mapError .store

end HistoryStore
end Mealy.Context
