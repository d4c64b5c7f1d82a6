import Mealy.Context.Timeline

/-! Committing a compaction (`commit_compaction`): the record is checked against the events
of its range as the session sees them, and stored with an event of its own. The digest of
an event and the JSON of the carry-forward are given by functions. -/

namespace Mealy.Context
open Relational Transaction EventLog Memories

structure CompactionSourceRange where
  (firstCursor lastCursor : Nat)

def CompactionSourceRange.contains (range : CompactionSourceRange) (cursor : Nat) : Bool :=
  0 < range.firstCursor ∧ range.firstCursor ≤ range.lastCursor ∧ range.firstCursor ≤ cursor ∧ cursor ≤ range.lastCursor

structure CompactionCitation where
  eventId : EventId
  cursor : Nat
  eventDigest : String

structure CitedCompactionItem where
  (itemKey text : String)
  citations : List CompactionCitation

structure CompactedApproval where
  approvalId : ApprovalId
  status : ApprovalStatus
  subjectDigest : String
  citations : List CompactionCitation

structure CompactedEffect where
  effectId : EffectId
  status : EffectStatus
  outcome : String
  citations : List CompactionCitation

structure CompactionCarryForward where
  (currentGoals safetyConstraints decisions unresolvedWork : List CitedCompactionItem)
  unresolvedApprovals : List CompactedApproval
  effectOutcomes : List CompactedEffect

structure CompactionRecord where
  compactionId : CompactionId
  artifactId : ArtifactId
  sourceRange : CompactionSourceRange
  (promptVersion configDigest artifactDigest : String)
  carryForward : CompactionCarryForward

/-- `CommitCompaction`; of the blob only the size is free, its digest and its path are those
of the summary. -/
structure CommitCompaction where
  ownership : OwnershipContext
  sessionId : SessionId
  record : CompactionRecord
  summaryText : String
  blobSizeBytes : Nat
  eventId : EventId
  createdAt : Millis

inductive CompactionStoreError where
  | notFound | invalidSourceRange | conflict
  | invalidContract (message : String)
  | invariantViolation (message : String)

/-- What a commit computes with beside the tables. -/
structure CompactionFunctions where
  hash : DigestFunction
  eventDigest : TimelineEvent → String
  carryForwardJson : CompactionCarryForward → String

/-! ### The record -/

namespace CompactionCarryForward

def statements (carry : CompactionCarryForward) : List CitedCompactionItem :=
  carry.currentGoals ++ carry.safetyConstraints ++ carry.decisions ++ carry.unresolvedWork

def citations (carry : CompactionCarryForward) : List CompactionCitation :=
  carry.statements.flatMap CitedCompactionItem.citations ++ carry.unresolvedApprovals.flatMap CompactedApproval.citations ++
    carry.effectOutcomes.flatMap CompactedEffect.citations

end CompactionCarryForward

def validateCitations (citations : List CompactionCitation) (range : CompactionSourceRange) :
    Except CompactionStoreError Unit :=
  ensure (citations ≠ [] ∧ citations.length ≤ 64 ∧
      (citations.all fun citation => range.contains citation.cursor && isSha256Digest citation.eventDigest) ∧
      (citations.map fun citation => (citation.eventId, citation.cursor)).Nodup)
    (.invalidContract "compaction citation is invalid")

def validateStatements (range : CompactionSourceRange) (keys : List String) :
    List CitedCompactionItem → Except CompactionStoreError Unit
  | [] => .ok ()
  | item :: rest => do
    ensure (validText item.itemKey 256 ∧ validText item.text 8192 ∧ item.itemKey ∉ keys)
      (.invalidContract "compaction carry-forward item is invalid")
    validateCitations item.citations range
    validateStatements range (item.itemKey :: keys) rest

/-- `CompactionRecord::validate`, with the texts of `CompactionError`. -/
def CompactionRecord.validate (record : CompactionRecord) : Except CompactionStoreError Unit := do
  let carry := record.carryForward
  let range := record.sourceRange
  ensure (0 < range.firstCursor ∧ range.firstCursor ≤ range.lastCursor)
    (.invalidContract "compaction source event range is invalid")
  ensure (validText record.promptVersion 1024) (.invalidContract "compaction prompt version is invalid")
  ensure (isSha256Digest record.configDigest ∧ isSha256Digest record.artifactDigest)
    (.invalidContract "compaction digest is invalid")
  ensure (carry.statements.length + carry.unresolvedApprovals.length + carry.effectOutcomes.length ≤ 256)
    (.invalidContract "compaction contains too many carry-forward items")
  validateStatements range [] carry.statements
  carry.unresolvedApprovals.forM fun approval => do
    ensure (approval.status = .pending ∧ isSha256Digest approval.subjectDigest)
      (.invalidContract "compaction unresolved approval is invalid")
    validateCitations approval.citations range
  carry.effectOutcomes.forM fun effect => do
    ensure (validText effect.outcome 8192) (.invalidContract "compaction effect outcome is invalid")
    validateCitations effect.citations range

def CommitCompaction.validate (hash : DigestFunction) (commit : CommitCompaction) : Except CompactionStoreError Unit := do
  commit.record.validate
  ensure (commit.record.promptVersion = "mealy.compaction.v1" ∧ commit.summaryText ≠ "" ∧
      commit.summaryText.utf8ByteSize ≤ 262144 ∧ hash.digest commit.summaryText = commit.record.artifactDigest ∧
      commit.blobSizeBytes = commit.summaryText.utf8ByteSize)
    (.invalidContract "artifact, prompt, summary, or configuration digest diverged")

/-! ### The sources -/

namespace HistoryStore

def authorizedSession (s : HistoryStore) (ownership : OwnershipContext) (sessionId : SessionId) :
    Except CompactionStoreError Session :=
  require ((s.core.sessions.get sessionId).filter fun session => session.ownedBy ownership) .notFound

def authorizedWorkspace (s : HistoryStore) (ownership : OwnershipContext) (sessionId : SessionId) :
    Except CompactionStoreError String := do
  let _ ← s.authorizedSession ownership sessionId
  let epoch ← require ((s.currentEpoch.get sessionId).bind s.epochs.get) .notFound
  pure epoch.identity.workspaceIdentity

def mapTimelineError : TimelineStoreError → CompactionStoreError
  | .sessionNotFound | .unauthorized => .notFound
  | .gap _ | .cursorAhead => .invalidSourceRange

def compactionSourceSnapshot (s : HistoryStore) (ownership : OwnershipContext) (sessionId : SessionId)
    (range : CompactionSourceRange) : Except CompactionStoreError (List TimelineEvent) := do
  ensure (0 < range.firstCursor ∧ range.firstCursor ≤ range.lastCursor) .invalidSourceRange
  ensure (range.lastCursor - range.firstCursor + 1 ≤ 1000) .invalidSourceRange
  let _ ← s.authorizedWorkspace ownership sessionId
  let page ← (s.timelinePage
    { sessionId, ownership, after := some (range.firstCursor - 1), limit := range.lastCursor - range.firstCursor + 1 }).mapError
      mapTimelineError
  let events := page.events.takeWhile fun event => event.cursor ≤ range.lastCursor
  ensure (events.head?.map TimelineEvent.cursor = some range.firstCursor ∧
      events.getLast?.map TimelineEvent.cursor = some range.lastCursor) .invalidSourceRange
  pure events

def citationsBind (events : List TimelineEvent) (citations : List CompactionCitation) (aggregate : Aggregate) : Bool :=
  citations.any fun citation => events.any fun source =>
    source.event.eventId = citation.eventId ∧ source.cursor = citation.cursor ∧ source.event.aggregate = aggregate

def loadPendingApprovals (s : HistoryStore) (sessionId : SessionId) (range : CompactionSourceRange) :
    Except CompactionStoreError (List (ApprovalId × String)) := do
  let rows := s.core.approvals.entries.flatMap fun (approvalId, approval) =>
    if approval.status = .pending ∧ (s.core.effects.get approval.effectId).any fun effect => effect.sessionId = sessionId then
      ((s.eventCursors (.approval approvalId) "approval.requested").filter fun cursor => cursor ≤ range.lastCursor).map
        fun cursor => (approvalId, approval.subjectDigest.text, cursor)
    else []
  ensure (rows.all fun row => range.firstCursor ≤ row.2.2) .invalidSourceRange
  pure (rows.map fun row => (row.1, row.2.1))

def hasOutcome : EffectStatus → Bool
  | .dispatching | .succeeded | .failed | .outcomeUnknown | .compensated | .denied => true
  | _ => false

def loadEffectOutcomes (s : HistoryStore) (sessionId : SessionId) (range : CompactionSourceRange) :
    Except CompactionStoreError (List (EffectId × EffectStatus)) := do
  let rows := s.core.effects.entries.filterMap fun (effectId, effect) => do
    let cursor ← ((s.base.journal.events.filter fun event => event.aggregate = .effect effectId).filterMap
      fun event => s.base.journal.cursorOf event.eventId).max?
    if effect.sessionId = sessionId ∧ hasOutcome effect.status ∧ cursor ≤ range.lastCursor
    then some (effectId, effect.status, cursor) else none
  ensure (rows.all fun row => range.firstCursor ≤ row.2.2) .invalidSourceRange
  pure (rows.map fun row => (row.1, row.2.1))

def validateRequiredCarryForward (s : HistoryStore) (sessionId : SessionId) (record : CompactionRecord)
    (events : List TimelineEvent) : Except CompactionStoreError Unit := do
  let carry := record.carryForward
  ensure (carry.currentGoals ≠ [] ∧ carry.safetyConstraints ≠ [])
    (.invalidContract "compaction must retain typed current goals and safety constraints")
  let pending ← s.loadPendingApprovals sessionId record.sourceRange
  ensure (pending.length = carry.unresolvedApprovals.length ∧ pending.all fun (approvalId, subjectDigest) =>
      (carry.unresolvedApprovals.find? fun approval => approval.approvalId = approvalId).any fun approval =>
        approval.subjectDigest = subjectDigest ∧ citationsBind events approval.citations (.approval approvalId))
    (.invalidContract "compaction unresolved approvals diverge from canonical pending subjects")
  let effects ← s.loadEffectOutcomes sessionId record.sourceRange
  ensure (effects.length = carry.effectOutcomes.length ∧ effects.all fun (effectId, status) =>
      (carry.effectOutcomes.find? fun effect => effect.effectId = effectId).any fun effect =>
        effect.status = status ∧ citationsBind events effect.citations (.effect effectId))
    (.invalidContract "compaction effect outcomes diverge from canonical external state")

/-- `validate_snapshot_citations`. -/
def citationsMatch (functions : CompactionFunctions) (events : List TimelineEvent) (record : CompactionRecord) : Bool :=
  record.carryForward.citations.all fun citation => events.any fun source =>
    source.event.eventId = citation.eventId ∧ source.cursor = citation.cursor ∧
      functions.eventDigest source = citation.eventDigest

end HistoryStore

/-! ### The commit -/

def CommitCompaction.row (functions : CompactionFunctions) (commit : CommitCompaction) (principalId : PrincipalId) :
    SessionCompaction :=
  let carryForwardJson := functions.carryForwardJson commit.record.carryForward
  { principalId, sessionId := commit.sessionId, sourceFirstCursor := commit.record.sourceRange.firstCursor,
    sourceLastCursor := commit.record.sourceRange.lastCursor, summaryText := commit.summaryText,
    artifactDigest := commit.record.artifactDigest, carryForwardJson,
    carryForwardDigest := functions.hash.digest carryForwardJson, eventId := commit.eventId, createdAt := commit.createdAt }

/-- `commit_compaction`, up to the reply that is read back after the commit. -/
def commitCompaction (functions : CompactionFunctions) (commit : CommitCompaction) (s : HistoryStore) :
    Except CompactionStoreError HistoryStore := do
  let record := commit.record
  commit.validate functions.hash
  let events ← s.compactionSourceSnapshot commit.ownership commit.sessionId record.sourceRange
  ensure (HistoryStore.citationsMatch functions events record)
    (.invalidContract "compaction citation does not match the authorized canonical source event")
  s.validateRequiredCarryForward commit.sessionId record events
  let session ← s.authorizedSession commit.ownership commit.sessionId
  -- the primary keys and the bounds of the columns
  ensure (s.artifacts.get record.artifactId = none ∧ s.compactions.get record.compactionId = none ∧
      sqliteLength (functions.carryForwardJson record.carryForward) ≤ 262144) .conflict
  let journal ← (s.base.journal.record "aggregate sequence overflow"
    [appendNext commit.eventId (.compaction record.compactionId) "context.compacted"]).mapError fun _ => .conflict
  pure { s with
    base := { s.base with journal },
    artifacts := s.artifacts.put record.artifactId commit.sessionId,
    compactions := s.compactions.put record.compactionId (commit.row functions session.principalId) }

theorem commitCompaction_ok {functions commit s s'} (ok : commitCompaction functions commit s = .ok s') :
    ∃ session journal, s.core.sessions.get commit.sessionId = some session ∧
      s.compactions.get commit.record.compactionId = none ∧
      s.base.journal.appendAll maximumI64
        [appendNext commit.eventId (.compaction commit.record.compactionId) "context.compacted"] = .ok journal ∧
      s' = { s with
        base := { s.base with journal },
        artifacts := s.artifacts.put commit.record.artifactId commit.sessionId,
        compactions := s.compactions.put commit.record.compactionId (commit.row functions session.principalId) } := by
  simp only [commitCompaction, HistoryStore.authorizedSession, eq_ok, Option.filter_eq_some_iff, mapError_eq_ok, Journal.record_ok] at ok
  obtain ⟨_, _, events, _, _, _, _, _, session, ⟨found, _⟩, _, ⟨_, fresh, _⟩, journal, recorded, rfl⟩ := ok
  exact ⟨session, journal, found, fresh, recorded, rfl⟩

end Mealy.Context
