import Mealy.Store.Admission

/-! Governed memory (`memory.rs` of the domain, the application and the store) with the
triggers of its schema: a proposed memory is promoted or rejected, an active one is
corrected, pinned or expired, and any one may be deleted. The full-text index follows the
revisions by a trigger. A violated constraint or trigger is a conflict. -/

namespace Mealy.Memories
open Relational Transaction EventLog

structure MemoryRevisionId where
  id : Nat
deriving DecidableEq

/-! ### Contracts -/

inductive MemoryStatus where
  | proposed | active | superseded | expired | rejected | deleted
deriving DecidableEq

inductive MemoryCategory where
  | preference | fact | goal | decision | constraint | identity | credential | health | financial | thirdPartyPrivate

def MemoryCategory.requiresExplicitOwnerAuthorization : MemoryCategory → Bool
  | identity | credential | health | financial | thirdPartyPrivate => true
  | preference | fact | goal | decision | constraint => false

inductive MemorySensitivity where
  | public_ | internal | private_ | restricted
deriving DecidableEq

inductive MemoryRetention where
  | session | standard | pinned | policyHold

structure MemoryConfidence where
  basisPoints : Nat
  bounded : basisPoints ≤ 10000

inductive MemoryPromotionAuthorization where
  | ownerPolicy (policyVersion : String)
  | approval (approvalId : ApprovalId)

def memoryPolicyVersion : String := "mealy.memory.v1"

inductive MemoryStoreError where
  | notFound
  | invalidContract (message : String)
  | policyDenied
  | conflict
  | invariantViolation (message : String)

structure MemorySource where
  (locator digest : String)

structure MemoryNamespace where
  principalId : PrincipalId
  workspaceIdentity : String

/-- The sets of the provenance are lists without repetition, in any order. -/
structure MemoryProvenance where
  proposedByPrincipalId : PrincipalId
  (sourceLocators sourceDigests : List String)

structure MemoryMetadata where
  memoryNamespace : MemoryNamespace
  category : MemoryCategory
  provenance : MemoryProvenance
  confidence : MemoryConfidence
  sensitivity : MemorySensitivity
  retention : MemoryRetention
  (createdAt lastVerifiedAt : Int)

def isSha256Digest (text : String) : Bool :=
  text.utf8ByteSize = 64 ∧ text.toList.all fun c => (48 ≤ c.toNat ∧ c.toNat ≤ 57) ∨ (97 ≤ c.toNat ∧ c.toNat ≤ 102)

def hasNormalComponents (path : String) : Bool :=
  let parts := path.toList.splitOn '/'
  path.toList.head? ≠ some '/' ∧ parts.head? ≠ some ['.'] ∧ ['.', '.'] ∉ parts

def validText (text : String) (maximumBytes : Nat) : Bool :=
  text ≠ "" ∧ text.utf8ByteSize ≤ maximumBytes ∧ isTrimmed text ∧ text.toList.all fun c => !isControl c

/-- `MemoryMetadata::validate`, with the texts of `MemoryError`. -/
def MemoryMetadata.validate (metadata : MemoryMetadata) : Except MemoryStoreError Unit := do
  ensure (validText metadata.memoryNamespace.workspaceIdentity 1024)
    (.invalidContract "memory workspace identity is invalid")
  ensure (0 ≤ metadata.createdAt ∧ metadata.createdAt ≤ metadata.lastVerifiedAt)
    (.invalidContract "memory verification timestamp is invalid")
  ensure (metadata.provenance.sourceLocators ≠ [] ∧ metadata.provenance.sourceLocators.length ≤ 64 ∧
      metadata.provenance.sourceLocators.all fun locator => validText locator 4096)
    (.invalidContract "memory provenance locator is invalid")
  ensure (metadata.provenance.sourceDigests ≠ [] ∧ metadata.provenance.sourceDigests.length ≤ 64 ∧
      metadata.provenance.sourceDigests.all isSha256Digest)
    (.invalidContract "memory source digest is invalid")

def validContent (content : String) : Bool :=
  content ≠ "" ∧ content.utf8ByteSize ≤ 65536 ∧ content.toList.all fun c => c.toNat ≠ 0

def MemorySource.wellFormed (source : MemorySource) : Bool := validText source.locator 4096 ∧ isSha256Digest source.digest

def validateSources (sources : List MemorySource) (metadata : MemoryMetadata) : Except MemoryStoreError Unit := do
  let locators := sources.map MemorySource.locator
  let digests := sources.map MemorySource.digest
  ensure (sources ≠ [] ∧ sources.length ≤ 64) (.invalidContract "memory sources are empty or unbounded")
  ensure (locators.Nodup ∧ sources.all MemorySource.wellFormed ∧
      locators ⊆ metadata.provenance.sourceLocators ∧ metadata.provenance.sourceLocators ⊆ locators ∧
      digests ⊆ metadata.provenance.sourceDigests ∧ metadata.provenance.sourceDigests ⊆ digests)
    (.invalidContract "paired memory sources diverge from immutable provenance")

/-! ### The store -/

structure Memory where
  principalId : PrincipalId
  workspaceIdentity : String
  status : MemoryStatus
  revision : Nat
  category : MemoryCategory
  confidence : MemoryConfidence
  sensitivity : MemorySensitivity
  retention : MemoryRetention
  (createdEventId updatedEventId : EventId)
  (createdAt lastVerifiedAt : Millis)
  deletedAt : Option Millis := none

structure MemoryRevision where
  memoryId : MemoryId
  ordinal : Nat
  status : MemoryStatus
  content : Option String
  contentDigest : String
  confidence : MemoryConfidence
  sensitivity : MemorySensitivity
  retention : MemoryRetention
  supersedesRevisionId : Option MemoryRevisionId := none
  (createdEventId statusEventId : EventId)
  (createdAt lastVerifiedAt : Millis)
  deletedAt : Option Millis := none

structure PromotionAuthorization where
  memoryId : MemoryId
  authorization : MemoryPromotionAuthorization
  subjectDigest : String
  actorPrincipalId : PrincipalId
  eventId : EventId
  authorizedAt : Millis

structure MemoryIndexRow where
  memoryId : MemoryId
  revisionId : MemoryRevisionId
  principalId : PrincipalId
  (workspaceIdentity content : String)

inductive LexicalStatus where
  | healthy | degraded | rebuilding
deriving DecidableEq

structure MemoryIndexState where
  lexicalStatus : LexicalStatus := .healthy
  indexedRevisionCount : Nat := 0
  lastRebuiltAt : Option Millis := none

structure MemoryStore where
  journal : Journal := {}
  memories : Table MemoryId Memory := .empty
  revisions : Table MemoryRevisionId MemoryRevision := .empty
  sources : Table (MemoryRevisionId × Nat) MemorySource := .empty
  authorizations : Table MemoryRevisionId PromotionAuthorization := .empty
  index : List MemoryIndexRow := []
  indexState : MemoryIndexState := {}

/-- What the memory store reads of the sessions and their context epochs: `workspaces`
is `authorize_workspace`, `channels` is `authorize_principal_channel`. -/
structure Authorities where
  workspaces : OwnershipContext → String → Bool
  channels : OwnershipContext → Bool

structure DigestFunction where
  digest : String → String
  canonical : ∀ text, isSha256Digest (digest text) = true

def letterDigest : DigestFunction := ⟨fun _ => String.ofList (List.replicate 64 'a'), fun _ => by decide +kernel⟩

def epochMilliseconds (time : SystemTime) : Except MemoryStoreError Millis := do
  ensure (0 ≤ time)
    (.invariantViolation "agent execution invariant violation: agent time precedes Unix epoch")
  let milliseconds := time.toNat / 10 ^ 6
  ensure (milliseconds ≤ maximumI64)
    (.invariantViolation "agent execution invariant violation: timestamp exceeds SQLite range")
  pure milliseconds

def expectedRevisionFits (expectedRevision : Nat) : Except MemoryStoreError Unit :=
  ensure (expectedRevision ≤ maximumI64) (.invalidContract "expected memory revision exceeds SQLite range")

def appendMemoryEvent (eventId : EventId) (memoryId : MemoryId) (eventType : String) (s : MemoryStore) :
    Except MemoryStoreError MemoryStore :=
  match s.journal.appendAll maximumI64 [appendNext eventId (.memory memoryId) eventType] with
  | .ok journal => .ok { s with journal }
  | .error .exhausted =>
    .error (.invariantViolation "agent execution invariant violation: aggregate sequence overflow")
  | .error _ => .error .conflict

/-! ### Constraints and triggers -/

/-- The transitions that `memory_transition_update` lets through. -/
def memoryTransition : MemoryStatus → MemoryStatus → Bool
  | .proposed, .active | .proposed, .rejected | .proposed, .deleted
  | .active, .active | .active, .superseded | .active, .expired | .active, .deleted
  | .superseded, .deleted | .expired, .deleted | .rejected, .deleted => true
  | _, _ => false

/-- The transitions that `memory_revision_transition_update` lets through. -/
def revisionTransition : MemoryStatus → MemoryStatus → Bool
  | .proposed, .active | .proposed, .rejected | .proposed, .deleted
  | .active, .superseded | .active, .expired | .active, .deleted
  | .superseded, .deleted | .expired, .deleted | .rejected, .deleted => true
  | _, _ => false

/-- The `CHECK` on `deleted_at_ms`. -/
def deletionFits (status : MemoryStatus) (createdAt : Millis) (deletedAt : Option Millis) : Bool :=
  match deletedAt with
  | some deletedAt => status = .deleted ∧ createdAt ≤ deletedAt
  | none => status ≠ .deleted

/-- Is explicit evidence needed to activate a revision of this sensitivity? -/
def isSensitive (category : MemoryCategory) (sensitivity : MemorySensitivity) : Bool :=
  category.requiresExplicitOwnerAuthorization ∨ sensitivity = .restricted

namespace MemoryStore

def activationIsCovered (s : MemoryStore) (revisionId : MemoryRevisionId) (revision : MemoryRevision) : Bool :=
  s.sources.any (fun key _ => key.1 = revisionId) ∧
  ((s.memories.get revision.memoryId).all fun owner =>
    isSensitive owner.category revision.sensitivity →
      (s.authorizations.get revisionId).any fun authorization =>
        authorization.memoryId = revision.memoryId ∧ authorization.subjectDigest = revision.contentDigest ∧
          authorization.actorPrincipalId = owner.principalId)

def indexRow (s : MemoryStore) (revisionId : MemoryRevisionId) (revision : MemoryRevision) : Option MemoryIndexRow := do
  let owner ← s.memories.get revision.memoryId
  let content ← revision.content
  pure
    { memoryId := revision.memoryId, revisionId, principalId := owner.principalId,
      workspaceIdentity := owner.workspaceIdentity, content }

def revisionsAreUnique (revisions : Table MemoryRevisionId MemoryRevision) (status : MemoryStatus) : Bool :=
  revisions.entries.all fun first => revisions.entries.all fun second =>
    first.2.status = status ∧ second.2.status = status ∧ first.2.memoryId = second.2.memoryId → first.1 = second.1

def insertRevision (revisionId : MemoryRevisionId) (revision : MemoryRevision) (s : MemoryStore) :
    Except MemoryStoreError MemoryStore := do
  let owner ← require (s.memories.get revision.memoryId) .conflict
  let followsActive : Bool := revision.supersedesRevisionId.any fun previousId =>
    (s.revisions.get previousId).any fun previous =>
      previous.memoryId = revision.memoryId ∧ previous.status = .active ∧ revision.ordinal = previous.ordinal + 1
  ensure (revision.status = .proposed ∧
      ((owner.status = .proposed ∧ revision.ordinal = 1) ∨ (owner.status = .active ∧ followsActive))) .conflict
  ensure (s.revisions.get revisionId = none ∧
      ¬ s.revisions.any (fun _ other => other.memoryId = revision.memoryId ∧ other.ordinal = revision.ordinal) ∧
      ¬ s.revisions.any (fun _ other => other.createdEventId = revision.createdEventId) ∧
      revision.supersedesRevisionId ≠ some revisionId) .conflict
  let revisions := s.revisions.put revisionId revision
  ensure (revisionsAreUnique revisions .proposed) .conflict
  pure { s with revisions }

def moveRevision (status : MemoryStatus) (eventId : EventId) (occurredAt : Millis) (revision : MemoryRevision) :
    MemoryRevision :=
  { revision with
    status, statusEventId := eventId,
    content := if status = .deleted then none else revision.content,
    deletedAt := if status = .deleted then some occurredAt else revision.deletedAt }

def updateRevisions (selects : MemoryRevisionId → MemoryRevision → Bool) (status : MemoryStatus) (eventId : EventId)
    (occurredAt : Millis) (s : MemoryStore) : Except MemoryStoreError (Nat × MemoryStore) := do
  let rows := s.revisions.select selects
  ensure (rows.all fun row => revisionTransition row.2.status status ∧
      deletionFits status row.2.createdAt (moveRevision status eventId occurredAt row.2).deletedAt ∧
      (status = .active → s.activationIsCovered row.1 row.2)) .conflict
  let revisions := s.revisions.update fun revisionId revision =>
    if selects revisionId revision then moveRevision status eventId occurredAt revision else revision
  ensure (revisionsAreUnique revisions .active) .conflict
  let inserted := if status = .active then rows.filterMap fun row => s.indexRow row.1 row.2 else []
  let index := s.index.filter (fun row => !rows.any fun updated => updated.1 = row.revisionId) ++ inserted
  let indexState := if rows = [] then s.indexState else { s.indexState with indexedRevisionCount := index.length }
  pure (rows.length, { s with revisions, index, indexState })

def updateRevision (revisionId : MemoryRevisionId) (memoryId : MemoryId) (before status : MemoryStatus)
    (eventId : EventId) (occurredAt : Millis) (s : MemoryStore) : Except MemoryStoreError MemoryStore := do
  let (changed, s) ← s.updateRevisions (fun id revision => id = revisionId ∧ revision.memoryId = memoryId ∧
    revision.status = before) status eventId occurredAt
  ensure (changed = 1) .conflict
  pure s

def updateMemory (memoryId : MemoryId) (selects : Memory → Bool) (change : Memory → Memory) (s : MemoryStore) :
    Except MemoryStoreError MemoryStore := do
  let old ← require ((s.memories.get memoryId).filter selects) .conflict
  let new := { change old with revision := old.revision + 1 }
  ensure (new.revision ≤ maximumI64 ∧ memoryTransition old.status new.status ∧
      new.updatedEventId ≠ old.updatedEventId ∧ new.createdAt ≤ new.lastVerifiedAt ∧
      deletionFits new.status new.createdAt new.deletedAt) .conflict
  pure { s with memories := s.memories.put memoryId new }

def insertSources (revisionId : MemoryRevisionId) (sources : List MemorySource) (s : MemoryStore) :
    Except MemoryStoreError MemoryStore := do
  let rows := sources.zipIdx 1
  ensure (rows.all fun row => s.sources.get (revisionId, row.2) = none) .conflict
  pure { s with sources := rows.foldl (fun table row => table.put (revisionId, row.2) row.1) s.sources }

def policyVersion : MemoryPromotionAuthorization → String
  | .ownerPolicy version => version
  | .approval _ => memoryPolicyVersion

def recordAuthorization (ownership : OwnershipContext) (memoryId : MemoryId) (revisionId : MemoryRevisionId)
    (subjectDigest : String) (authorization : MemoryPromotionAuthorization) (eventId : EventId) (authorizedAt : Millis)
    (s : MemoryStore) : Except MemoryStoreError MemoryStore := do
  ensure (policyVersion authorization = memoryPolicyVersion) .policyDenied
  let s ← appendMemoryEvent eventId memoryId "memory.promotion_authorized" s
  let bound : Bool := (s.revisions.get revisionId).any fun revision =>
    revision.memoryId = memoryId ∧ revision.status = .proposed ∧ revision.contentDigest = subjectDigest ∧
      (s.memories.get memoryId).any fun owner => owner.principalId = ownership.principalId
  ensure (bound ∧ s.authorizations.get revisionId = none) .conflict
  pure { s with
    authorizations := s.authorizations.put revisionId
      { memoryId, authorization, subjectDigest, actorPrincipalId := ownership.principalId, eventId, authorizedAt } }

end MemoryStore

/-! ### Transactions -/

structure ProposeMemoryCommit where
  ownership : OwnershipContext
  memoryId : MemoryId
  revisionId : MemoryRevisionId
  content : String
  metadata : MemoryMetadata
  sources : List MemorySource
  eventId : EventId
  proposedAt : SystemTime

structure PromoteMemoryCommit where
  ownership : OwnershipContext
  memoryId : MemoryId
  revisionId : MemoryRevisionId
  authorization : Option MemoryPromotionAuthorization
  authorizationEventId : Option EventId
  activationEventId : EventId
  activatedAt : SystemTime

structure CorrectMemoryCommit where
  ownership : OwnershipContext
  memoryId : MemoryId
  expectedRevision : Nat
  revisionId : MemoryRevisionId
  content : String
  confidence : MemoryConfidence
  sensitivity : MemorySensitivity
  retention : MemoryRetention
  sources : List MemorySource
  authorization : Option MemoryPromotionAuthorization
  revisionEventId : EventId
  authorizationEventId : Option EventId
  correctedEventId : EventId
  correctedAt : SystemTime

structure SetMemoryPinCommit where
  ownership : OwnershipContext
  memoryId : MemoryId
  expectedRevision : Nat
  pinned : Bool
  eventId : EventId
  updatedAt : SystemTime

/-- `ExpireMemoryCommit`, `RejectMemoryCommit` and `DeleteMemoryCommit`. -/
structure EndMemoryCommit where
  ownership : OwnershipContext
  memoryId : MemoryId
  expectedRevision : Nat
  eventId : EventId
  occurredAt : SystemTime

def validateMemoryProposal (commit : ProposeMemoryCommit) : Except MemoryStoreError Unit := do
  commit.metadata.validate
  ensure (commit.metadata.memoryNamespace.principalId = commit.ownership.principalId ∧
      commit.metadata.provenance.proposedByPrincipalId = commit.ownership.principalId ∧ validContent commit.content)
    (.invalidContract "proposal ownership, content, or provenance is invalid")
  validateSources commit.sources commit.metadata

def validateCorrection (commit : CorrectMemoryCommit) : Except MemoryStoreError Unit := do
  ensure (validContent commit.content ∧ commit.sources ≠ [] ∧ commit.sources.length ≤ 64)
    (.invalidContract "corrected memory content or sources are invalid")
  ensure (commit.sources.all MemorySource.wellFormed ∧ (commit.sources.map MemorySource.locator).Nodup)
    (.invalidContract "corrected memory provenance is invalid")

def validateAuthorizationPair (authorization : Option MemoryPromotionAuthorization) (eventId : Option EventId) :
    Except MemoryStoreError Unit :=
  ensure (authorization.isSome = eventId.isSome)
    (.invalidContract "memory promotion authorization and event must be supplied together")

def validatePromotionAuthorization (category : MemoryCategory) (sensitivity : MemorySensitivity)
    (authorization : Option MemoryPromotionAuthorization) : Except MemoryStoreError Unit := do
  ensure (isSensitive category sensitivity → authorization.isSome) .policyDenied
  ensure (authorization.all fun evidence => MemoryStore.policyVersion evidence = memoryPolicyVersion) .policyDenied

section Transactions
variable (hash : DigestFunction) (authorities : Authorities)

def ownedMemory (ownership : OwnershipContext) (memoryId : MemoryId) (s : MemoryStore) :
    Except MemoryStoreError Memory := do
  let owner ← require (s.memories.get memoryId) .notFound
  ensure (owner.principalId = ownership.principalId ∧ authorities.workspaces ownership owner.workspaceIdentity)
    .notFound
  pure owner

def loadRevisionForMutation (ownership : OwnershipContext) (memoryId : MemoryId) (revisionId : MemoryRevisionId)
    (s : MemoryStore) : Except MemoryStoreError (Memory × MemoryRevision) := do
  let owner ← ownedMemory authorities ownership memoryId s
  let revision ← require ((s.revisions.get revisionId).filter fun revision => revision.memoryId = memoryId) .notFound
  pure (owner, revision)

def loadActiveForMutation (ownership : OwnershipContext) (memoryId : MemoryId) (expectedRevision : Nat)
    (s : MemoryStore) : Except MemoryStoreError (Memory × MemoryRevisionId × MemoryRevision) := do
  expectedRevisionFits expectedRevision
  let owner ← ownedMemory authorities ownership memoryId s
  ensure (owner.status = .active ∧ owner.revision = expectedRevision) .notFound
  let current ← require (s.revisions.find fun _ revision => revision.memoryId = memoryId ∧ revision.status = .active)
    .notFound
  pure (owner, current)

def proposeMemory (commit : ProposeMemoryCommit) (s : MemoryStore) : Except MemoryStoreError MemoryStore := do
  validateMemoryProposal commit
  let proposedAt ← epochMilliseconds commit.proposedAt
  ensure (commit.metadata.createdAt = proposedAt ∧ commit.metadata.lastVerifiedAt = proposedAt)
    (.invalidContract "initial creation and verification times must equal the proposal time")
  ensure (authorities.workspaces commit.ownership commit.metadata.memoryNamespace.workspaceIdentity) .notFound
  let s ← appendMemoryEvent commit.eventId commit.memoryId "memory.proposed" s
  ensure (s.memories.get commit.memoryId = none ∧
      ¬ s.memories.any (fun _ other => other.createdEventId = commit.eventId)) .conflict
  let s := { s with
    memories := s.memories.put commit.memoryId
      { principalId := commit.ownership.principalId,
        workspaceIdentity := commit.metadata.memoryNamespace.workspaceIdentity, status := .proposed, revision := 0,
        category := commit.metadata.category, confidence := commit.metadata.confidence,
        sensitivity := commit.metadata.sensitivity, retention := commit.metadata.retention,
        createdEventId := commit.eventId, updatedEventId := commit.eventId, createdAt := proposedAt,
        lastVerifiedAt := proposedAt } }
  let s ← s.insertRevision commit.revisionId
    { memoryId := commit.memoryId, ordinal := 1, status := .proposed, content := some commit.content,
      contentDigest := hash.digest commit.content, confidence := commit.metadata.confidence,
      sensitivity := commit.metadata.sensitivity, retention := commit.metadata.retention,
      createdEventId := commit.eventId, statusEventId := commit.eventId, createdAt := proposedAt,
      lastVerifiedAt := proposedAt }
  s.insertSources commit.revisionId commit.sources

/-- The authorization and its event come together or not at all. -/
def recordOptionalAuthorization (ownership : OwnershipContext) (memoryId : MemoryId) (revisionId : MemoryRevisionId)
    (subjectDigest : String) (authorizedAt : Millis) (s : MemoryStore) :
    Option MemoryPromotionAuthorization → Option EventId → Except MemoryStoreError MemoryStore
  | some authorization, some eventId =>
    s.recordAuthorization ownership memoryId revisionId subjectDigest authorization eventId authorizedAt
  | _, _ => .ok s

def promoteMemory (commit : PromoteMemoryCommit) (s : MemoryStore) : Except MemoryStoreError MemoryStore := do
  let activatedAt ← epochMilliseconds commit.activatedAt
  validateAuthorizationPair commit.authorization commit.authorizationEventId
  let (owner, revision) ← loadRevisionForMutation authorities commit.ownership commit.memoryId commit.revisionId s
  ensure (owner.status = .proposed ∧ revision.status = .proposed) .conflict
  validatePromotionAuthorization owner.category revision.sensitivity commit.authorization
  let s ← recordOptionalAuthorization commit.ownership commit.memoryId commit.revisionId revision.contentDigest
    activatedAt s commit.authorization commit.authorizationEventId
  let s ← appendMemoryEvent commit.activationEventId commit.memoryId "memory.activated" s
  let s ← s.updateRevision commit.revisionId commit.memoryId .proposed .active commit.activationEventId activatedAt
  s.updateMemory commit.memoryId
    (fun memory => memory.principalId = commit.ownership.principalId ∧ memory.status = .proposed)
    fun memory => { memory with status := .active, updatedEventId := commit.activationEventId }

def correctMemory (commit : CorrectMemoryCommit) (s : MemoryStore) : Except MemoryStoreError MemoryStore := do
  validateCorrection commit
  let correctedAt ← epochMilliseconds commit.correctedAt
  validateAuthorizationPair commit.authorization commit.authorizationEventId
  let (owner, currentId, current) ←
    loadActiveForMutation authorities commit.ownership commit.memoryId commit.expectedRevision s
  validatePromotionAuthorization owner.category commit.sensitivity commit.authorization
  let contentDigest := hash.digest commit.content
  let s ← appendMemoryEvent commit.revisionEventId commit.memoryId "memory.revision_proposed" s
  ensure (current.ordinal + 1 ≤ maximumI64) (.invariantViolation "memory revision ordinal overflowed")
  let s ← s.insertRevision commit.revisionId
    { memoryId := commit.memoryId, ordinal := current.ordinal + 1, status := .proposed, content := some commit.content,
      contentDigest, confidence := commit.confidence, sensitivity := commit.sensitivity, retention := commit.retention,
      supersedesRevisionId := some currentId, createdEventId := commit.revisionEventId,
      statusEventId := commit.revisionEventId, createdAt := correctedAt, lastVerifiedAt := correctedAt }
  let s ← s.insertSources commit.revisionId commit.sources
  let s ← recordOptionalAuthorization commit.ownership commit.memoryId commit.revisionId contentDigest correctedAt s
    commit.authorization commit.authorizationEventId
  let s ← appendMemoryEvent commit.correctedEventId commit.memoryId "memory.corrected" s
  let s ← s.updateRevision currentId commit.memoryId .active .superseded commit.correctedEventId correctedAt
  let s ← s.updateRevision commit.revisionId commit.memoryId .proposed .active commit.correctedEventId correctedAt
  s.updateMemory commit.memoryId
    (fun memory => memory.principalId = commit.ownership.principalId ∧ memory.status = .active ∧
      memory.revision = commit.expectedRevision)
    fun memory => { memory with
      status := .active, confidence := commit.confidence, sensitivity := commit.sensitivity,
      retention := commit.retention, lastVerifiedAt := correctedAt, updatedEventId := commit.correctedEventId }

def setMemoryPin (commit : SetMemoryPinCommit) (s : MemoryStore) : Except MemoryStoreError MemoryStore := do
  let _ ← epochMilliseconds commit.updatedAt
  let _ ← loadActiveForMutation authorities commit.ownership commit.memoryId commit.expectedRevision s
  let s ← appendMemoryEvent commit.eventId commit.memoryId (if commit.pinned then "memory.pinned" else "memory.unpinned") s
  s.updateMemory commit.memoryId
    (fun memory => memory.principalId = commit.ownership.principalId ∧ memory.status = .active ∧
      memory.revision = commit.expectedRevision)
    fun memory => { memory with
      retention := if commit.pinned then .pinned else .standard, updatedEventId := commit.eventId }

def rejectMemory (commit : EndMemoryCommit) (s : MemoryStore) : Except MemoryStoreError MemoryStore := do
  let rejectedAt ← epochMilliseconds commit.occurredAt
  expectedRevisionFits commit.expectedRevision
  let owner ← ownedMemory authorities commit.ownership commit.memoryId s
  ensure (owner.status = .proposed ∧ owner.revision = commit.expectedRevision) .notFound
  let (revisionId, _) ← require (s.revisions.find fun _ revision =>
    revision.memoryId = commit.memoryId ∧ revision.status = .proposed) .notFound
  let s ← appendMemoryEvent commit.eventId commit.memoryId "memory.rejected" s
  let s ← s.updateRevision revisionId commit.memoryId .proposed .rejected commit.eventId rejectedAt
  s.updateMemory commit.memoryId
    (fun memory => memory.principalId = commit.ownership.principalId ∧ memory.status = .proposed ∧
      memory.revision = commit.expectedRevision)
    fun memory => { memory with status := .rejected, updatedEventId := commit.eventId }

def transitionOutOfRetrieval (commit : EndMemoryCommit) (targetStatus : MemoryStatus) (eventType : String) (scrub : Bool)
    (s : MemoryStore) : Except MemoryStoreError MemoryStore := do
  let occurredAt ← epochMilliseconds commit.occurredAt
  expectedRevisionFits commit.expectedRevision
  let owner ← ownedMemory authorities commit.ownership commit.memoryId s
  ensure (owner.revision = commit.expectedRevision ∧ owner.status ≠ .deleted) .notFound
  let s ← appendMemoryEvent commit.eventId commit.memoryId eventType s
  let (changed, s) ← s.updateRevisions
    (fun _ revision => revision.memoryId = commit.memoryId ∧
      if scrub then revision.status ≠ .deleted else revision.status = .active)
    (if scrub then .deleted else .expired) commit.eventId occurredAt
  ensure (changed ≠ 0) .conflict
  s.updateMemory commit.memoryId
    (fun memory => memory.principalId = commit.ownership.principalId ∧ memory.revision = commit.expectedRevision ∧
      memory.status ≠ .deleted)
    fun memory => { memory with
      status := targetStatus, updatedEventId := commit.eventId,
      deletedAt := if targetStatus = .deleted then some occurredAt else none }

def expireMemory (commit : EndMemoryCommit) : MemoryStore → Except MemoryStoreError MemoryStore :=
  transitionOutOfRetrieval authorities commit .expired "memory.expired" false

def deleteMemory (commit : EndMemoryCommit) : MemoryStore → Except MemoryStoreError MemoryStore :=
  transitionOutOfRetrieval authorities commit .deleted "memory.deleted" true

def rebuildMemoryIndex (ownership : OwnershipContext) (rebuiltAt : SystemTime) (s : MemoryStore) :
    Except MemoryStoreError MemoryStore := do
  let rebuiltAt ← epochMilliseconds rebuiltAt
  ensure (authorities.channels ownership) .notFound
  let current := s.revisions.select fun _ revision => revision.status = .active ∧
    (s.memories.get revision.memoryId).any fun owner =>
      owner.principalId = ownership.principalId ∧ owner.status = .active
  let index := s.index.filter (fun row => row.principalId ≠ ownership.principalId) ++
    current.filterMap fun row => s.indexRow row.1 row.2
  pure { s with
    index,
    indexState := { lexicalStatus := .healthy, indexedRevisionCount := index.length, lastRebuiltAt := some rebuiltAt } }

end Transactions

namespace MemoryStore

def sourcesOf (s : MemoryStore) (revisionId : MemoryRevisionId) : List (Nat × MemorySource) :=
  ((s.sources.select fun key _ => key.1 = revisionId).map fun row => (row.1.2, row.2)).insertionSort
    fun first second => first.1 ≤ second.1

end MemoryStore

/-! ### Retrieval -/

/-- The text functions of SQLite. `bm25` ranks the rows of an index for a query; lower
values are more relevant. -/
structure LexicalFunctions where
  (like ftsMatch : String → String → Bool)
  bm25 : List MemoryIndexRow → String → MemoryIndexRow → Int
  isAlphanumeric : Char → Bool

def quoteTerm (term : String) : String :=
  "\"" ++ String.ofList (term.toList.flatMap fun c => if c = '"' then ['"', '"'] else [c]) ++ "\""

/-- A memory that a query selected, with the columns it is ordered by. -/
structure RankedMemory where
  lexicalRank : Int
  memoryId : MemoryId
  lastVerifiedAt : Millis

/-- `ORDER BY` the rank, then the latest verification, then the identity. -/
def RankedMemory.precedes (first second : RankedMemory) : Prop :=
  first.lexicalRank < second.lexicalRank ∨ first.lexicalRank = second.lexicalRank ∧
    (second.lastVerifiedAt < first.lastVerifiedAt ∨
      second.lastVerifiedAt = first.lastVerifiedAt ∧ first.memoryId.id ≤ second.memoryId.id)

instance (first second : RankedMemory) : Decidable (first.precedes second) := by
  unfold RankedMemory.precedes; infer_instance

/-! ### Context sources -/

/-- A `StoredMemoryContextRow`, with the columns it is ordered by. -/
structure MemoryContextRow extends RankedMemory where
  revisionId : MemoryRevisionId
  content : Option String
  contentDigest : String
  sensitivity : MemorySensitivity

/-- A retrieved memory with the ordinals and digests of its `ContextMemorySourceCitation`s. -/
structure MemoryContextSource where
  memoryId : MemoryId
  revisionId : MemoryRevisionId
  (content contentDigest : String)
  sensitivity : MemorySensitivity
  citations : List (Nat × String)

section Context
variable (lexical : LexicalFunctions) (s : MemoryStore) (principalId : PrincipalId) (workspaceIdentity : String)

def memorySearchTerms (content : String) : String :=
  let terms := (content.toList.splitOnP fun c => !lexical.isAlphanumeric c).filter fun term => 3 ≤ term.length
  " OR ".intercalate ((terms.take 8).map fun term => quoteTerm (String.ofList term))

def contextRow (lexicalRank : Int) (memoryId : MemoryId) (revisionId : MemoryRevisionId) : Option MemoryContextRow := do
  let owner ← (s.memories.get memoryId).filter fun owner =>
    owner.principalId = principalId ∧ owner.workspaceIdentity = workspaceIdentity ∧ owner.status = .active ∧
      owner.sensitivity ≠ .restricted
  let revision ← (s.revisions.get revisionId).filter fun revision => revision.status = .active
  pure
    { lexicalRank, memoryId, lastVerifiedAt := owner.lastVerifiedAt, revisionId, content := revision.content,
      contentDigest := revision.contentDigest, sensitivity := owner.sensitivity }

def loadFtsMemoryRows (terms : String) : List MemoryContextRow :=
  let rows := (s.index.filter fun row => lexical.ftsMatch terms row.content ∧ row.principalId = principalId ∧
    row.workspaceIdentity = workspaceIdentity).filterMap fun row =>
      contextRow s principalId workspaceIdentity (lexical.bm25 s.index terms row) row.memoryId row.revisionId
  (rows.insertionSort fun first second => first.toRankedMemory.precedes second.toRankedMemory).take 8

def loadRecentMemoryRows : List MemoryContextRow :=
  let rows := s.revisions.entries.filterMap fun row =>
    contextRow s principalId workspaceIdentity 0 row.2.memoryId row.1
  (rows.insertionSort fun first second => first.toRankedMemory.precedes second.toRankedMemory).take 4

/-- `load_memory_context_sources`, for a turn that works in a workspace. -/
def loadMemoryContextSources (hash : DigestFunction) (userContent : String) :
    Except StoreError (List MemoryContextSource) := do
  let terms := memorySearchTerms lexical userContent
  let rows :=
    if s.indexState.lexicalStatus = .healthy ∧ terms ≠ "" then
      loadFtsMemoryRows lexical s principalId workspaceIdentity terms
    else loadRecentMemoryRows s principalId workspaceIdentity
  rows.mapM fun row => do
    let content ← require row.content (.unavailable "Invalid column type Null at index: 2, name: content_text")
    ensure (hash.digest content = row.contentDigest) (.invariantViolation "stored retrieved memory digest mismatch")
    let citations := (s.sourcesOf row.revisionId).map fun source => (source.1, source.2.digest)
    ensure (citations ≠ []) (.invariantViolation "retrieved memory lacks source citations")
    pure
      { memoryId := row.memoryId, revisionId := row.revisionId, content, contentDigest := row.contentDigest,
        sensitivity := row.sensitivity, citations }

end Context

/-! ### The system -/

/-- The operations of the memory port by any principals, each under the sessions and
epochs it finds, and the events that the other stores append to the journal. -/
inductive MemoryOperation where
  | propose (authorities : Authorities) (commit : ProposeMemoryCommit)
  | promote (authorities : Authorities) (commit : PromoteMemoryCommit)
  | correct (authorities : Authorities) (commit : CorrectMemoryCommit)
  | setPin (authorities : Authorities) (commit : SetMemoryPinCommit)
  | expire (authorities : Authorities) (commit : EndMemoryCommit)
  | reject (authorities : Authorities) (commit : EndMemoryCommit)
  | delete (authorities : Authorities) (commit : EndMemoryCommit)
  | rebuildIndex (authorities : Authorities) (ownership : OwnershipContext) (rebuiltAt : SystemTime)
  | journal (entries : List JournalEntry)

def MemoryOperation.exec (hash : DigestFunction) (op : MemoryOperation) (s : MemoryStore) :
    Except MemoryStoreError MemoryStore :=
  match op with
  | propose authorities commit => proposeMemory hash authorities commit s
  | promote authorities commit => promoteMemory authorities commit s
  | correct authorities commit => correctMemory hash authorities commit s
  | setPin authorities commit => setMemoryPin authorities commit s
  | expire authorities commit => expireMemory authorities commit s
  | reject authorities commit => rejectMemory authorities commit s
  | delete authorities commit => deleteMemory authorities commit s
  | rebuildIndex authorities ownership rebuiltAt => rebuildMemoryIndex authorities ownership rebuiltAt s
  | journal entries => (s.journal.appendAll maximumI64 entries).map (fun journal => { s with journal }) |>.mapError
      fun _ => .conflict

def MemoryOperation.memoryId : MemoryOperation → Option MemoryId
  | propose _ commit => some commit.memoryId
  | promote _ commit => some commit.memoryId
  | correct _ commit => some commit.memoryId
  | setPin _ commit => some commit.memoryId
  | expire _ commit | reject _ commit | delete _ commit => some commit.memoryId
  | rebuildIndex .. | journal _ => none

end Mealy.Memories
