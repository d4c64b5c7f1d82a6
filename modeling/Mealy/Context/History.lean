import Mealy.Context.Compaction

/-! The store that contexts are compiled from as a transition system. The operations of the
journaled store keep their rows and add those that the context queries read: final
messages, epochs of turns, the lineage of runs, compactions and memories. -/

namespace Mealy
open Relational Transaction EventLog

def DelegationOperation.IssuedByDaemon (op : DelegationOperation) (s : DelegationStore) : Prop :=
  match op with
  | daemon op _ => op.Issued s.core
  | promote commit _ => (Operation.promoteNext commit).Issued s.core
  | launch _ _ _ => True
  | _ => False

instance (op : DelegationOperation) (s : DelegationStore) : Decidable (op.IssuedByDaemon s) :=
  match op with
  | .daemon op _ => inferInstanceAs (Decidable (op.Issued s.core))
  | .promote commit _ => inferInstanceAs (Decidable ((Operation.promoteNext commit).Issued s.core))
  | .launch _ _ _ => inferInstanceAs (Decidable True)
  | .prepareDelegation _ | .startDelegation _ | .acquireResourceClaim _ | .recordDelegationResult _ =>
    inferInstanceAs (Decidable False)

def JournalOperation.Issued (op : JournalOperation) (s : JournaledStore) : Prop :=
  match op with
  | store op _ _ _ => op.IssuedByDaemon s.store
  | _ => True

instance (op : JournalOperation) (s : JournaledStore) : Decidable (op.Issued s) := by
  unfold JournalOperation.Issued
  split <;> infer_instance

/-- Completions and preparations also write messages and epochs. -/
def JournalOperation.isContextual : JournalOperation → Bool
  | .store (.daemon (.completeRun _) _) _ _ _ | .store (.daemon (.prepareModelAttempt _) _) _ _ _ => true
  | _ => false

end Mealy

namespace Mealy.Context
open Relational Transaction EventLog Memories

/-! ### Rows beside the journaled store -/

namespace HistoryStore

def sessionOfRun (s : HistoryStore) (runId : RunId) : Except StoreError (TurnId × Turn × Session) := do
  let (turnId, turn) ← require (s.core.turnOfRun runId) .staleFence
  let session ← require (s.core.sessions.get turn.sessionId) .staleFence
  pure (turnId, turn, session)

def keepArtifact (base : JournaledStore) (reserved : Reserved) (runId : RunId) (s : HistoryStore) :
    Except StoreError HistoryStore :=
  match reserved.artifactId with
  | none => .ok { s with base }
  | some artifactId => do
    let (_, turn, _) ← s.sessionOfRun runId
    ensure (s.artifacts.get artifactId = none) .conflict
    pure { s with base, artifacts := s.artifacts.put artifactId turn.sessionId }

def keepMessage (base : JournaledStore) (messageId : MessageId) (runId : RunId) (role : MessageRole) (mediaType : String)
    (hash : DigestFunction) (content : String) (s : HistoryStore) : Except StoreError HistoryStore := do
  let (turnId, turn, session) ← s.sessionOfRun runId
  ensure (s.messages.get messageId = none) .conflict
  pure { s with
    base,
    messages := s.messages.put messageId
      { principalId := session.principalId, sessionId := turn.sessionId, turnId, taskId := turn.taskId, runId, role,
        mediaType, byteLength := content.utf8ByteSize, contentDigest := hash.digest content,
        contentInline := some content, contentArtifactId := none, sensitivity := "internal" } }

def keepRoot (base : JournaledStore) (parentId : RunId) (childId : Option RunId) (s : HistoryStore) :
    Except StoreError HistoryStore := do
  let root ← require (s.roots.get parentId) .staleFence
  pure { s with base, roots := childId.elim s.roots fun childId => s.roots.put childId root }

def annotate (hash : DigestFunction) (op : JournalOperation) (base : JournaledStore) (s : HistoryStore) :
    Except StoreError HistoryStore :=
  match op with
  | .store (.promote commit _) _ _ _ =>
    .ok { s with
      base,
      roots := if s.core.runs.get commit.runId = none ∧ (base.core.runs.get commit.runId).isSome
        then s.roots.put commit.runId commit.runId else s.roots }
  | .store (.launch commit _ _) _ _ _ => s.keepRoot base commit.parentFence.runId (some commit.childRunId)
  | .store (.daemon (.recordValidation commit) _) _ _ _ => do
    let kept ← s.keepRoot base commit.producerFence.runId (commit.validator.map Prod.snd)
    pure { kept with producers := s.producers.put commit.validationId commit.producerFence.runId }
  | .store (.daemon (.recordModelResult commit) _) _ reserved _ => s.keepArtifact base reserved commit.fence.runId
  | .store (.daemon (.recordReadToolResult commit) _) _ reserved _ => s.keepArtifact base reserved commit.fence.runId
  | .store (.daemon (.recordAgentEffectObservation commit) _) _ reserved _ => do
    let invocation ← require (s.core.invocations.get commit.effectId) .conflict
    let (_, content) ← s.core.loadTerminalProjection commit.effectId invocation
    s.keepMessage base reserved.messageId commit.fence.runId .tool "application/json" hash content.render
  | _ => .ok { s with base }

/-! ### Epochs and completions -/

def contextStore (s : HistoryStore) : ContextStore :=
  { core := s.core, epochs := s.epochs, currentEpoch := s.currentEpoch, turnEpoch := s.turnEpoch, snapshots := s.snapshots }

def withEpochs (s : HistoryStore) (entered : ContextStore) : HistoryStore :=
  { s with
    epochs := entered.epochs, currentEpoch := entered.currentEpoch, turnEpoch := entered.turnEpoch,
    snapshots := entered.snapshots }

def prepareNextModel (hash : DigestFunction) (commit : PrepareModelAttemptCommit) (compiled : Mealy.CompiledContext)
    (reserved : Reserved) (delivery : Delivery) (s : HistoryStore) : Except StoreError HistoryStore := do
  let snapshot ← require (s.snapshots.get commit.fence.runId) .staleFence
  let owner ← s.core.loadFencedOwner commit.fence commit.preparedAt
  let entered ← enterEpoch hash.digest compiled snapshot owner s.contextStore
  let contextEpochId := if snapshot.isStale compiled.identity then some compiled.epochId else none
  let base ← journaled (.daemon (.prepareModelAttempt commit) rfl) { reserved with contextEpochId } delivery s.base
  ensure (s.manifests.get reserved.contextManifestId = none) .conflict
  pure { s.withEpochs entered with
    base, manifests := s.manifests.put reserved.contextManifestId owner.turn.sessionId }

def completeRun (hash : DigestFunction) (commit : CompleteRunCommit) (reserved : Reserved) (delivery : Delivery)
    (s : HistoryStore) : Except StoreError HistoryStore := do
  let base ← journaled (.daemon (.completeRun commit) rfl) reserved delivery s.base
  match commit.finalMessage with
  | none => pure { s with base }
  | some final => do
    let kept ← s.keepMessage base reserved.messageId commit.fence.runId .assistant "text/plain; charset=utf-8" hash
      final.content
    pure { kept with finalMessages := s.finalMessages.put commit.fence.runId reserved.messageId }

end HistoryStore

/-! ### The operations -/

/-- Tables that other stores write without events of their own in these sessions. -/
structure Evidence where
  toolOutputs : Table ToolCallId ToolOutput
  observationContents : Table EffectId ObservationContent
  checkpoints : Table CheckpointId SessionCheckpoint
  lineages : Table SessionId SessionLineage
  references : Table (SessionId × Nat) ForkContextReference

inductive HistoryOperation where
  | journal (op : JournalOperation) (other : op.isContextual = false)
  | completeRun (commit : CompleteRunCommit) (reserved : Reserved) (delivery : Delivery)
  | loadAgentRun (fence : LeaseFence) (observedAt : Millis)
  | prepareNextModel (commit : PrepareModelAttemptCommit) (compiled : Mealy.CompiledContext) (reserved : Reserved)
      (delivery : Delivery)
  | commitCompaction (commit : CommitCompaction)
  | memory (op : MemoryOperation)
  | evidence (tables : Evidence)

namespace HistoryOperation

/-- What the daemon guarantees about its calls; only an answered run succeeds. -/
def Issued (op : HistoryOperation) (s : HistoryStore) : Prop :=
  match op with
  | journal op _ => op.Issued s.base
  | completeRun commit _ _ => commit.status = .succeeded → commit.finalMessage.isSome
  | prepareNextModel commit _ _ _ => (Operation.prepareModelAttempt commit).Issued s.core
  | memory (.journal _) => False
  | _ => True

instance (op : HistoryOperation) (s : HistoryStore) : Decidable (op.Issued s) := by
  unfold Issued
  split <;> infer_instance

def transaction (functions : CompactionFunctions) (op : HistoryOperation) (s : HistoryStore) :
    Except StoreError HistoryStore :=
  match op with
  | journal op _ => do
    let base ← op.exec s.base
    s.annotate functions.hash op base
  | completeRun commit reserved delivery => s.completeRun functions.hash commit reserved delivery
  | loadAgentRun fence observedAt => do
    let loaded ← Mealy.loadAgentRun fence observedAt s.contextStore
    pure (s.withEpochs loaded)
  | prepareNextModel commit compiled reserved delivery =>
    s.prepareNextModel functions.hash commit compiled reserved delivery
  | commitCompaction commit => (Context.commitCompaction functions commit s).mapError fun _ => .conflict
  | memory op => do
    let memory ← (op.exec functions.hash { s.memory with journal := s.base.journal }).mapError fun _ => .conflict
    pure { s with memory, base := { s.base with journal := memory.journal } }
  | evidence tables =>
    .ok { s with
      toolOutputs := tables.toolOutputs, observationContents := tables.observationContents,
      checkpoints := tables.checkpoints, lineages := tables.lineages, references := tables.references }

def exec (functions : CompactionFunctions) (op : HistoryOperation) (s : HistoryStore) : Except StoreError HistoryStore := do
  ensure (op.Issued s) (.invariantViolation "the daemon does not issue this operation")
  op.transaction functions s

end HistoryOperation

def historySystem (functions : CompactionFunctions) : System StoreError HistoryStore HistoryOperation where
  initial := {}
  exec := HistoryOperation.exec functions

end Mealy.Context
