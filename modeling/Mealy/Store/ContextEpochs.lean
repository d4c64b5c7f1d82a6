import Mealy.Store.SessionPort

/-! Context epochs (`insert_context_epoch`, `load_agent_run` and `prepare_next_model`). A
session points to its current epoch and a turn is bound to the epoch it was first
compiled in. A worker loads the epoch of its run, compares it with the identities it
compiles, and prepares the attempt in that epoch or in a new one; other workers may
commit between the load and the preparation. -/

namespace Mealy
open Relational Transaction

/-- What a context is compiled from: the baseline, the configured capabilities, the
effective policy and the workspace. -/
structure ContextIdentity where
  (baselineVersion baselineDigest configDigest policyDigest workspaceIdentity : String)
deriving DecidableEq

structure ContextEpoch where
  sessionId : SessionId
  epochNumber : Nat
  identity : ContextIdentity
  baselineText : String
  createdAt : Millis
  retiredAt : Option Millis

/-- The epoch columns of the run that a worker loaded. -/
structure EpochSnapshot where
  sessionId : SessionId
  contextEpoch : Option (ContextEpochId × ContextEpoch)
  nextContextEpochNumber : Nat

structure ContextStore where
  core : Store := {}
  epochs : Table ContextEpochId ContextEpoch := .empty
  currentEpoch : Table SessionId ContextEpochId := .empty
  turnEpoch : Table TurnId ContextEpochId := .empty
  snapshots : Table RunId EpochSnapshot := .empty

namespace ContextStore

def nextEpochNumber (s : ContextStore) (sessionId : SessionId) : Nat :=
  ((s.epochs.select fun _ epoch => epoch.sessionId = sessionId).map fun row => row.2.epochNumber).foldr max 0 + 1

def loadedEpoch (s : ContextStore) (turnId : TurnId) (turn : Turn) : Option ContextEpochId :=
  match s.turnEpoch.get turnId with
  | some epochId => some epochId
  | none =>
    match turn.kind with
    | .canonical => s.currentEpoch.get turn.sessionId
    | .delegated => none

def historyEpoch (s : ContextStore) (turnId : TurnId) (turn : Turn) : Option ContextEpochId :=
  (s.turnEpoch.get turnId).or (s.currentEpoch.get turn.sessionId)

end ContextStore

/-! ### Loading -/

/-- `load_context_epoch` for the epoch of the run, if there is one. -/
def ContextStore.loadContextEpoch (s : ContextStore) (epochId : Option ContextEpochId) :
    Except StoreError (Option (ContextEpochId × ContextEpoch)) :=
  match epochId with
  | none => .ok none
  | some epochId => do
    let epoch ← require (s.epochs.get epochId) (.unavailable "Query returned no rows")
    pure (some (epochId, epoch))

def loadAgentRun (fence : LeaseFence) (observedAt : Millis) (s : ContextStore) : Except StoreError ContextStore := do
  let owner ← s.core.loadFencedOwner fence observedAt
  let contextEpoch ← s.loadContextEpoch (s.loadedEpoch owner.turnId owner.turn)
  pure { s with
    snapshots := s.snapshots.put fence.runId
      { sessionId := owner.turn.sessionId, contextEpoch,
        nextContextEpochNumber := s.nextEpochNumber owner.turn.sessionId } }

/-! ### Preparing -/

/-- What a worker compiled, and what it reserved for a new epoch. -/
structure CompiledContext where
  identity : ContextIdentity
  baselineText : String
  epochId : ContextEpochId
  createdAt : Millis

/-- `new_epoch`: nothing was loaded, or its identities are others. -/
def EpochSnapshot.isStale (snapshot : EpochSnapshot) (identity : ContextIdentity) : Bool :=
  snapshot.contextEpoch.all fun row => row.2.identity ≠ identity

/-- The column checks of `context_epoch`. -/
def CompiledContext.fits (compiled : CompiledContext) : Bool :=
  let within (text : String) (low high : Nat) : Bool := low ≤ sqliteLength text ∧ sqliteLength text ≤ high
  within compiled.identity.baselineVersion 1 128 ∧ within compiled.identity.baselineDigest 64 64 ∧
    within compiled.baselineText 1 65536 ∧ within compiled.identity.workspaceIdentity 1 2048 ∧
    within compiled.identity.configDigest 64 64 ∧ within compiled.identity.policyDigest 64 64

def retireCurrentEpoch (sessionId : SessionId) (retiredAt : Millis) (s : ContextStore) :
    Except StoreError (Table ContextEpochId ContextEpoch) :=
  match s.currentEpoch.get sessionId with
  | none => .ok s.epochs
  | some currentId => do
    let current ← require (s.epochs.get currentId) .conflict
    ensure (current.sessionId = sessionId ∧ current.retiredAt = none ∧ current.createdAt ≤ retiredAt) .conflict
    pure (s.epochs.put currentId { current with retiredAt := some retiredAt })

def insertContextEpoch (sha256 : String → String) (compiled : CompiledContext) (snapshot : EpochSnapshot)
    (owner : FencedOwner) (s : ContextStore) : Except StoreError ContextStore := do
  let sessionId := owner.turn.sessionId
  ensure (snapshot.sessionId = sessionId ∧ sha256 compiled.baselineText = compiled.identity.baselineDigest)
    (.invariantViolation "new context epoch evidence is invalid")
  ensure (snapshot.nextContextEpochNumber ≤ maximumI64)
    (.invariantViolation "context epoch number exceeds SQLite range")
  ensure (s.nextEpochNumber sessionId = snapshot.nextContextEpochNumber) .conflict
  let epochs ← retireCurrentEpoch sessionId compiled.createdAt s
  -- the primary key, the column checks and the index of one active epoch for each session
  ensure (epochs.get compiled.epochId = none ∧ compiled.fits ∧
    ¬ epochs.any fun _ epoch => epoch.sessionId = sessionId ∧ epoch.retiredAt = none) .conflict
  ensure (s.turnEpoch.get owner.turnId = none) .conflict
  pure { s with
    epochs := epochs.put compiled.epochId
      { sessionId, epochNumber := snapshot.nextContextEpochNumber, identity := compiled.identity,
        baselineText := compiled.baselineText, createdAt := compiled.createdAt, retiredAt := none },
    currentEpoch := s.currentEpoch.put sessionId compiled.epochId,
    turnEpoch := s.turnEpoch.put owner.turnId compiled.epochId }

def bindLoadedEpoch (epochId : ContextEpochId) (owner : FencedOwner) (s : ContextStore) :
    Except StoreError ContextStore :=
  match s.turnEpoch.get owner.turnId with
  | some bound => do
    ensure (bound = epochId) (.invariantViolation "manifest does not use the turn context epoch")
    pure s
  | none => do
    ensure (s.currentEpoch.get owner.turn.sessionId = some epochId ∧
      (s.epochs.get epochId).any fun epoch => epoch.retiredAt = none) .conflict
    pure { s with turnEpoch := s.turnEpoch.put owner.turnId epochId }

def enterEpoch (sha256 : String → String) (compiled : CompiledContext) (snapshot : EpochSnapshot)
    (owner : FencedOwner) (s : ContextStore) : Except StoreError ContextStore :=
  if snapshot.isStale compiled.identity then insertContextEpoch sha256 compiled snapshot owner s
  else match snapshot.contextEpoch with
    | some (epochId, _) => bindLoadedEpoch epochId owner s
    | none => .error (.invariantViolation "active context epoch disappeared")

def prepareNextModel (sha256 : String → String) (commit : PrepareModelAttemptCommit) (compiled : CompiledContext)
    (s : ContextStore) : Except StoreError ContextStore := do
  let snapshot ← require (s.snapshots.get commit.fence.runId) .staleFence
  let owner ← s.core.loadFencedOwner commit.fence commit.preparedAt
  let entered ← enterEpoch sha256 compiled snapshot owner s
  let core ← (Operation.prepareModelAttempt commit).exec s.core
  pure { entered with core }

/-! ### The operations -/

def Operation.preparesModel : Operation → Bool
  | .prepareModelAttempt _ => true
  | _ => false

inductive ContextOperation where
  | store (op : Operation) (other : op.preparesModel = false)
  | loadAgentRun (fence : LeaseFence) (observedAt : Millis)
  | prepareNextModel (commit : PrepareModelAttemptCommit) (compiled : CompiledContext)

namespace ContextOperation

def exec (sha256 : String → String) (op : ContextOperation) (s : ContextStore) : Except StoreError ContextStore :=
  match op with
  | store op _ => do
    let core ← op.exec s.core
    pure { s with core }
  | loadAgentRun fence observedAt => Mealy.loadAgentRun fence observedAt s
  | prepareNextModel commit compiled => Mealy.prepareNextModel sha256 commit compiled s

def compilesDelegate (op : ContextOperation) (s : ContextStore) : Bool :=
  match op with
  | prepareNextModel commit _ => (s.core.turnOfRun commit.fence.runId).any fun row => row.2.kind = .delegated
  | _ => false

end ContextOperation

def contextSystem (sha256 : String → String) : System StoreError ContextStore ContextOperation where
  initial := {}
  exec := ContextOperation.exec sha256

end Mealy
