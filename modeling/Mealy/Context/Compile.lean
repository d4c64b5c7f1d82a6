import Mealy.Lib.Json
import Mealy.Store.ContextEpochs
import Mealy.Store.Memory

/-! The context compiler (`context.rs` of the application): authorized sources are
selected under a token budget, and every decision is kept in the manifest. Token counts
are `u64`; the digest of a text is a parameter. -/

namespace Mealy.Context
open Transaction

structure ContextItemId where
  id : Nat

inductive MessageRole where
  | system | user | assistant | tool
deriving DecidableEq

def MessageRole.text : MessageRole → String
  | system => "system"
  | user => "user"
  | assistant => "assistant"
  | tool => "tool"

structure NormalizedMessage where
  role : MessageRole
  content : String
  toolCallId : Option String

/-- `ContextMemoryEvidence`; a citation is the ordinal and the digest of a source. -/
structure ContextMemoryEvidence where
  memoryId : MemoryId
  revisionId : Memories.MemoryRevisionId
  sources : List (Nat × String)

structure AgentContextSource where
  (sourceType sourceLocator sourceContentDigest : String)
  message : NormalizedMessage
  sensitivity : String
  contentArtifactId : Option ArtifactId
  memoryEvidence : Option ContextMemoryEvidence
  compactionId : Option CompactionId

inductive ContextDisposition where
  | included | excluded | redacted
deriving DecidableEq

structure ContextManifestItem where
  itemId : ContextItemId
  ordinal : Nat
  disposition : ContextDisposition
  (sourceType sourceLocator sourceContentDigest renderedContentDigest inclusionReason sensitivity : String)
  tokenEstimate : Nat
  (transformation policyDecision : String)
  content : Option String
  contentArtifactId : Option ArtifactId
  memoryEvidence : Option ContextMemoryEvidence
  compactionId : Option CompactionId

structure ContextManifest where
  manifestId : ContextManifestId
  runId : RunId
  turnId : TurnId
  epochId : ContextEpochId
  iteration : Nat
  (compilerVersion providerResidency : String)
  (tokenBudget totalTokenEstimate : Nat)
  (toolSchemaSetDigest policyVersion projectionDigest : String)
  items : List ContextManifestItem
  createdAt : Millis

structure CompiledContext where
  manifest : ContextManifest
  messages : List NormalizedMessage

inductive ContextError where
  | invalidIncludedContent
  | withheldContentPresent
  | tokenBudgetExceeded (actual maximum : Nat)
  | tokenEstimateMismatch (declared actual : Nat)
  | invalidCommitTime
  | baselineExceedsBudget
  | mandatoryContextExceedsBudget (actual maximum : Nat)
  | projectionEncoding

/-! ### Arithmetic -/

def maximumU64 : Nat := 2 ^ 64 - 1

def saturatingAdd (a b : Nat) : Nat := min (a + b) maximumU64

def checkedAdd (a b : Nat) : Option Nat := if a + b ≤ maximumU64 then some (a + b) else none

def estimateTokens (text : String) : Nat := (min text.utf8ByteSize maximumU64 + 3) / 4

/-! ### The compiler -/

/-- What is compiled. The sources and the texts they own lie side by side in the address
space of the process; a source takes at least one byte besides its text. -/
structure ContextInput where
  epochId : ContextEpochId
  epoch : ContextEpoch
  sources : List AgentContextSource
  addressable : epoch.baselineText.utf8ByteSize +
    (sources.map fun source => source.message.content.utf8ByteSize + 1).sum < 2 ^ 64

/-- The other arguments of `compile_context`; the generator's identities in the order in
which it is asked for them. -/
structure CompileArguments where
  itemIds : Nat → ContextItemId
  manifestId : ContextManifestId
  runId : RunId
  turnId : TurnId
  (iteration tokenBudget : Nat)
  (providerResidency toolSchemaSetDigest policyVersion : String)
  createdAt : SystemTime

structure Compilation where
  (total mandatoryTokensRemaining : Nat)
  messages : List NormalizedMessage
  items : List ContextManifestItem

def AgentContextSource.isMandatory (source : AgentContextSource) : Bool := source.sourceType = "user"

def AgentContextSource.tokens (source : AgentContextSource) : Nat := estimateTokens source.message.content

section
variable (sha256 : String → String) (arguments : CompileArguments)

def baselineMessage (epoch : ContextEpoch) : NormalizedMessage :=
  { role := .system, content := epoch.baselineText, toolCallId := none }

def baselineItem (epoch : ContextEpoch) : ContextManifestItem :=
  { itemId := arguments.itemIds 0, ordinal := 0, disposition := .included, sourceType := "baseline",
    sourceLocator := "baseline://" ++ epoch.identity.baselineVersion,
    sourceContentDigest := epoch.identity.baselineDigest, renderedContentDigest := epoch.identity.baselineDigest,
    inclusionReason := "mandatory versioned turn baseline", sensitivity := "internal",
    tokenEstimate := estimateTokens epoch.baselineText, transformation := "identity",
    policyDecision := "allow: mandatory baseline", content := some epoch.baselineText, contentArtifactId := none,
    memoryEvidence := none, compactionId := none }

def sourceItem (index : Nat) (source : AgentContextSource) (included : Bool) : ContextManifestItem :=
  { itemId := arguments.itemIds (index + 1), ordinal := saturatingAdd (min index maximumU64) 1,
    disposition := if included then .included else .excluded, sourceType := source.sourceType,
    sourceLocator := source.sourceLocator, sourceContentDigest := source.sourceContentDigest,
    renderedContentDigest := sha256 source.message.content,
    inclusionReason :=
      if source.isMandatory then "mandatory latest authenticated user input"
      else if included then "authorized canonical source within token budget"
      else "excluded by deterministic token budget",
    sensitivity := source.sensitivity, tokenEstimate := source.tokens, transformation := "identity",
    policyDecision :=
      if source.isMandatory then "allow: mandatory owner input"
      else if included then "allow: owner session context"
      else "exclude: context budget",
    content := if included ∧ source.contentArtifactId = none then some source.message.content else none,
    contentArtifactId := if included then source.contentArtifactId else none,
    memoryEvidence := if included then source.memoryEvidence else none,
    compactionId := if included then source.compactionId else none }

/-- One round of the loop of `compile_context`. -/
def compileSource (state : Compilation) (entry : AgentContextSource × Nat) : Compilation :=
  let (source, index) := entry
  let tokenEstimate := source.tokens
  let candidate :=
    if source.isMandatory then checkedAdd state.total tokenEstimate
    else (checkedAdd state.total tokenEstimate).bind fun candidate =>
      checkedAdd candidate state.mandatoryTokensRemaining
  let included := candidate.any fun candidate => candidate ≤ arguments.tokenBudget
  { total := if included then saturatingAdd state.total tokenEstimate else state.total,
    mandatoryTokensRemaining :=
      if source.isMandatory then state.mandatoryTokensRemaining - tokenEstimate else state.mandatoryTokensRemaining,
    messages := if included then state.messages ++ [source.message] else state.messages,
    items := state.items ++ [sourceItem sha256 arguments index source included] }

def projection (epochId : ContextEpochId) (messages : List NormalizedMessage) : Json.Value :=
  .object
    [("epochId", .string (Json.uuidText epochId.id)),
     ("iteration", .nat arguments.iteration),
     ("messages", .array (messages.map fun message => .object
       [("content", .string message.content),
        ("role", .string message.role.text),
        ("toolCallId", message.toolCallId.elim .null .string)])),
     ("policyVersion", .string arguments.policyVersion),
     ("providerResidency", .string arguments.providerResidency),
     ("toolSchemaSetDigest", .string arguments.toolSchemaSetDigest)]

/-- `validate_phase_five_context_evidence`, whose own errors are not passed on. -/
def phaseFiveEvidenceIsValid (sourceType : String) (memoryEvidence : Option ContextMemoryEvidence)
    (compactionId : Option CompactionId) : Bool :=
  if sourceType = "memory" then
    memoryEvidence.any fun evidence =>
      compactionId = none ∧ evidence.sources ≠ [] ∧ evidence.sources.length ≤ 64 ∧
        evidence.sources.zipIdx.all fun (source, index) => source.1 = index + 1 ∧ Memories.isSha256Digest source.2
  else if sourceType = "compaction" then compactionId.isSome ∧ memoryEvidence = none
  else memoryEvidence = none ∧ compactionId = none

/-- One entry in `validate_context_manifest`, with the tokens counted so far. -/
def validateItem (total : Nat) (item : ContextManifestItem) : Except ContextError Nat :=
  match item.disposition with
  | .included => do
    ensure (item.content.isSome ≠ item.contentArtifactId.isSome) .invalidIncludedContent
    ensure (phaseFiveEvidenceIsValid item.sourceType item.memoryEvidence item.compactionId) .invalidIncludedContent
    pure (saturatingAdd total item.tokenEstimate)
  | .excluded | .redacted => do
    ensure (item.content = none ∧ item.contentArtifactId = none ∧ item.memoryEvidence = none ∧ item.compactionId = none)
      .withheldContentPresent
    pure total

def validateContextManifest (manifest : ContextManifest) : Except ContextError Unit := do
  let total ← manifest.items.foldlM validateItem 0
  ensure (total = manifest.totalTokenEstimate) (.tokenEstimateMismatch manifest.totalTokenEstimate total)
  ensure (total ≤ manifest.tokenBudget) (.tokenBudgetExceeded total manifest.tokenBudget)

def commitMilliseconds (createdAt : SystemTime) : Except ContextError Millis := do
  ensure (0 ≤ createdAt) .invalidCommitTime
  let milliseconds := createdAt.toNat / 10 ^ 6
  ensure (milliseconds ≤ maximumI64) .invalidCommitTime
  pure milliseconds

def compileContext (input : ContextInput) : Except ContextError CompiledContext := do
  let createdAt ← commitMilliseconds arguments.createdAt
  let baselineTokens := estimateTokens input.epoch.baselineText
  ensure (baselineTokens ≤ arguments.tokenBudget) .baselineExceedsBudget
  let mandatorySourceTokens := (input.sources.filter AgentContextSource.isMandatory).foldl
    (fun total source => saturatingAdd total source.tokens) 0
  let mandatoryTokens := saturatingAdd baselineTokens mandatorySourceTokens
  ensure (mandatoryTokens ≤ arguments.tokenBudget)
    (.mandatoryContextExceedsBudget mandatoryTokens arguments.tokenBudget)
  let compiled := input.sources.zipIdx.foldl (compileSource sha256 arguments)
    { total := baselineTokens, mandatoryTokensRemaining := mandatorySourceTokens,
      messages := [baselineMessage input.epoch], items := [baselineItem arguments input.epoch] }
  let manifest : ContextManifest :=
    { manifestId := arguments.manifestId, runId := arguments.runId, turnId := arguments.turnId,
      epochId := input.epochId, iteration := arguments.iteration, compilerVersion := "mealy.context.v2",
      providerResidency := arguments.providerResidency, tokenBudget := arguments.tokenBudget,
      totalTokenEstimate := compiled.total, toolSchemaSetDigest := arguments.toolSchemaSetDigest,
      policyVersion := arguments.policyVersion,
      projectionDigest := sha256 (projection arguments input.epochId compiled.messages).render,
      items := compiled.items, createdAt }
  validateContextManifest manifest
  pure { manifest, messages := compiled.messages }

end

end Mealy.Context
