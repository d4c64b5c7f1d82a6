import Mealy.Context.Sources

/-! The context of a validation (`ensure_task_validation` of the daemon). Four builders take
the request out of the sources of the run; what the store and the artifacts answer them is
given by parameters. -/

namespace Mealy.Context
open Relational Transaction Memories

inductive RiskClass where
  | low | medium | high
deriving DecidableEq

structure TaskSuccessCriteria where
  criterionIds : List String
  riskClass : RiskClass

def TaskSuccessCriteria.independentValidationRequired (criteria : TaskSuccessCriteria) : Bool :=
  criteria.riskClass = .medium ∨ criteria.riskClass = .high

/-- The part of `AgentRunSnapshot` that the builders read. -/
structure ValidationSnapshot where
  runId : RunId
  taskId : TaskId
  agentRole : AgentRole
  turnKind : TurnKind
  contextSources : List AgentContextSource
  currentAttemptId : Option AttemptId
  currentModelOutput : Option ProviderResponse

/-- What the builders ask for beside the snapshot. -/
structure ValidationReaders where
  hash : DigestFunction
  artifact : ArtifactId → Except String String
  readToolIds : RunId → List String
  governedEvidence : List AgentContextSource → Except String Unit

/-- `ValidationContextDraft`, without criteria, evidence and capabilities. -/
structure ValidationContextDraft where
  (request outputs : Json.Value)

def AgentContextSource.hydrate (readers : ValidationReaders) (source : AgentContextSource) :
    Except String AgentContextSource :=
  match source.contentArtifactId with
  | none => .ok source
  | some artifactId => do
    let content ← readers.artifact artifactId
    pure { source with message := { source.message with content := source.message.content ++ "\n\n" ++ content } }

def hydrateArtifactSources (readers : ValidationReaders) (snapshot : ValidationSnapshot) :
    Except String (List AgentContextSource) :=
  snapshot.contextSources.mapM (AgentContextSource.hydrate readers)

def AgentContextSource.isUser (source : AgentContextSource) : Bool := source.message.role = .user

def contextDraft (readers : ValidationReaders) (snapshot : ValidationSnapshot) (source : AgentContextSource)
    (finalText : String) : ValidationContextDraft :=
  { request := .object
      [("content", .string source.message.content),
       ("contentDigest", .string (readers.hash.digest source.message.content)),
       ("runId", .string (Json.uuidText snapshot.runId.id)),
       ("sourceLocator", .string source.sourceLocator),
       ("taskId", .string (Json.uuidText snapshot.taskId.id))]
    outputs := .object
      [("contentDigest", .string (readers.hash.digest finalText)), ("finalResponse", .string finalText)] }

def recordedFinal (builder : String) (snapshot : ValidationSnapshot) : Except String String := do
  let _ ← require snapshot.currentAttemptId (builder ++ " validation has no model attempt")
  match snapshot.currentModelOutput with
  | none => .error (builder ++ " validation has no recorded provider output")
  | some (.toolCall _ _) => .error (builder ++ " validation received a non-final provider result")
  | some (.final text) => .ok text

def isDelegatedTool (toolId : String) : Bool :=
  toolId.startsWith "workspace." ∨ toolId.startsWith "web." ∨ toolId = "browser.snapshot" ∨
    toolId = "skill.read_resource"

def isAssistantTool (toolId : String) : Bool :=
  isDelegatedTool toolId ∨ toolId.startsWith "mcp." ∨ toolId = "agent.delegate"

section Builders
variable (readers : ValidationReaders) (snapshot : ValidationSnapshot) (finalText : String)

def buildDelegatedValidationContext : Except String ValidationContextDraft := do
  let sources ← hydrateArtifactSources readers snapshot
  let request ← require (sources.find? AgentContextSource.isUser) "delegated validation has no isolated work package"
  let _ ← recordedFinal "delegated" snapshot
  ensure ((readers.readToolIds snapshot.runId).all isDelegatedTool)
    "delegated child used authority outside its read-only grant"
  pure (contextDraft readers snapshot request finalText)

def buildGeneralAssistantValidationContext : Except String ValidationContextDraft := do
  let sources ← hydrateArtifactSources readers snapshot
  let request ← require (sources.find? AgentContextSource.isUser)
    "general assistant validation has no authenticated request"
  let _ ← recordedFinal "general assistant" snapshot
  ensure ((readers.readToolIds snapshot.runId).all isAssistantTool)
    "general assistant used an unsupported tool authority"
  pure (contextDraft readers snapshot request finalText)

def buildDeterministicReadValidationContext : Except String ValidationContextDraft := do
  let sources ← hydrateArtifactSources readers snapshot
  let request ← require (sources.find? AgentContextSource.isUser) "deterministic validation has no selected request"
  let _ ← require (sources.reverse.find? fun source => source.message.role = .tool)
    "deterministic validation has no recorded read-tool observation"
  pure (contextDraft readers snapshot request finalText)

def governedInputs : List String := ["fixture.write_file ", "/act ", "/edit ", "/manage ", "/run "]

def buildFreshFixtureValidationContext : Except String ValidationContextDraft := do
  let request ← require (snapshot.contextSources.find? fun source =>
      source.sourceType = "user" ∧ source.isUser ∧
        (governedInputs.any fun input => source.message.content.startsWith input) = true)
    "fresh validation has no selected governed-action request"
  readers.governedEvidence snapshot.contextSources
  pure (contextDraft readers snapshot request finalText)

inductive ValidationBuilder where
  | delegated | generalAssistant | freshFixture | deterministicRead
deriving DecidableEq

def selectBuilder (criteria : TaskSuccessCriteria) : ValidationBuilder :=
  if snapshot.agentRole = .delegate ∧ snapshot.turnKind = .delegated then .delegated
  else if "response_present" ∈ criteria.criterionIds ∧ "response_integrity" ∈ criteria.criterionIds then
    .generalAssistant
  else if criteria.independentValidationRequired then .freshFixture
  else .deterministicRead

def buildValidationContext (criteria : TaskSuccessCriteria) : Except String ValidationContextDraft :=
  match selectBuilder snapshot criteria with
  | .delegated => buildDelegatedValidationContext readers snapshot finalText
  | .generalAssistant => buildGeneralAssistantValidationContext readers snapshot finalText
  | .freshFixture => buildFreshFixtureValidationContext readers snapshot finalText
  | .deterministicRead => buildDeterministicReadValidationContext readers snapshot finalText

end Builders
end Mealy.Context
