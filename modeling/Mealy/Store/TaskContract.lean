import Mealy.Context.Validation
import Mealy.Extension.McpServers
import Mealy.Store.DelegationStore
import Mealy.Store.Memory

/-! The contract of a root task (`promotion.rs` of the application and of the store). The
configured ceiling is narrowed for each turn: a mutating tool is kept only where the input
asks for it by its command, and the authority that only such tools need goes with them. -/

namespace Mealy
open Context (TaskSuccessCriteria RiskClass)
open Mcp (validMcpToolId)
open Transaction

inductive MutatingTool where
  | createFile | replaceFile | managePath | processRun
deriving DecidableEq

namespace MutatingTool

def id : MutatingTool → String
  | createFile => "workspace.create_file"
  | replaceFile => "workspace.replace_file"
  | managePath => "workspace.manage_path"
  | processRun => "process.run"

def inputPrefix : MutatingTool → String
  | createFile => "/act "
  | replaceFile => "/edit "
  | managePath => "/manage "
  | processRun => "/run "

def baseline : MutatingTool → String
  | createFile => "mealy.general-assistant.action.v1"
  | replaceFile => "mealy.general-assistant.edit.v2"
  | managePath => "mealy.general-assistant.manage.v1"
  | processRun => "mealy.general-assistant.process.v1"

end MutatingTool

structure InitialTaskContract where
  capabilityCeiling : CapabilityGrant := {}
  successCriteria : TaskSuccessCriteria
  contextBaselineVersion : String

def workspaceActionTaskContract (content : String) : InitialTaskContract where
  successCriteria := ⟨["authorization", "effect_outcome", "response_grounding"], .medium⟩
  contextBaselineVersion :=
    if content.startsWith MutatingTool.replaceFile.inputPrefix then MutatingTool.replaceFile.baseline
    else if content.startsWith MutatingTool.managePath.inputPrefix then MutatingTool.managePath.baseline
    else MutatingTool.createFile.baseline

def generalAssistantTaskContract (content : String) : InitialTaskContract :=
  if content.startsWith MutatingTool.processRun.inputPrefix then
    { successCriteria := ⟨["authorization", "effect_outcome", "response_grounding"], .high⟩
      contextBaselineVersion := MutatingTool.processRun.baseline }
  else if content.startsWith MutatingTool.createFile.inputPrefix ∨ content.startsWith MutatingTool.replaceFile.inputPrefix ∨
      content.startsWith MutatingTool.managePath.inputPrefix then
    workspaceActionTaskContract content
  else
    { successCriteria := ⟨["response_present", "response_integrity"], .low⟩
      contextBaselineVersion := "mealy.general-assistant.baseline.v1" }

def readTools : List String :=
  ["workspace.list", "workspace.stat", "workspace.read", "workspace.search", "agent.delegate", "skill.read_resource",
    "web.fetch", "web.search", "browser.snapshot"]

def isWorkspaceRoot (root : String) : Bool := root.startsWith "workspace://" ∧ root.endsWith "/"

def validGeneralAssistantCapabilityCeiling (grant : CapabilityGrant) : Bool :=
  let hasWorkspaceRead := grant.tools.any (·.startsWith "workspace.")
  let hasWrite := MutatingTool.createFile.id ∈ grant.tools ∨ MutatingTool.replaceFile.id ∈ grant.tools
  let hasManage := MutatingTool.managePath.id ∈ grant.tools
  let hasProcess := MutatingTool.processRun.id ∈ grant.tools
  let hasWorkspace := hasWorkspaceRead ∨ hasWrite ∨ hasManage ∨ hasProcess
  let hasWeb := grant.tools.any fun tool => tool.startsWith "web." || tool = "browser.snapshot"
  let hasDelegation := "agent.delegate" ∈ grant.tools
  let hasRead := grant.tools.any validMcpToolId ∨ grant.tools.any (· ∈ readTools)
  let expectedEffectClasses := (if hasRead then [EffectClass.readOnly] else []) ++
    (if hasWrite then [.idempotent] else []) ++ (if hasManage ∨ hasProcess then [.nonIdempotent] else [])
  let expectedProfiles := (if hasRead then [PolicyProfile.observe] else []) ++
    (if hasWrite ∨ hasManage ∨ hasProcess then [.workspaceWrite] else [])
  grant.validate ∧
    (grant.tools.all fun tool => validMcpToolId tool || tool ∈ readTools ||
      tool ∈ [MutatingTool.createFile, .replaceFile, .managePath, .processRun].map MutatingTool.id) ∧
    (grant.effectClasses ⊆ expectedEffectClasses ∧ expectedEffectClasses ⊆ grant.effectClasses) ∧
    (grant.profiles ⊆ expectedProfiles ∧ expectedProfiles ⊆ grant.profiles) ∧
    (if hasDelegation then 1 ≤ grant.maximumDelegatedRuns ∧ grant.maximumDelegatedRuns ≤ 32
      else grant.maximumDelegatedRuns = 0) ∧
    (hasWorkspace ↔ grant.workspaceRoots ≠ []) ∧ grant.workspaceRoots.all isWorkspaceRoot ∧
    (hasWrite ∨ hasManage ∨ hasProcess ↔ grant.writableWorkspaceRoots ≠ []) ∧
    grant.writableWorkspaceRoots.all isWorkspaceRoot ∧ (hasWeb ↔ grant.networkDestinations ≠ []) ∧
    (hasProcess ↔ grant.executableIdentityDigests ≠ []) ∧
    grant.executableIdentityDigests.all Memories.isSha256Digest ∧
    (hasWeb ∨ grant.secretReferences = []) ∧ (grant.secretReferences = [] ∨ "web.search" ∈ grant.tools)

/-- `remove` on a set, unless the item is kept. -/
def removeUnless {α : Type} [DecidableEq α] (keep : Bool) (item : α) (items : List α) : List α :=
  if keep then items else items.filter (· ≠ item)

def applyGeneralAssistantContractOverrides (contract : InitialTaskContract) (capabilities : CapabilityGrant) :
    Except StoreError InitialTaskContract := do
  ensure (validGeneralAssistantCapabilityCeiling capabilities)
    (.invariantViolation "general-assistant promotion capability authority is invalid")
  let requested (tool : MutatingTool) : Bool := contract.contextBaselineVersion = tool.baseline
  let configured (tool : MutatingTool) : Bool := tool.id ∈ capabilities.tools
  let granted (tool : MutatingTool) : Bool := requested tool && configured tool
  let keepTool (tool : MutatingTool) := removeUnless (granted tool) tool.id
  let idempotentAction := granted .createFile || granted .replaceFile
  let nonIdempotentAction := granted .managePath || granted .processRun
  let effective : CapabilityGrant := { capabilities with
    tools := keepTool .processRun (keepTool .managePath (keepTool .replaceFile (keepTool .createFile capabilities.tools)))
    effectClasses := removeUnless nonIdempotentAction .nonIdempotent
      (removeUnless idempotentAction .idempotent capabilities.effectClasses)
    executableIdentityDigests := if granted .processRun then capabilities.executableIdentityDigests else []
    writableWorkspaceRoots :=
      if idempotentAction || nonIdempotentAction then capabilities.writableWorkspaceRoots else []
    profiles := removeUnless (idempotentAction || nonIdempotentAction) .workspaceWrite capabilities.profiles }
  let refused (tool : MutatingTool) : Bool := requested tool && !configured tool
  pure {
    capabilityCeiling := effective
    successCriteria := if refused .createFile || refused .replaceFile || refused .managePath || refused .processRun then
      (generalAssistantTaskContract "").successCriteria else contract.successCriteria
    contextBaselineVersion :=
      if granted .processRun then MutatingTool.processRun.baseline
      else if granted .managePath then MutatingTool.managePath.baseline
      else if granted .replaceFile then MutatingTool.replaceFile.baseline
      else if granted .createFile then MutatingTool.createFile.baseline
      else if effective.tools = [] then "mealy.general-assistant.baseline.v1"
      else "mealy.general-assistant.configured-read.v1" }

/-! ### What a turn may do -/

theorem mem_removeUnless {α} [DecidableEq α] {keep} {item other : α} {items : List α} :
    other ∈ removeUnless keep item items ↔ other ∈ items ∧ (keep = true ∨ other ≠ item) := by
  cases keep <;> simp [removeUnless]

theorem startsWith_of_baseline {content : String} {tool : MutatingTool}
    (requested : (generalAssistantTaskContract content).contextBaselineVersion = tool.baseline) :
    content.startsWith tool.inputPrefix = true := by
  simp only [generalAssistantTaskContract, workspaceActionTaskContract] at requested
  cases tool <;> simp only [MutatingTool.baseline] at requested <;> grind

/-- The authority of a turn lies within the configured one. It has at most one mutating tool,
the one whose command the input starts with, and without one nothing that mutates. -/
structure NarrowedTo (content : String) (configured effective : CapabilityGrant) : Prop where
  contained : configured.contains effective = true
  commanded : ∀ tool : MutatingTool, tool.id ∈ effective.tools → content.startsWith tool.inputPrefix = true
  single : ∀ first second : MutatingTool, first.id ∈ effective.tools → second.id ∈ effective.tools → first = second
  readOnly : (∀ tool : MutatingTool, tool.id ∉ effective.tools) →
    (∀ effectClass ∈ effective.effectClasses, effectClass = .readOnly) ∧ .workspaceWrite ∉ effective.profiles ∧
      effective.writableWorkspaceRoots = [] ∧ effective.executableIdentityDigests = []

theorem effectClass_of_valid {grant} (accepted : validGeneralAssistantCapabilityCeiling grant = true)
    {effectClass} (granted : effectClass ∈ grant.effectClasses) :
    effectClass = .readOnly ∨ effectClass = .idempotent ∨ effectClass = .nonIdempotent := by
  simp only [validGeneralAssistantCapabilityCeiling, decide_eq_true_eq] at accepted
  obtain ⟨_, _, ⟨expected, _⟩, _⟩ := accepted
  have listed := expected granted
  simp only [List.mem_append] at listed
  grind

theorem applyOverrides_ok {contract narrowed} {capabilities}
    (applied : applyGeneralAssistantContractOverrides contract capabilities = .ok narrowed) :
    (∀ tool : MutatingTool, tool.id ∈ narrowed.capabilityCeiling.tools ↔
      contract.contextBaselineVersion = tool.baseline ∧ tool.id ∈ capabilities.tools) ∧
    capabilities.contains narrowed.capabilityCeiling = true ∧
    ((∀ tool : MutatingTool, tool.id ∉ narrowed.capabilityCeiling.tools) →
      .idempotent ∉ narrowed.capabilityCeiling.effectClasses ∧ .nonIdempotent ∉ narrowed.capabilityCeiling.effectClasses ∧
      .workspaceWrite ∉ narrowed.capabilityCeiling.profiles ∧ narrowed.capabilityCeiling.writableWorkspaceRoots = [] ∧
      narrowed.capabilityCeiling.executableIdentityDigests = []) := by
  simp only [applyGeneralAssistantContractOverrides, eq_ok, exists_const] at applied
  obtain ⟨_, shape⟩ := applied
  have mutating : ∀ tool : MutatingTool, tool.id ∈ narrowed.capabilityCeiling.tools ↔
      contract.contextBaselineVersion = tool.baseline ∧ tool.id ∈ capabilities.tools := by
    intro tool
    rw [← shape]
    simp only [mem_removeUnless, Bool.and_eq_true, decide_eq_true_eq]
    cases tool <;> simp only [MutatingTool.id, MutatingTool.baseline] <;> grind
  refine ⟨mutating, ?_, ?_⟩ <;> subst shape
  · refine decide_eq_true ⟨?_, ?_, List.Subset.refl _, ?_, List.Subset.refl _, ?_, List.Subset.refl _, ?_, Nat.le_refl _⟩
    · intro tool kept
      simp only [mem_removeUnless] at kept
      exact kept.1.1.1.1
    · intro effectClass kept
      simp only [mem_removeUnless] at kept
      exact kept.1.1
    · dsimp only
      split <;> simp
    · dsimp only
      split <;> simp
    · intro profile kept
      simp only [mem_removeUnless] at kept
      exact kept.1
  · intro without
    have refused (tool : MutatingTool) :
        (decide (contract.contextBaselineVersion = tool.baseline) && decide (tool.id ∈ capabilities.tools)) = false := by
      rw [Bool.and_eq_false_iff, decide_eq_false_iff_not, decide_eq_false_iff_not, ← not_and_or]
      exact fun granted => without tool ((mutating tool).mpr granted)
    simp [mem_removeUnless, refused]

/-- Whatever the input is, an accepted ceiling is narrowed to the authority that the input
asks for. -/
theorem authority_narrowed (configured : CapabilityGrant) (content : String)
    (accepted : validGeneralAssistantCapabilityCeiling configured = true) :
    ∃ contract, applyGeneralAssistantContractOverrides (generalAssistantTaskContract content) configured = .ok contract ∧
      NarrowedTo content configured contract.capabilityCeiling := by
  obtain ⟨contract, applied⟩ : ∃ contract,
      applyGeneralAssistantContractOverrides (generalAssistantTaskContract content) configured = .ok contract := by
    simp [applyGeneralAssistantContractOverrides, ensure, accepted, bind, Except.bind, pure, Except.pure]
  obtain ⟨tools, contained, nothing⟩ := applyOverrides_ok applied
  refine ⟨contract, applied, contained, ?_, ?_, ?_⟩
  · intro tool kept
    exact startsWith_of_baseline ((tools tool).mp kept).1
  · intro first second keptFirst keptSecond
    have same : first.baseline = second.baseline :=
      ((tools first).mp keptFirst).1.symm.trans ((tools second).mp keptSecond).1
    revert same
    cases first <;> cases second <;> decide
  · intro without
    obtain ⟨idempotent, nonIdempotent, profiles, roots, digests⟩ := nothing without
    refine ⟨?_, profiles, roots, digests⟩
    intro effectClass granted
    simp only [CapabilityGrant.contains, decide_eq_true_eq] at contained
    rcases effectClass_of_valid accepted (contained.2.1 granted) with same | same | same
    · exact same
    · exact absurd (same ▸ granted) idempotent
    · exact absurd (same ▸ granted) nonIdempotent

theorem authority_narrowed_edit :
    ∃ configured, validGeneralAssistantCapabilityCeiling configured = true ∧
      ∃ contract, applyGeneralAssistantContractOverrides (generalAssistantTaskContract "/edit notes") configured = .ok contract ∧
        NarrowedTo "/edit notes" configured contract.capabilityCeiling :=
  ⟨{ tools := ["workspace.read", "workspace.replace_file", "process.run"]
     effectClasses := [.readOnly, .idempotent, .nonIdempotent], profiles := [.observe, .workspaceWrite]
     workspaceRoots := ["workspace://main/"], writableWorkspaceRoots := ["workspace://main/"]
     executableIdentityDigests := [String.ofList (List.replicate 64 'a')] },
    by decide +kernel, authority_narrowed _ "/edit notes" (by decide +kernel)⟩

end Mealy
