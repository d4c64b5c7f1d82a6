import Mealy.Lib.Transaction

/-! The choice of a provider for a turn (`provider.rs`): candidates that satisfy the policy
are sorted by one key, the first is the primary and the trusted rest are its fallbacks.
Where no two candidates have the same provider and model the key has no ties, so that the
decision does not depend on the order in which the candidates are listed. -/

namespace Mealy.Provider
open Transaction

structure ProviderPricing where
  inputMicrounitsPerMillionTokens : Nat := 0
  outputMicrounitsPerMillionTokens : Nat := 0
deriving DecidableEq

structure ProviderCapabilities where
  (providerId modelId : String)
  inputModalities : List String
  (contextTokens maximumOutputTokens : Nat)
  inputTokenOverhead : Nat := 0
  (toolCalling structuredOutput : Bool)
  reasoningControls : List String := []
  residency : String
  local_ : Bool
  pricing : ProviderPricing := {}
  (maximumConcurrentRequests requestsPerMinute : Nat)
deriving DecidableEq

structure ProviderRouteCandidate where
  capabilities : ProviderCapabilities
  available : Bool
  (estimatedLatencyMs trustTier : Nat)
deriving DecidableEq

inductive CapabilityRequirement where
  | optional | required
deriving DecidableEq

inductive ProviderLocality where
  | any | localOnly
deriving DecidableEq

inductive ProviderFallbackPolicy where
  | disabled | sameOrHigherTrust
deriving DecidableEq

structure ProviderRoutingPolicy where
  requiredInputModalities : List String
  (toolCalling structuredOutput : CapabilityRequirement)
  requiredReasoningControl : Option String
  allowedResidencies : List String
  locality : ProviderLocality
  (maximumInputMicrounitsPerMillionTokens maximumOutputMicrounitsPerMillionTokens maximumLatencyMs : Nat)
  minimumTrustTier : Nat
  preferredProviderIds : List String
  fallback : ProviderFallbackPolicy

structure ProviderRoutePlan where
  primary : ProviderRouteCandidate
  fallbacks : List ProviderRouteCandidate
  explanation : String
deriving DecidableEq

inductive ProviderRoutingError where
  | invalidPolicy | noCompatibleProvider
deriving DecidableEq

def ProviderRoutingPolicy.valid (policy : ProviderRoutingPolicy) : Bool :=
  policy.requiredInputModalities ≠ [] ∧ policy.allowedResidencies ≠ [] ∧ policy.maximumLatencyMs ≠ 0 ∧
    policy.preferredProviderIds.length ≤ 256 ∧
    policy.preferredProviderIds.all fun value => value ≠ "" ∧ value.utf8ByteSize ≤ 128

def candidateMatches (policy : ProviderRoutingPolicy) (candidate : ProviderRouteCandidate) : Bool :=
  let capabilities := candidate.capabilities
  candidate.available ∧ policy.minimumTrustTier ≤ candidate.trustTier ∧
    (policy.locality = .any ∨ capabilities.local_) ∧ capabilities.residency ∈ policy.allowedResidencies ∧
    policy.requiredInputModalities ⊆ capabilities.inputModalities ∧
    (policy.toolCalling = .optional ∨ capabilities.toolCalling) ∧
    (policy.structuredOutput = .optional ∨ capabilities.structuredOutput) ∧
    policy.requiredReasoningControl.all (fun control => control ∈ capabilities.reasoningControls) ∧
    capabilities.pricing.inputMicrounitsPerMillionTokens ≤ policy.maximumInputMicrounitsPerMillionTokens ∧
    capabilities.pricing.outputMicrounitsPerMillionTokens ≤ policy.maximumOutputMicrounitsPerMillionTokens ∧
    candidate.estimatedLatencyMs ≤ policy.maximumLatencyMs ∧
    capabilities.inputTokenOverhead < capabilities.contextTokens ∧ capabilities.maximumOutputTokens ≠ 0 ∧
    capabilities.maximumConcurrentRequests ≠ 0 ∧ capabilities.requestsPerMinute ≠ 0

/-- The key of `sort_by_key`, compared lexicographically; `Reverse` is the dual order. -/
abbrev RoutingKey := Nat ×ₗ Boolᵒᵈ ×ₗ Nat ×ₗ Nat ×ₗ Natᵒᵈ ×ₗ String ×ₗ String

def routingKey (policy : ProviderRoutingPolicy) (candidate : ProviderRouteCandidate) : RoutingKey :=
  let capabilities := candidate.capabilities
  toLex ((policy.preferredProviderIds.idxOf? capabilities.providerId).getD (2 ^ 64 - 1),
    toLex (OrderDual.toDual capabilities.local_,
      toLex (min (capabilities.pricing.inputMicrounitsPerMillionTokens +
          capabilities.pricing.outputMicrounitsPerMillionTokens) (2 ^ 64 - 1),
        toLex (candidate.estimatedLatencyMs,
          toLex (OrderDual.toDual candidate.trustTier, toLex (capabilities.providerId, capabilities.modelId))))))

/-- The order of the sort, ties included. -/
def RoutesBefore (policy : ProviderRoutingPolicy) (first second : ProviderRouteCandidate) : Prop :=
  routingKey policy first ≤ routingKey policy second

instance (policy : ProviderRoutingPolicy) : DecidableRel (RoutesBefore policy) :=
  fun first second => inferInstanceAs (Decidable (routingKey policy first ≤ routingKey policy second))

def compatible (policy : ProviderRoutingPolicy) (candidates : List ProviderRouteCandidate) :
    List ProviderRouteCandidate :=
  (candidates.filter (candidateMatches policy)).insertionSort (RoutesBefore policy)

def routeProvider (policy : ProviderRoutingPolicy) (candidates : List ProviderRouteCandidate) :
    Except ProviderRoutingError ProviderRoutePlan := do
  ensure policy.valid .invalidPolicy
  let compatible := compatible policy candidates
  let primary ← require compatible.head? .noCompatibleProvider
  let fallbacks := if policy.fallback = .sameOrHigherTrust then
    (compatible.drop 1).filter fun candidate => primary.trustTier ≤ candidate.trustTier else []
  pure {
    explanation := "selected " ++ primary.capabilities.providerId ++ "@" ++ primary.capabilities.modelId ++
      " within capability, residency, locality, trust, cost, and latency policy; fallback=" ++
      toString (decide (policy.fallback = .sameOrHigherTrust))
    primary, fallbacks }

/-! ### The routing order -/

def DistinctModels (candidates : List ProviderRouteCandidate) : Prop :=
  candidates.Pairwise fun first second =>
    (first.capabilities.providerId, first.capabilities.modelId) ≠
      (second.capabilities.providerId, second.capabilities.modelId)

instance (candidates : List ProviderRouteCandidate) : Decidable (DistinctModels candidates) :=
  inferInstanceAs (Decidable (candidates.Pairwise _))

section Order
variable {policy : ProviderRoutingPolicy} {candidates : List ProviderRouteCandidate}

instance : Std.Total (RoutesBefore policy) := ⟨fun first second => le_total (routingKey policy first) (routingKey policy second)⟩

instance : IsTrans _ (RoutesBefore policy) := ⟨fun _ _ _ first last => le_trans (α := RoutingKey) first last⟩

theorem model_of_routingKey {first second} (same : routingKey policy first = routingKey policy second) :
    (first.capabilities.providerId, first.capabilities.modelId) =
      (second.capabilities.providerId, second.capabilities.modelId) := by
  simp only [routingKey, EmbeddingLike.apply_eq_iff_eq, Prod.mk.injEq] at same
  obtain ⟨_, _, _, _, _, provider, model⟩ := same
  rw [provider, model]

theorem mem_compatible {candidate} : candidate ∈ compatible policy candidates ↔
    candidate ∈ candidates ∧ candidateMatches policy candidate = true := by
  simp [compatible]

theorem DistinctModels.compatible (distinct : DistinctModels candidates) :
    DistinctModels (compatible policy candidates) := by
  apply List.Pairwise.perm _ (List.perm_insertionSort _ _).symm
  · intro first second different same
    exact different same.symm
  · exact List.Pairwise.filter _ distinct

theorem compatible_strict (distinct : DistinctModels candidates) :
    (compatible policy candidates).Pairwise fun first second => routingKey policy first < routingKey policy second := by
  have sorted := List.pairwise_insertionSort (RoutesBefore policy) (candidates.filter (candidateMatches policy))
  apply (sorted.and distinct.compatible).imp
  intro first second ⟨before, different⟩
  apply lt_of_le_of_ne before
  intro same
  exact different (model_of_routingKey same)

theorem compatible_perm (distinct : DistinctModels candidates) {permuted}
    (same : permuted.Perm candidates) : compatible policy permuted = compatible policy candidates := by
  have distinctPermuted : DistinctModels permuted := by
    apply List.Pairwise.perm distinct same.symm
    intro first second different equal
    exact different equal.symm
  apply List.Perm.eq_of_pairwise _ (compatible_strict distinctPermuted) (compatible_strict distinct)
  · exact (List.perm_insertionSort _ _).trans ((same.filter _).trans (List.perm_insertionSort _ _).symm)
  · intro first second _ _ before after
    exact absurd (lt_trans before after) (lt_irrefl _)

theorem routeProvider_ok {plan} (routed : routeProvider policy candidates = .ok plan) :
    ∃ rest, compatible policy candidates = plan.primary :: rest ∧
      plan.fallbacks = if policy.fallback = .sameOrHigherTrust then
        rest.filter fun candidate => plan.primary.trustTier ≤ candidate.trustTier else [] := by
  obtain ⟨_, primary, found, rfl⟩ : policy.valid = true ∧
      ∃ primary, (compatible policy candidates).head? = some primary ∧ _ = plan := by
    simpa only [routeProvider, eq_ok, exists_const, exists_and_left] using routed
  obtain ⟨rest, shape⟩ := List.head?_eq_some_iff.mp found
  exact ⟨rest, shape, by simp only [shape, List.drop_one, List.tail_cons]⟩

end Order

structure Routed (policy : ProviderRoutingPolicy) (candidates : List ProviderRouteCandidate)
    (plan : ProviderRoutePlan) : Prop where
  matches_ : plan.primary ∈ candidates ∧ candidateMatches policy plan.primary = true
  minimal : ∀ candidate ∈ candidates, candidateMatches policy candidate = true →
    routingKey policy plan.primary ≤ routingKey policy candidate
  fallbacks : ∀ candidate, candidate ∈ plan.fallbacks ↔ policy.fallback = .sameOrHigherTrust ∧
    (candidate ∈ candidates ∧ candidateMatches policy candidate = true) ∧ candidate ≠ plan.primary ∧
    plan.primary.trustTier ≤ candidate.trustTier
  ordered : plan.fallbacks.Pairwise fun first second => routingKey policy first < routingKey policy second

theorem routed_of_ok {policy candidates plan}
    (distinct : DistinctModels candidates) (routed : routeProvider policy candidates = .ok plan) :
    Routed policy candidates plan := by
  obtain ⟨rest, shape, fallbacks⟩ := routeProvider_ok routed
  have strict : (compatible policy candidates).Pairwise fun first second =>
      routingKey policy first < routingKey policy second := compatible_strict distinct
  have member (candidate) : candidate ∈ plan.primary :: rest ↔
      candidate ∈ candidates ∧ candidateMatches policy candidate = true := by
    rw [← shape]
    exact mem_compatible
  rw [shape, List.pairwise_cons] at strict
  obtain ⟨first, ordered⟩ := strict
  refine ⟨(member _).mp (List.mem_cons_self ..), ?_, ?_, ?_⟩
  · intro candidate listed matching
    rcases List.mem_cons.mp ((member candidate).mpr ⟨listed, matching⟩) with same | later
    · rw [same]
    · exact le_of_lt (first candidate later)
  · intro candidate
    have other : candidate ∈ rest ↔ candidate ∈ plan.primary :: rest ∧ candidate ≠ plan.primary := by
      constructor
      · intro later
        refine ⟨List.mem_cons_of_mem _ later, ?_⟩
        rintro rfl
        exact lt_irrefl _ (first _ later)
      · rintro ⟨listed, different⟩
        exact (List.mem_cons.mp listed).resolve_left different
    rw [fallbacks, ← member]
    split
    next enabled => simp only [List.mem_filter, other, decide_eq_true_eq, enabled, true_and, and_assoc]
    next disabled => simp [disabled]
  · rw [fallbacks]
    split
    · exact ordered.filter _
    · exact List.Pairwise.nil

/-- The decision of the router: an invalid policy is refused whatever the candidates are; a
valid one is refused only where nothing matches, and otherwise gives the least matching
candidate and its trusted fallbacks. The order of the candidates does not matter. -/
theorem route_provider_decision (policy : ProviderRoutingPolicy) (candidates : List ProviderRouteCandidate)
    (distinct : DistinctModels candidates) :
    (routeProvider policy candidates = .error .invalidPolicy ↔ policy.valid = false) ∧
    (routeProvider policy candidates = .error .noCompatibleProvider ↔
      policy.valid = true ∧ ∀ candidate ∈ candidates, candidateMatches policy candidate = false) ∧
    (∀ plan, routeProvider policy candidates = .ok plan → Routed policy candidates plan) ∧
    ∀ permuted, permuted.Perm candidates → routeProvider policy permuted = routeProvider policy candidates := by
  have nothing : compatible policy candidates = [] ↔ ∀ candidate ∈ candidates, candidateMatches policy candidate = false := by
    simp only [List.eq_nil_iff_forall_not_mem, mem_compatible, not_and, Bool.not_eq_true]
  refine ⟨?_, ?_, fun plan routed => routed_of_ok distinct routed, ?_⟩
  · rcases valid : policy.valid with _ | _
    · simp [routeProvider, ensure, valid, bind, Except.bind]
    · rcases shape : compatible policy candidates with _ | ⟨primary, rest⟩ <;>
        simp [routeProvider, ensure, require, valid, shape, bind, Except.bind, pure, Except.pure]
  · rw [← nothing]
    rcases valid : policy.valid with _ | _
    · simp [routeProvider, ensure, valid, bind, Except.bind]
    · rcases shape : compatible policy candidates with _ | ⟨primary, rest⟩ <;>
        simp [routeProvider, ensure, require, valid, shape, bind, Except.bind, pure, Except.pure]
  · intro permuted same
    simp only [routeProvider, compatible_perm distinct same]

def sampleCandidate (provider : String) (trustTier price : Nat) : ProviderRouteCandidate where
  capabilities := {
    providerId := provider, modelId := "model", inputModalities := ["text"], contextTokens := 4096
    maximumOutputTokens := 512, toolCalling := true, structuredOutput := true, residency := "local", local_ := true
    pricing := { inputMicrounitsPerMillionTokens := price }, maximumConcurrentRequests := 1, requestsPerMinute := 60 }
  available := true
  estimatedLatencyMs := 10
  trustTier

def samplePolicy (residencies : List String) : ProviderRoutingPolicy where
  requiredInputModalities := ["text"]
  toolCalling := .required
  structuredOutput := .optional
  requiredReasoningControl := none
  allowedResidencies := residencies
  locality := .any
  maximumInputMicrounitsPerMillionTokens := 100
  maximumOutputMicrounitsPerMillionTokens := 100
  maximumLatencyMs := 1000
  minimumTrustTier := 1
  preferredProviderIds := ["beta"]
  fallback := .sameOrHigherTrust

theorem route_provider_preferred :
    ∃ plan, routeProvider (samplePolicy ["local"]) [sampleCandidate "alpha" 3 1, sampleCandidate "beta" 2 9] = .ok plan ∧
      plan.primary = sampleCandidate "beta" 2 9 ∧ plan.fallbacks = [sampleCandidate "alpha" 3 1] ∧
      Routed (samplePolicy ["local"]) [sampleCandidate "alpha" 3 1, sampleCandidate "beta" 2 9] plan := by
  refine ⟨_, rfl, by decide +kernel, by decide +kernel, ?_⟩
  exact (route_provider_decision _ _ (by decide +kernel)).2.2.1 _ rfl

/-- A policy without residencies is refused as invalid although no candidate matches it. -/
theorem route_provider_invalid_policy :
    DistinctModels [] ∧ (∀ candidate ∈ ([] : List ProviderRouteCandidate), candidateMatches (samplePolicy []) candidate = false) ∧
      routeProvider (samplePolicy []) [] ≠ .error .noCompatibleProvider := by
  decide +kernel

end Mealy.Provider
