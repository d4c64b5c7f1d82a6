import Mealy.Store.DelegationStore

/-! The order of capability grants. A delegated grant is the greatest one below its parent,
the request and the policy that uses one delegation less; along a chain of delegations the
authority only shrinks, and the count of further delegations falls until it is used up. -/

namespace Mealy

namespace CapabilityGrant

theorem contains_refl (grant : CapabilityGrant) : grant.contains grant = true := by
  simp [contains]

theorem contains_trans {a b c : CapabilityGrant} (first : a.contains b = true) (last : b.contains c = true) :
    a.contains c = true := by
  simp only [contains, decide_eq_true_eq] at first last ⊢
  obtain ⟨tools, effects, roots, writable, network, digests, secrets, profiles, runs⟩ := first
  obtain ⟨tools', effects', roots', writable', network', digests', secrets', profiles', runs'⟩ := last
  exact ⟨List.Subset.trans tools' tools, List.Subset.trans effects' effects, List.Subset.trans roots' roots,
    List.Subset.trans writable' writable, List.Subset.trans network' network, List.Subset.trans digests' digests,
    List.Subset.trans secrets' secrets, List.Subset.trans profiles' profiles, runs'.trans runs⟩

section Intersection
variable {α : Type} [DecidableEq α] {first second third other : List α}

theorem intersection3_below : intersection3 first second third ⊆ first ∧ intersection3 first second third ⊆ second ∧
    intersection3 first second third ⊆ third := by
  have member {item : α} (found : item ∈ intersection3 first second third) :
      item ∈ first ∧ item ∈ second ∧ item ∈ third := by
    simpa [intersection3] using found
  exact ⟨fun _ found => (member found).1, fun _ found => (member found).2.1, fun _ found => (member found).2.2⟩

theorem intersection3_greatest (inFirst : other ⊆ first) (inSecond : other ⊆ second) (inThird : other ⊆ third) :
    other ⊆ intersection3 first second third := by
  intro item member
  exact List.mem_filter.mpr ⟨inFirst member, by simp [inSecond member, inThird member]⟩

theorem intersection3_length : (intersection3 first second third).length ≤ first.length := List.length_filter_le ..

end Intersection

variable {parent requested policy : CapabilityGrant}

theorem intersectForChild_validate (valid : parent.validate = true) (validRequested : requested.validate = true)
    (validPolicy : policy.validate = true) : (parent.intersectForChild requested policy).validate = true := by
  have items {first second third : List String} (bounded : first.length ≤ 256 ∧ first.all isCanonicalItem = true) :
      (intersection3 first second third).length ≤ 256 ∧ (intersection3 first second third).all isCanonicalItem = true := by
    refine ⟨intersection3_length.trans bounded.1, List.all_eq_true.mpr ?_⟩
    intro item member
    exact List.all_eq_true.mp bounded.2 item (intersection3_below.1 member)
  simp only [validate, List.all_cons, List.all_nil, Bool.and_true, Bool.and_eq_true,
    decide_eq_true_eq] at valid validRequested validPolicy ⊢
  obtain ⟨⟨tools, roots, writable, network, digests, secrets⟩, effects, profiles, nested⟩ := valid
  refine ⟨⟨items tools, items roots, items writable, items network, items digests, items secrets⟩,
    intersection3_length.trans effects, intersection3_length.trans profiles, ?_⟩
  exact intersection3_greatest (List.Subset.trans intersection3_below.1 nested)
    (List.Subset.trans intersection3_below.2.1 validRequested.2.2.2)
    (List.Subset.trans intersection3_below.2.2 validPolicy.2.2.2)

theorem intersectForChild_below : parent.contains (parent.intersectForChild requested policy) = true ∧
    requested.contains (parent.intersectForChild requested policy) = true ∧
    policy.contains (parent.intersectForChild requested policy) = true := by
  refine ⟨?_, ?_, ?_⟩ <;> refine decide_eq_true ?_ <;> simp only [intersectForChild]
  · refine ⟨?_, ?_, ?_, ?_, ?_, ?_, ?_, ?_, by omega⟩ <;> exact intersection3_below.1
  · refine ⟨?_, ?_, ?_, ?_, ?_, ?_, ?_, ?_, by omega⟩ <;> exact intersection3_below.2.1
  · refine ⟨?_, ?_, ?_, ?_, ?_, ?_, ?_, ?_, by omega⟩ <;> exact intersection3_below.2.2

theorem intersectForChild_greatest {other} (inParent : parent.contains other = true)
    (inRequested : requested.contains other = true) (inPolicy : policy.contains other = true)
    (used : other.maximumDelegatedRuns ≤ parent.maximumDelegatedRuns - 1) :
    (parent.intersectForChild requested policy).contains other = true := by
  simp only [contains, decide_eq_true_eq] at inParent inRequested inPolicy ⊢
  obtain ⟨tools, effects, roots, writable, network, digests, secrets, profiles, _⟩ := inParent
  obtain ⟨tools', effects', roots', writable', network', digests', secrets', profiles', runs'⟩ := inRequested
  obtain ⟨tools'', effects'', roots'', writable'', network'', digests'', secrets'', profiles'', runs''⟩ := inPolicy
  exact ⟨intersection3_greatest tools tools' tools'', intersection3_greatest effects effects' effects'',
    intersection3_greatest roots roots' roots'', intersection3_greatest writable writable' writable'',
    intersection3_greatest network network' network'', intersection3_greatest digests digests' digests'',
    intersection3_greatest secrets secrets' secrets'', intersection3_greatest profiles profiles' profiles'', le_min (le_min used runs') runs''⟩

end CapabilityGrant

/-- One link of a chain of delegations. -/
structure ChildAuthority (parent requested policy child : CapabilityGrant) : Prop where
  valid : child.validate = true
  below : parent.contains child = true ∧ requested.contains child = true ∧ policy.contains child = true
  greatest : ∀ other, parent.contains other = true → requested.contains other = true → policy.contains other = true →
    other.maximumDelegatedRuns ≤ parent.maximumDelegatedRuns - 1 → child.contains other = true
  falls : parent.maximumDelegatedRuns ≠ 0 → child.maximumDelegatedRuns < parent.maximumDelegatedRuns

section Chain
variable {grants requested policy : ℕ → CapabilityGrant} {n : ℕ} (valid : (grants 0).validate = true)
  (contracts : ∀ i < n, (requested i).validate = true ∧ (policy i).validate = true)
  (delegated : ∀ i < n, grants (i + 1) = (grants i).intersectForChild (requested i) (policy i))
include contracts delegated

include valid in
theorem chain_validate : ∀ i ≤ n, (grants i).validate = true := by
  intro i
  induction i with
  | zero => exact fun _ => valid
  | succ i ih =>
    intro within_
    rw [delegated i within_]
    exact CapabilityGrant.intersectForChild_validate (ih (by omega)) (contracts i within_).1 (contracts i within_).2

omit contracts in
theorem chain_contains {i j : ℕ} (ordered : i ≤ j) (within_ : j ≤ n) : (grants i).contains (grants j) = true := by
  induction j with
  | zero =>
    obtain rfl : i = 0 := by omega
    exact CapabilityGrant.contains_refl _
  | succ j ih =>
    rcases Nat.lt_or_ge j i with later | before
    · obtain rfl : i = j + 1 := by omega
      exact CapabilityGrant.contains_refl _
    · apply CapabilityGrant.contains_trans (ih before (by omega))
      rw [delegated j within_]
      exact CapabilityGrant.intersectForChild_below.1

omit contracts in
theorem chain_falls (positive : ∀ i < n, (grants i).maximumDelegatedRuns ≠ 0) {i} (within_ : i ≤ n) :
    (grants i).maximumDelegatedRuns + i ≤ (grants 0).maximumDelegatedRuns := by
  induction i with
  | zero => omega
  | succ i ih =>
    have before := ih (by omega)
    have count := positive i within_
    rw [delegated i within_]
    simp only [CapabilityGrant.intersectForChild]
    omega

end Chain

/-- Along every chain of delegations each grant is valid and the greatest lower bound of its
parent, the request and the policy; earlier grants contain later ones. Where every delegating
grant has a delegation left, as `childCeiling` asks, the count falls with each link, so that
the chain has at most as many links as the first grant has delegations. -/
theorem delegated_authority (grants requested policy : ℕ → CapabilityGrant) (n : ℕ)
    (valid : (grants 0).validate = true)
    (contracts : ∀ i < n, (requested i).validate = true ∧ (policy i).validate = true)
    (delegated : ∀ i < n, grants (i + 1) = (grants i).intersectForChild (requested i) (policy i)) :
    (∀ i < n, ChildAuthority (grants i) (requested i) (policy i) (grants (i + 1))) ∧
    (∀ i j, i ≤ j → j ≤ n → (grants i).contains (grants j) = true) ∧
    ((∀ i < n, (grants i).maximumDelegatedRuns ≠ 0) → n ≤ (grants 0).maximumDelegatedRuns) := by
  refine ⟨?_, fun i j ordered within_ => chain_contains delegated ordered within_, ?_⟩
  · intro i within_
    refine ⟨chain_validate valid contracts delegated (i + 1) within_, ?_, ?_, ?_⟩
    · rw [delegated i within_]
      exact CapabilityGrant.intersectForChild_below
    · intro other inParent inRequested inPolicy used
      rw [delegated i within_]
      exact CapabilityGrant.intersectForChild_greatest inParent inRequested inPolicy used
    · intro positive
      rw [delegated i within_]
      simp only [CapabilityGrant.intersectForChild]
      omega
  · intro positive
    have last := chain_falls delegated positive (Nat.le_refl n)
    omega

theorem delegated_authority_twice :
    ∃ grants requested policy : ℕ → CapabilityGrant, (grants 0).validate = true ∧
      (∀ i < 2, grants (i + 1) = (grants i).intersectForChild (requested i) (policy i)) ∧
      (∀ i < 2, ChildAuthority (grants i) (requested i) (policy i) (grants (i + 1))) := by
  refine ⟨fun i => { tools := ["fixture.read"], maximumDelegatedRuns := 2 - i },
    fun _ => { tools := ["fixture.read"], maximumDelegatedRuns := 5 }, fun _ => { tools := ["fixture.read"], maximumDelegatedRuns := 5 },
    by decide +kernel, by decide +kernel, ?_⟩
  exact (delegated_authority _ _ _ 2 (by decide +kernel) (by decide +kernel) (by decide +kernel)).1

/-- A grant without delegations left is its own child, so the chain that repeats it never ends. -/
theorem empty_grant_delegates_to_itself :
    ∃ grant : CapabilityGrant, grant.validate = true ∧ grant.intersectForChild grant grant = grant ∧
      ¬(grant.intersectForChild grant grant).maximumDelegatedRuns < grant.maximumDelegatedRuns :=
  ⟨{ tools := ["fixture.read"] }, by decide +kernel, by decide +kernel, by decide +kernel⟩

end Mealy
