import Mathlib

/-! Fenced leases. A resource is claimed under a token that only grows; the grant of a
claim is live until it is given up and never becomes live again. The protocol is a
relation on states, so that any system whose steps project to its steps inherits the
exclusion of live grants and the fate of dead ones. -/

namespace FencedLease

universe u v w

/-- A resource: its current token and whether it is in use. -/
structure Slot where
  token : Nat
  busy : Bool

structure Grant (ρ : Type u) (ω : Type v) where
  resource : ρ
  owner : ω
  token : Nat
  live : Bool

/-- Resources `ρ`, owners `ω`, and grants under identities `ι` that are never reused. -/
structure State (ρ : Type u) (ω : Type v) (ι : Type w) where
  slot : ρ → Option Slot
  grant : ι → Option (Grant ρ ω)

section Protocol
variable {ρ : Type u} {ω : Type v} {ι : Type w} [DecidableEq ρ] [DecidableEq ι]

inductive Step : State ρ ω ι → State ρ ω ι → Prop where
  | add {s r n} (fresh : s.slot r = none) :
      Step s { s with slot := Function.update s.slot r (some ⟨n, false⟩) }
  | supersede {s r n m} (free : s.slot r = some ⟨n, false⟩) (grows : n ≤ m) :
      Step s { s with slot := Function.update s.slot r (some ⟨m, false⟩) }
  | claim {s r} {i : ι} {o : ω} {n m} (free : s.slot r = some ⟨n, false⟩)
      (fresh : s.grant i = none) (grows : n < m) :
      Step s { slot := Function.update s.slot r (some ⟨m, true⟩),
               grant := Function.update s.grant i (some ⟨r, o, m, true⟩) }
  | giveUp {s r} {i : ι} {o : ω} {n m} (held : s.grant i = some ⟨r, o, n, true⟩)
      (current : s.slot r = some ⟨n, true⟩) (grows : n ≤ m) :
      Step s { slot := Function.update s.slot r (some ⟨m, false⟩),
               grant := Function.update s.grant i (some ⟨r, o, n, false⟩) }

abbrev Steps : State ρ ω ι → State ρ ω ι → Prop := Relation.ReflTransGen Step

end Protocol

section Invariant
variable {ρ : Type u} {ω : Type v} {ι : Type w}

structure Valid (s : State ρ ω ι) : Prop where
  current : ∀ i g, s.grant i = some g → g.live = true → s.slot g.resource = some ⟨g.token, true⟩
  held : ∀ r n, s.slot r = some ⟨n, true⟩ → ∃ i g, s.grant i = some g ∧ g.resource = r ∧ g.live = true
  unique : ∀ i j g h, s.grant i = some g → s.grant j = some h → g.live = true → h.live = true →
    g.resource = h.resource → i = j

def Grant.Ages (g h : Grant ρ ω) : Prop :=
  h.resource = g.resource ∧ h.owner = g.owner ∧ h.token = g.token ∧ (h.live = true → g.live = true)

/-- What every run of the protocol keeps: tokens do not decrease, grants stay. -/
structure Grows (before after : State ρ ω ι) : Prop where
  tokens : ∀ r a, before.slot r = some a → ∃ b, after.slot r = some b ∧ a.token ≤ b.token
  grants : ∀ i g, before.grant i = some g → ∃ h, after.grant i = some h ∧ g.Ages h

theorem Grant.Ages.refl (g : Grant ρ ω) : g.Ages g := ⟨rfl, rfl, rfl, id⟩

theorem Grant.Ages.trans {g h k : Grant ρ ω} (first : g.Ages h) (last : h.Ages k) : g.Ages k :=
  ⟨last.1.trans first.1, last.2.1.trans first.2.1, last.2.2.1.trans first.2.2.1, first.2.2.2 ∘ last.2.2.2⟩

theorem Grows.refl (s : State ρ ω ι) : Grows s s :=
  ⟨fun _ a found => ⟨a, found, Nat.le_refl _⟩, fun _ g found => ⟨g, found, .refl g⟩⟩

theorem Grows.trans {a b c : State ρ ω ι} (first : Grows a b) (last : Grows b c) : Grows a c where
  tokens r x found := by
    obtain ⟨y, middle, below⟩ := first.tokens r x found
    obtain ⟨z, final, above⟩ := last.tokens r y middle
    exact ⟨z, final, Nat.le_trans below above⟩
  grants i g found := by
    obtain ⟨h, middle, aged⟩ := first.grants i g found
    obtain ⟨k, final, older⟩ := last.grants i h middle
    exact ⟨k, final, aged.trans older⟩

theorem Valid.empty : Valid (⟨fun _ => none, fun _ => none⟩ : State ρ ω ι) where
  current _ _ found := nomatch found
  held _ _ found := nomatch found
  unique _ _ _ _ found := nomatch found

theorem Valid.free {s : State ρ ω ι} (valid : Valid s) {r : ρ} {n} (free : s.slot r = some ⟨n, false⟩)
    {i : ι} {g : Grant ρ ω} (found : s.grant i = some g) (live : g.live = true) : g.resource ≠ r := by
  rintro rfl
  have busy := valid.current i g found live
  cases free.symm.trans busy

end Invariant

section Runs
variable {ρ : Type u} {ω : Type v} {ι : Type w} [DecidableEq ρ] [DecidableEq ι]

theorem Step.preserves {s s' : State ρ ω ι} (step : Step s s') (valid : Valid s) : Valid s' := by
  have free := @valid.free
  obtain ⟨current, held, unique⟩ := valid
  cases step with
  | add fresh => constructor <;> grind
  | supersede idle grows => constructor <;> grind
  | @claim r i o n m idle fresh grows =>
    refine ⟨by grind, fun other token busy => ?_, by grind⟩
    by_cases same : other = r
    · exact ⟨i, ⟨r, o, m, true⟩, Function.update_self .., same.symm, rfl⟩
    · obtain ⟨j, g, found, of, live⟩ := held other token (by grind)
      exact ⟨j, g, by grind, of, live⟩
  | @giveUp r i o n m mine owned grows =>
    refine ⟨by grind, fun other token busy => ?_, by grind⟩
    -- Another busy resource keeps the grant it had, which is not the one given up.
    have different : other ≠ r := by grind
    obtain ⟨j, g, found, of, live⟩ := held other token (by grind)
    exact ⟨j, g, by grind, of, live⟩

theorem Step.grows {s s' : State ρ ω ι} (step : Step s s') : Grows s s' := by
  cases step with
  | add fresh => exact ⟨by grind, fun i g found => ⟨g, found, .refl g⟩⟩
  | supersede idle grows => exact ⟨by grind, fun i g found => ⟨g, found, .refl g⟩⟩
  | claim idle fresh grows => exact ⟨by grind, fun i g found => ⟨g, by grind, .refl g⟩⟩
  | giveUp mine owned grows => exact ⟨by grind, fun i g found => by grind [Grant.Ages]⟩

theorem Steps.preserves {s s' : State ρ ω ι} (steps : Steps s s') (valid : Valid s) : Valid s' := by
  induction steps with
  | refl => exact valid
  | tail _ step ih => exact step.preserves ih

theorem Steps.grows {s s' : State ρ ω ι} (steps : Steps s s') : Grows s s' := by
  induction steps with
  | refl => exact .refl _
  | tail _ step ih => exact ih.trans step.grows

end Runs
end FencedLease
