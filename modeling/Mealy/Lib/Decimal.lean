import Mathlib

/-! Decimal numerals as their ASCII codes. Numerals without a leading zero are ordered by
length and then code by code exactly as their values are. -/

namespace Decimal

def valueFrom (n : Nat) (codes : List Nat) : Nat := codes.foldl (fun n code => 10 * n + (code - 48)) n

def value (codes : List Nat) : Nat := valueFrom 0 codes

def IsDigit (code : Nat) : Prop := 48 ≤ code ∧ code < 58

/-- A numeral as it is printed: digits, at least one, the first not zero. -/
structure Canonical (codes : List Nat) : Prop where
  digit : ∀ code ∈ codes, IsDigit code
  leading : ∃ code rest, codes = code :: rest ∧ 48 < code

def precedes (a b : List Nat) : Bool := a.length < b.length ∨ (a.length = b.length ∧ a ≤ b)

theorem valueFrom_cons (n code) (codes) :
    valueFrom n (code :: codes) = valueFrom (10 * n + (code - 48)) codes := by
  simp only [valueFrom, List.foldl_cons]

theorem le_valueFrom (n) (codes) : n * 10 ^ codes.length ≤ valueFrom n codes := by
  induction codes generalizing n with
  | nil => simp [valueFrom]
  | cons code codes ih =>
    rw [valueFrom_cons, List.length_cons]
    calc n * 10 ^ (codes.length + 1) = 10 * n * 10 ^ codes.length := by ring
      _ ≤ (10 * n + (code - 48)) * 10 ^ codes.length := Nat.mul_le_mul_right _ (Nat.le_add_right _ _)
      _ ≤ valueFrom (10 * n + (code - 48)) codes := ih _

theorem valueFrom_lt (n) {codes} (digit : ∀ code ∈ codes, IsDigit code) :
    valueFrom n codes < (n + 1) * 10 ^ codes.length := by
  induction codes generalizing n with
  | nil => simp [valueFrom]
  | cons code codes ih =>
    rw [valueFrom_cons, List.length_cons]
    have small : code < 58 := (digit code (List.mem_cons_self ..)).2
    calc valueFrom (10 * n + (code - 48)) codes < (10 * n + (code - 48) + 1) * 10 ^ codes.length :=
          ih _ fun other member => digit other (List.mem_cons_of_mem _ member)
      _ ≤ (10 * (n + 1)) * 10 ^ codes.length := Nat.mul_le_mul_right _ (by omega)
      _ = (n + 1) * 10 ^ (codes.length + 1) := by ring

theorem valueFrom_lt_of_lt {n m a b} (digit : ∀ code ∈ a, IsDigit code)
    (length : a.length = b.length) (less : n < m) : valueFrom n a < valueFrom m b := by
  calc valueFrom n a < (n + 1) * 10 ^ a.length := valueFrom_lt n digit
    _ ≤ m * 10 ^ b.length := by rw [length]; exact Nat.mul_le_mul_right _ less
    _ ≤ valueFrom m b := le_valueFrom m b

theorem valueFrom_lt_of_lex {n a b} (digitA : ∀ code ∈ a, IsDigit code)
    (digitB : ∀ code ∈ b, IsDigit code) (length : a.length = b.length) (less : a < b) :
    valueFrom n a < valueFrom n b := by
  induction a generalizing n b with
  | nil =>
    cases b with
    | nil => exact absurd less (List.not_lt_nil _)
    | cons => cases length
  | cons code a ih =>
    cases b with
    | nil => cases length
    | cons code' b =>
      have tailA : ∀ code ∈ a, IsDigit code := fun code member => digitA code (List.mem_cons_of_mem _ member)
      have tailB : ∀ code ∈ b, IsDigit code := fun code member => digitB code (List.mem_cons_of_mem _ member)
      have tails : a.length = b.length := by simpa using length
      have low := (digitA code (List.mem_cons_self ..)).1
      rw [valueFrom_cons, valueFrom_cons]
      rcases List.cons_lt_cons_iff.mp less with first | ⟨rfl, rest⟩
      · exact valueFrom_lt_of_lt tailA tails (by omega)
      · exact ih tailA tailB tails rest

theorem value_lt_of_length {a b} (canonicalA : Canonical a) (canonicalB : Canonical b)
    (shorter : a.length < b.length) : value a < value b := by
  obtain ⟨code, rest, rfl, positive⟩ := canonicalB.leading
  calc value a < (0 + 1) * 10 ^ a.length := valueFrom_lt 0 canonicalA.digit
    _ ≤ (code - 48) * 10 ^ rest.length := by
      have exponent : a.length ≤ rest.length := by simpa [Nat.lt_succ_iff] using shorter
      have power := Nat.pow_le_pow_right (show 0 < 10 by decide) exponent
      calc (0 + 1) * 10 ^ a.length ≤ 1 * 10 ^ rest.length := by simpa using power
        _ ≤ (code - 48) * 10 ^ rest.length := Nat.mul_le_mul_right _ (by omega)
    _ ≤ valueFrom (code - 48) rest := le_valueFrom _ rest
    _ = value (code :: rest) := by simp [value, valueFrom_cons]

theorem value_le_of_precedes {a b} (canonicalA : Canonical a) (canonicalB : Canonical b)
    (before : precedes a b = true) : value a ≤ value b := by
  rcases of_decide_eq_true before with shorter | ⟨length, less⟩
  · exact (value_lt_of_length canonicalA canonicalB shorter).le
  · rcases less.lt_or_eq with less | rfl
    · exact (valueFrom_lt_of_lex canonicalA.digit canonicalB.digit length less).le
    · exact le_refl _

theorem precedes_iff {a b} (canonicalA : Canonical a) (canonicalB : Canonical b) :
    precedes a b = true ↔ value a ≤ value b := by
  refine ⟨value_le_of_precedes canonicalA canonicalB, fun ordered => ?_⟩
  by_contra other
  have reverse : b.length < a.length ∨ (b.length = a.length ∧ b < a) := by
    simp only [precedes, decide_eq_true_eq, not_or, not_and, not_le, not_lt] at other
    rcases other.1.lt_or_eq with shorter | same
    · exact .inl shorter
    · exact .inr ⟨same, other.2 same.symm⟩
  rcases reverse with shorter | ⟨length, less⟩
  · exact absurd (value_lt_of_length canonicalB canonicalA shorter) (not_lt.mpr ordered)
  · exact absurd (valueFrom_lt_of_lex canonicalB.digit canonicalA.digit length less) (not_lt.mpr ordered)

theorem precedes_total (a b) : precedes a b = true ∨ precedes b a = true := by
  simp only [precedes, decide_eq_true_eq]
  rcases lt_trichotomy a.length b.length with shorter | same | longer
  · exact .inl (.inl shorter)
  · exact (le_total a b).imp (fun below => .inr ⟨same, below⟩) fun above => .inr ⟨same.symm, above⟩
  · exact .inr (.inl longer)

theorem precedes_trans {a b c} (first : precedes a b = true) (last : precedes b c = true) :
    precedes a c = true := by
  simp only [precedes, decide_eq_true_eq] at first last ⊢
  rcases first with shorter | ⟨same, below⟩ <;> rcases last with shorter' | ⟨same', below'⟩
  · exact .inl (shorter.trans shorter')
  · exact .inl (same' ▸ shorter)
  · exact .inl (same ▸ shorter')
  · exact .inr ⟨same.trans same', below.trans below'⟩

end Decimal
