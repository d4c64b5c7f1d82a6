import Mathlib

/-! Replacing a pattern in a text. The functions scan the text once from left to right; the
relation says what they compute, match by match. -/

namespace ExactText

variable {α : Type*} [DecidableEq α] {pattern new : List α}

def matchCount (pattern : List α) : Nat → List α → Nat
  | _, [] => 0
  | covered + 1, _ :: rest => matchCount pattern covered rest
  | 0, first :: rest =>
    if pattern.isPrefixOf (first :: rest) then matchCount pattern (pattern.length - 1) rest + 1
    else matchCount pattern 0 rest

def replaceFrom (pattern new : List α) : Nat → List α → List α
  | _, [] => []
  | covered + 1, _ :: rest => replaceFrom pattern new covered rest
  | 0, first :: rest =>
    if pattern.isPrefixOf (first :: rest) then new ++ replaceFrom pattern new (pattern.length - 1) rest
    else first :: replaceFrom pattern new 0 rest

/-- The first match is replaced, then the text behind it, until none is left. -/
inductive Replaced (pattern new : List α) : List α → Nat → List α → Prop where
  | absent {text} (nowhere : ∀ start < text.length, ¬ pattern <+: text.drop start) :
      Replaced pattern new text 0 text
  | first {before after after' count}
      (earliest : ∀ start < before.length, ¬ pattern <+: (before ++ pattern ++ after).drop start)
      (others : Replaced pattern new after count after') :
      Replaced pattern new (before ++ pattern ++ after) (count + 1) (before ++ new ++ after')

theorem matchCount_covered (covered) (text : List α) :
    matchCount pattern covered text = matchCount pattern 0 (text.drop covered) := by
  induction text generalizing covered with
  | nil => cases covered <;> simp [matchCount]
  | cons first rest ih =>
    cases covered with
    | zero => rfl
    | succ covered => exact ih covered

theorem replaceFrom_covered (covered) (text : List α) :
    replaceFrom pattern new covered text = replaceFrom pattern new 0 (text.drop covered) := by
  induction text generalizing covered with
  | nil => cases covered <;> simp [replaceFrom]
  | cons first rest ih =>
    cases covered with
    | zero => rfl
    | succ covered => exact ih covered

theorem scan_match (some_ : pattern ≠ []) (new after : List α) :
    matchCount pattern 0 (pattern ++ after) = matchCount pattern 0 after + 1 ∧
      replaceFrom pattern new 0 (pattern ++ after) = new ++ replaceFrom pattern new 0 after := by
  obtain ⟨first, rest, rfl⟩ := List.exists_cons_of_ne_nil some_
  have found : (first :: rest).isPrefixOf (first :: (rest ++ after)) = true := by simp
  have covered : (rest ++ after).drop ((first :: rest).length - 1) = after := by simp
  rw [List.cons_append, matchCount, if_pos found, matchCount_covered, replaceFrom, if_pos found, replaceFrom_covered, covered]
  exact ⟨rfl, rfl⟩

theorem scan_mismatch (new : List α) {first rest} (other : ¬ pattern <+: first :: rest) :
    matchCount pattern 0 (first :: rest) = matchCount pattern 0 rest ∧
      replaceFrom pattern new 0 (first :: rest) = first :: replaceFrom pattern new 0 rest := by
  have missed : ¬ pattern.isPrefixOf (first :: rest) = true := fun found => other (List.isPrefixOf_iff_prefix.mp found)
  rw [matchCount, if_neg missed, replaceFrom, if_neg missed]
  exact ⟨rfl, rfl⟩

theorem Replaced.scanned {text text' count} (some_ : pattern ≠ [])
    (replaced : Replaced pattern new text count text') :
    matchCount pattern 0 text = count ∧ replaceFrom pattern new 0 text = text' := by
  induction replaced with
  | @absent text nowhere =>
    induction text with
    | nil => exact ⟨rfl, rfl⟩
    | cons first rest ih =>
      obtain ⟨count, replaced⟩ := ih fun start inside => nowhere (start + 1) (Nat.succ_lt_succ inside)
      obtain ⟨matches_, text⟩ := scan_mismatch new (nowhere 0 (Nat.zero_lt_succ _))
      exact ⟨matches_.trans count, text.trans (congrArg (first :: ·) replaced)⟩
  | @first before after after' count earliest others ih =>
    induction before with
    | nil =>
      obtain ⟨matches_, text⟩ := scan_match some_ new after
      rw [List.nil_append, matches_, text, ih.1, ih.2]
      exact ⟨rfl, rfl⟩
    | cons first before inner =>
      obtain ⟨matches_, text⟩ := scan_mismatch new (earliest 0 (Nat.zero_lt_succ _))
      obtain ⟨count, replaced⟩ := inner fun start inside => earliest (start + 1) (Nat.succ_lt_succ inside)
      exact ⟨matches_.trans count, text.trans (congrArg (first :: ·) replaced)⟩

theorem replaced_scan (some_ : pattern ≠ []) (text : List α) :
    Replaced pattern new text (matchCount pattern 0 text) (replaceFrom pattern new 0 text) := by
  induction length : text.length using Nat.strong_induction_on generalizing text with
  | _ n ih =>
    cases text with
    | nil => exact .absent nofun
    | cons first rest =>
      by_cases found : pattern <+: first :: rest
      · obtain ⟨after, shape⟩ := found
        obtain ⟨matches_, replaced⟩ := scan_match some_ new after
        have shorter : after.length < n := by
          have positive := List.length_pos_iff.mpr some_
          have total := congrArg List.length shape
          rw [List.length_append] at total
          omega
        rw [← shape, matches_, replaced]
        exact @Replaced.first _ _ _ [] after _ _ nofun (ih _ shorter after rfl)
      · obtain ⟨matches_, replaced⟩ := scan_mismatch new found
        rw [matches_, replaced]
        have inner := ih rest.length (by simp [← length]) rest rfl
        generalize matchCount pattern 0 rest = count, replaceFrom pattern new 0 rest = rest' at inner
        cases inner with
        | absent nowhere =>
          refine .absent fun start inside => ?_
          cases start with
          | zero => exact found
          | succ start => exact nowhere start (Nat.lt_of_succ_lt_succ inside)
        | @first before after after' count earliest others =>
          refine @Replaced.first _ _ _ (first :: before) after after' count (fun start inside => ?_) others
          cases start with
          | zero => exact found
          | succ start => exact earliest start (Nat.lt_of_succ_lt_succ inside)

theorem replaced_iff {text text' count} (some_ : pattern ≠ []) :
    Replaced pattern new text count text' ↔
      matchCount pattern 0 text = count ∧ replaceFrom pattern new 0 text = text' := by
  constructor
  · exact Replaced.scanned some_
  · intro ⟨matches_, replaced⟩
    rw [← matches_, ← replaced]
    exact replaced_scan some_ text

end ExactText
