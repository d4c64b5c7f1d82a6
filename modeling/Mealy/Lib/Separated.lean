import Mathlib

/-! Lists cut at a separator. The cut loses nothing, so that the parts of one list begin with
those of another exactly when the list does, up to a separator. -/

namespace Separated
variable {α : Type} [DecidableEq α] {separator : α}

theorem splitOn_injective {left right : List α} (same : left.splitOn separator = right.splitOn separator) : left = right := by
  have whole := congrArg [separator].intercalate same
  rwa [List.intercalate_splitOn, List.intercalate_splitOn] at whole

theorem not_mem_of_mem_splitOn {text part : List α} (member : part ∈ text.splitOn separator) : separator ∉ part := by
  induction size : text.length using Nat.strong_induction_on generalizing text with
  | _ n ih =>
    by_cases cut : separator ∈ text
    · obtain ⟨before, after, rfl, first⟩ := List.eq_append_cons_of_mem cut
      rw [List.splitOn_append_cons_self, List.splitOn_eq_singleton first, List.singleton_append, List.mem_cons] at member
      rcases member with rfl | member
      · exact first
      · apply ih after.length _ member rfl
        simp only [List.length_append, List.length_cons] at size
        omega
    · rw [List.splitOn_eq_singleton cut, List.mem_singleton] at member
      rwa [member]

theorem splitOn_prefix_iff {root path : List α} :
    root.splitOn separator <+: path.splitOn separator ↔ root = path ∨ root ++ [separator] <+: path := by
  constructor
  · intro parts
    obtain ⟨rest, split⟩ := parts
    by_cases none : rest = []
    · subst none
      exact .inl (splitOn_injective (by simpa using split))
    · right
      -- The text put together again from the root and the other parts has the same parts.
      have clean : ∀ part ∈ rest, separator ∉ part := by
        intro part member
        have listed := List.mem_append_right (root.splitOn separator) member
        rw [split] at listed
        exact not_mem_of_mem_splitOn listed
      have whole : root ++ separator :: [separator].intercalate rest = path := by
        apply @splitOn_injective _ _ separator
        rw [List.splitOn_append_cons_self, List.splitOn_intercalate _ clean none, split]
      exact ⟨[separator].intercalate rest, by rw [← whole]; simp⟩
  · intro text
    rcases text with rfl | ⟨rest, rfl⟩
    · exact List.prefix_rfl
    · rw [List.append_assoc, List.singleton_append, List.splitOn_append_cons_self]
      exact List.prefix_append _ _

omit [DecidableEq α] in
theorem append_cons_eq_iff {left right left' right'} :
    left ++ separator :: right = left' ++ separator :: right' ↔
      left = left' ∧ right = right' ∨
      (∃ rest, left' = left ++ separator :: rest ∧ right = rest ++ separator :: right') ∨
      ∃ rest, left = left' ++ separator :: rest ∧ right' = rest ++ separator :: right := by
  constructor
  · intro same
    rcases List.append_eq_append_iff.mp same with ⟨between, front, back⟩ | ⟨between, front, back⟩
    · cases between with
      | nil => exact .inl (by simp_all)
      | cons first rest =>
        simp only [List.cons_append, List.cons.injEq] at back
        exact .inr (.inl ⟨rest, by rw [front, back.1], back.2⟩)
    · cases between with
      | nil => exact .inl (by simp_all)
      | cons first rest =>
        simp only [List.cons_append, List.cons.injEq] at back
        exact .inr (.inr ⟨rest, by rw [front, back.1], back.2⟩)
  · rintro (⟨rfl, rfl⟩ | ⟨rest, rfl, rfl⟩ | ⟨rest, rfl, rfl⟩)
    · rfl
    · simp
    · simp

omit [DecidableEq α] in
theorem append_cons_inj {left right left' right'} (clean : separator ∉ left) (clean' : separator ∉ left')
    (same : left ++ separator :: right = left' ++ separator :: right') : left = left' ∧ right = right' := by
  rcases append_cons_eq_iff.mp same with parts | ⟨rest, rfl, _⟩ | ⟨rest, rfl, _⟩
  · exact parts
  · exact absurd (List.mem_append_right _ List.mem_cons_self) clean'
  · exact absurd (List.mem_append_right _ List.mem_cons_self) clean

/-! ### Words

The non-empty parts between the elements of a class. Words with one separator between any two
are read back as they were, also when the text is cut anywhere and closed with a solid element. -/

section Words
variable {β : Type} {blank : β → Bool} {space : β} {text word : List β}

def words (blank : β → Bool) (text : List β) : List (List β) := (text.splitOnP blank).filter fun part => !part.isEmpty

structure IsWord (blank : β → Bool) (word : List β) : Prop where
  nonempty : word ≠ []
  solid : ∀ x ∈ word, blank x = false

/-- One separator between any two words, none at either end. -/
inductive Spaced (blank : β → Bool) (space : β) : List β → Prop
  | one {word : List β} : IsWord blank word → Spaced blank space word
  | more {word text : List β} : IsWord blank word → Spaced blank space text → Spaced blank space (word ++ space :: text)

theorem words_append_blank (first second : List β) (isBlank : blank space = true) :
    words blank (first ++ space :: second) = words blank first ++ words blank second := by
  rw [words, List.splitOnP_append_cons _ _ isBlank, List.filter_append]
  rfl

theorem words_isWord (isWord : IsWord blank word) : words blank word = [word] := by
  rw [words, List.splitOnP_eq_singleton isWord.solid]
  simp [isWord.nonempty]

theorem mem_words (member : word ∈ words blank text) : IsWord blank word ∧ ∀ x ∈ word, x ∈ text := by
  induction size : text.length using Nat.strong_induction_on generalizing text with
  | _ n ih =>
    by_cases cut : ∃ x ∈ text, blank x = true
    · obtain ⟨x, inside, isBlank⟩ := cut
      obtain ⟨before, after, rfl⟩ := List.append_of_mem inside
      rw [words_append_blank _ _ isBlank, List.mem_append] at member
      simp only [List.length_append, List.length_cons] at size
      rcases member with first | second
      · obtain ⟨isWord, within_⟩ := ih before.length (by omega) first rfl
        exact ⟨isWord, fun x listed => List.mem_append_left _ (within_ x listed)⟩
      · obtain ⟨isWord, within_⟩ := ih after.length (by omega) second rfl
        exact ⟨isWord, fun x listed => List.mem_append_right _ (List.mem_cons_of_mem _ (within_ x listed))⟩
    · have solid : ∀ x ∈ text, blank x = false := by
        intro x inside
        exact Bool.eq_false_iff.mpr fun isBlank => cut ⟨x, inside, isBlank⟩
      rw [words, List.splitOnP_eq_singleton solid, List.mem_filter, List.mem_singleton] at member
      obtain ⟨rfl, some_⟩ := member
      exact ⟨⟨by simpa using some_, solid⟩, fun _ listed => listed⟩

theorem spaced_intercalate {parts : List (List β)} (some_ : parts ≠ []) (all : ∀ part ∈ parts, IsWord blank part) :
    Spaced blank space ([space].intercalate parts) := by
  induction parts with
  | nil => exact absurd rfl some_
  | cons first rest ih =>
    cases rest with
    | nil =>
      rw [List.intercalate_singleton]
      exact .one (all first List.mem_cons_self)
    | cons next rest =>
      rw [List.intercalate_cons_cons, List.append_assoc, List.singleton_append]
      refine .more (all first List.mem_cons_self) (ih (List.cons_ne_nil _ _) ?_)
      intro part member
      exact all part (List.mem_cons_of_mem _ member)

theorem Spaced.nonempty (spaced : Spaced blank space text) : text ≠ [] := by
  cases spaced with
  | one isWord => exact isWord.nonempty
  | more isWord _ => exact List.append_ne_nil_of_left_ne_nil isWord.nonempty _

theorem Spaced.intercalate_words (spaced : Spaced blank space text) (isBlank : blank space = true) :
    [space].intercalate (words blank text) = text := by
  induction spaced with
  | one isWord => rw [words_isWord isWord, List.intercalate_singleton]
  | more isWord spaced ih =>
    rw [words_append_blank _ _ isBlank, words_isWord isWord, List.singleton_append]
    obtain ⟨next, rest, split⟩ : ∃ next rest, words blank _ = next :: rest := by
      apply List.exists_cons_of_ne_nil
      intro none
      rw [none, List.intercalate_nil] at ih
      exact spaced.nonempty ih.symm
    rw [split] at ih ⊢
    rw [List.intercalate_cons_cons, ih, List.append_assoc, List.singleton_append]

theorem IsWord.close {cut : List β} {x : β} (isWord : IsWord blank word) (start : cut <+: word) (solid : blank x = false) :
    IsWord blank (cut ++ [x]) := by
  refine ⟨by simp, ?_⟩
  intro y member
  rcases List.mem_append.mp member with inside | last
  · exact isWord.solid y (start.subset inside)
  · rw [List.mem_singleton.mp last]
    exact solid

theorem Spaced.close {cut : List β} {x : β} (spaced : Spaced blank space text) (start : cut <+: text)
    (solid : blank x = false) : Spaced blank space (cut ++ [x]) := by
  induction spaced generalizing cut with
  | one isWord => exact .one (isWord.close start solid)
  | @more word text isWord spaced ih =>
    rcases List.prefix_or_prefix_of_prefix start (List.prefix_append word (space :: text)) with inside | ⟨rest, rfl⟩
    · exact .one (isWord.close inside solid)
    · rw [List.prefix_append_right_inj] at start
      cases rest with
      | nil =>
        rw [List.append_nil]
        exact .one (isWord.close (List.prefix_refl _) solid)
      | cons first rest =>
        obtain ⟨rfl, later⟩ := List.cons_prefix_cons.mp start
        rw [List.append_assoc, List.cons_append]
        exact .more isWord (ih later)

theorem Spaced.head (spaced : Spaced blank space text) : ∀ x ∈ text.head?, blank x = false := by
  have first {word rest : List β} (isWord : IsWord blank word) : ∀ x ∈ (word ++ rest).head?, blank x = false := by
    intro x here
    rw [List.head?_append_of_ne_nil _ isWord.nonempty] at here
    exact isWord.solid x (List.mem_of_mem_head? here)
  cases spaced with
  | one isWord => simpa using @first _ [] isWord
  | more isWord _ => exact first isWord

theorem Spaced.last (spaced : Spaced blank space text) : ∀ x ∈ text.getLast?, blank x = false := by
  induction spaced with
  | one isWord => exact fun x here => isWord.solid x (List.mem_of_mem_getLast? here)
  | @more word text _ spaced ih =>
    intro x here
    rw [List.getLast?_append_of_ne_nil _ (List.cons_ne_nil _ _), List.getLast?_cons_of_ne_nil spaced.nonempty] at here
    exact ih x here

theorem Spaced.isChain (spaced : Spaced blank space text) :
    text.IsChain fun x next => ¬ (blank x = true ∧ blank next = true) := by
  have solid {word : List β} (isWord : IsWord blank word) : word.IsChain fun x next => ¬ (blank x = true ∧ blank next = true) := by
    apply List.Pairwise.isChain
    apply List.pairwise_of_forall_mem_list
    intro x member y _
    simp [isWord.solid x member]
  induction spaced with
  | one isWord => exact solid isWord
  | @more word text isWord spaced ih =>
    refine List.isChain_append.mpr ⟨solid isWord, List.isChain_cons.mpr ⟨?_, ih⟩, ?_⟩
    · intro y here
      simp [spaced.head y here]
    · intro x here y _
      simp [isWord.solid x (List.mem_of_mem_getLast? here)]

end Words

end Separated
