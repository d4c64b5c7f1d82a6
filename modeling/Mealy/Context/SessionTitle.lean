import Mealy.Lib.Separated
import Mealy.Lib.Utf8Text
import Mealy.Store.DelegationStore

/-! Session titles (`derive_session_title` of `timeline.rs`). The first input of a session is
cleaned, brought to one line and cut by two limits. What comes out is words with one space
between any two, also when the cut fell behind a space, so that a title is its own title. -/

namespace Mealy.Context
open Separated Utf8Text

def sessionTitleMaximumBytes : Nat := 160
def sessionTitleMaximumCharacters : Nat := 72
def untitledSessionTitle : String := "New conversation"

def unsafeSessionTitleCharacter (character : Char) : Bool :=
  let codepoint := character.toNat
  isControl character ∨ codepoint = 0x061c ∨ (0x200b ≤ codepoint ∧ codepoint ≤ 0x200f) ∨
    (0x2028 ≤ codepoint ∧ codepoint ≤ 0x202e) ∨ (0x2060 ≤ codepoint ∧ codepoint ≤ 0x206f) ∨ codepoint = 0xfeff

def sanitizedTitle (text : List Char) : List Char :=
  text.map fun character => if unsafeSessionTitleCharacter character then ' ' else character

def normalizedTitle (text : List Char) : List Char := [' '].intercalate (words isWhitespace (sanitizedTitle text))

def maximumContentBytes : Nat := sessionTitleMaximumBytes - '…'.utf8Size

def pushCharacters (title : List Char) (characters : Nat) : List Char → List Char × Bool
  | [] => (title, false)
  | character :: rest =>
    if characters = sessionTitleMaximumCharacters ∨ size title + character.utf8Size > maximumContentBytes then (title, true)
    else pushCharacters (title ++ [character]) (characters + 1) rest

def ellipsized (content : List Char × Bool) : List Char := if content.2 then content.1 ++ ['…'] else content.1

def deriveSessionTitle (firstInput : Option String) : String :=
  match firstInput with
  | none => untitledSessionTitle
  | some input =>
    if normalizedTitle input.toList = [] then untitledSessionTitle
    else String.ofList (ellipsized (pushCharacters [] 0 (normalizedTitle input.toList)))

/-! ### The cut -/

/-- The content of a title within both limits. -/
structure Fits (content : List Char) : Prop where
  few : content.length ≤ sessionTitleMaximumCharacters
  small : size content ≤ maximumContentBytes

theorem pushCharacters_append {content later : List Char} (fits : Fits (content ++ later)) (rest) :
    pushCharacters content content.length (later ++ rest) = pushCharacters (content ++ later) (content ++ later).length rest := by
  induction later generalizing content with
  | nil => simp
  | cons character later ih =>
    have inside : ¬ (content.length = sessionTitleMaximumCharacters ∨ size content + character.utf8Size > maximumContentBytes) := by
      have few := fits.few
      have small := fits.small
      simp only [List.length_append, List.length_cons] at few
      simp only [size_append, size_cons] at small
      omega
    have moved := @ih (content ++ [character]) (by simpa using fits)
    rw [List.cons_append, pushCharacters, if_neg inside]
    simpa using moved

/-- The loop keeps a part that fits, and all of the text unless it says so. -/
structure CutOf (text : List Char) (cut : List Char × Bool) : Prop where
  fits : Fits cut.1
  start : cut.1 <+: text
  whole : cut.2 = false → cut.1 = text

theorem pushCharacters_cut {content : List Char} (fits : Fits content) (rest) :
    CutOf (content ++ rest) (pushCharacters content content.length rest) := by
  induction rest generalizing content with
  | nil =>
    rw [List.append_nil]
    exact ⟨fits, List.prefix_refl _, fun _ => rfl⟩
  | cons character rest ih =>
    rw [pushCharacters]
    split
    next => exact ⟨fits, List.prefix_append _ _, nofun⟩
    next inside =>
      have more : Fits (content ++ [character]) := by
        have few := fits.few
        constructor
        · rw [List.length_append, List.length_singleton]
          omega
        · rw [size_append, size_cons, size_nil]
          omega
      have pushed := ih more
      rwa [List.append_assoc, List.singleton_append, List.length_append, List.length_singleton] at pushed

theorem fits_nil : Fits [] := ⟨Nat.zero_le _, Nat.zero_le _⟩

theorem ellipsized_again {content : List Char} (fits : Fits content) (truncated : Bool) :
    ellipsized (pushCharacters [] 0 (ellipsized (content, truncated))) = ellipsized (content, truncated) := by
  have kept := @pushCharacters_append [] content fits
  cases truncated with
  | false =>
    have whole : pushCharacters [] 0 content = (content, false) := by simpa [pushCharacters] using kept []
    rw [show ellipsized (content, false) = content from rfl, whole]
    rfl
  | true =>
    have last : pushCharacters [] 0 (content ++ ['…']) = pushCharacters content content.length ['…'] := kept ['…']
    rw [show ellipsized (content, true) = content ++ ['…'] from rfl, last, pushCharacters]
    split <;> rfl

/-! ### The words -/

theorem space_safe : unsafeSessionTitleCharacter ' ' = false := by decide

theorem ellipsis_safe : unsafeSessionTitleCharacter '…' = false := by decide

/-- What a title consists of. -/
structure IsTitle (text : List Char) : Prop where
  spaced : Spaced isWhitespace ' ' text
  safe : ∀ c ∈ text, unsafeSessionTitleCharacter c = false

theorem sanitized_safe {text : List Char} : ∀ c ∈ sanitizedTitle text, unsafeSessionTitleCharacter c = false := by
  intro c member
  obtain ⟨source, _, rfl⟩ := List.mem_map.mp member
  split
  next => exact space_safe
  next safe => exact Bool.eq_false_iff.mpr safe

theorem sanitized_of_safe {text : List Char} (safe : ∀ c ∈ text, unsafeSessionTitleCharacter c = false) :
    sanitizedTitle text = text := by
  conv => rhs; rw [← List.map_id text]
  apply List.map_congr_left
  intro c member
  rw [if_neg (by simp [safe c member])]
  rfl

theorem mem_intercalate {parts : List (List Char)} {c} (member : c ∈ [' '].intercalate parts) :
    c = ' ' ∨ ∃ part ∈ parts, c ∈ part := by
  induction parts with
  | nil => simp at member
  | cons first rest ih =>
    cases rest with
    | nil =>
      rw [List.intercalate_singleton] at member
      exact .inr ⟨first, List.mem_cons_self, member⟩
    | cons next rest =>
      rw [List.intercalate_cons_cons, List.append_assoc, List.mem_append, List.mem_append, List.mem_singleton] at member
      rcases member with here | here | later
      · exact .inr ⟨first, List.mem_cons_self, here⟩
      · exact .inl here
      · rcases ih later with here | ⟨part, listed, here⟩
        · exact .inl here
        · exact .inr ⟨part, List.mem_cons_of_mem _ listed, here⟩

theorem normalized_isTitle {text : List Char} (some_ : normalizedTitle text ≠ []) : IsTitle (normalizedTitle text) := by
  constructor
  · apply spaced_intercalate
    · intro none
      rw [normalizedTitle, none] at some_
      exact some_ rfl
    · exact fun part member => (mem_words member).1
  · intro c member
    rcases mem_intercalate member with rfl | ⟨part, listed, here⟩
    · exact space_safe
    · exact sanitized_safe c ((mem_words listed).2 c here)

theorem IsTitle.normalized {text : List Char} (title : IsTitle text) : normalizedTitle text = text := by
  rw [normalizedTitle, sanitized_of_safe title.safe]
  exact title.spaced.intercalate_words (by decide)

theorem IsTitle.ellipsized {text : List Char} {cut} (title : IsTitle text) (cutOf : CutOf text cut) :
    IsTitle (ellipsized cut) := by
  rw [Context.ellipsized]
  split
  next =>
    refine ⟨title.spaced.close cutOf.start (by decide), ?_⟩
    intro c member
    rcases List.mem_append.mp member with inside | last
    · exact title.safe c (cutOf.start.subset inside)
    · rw [List.mem_singleton.mp last]
      exact ellipsis_safe
  next kept => rwa [cutOf.whole (Bool.eq_false_iff.mpr kept)]

theorem Fits.ellipsized_bounds {content : List Char} (fits : Fits content) (truncated : Bool) :
    size (ellipsized (content, truncated)) ≤ sessionTitleMaximumBytes ∧
      (ellipsized (content, truncated)).length ≤ sessionTitleMaximumCharacters + 1 := by
  have few := fits.few
  have small := fits.small
  have room : maximumContentBytes + '…'.utf8Size = sessionTitleMaximumBytes := by decide
  cases truncated with
  | false => exact ⟨show size content ≤ _ by omega, show content.length ≤ _ by omega⟩
  | true =>
    change size (content ++ ['…']) ≤ _ ∧ (content ++ ['…']).length ≤ _
    rw [size_append, size_cons, size_nil, List.length_append, List.length_singleton]
    omega

/-- A title, with its bounds, that the cut gives back unchanged. -/
structure IsDerived (title : List Char) : Prop extends IsTitle title where
  bytes : size title ≤ sessionTitleMaximumBytes
  characters : title.length ≤ sessionTitleMaximumCharacters + 1
  again : ellipsized (pushCharacters [] 0 title) = title

theorem IsTitle.derived {text : List Char} (title : IsTitle text) : IsDerived (Context.ellipsized (pushCharacters [] 0 text)) := by
  have cut := pushCharacters_cut fits_nil text
  obtain ⟨bytes, characters⟩ := cut.fits.ellipsized_bounds (pushCharacters [] 0 text).2
  exact ⟨title.ellipsized cut, bytes, characters, ellipsized_again cut.fits _⟩

theorem untitled_isDerived : IsDerived untitledSessionTitle.toList := by
  have normal : normalizedTitle untitledSessionTitle.toList = untitledSessionTitle.toList := by decide +kernel
  have title : IsTitle untitledSessionTitle.toList := by
    rw [← normal]
    exact normalized_isTitle (by decide +kernel)
  have whole : ellipsized (pushCharacters [] 0 untitledSessionTitle.toList) = untitledSessionTitle.toList := by decide +kernel
  rw [← whole]
  exact title.derived

theorem deriveSessionTitle_isDerived (firstInput) : IsDerived (deriveSessionTitle firstInput).toList := by
  unfold deriveSessionTitle
  split
  next => exact untitled_isDerived
  next input =>
    split
    next => exact untitled_isDerived
    next some_ =>
      rw [String.toList_ofList]
      exact (normalized_isTitle some_).derived

theorem IsDerived.fixed {title : String} (derived : IsDerived title.toList) : deriveSessionTitle (some title) = title := by
  have normal := derived.toIsTitle.normalized
  rw [deriveSessionTitle, normal, if_neg derived.spaced.nonempty, derived.again, String.ofList_toList]

structure BoundedTitle (title : String) : Prop where
  nonempty : title ≠ ""
  bytes : title.utf8ByteSize ≤ sessionTitleMaximumBytes
  characters : title.length ≤ sessionTitleMaximumCharacters + 1
  safe : ∀ c ∈ title.toList, unsafeSessionTitleCharacter c = false
  leading : ∀ c ∈ title.toList.head?, isWhitespace c = false
  trailing : ∀ c ∈ title.toList.getLast?, isWhitespace c = false
  single : title.toList.IsChain fun c next => ¬ (isWhitespace c = true ∧ isWhitespace next = true)

/-- Every derived title is bounded and clean, and its own title. -/
theorem derived_session_title (firstInput : Option String) : BoundedTitle (deriveSessionTitle firstInput) ∧
    deriveSessionTitle (some (deriveSessionTitle firstInput)) = deriveSessionTitle firstInput := by
  have derived := deriveSessionTitle_isDerived firstInput
  refine ⟨⟨?_, ?_, ?_, derived.safe, derived.spaced.head, derived.spaced.last, derived.spaced.isChain⟩, derived.fixed⟩
  · intro empty
    apply derived.spaced.nonempty
    rw [empty]
    rfl
  · rw [← length_bytes_eq, length_bytes]
    exact derived.bytes
  · rw [← String.length_toList]
    exact derived.characters

example : deriveSessionTitle (some "Review\x1b[31m \u202eunsafe output") = "Review [31m unsafe output" := by decide +kernel

end Mealy.Context
