import Mealy.Lib.Utf8Text
import Mealy.Store.DelegationStore

/-! Transcript search (`search_sessions` of `timeline.rs`). SQLite selects the turns whose
texts contain the query up to the case of ASCII letters; the excerpt of a selected turn is
searched again, up to case only for a query in ASCII. -/

namespace Mealy.Context
open Transaction Utf8Text

/-- `lower()` of SQLite and `to_ascii_lowercase`. -/
def lower (c : Char) : Char := if 65 ≤ c.toNat ∧ c.toNat ≤ 90 then Char.ofNat (c.toNat + 32) else c

def isAsciiLetter (c : Char) : Bool := (65 ≤ c.toNat ∧ c.toNat ≤ 90) ∨ (97 ≤ c.toNat ∧ c.toNat ≤ 122)

structure StoredSessionSearchHit where
  userContent : String
  (assistantContent assistantContentDigest : Option String)

def queryValid (query : String) : Bool :=
  query ≠ "" ∧ query.utf8ByteSize ≤ 4096 ∧ isTrimmed query ∧ query.toList.all fun c => !isControl c

/-- `instr(lower(content), lower(query)) > 0`. -/
abbrev containsFolded (query content : String) : Prop := query.toList.map lower <:+: content.toList.map lower

/-- The `WHERE` clause over the texts of a turn. -/
abbrev StoredSessionSearchHit.selected (query : String) (hit : StoredSessionSearchHit) : Prop :=
  containsFolded query hit.userContent ∨ containsFolded query (hit.assistantContent.getD "")

def isAscii (text : String) : Bool := text.toList.all fun c => c.toNat < 128

/-- Whether the query stands at the head of the text. -/
def matchesHead (query : String) (text : List Char) : Bool :=
  if isAscii query then (query.toList.map lower).isPrefixOf (text.map lower) else query.toList.isPrefixOf text

def boundaryAbove (text : List Char) : Nat → Nat → Nat
  | 0, n => n
  | fuel + 1, n => if isCharBoundary text n then n else boundaryAbove text fuel (n + 1)

/-- The bytes of an ASCII query match whole characters, so that the text is searched by
characters. -/
def sessionSearchExcerpt (content query : String) : Option String := do
  let text := content.toList
  if query = "" then none
  let index ← (List.range (text.length + 1)).find? fun index => matchesHead query (text.drop index)
  let start := boundaryAbove text (size text) (size (text.take index) - 128)
  let stop := boundaryBelow text (min (start + 512) (size text))
  some (String.ofList (takeBytes (stop - start) (dropBytes start text)))

inductive SearchError where
  | invariantViolation (reason : String)
deriving DecidableEq

def noExcerpt : SearchError := .invariantViolation "session search row does not contain its query"

def StoredSessionSearchHit.hasExcerpt (query : String) (hit : StoredSessionSearchHit) : Bool :=
  (sessionSearchExcerpt hit.userContent query).isSome ||
    (hit.assistantContent.bind fun content => sessionSearchExcerpt content query).isSome

/-- The excerpts of `into_view`. -/
def StoredSessionSearchHit.intoView (digest : String → String) (query : String) (hit : StoredSessionSearchHit) :
    Except SearchError (Option String × Option String) := do
  ensure (hit.assistantContent.all fun content => hit.assistantContentDigest = some (digest content))
    (.invariantViolation "stored searchable assistant content is invalid")
  ensure (hit.hasExcerpt query) noExcerpt
  pure (sessionSearchExcerpt hit.userContent query,
    hit.assistantContent.bind fun content => sessionSearchExcerpt content query)

/-! ### Agreement -/

theorem lower_eq_self {c} (other : ¬ (65 ≤ c.toNat ∧ c.toNat ≤ 90)) : lower c = c := if_neg other

theorem isAsciiLetter_lower : ∀ n < 128, 65 ≤ n ∧ n ≤ 90 → isAsciiLetter (lower (Char.ofNat n)) = true := by decide

/-- The letter in the other case. -/
def swapCase (c : Char) : Char :=
  if 65 ≤ c.toNat ∧ c.toNat ≤ 90 then Char.ofNat (c.toNat + 32)
  else if 97 ≤ c.toNat ∧ c.toNat ≤ 122 then Char.ofNat (c.toNat - 32) else c

theorem swapCase_ascii : ∀ n < 128, lower (swapCase (Char.ofNat n)) = lower (Char.ofNat n) ∧
    (isAsciiLetter (Char.ofNat n) = true → swapCase (Char.ofNat n) ≠ Char.ofNat n) := by decide

theorem swapCase_spec (c) : lower (swapCase c) = lower c ∧ (isAsciiLetter c = true → swapCase c ≠ c) := by
  by_cases small : c.toNat < 128
  · simpa using swapCase_ascii c.toNat small
  · have fixed : swapCase c = c := by rw [swapCase, if_neg (by omega), if_neg (by omega)]
    refine ⟨by rw [fixed], ?_⟩
    intro letter
    simp only [isAsciiLetter, decide_eq_true_eq] at letter
    omega

theorem excerpt_isSome_iff {content query} (some_ : query ≠ "") :
    (sessionSearchExcerpt content query).isSome = true ↔ ∃ index, matchesHead query (content.toList.drop index) = true := by
  have found : (sessionSearchExcerpt content query).isSome =
      ((List.range (content.toList.length + 1)).find? fun index => matchesHead query (content.toList.drop index)).isSome := by
    simp only [sessionSearchExcerpt, some_, if_false]
    cases List.find? (fun index => matchesHead query (content.toList.drop index)) (List.range (content.toList.length + 1)) <;> rfl
  rw [found, List.find?_isSome]
  constructor
  · intro ⟨index, _, here⟩
    exact ⟨index, here⟩
  · intro ⟨index, here⟩
    by_cases inside : index ≤ content.toList.length
    · exact ⟨index, List.mem_range.mpr (by omega), here⟩
    · refine ⟨content.toList.length, List.mem_range.mpr (by omega), ?_⟩
      rw [List.drop_eq_nil_of_le (by omega)] at here
      rwa [List.drop_length]

theorem prefix_of_folded {pattern text} (plain : ∀ c ∈ pattern, isAsciiLetter c = false)
    (folded : pattern <+: text.map lower) : pattern <+: text := by
  rw [List.prefix_iff_eq_take, ← List.map_take] at folded
  have same : (text.take pattern.length).map lower = (text.take pattern.length).map id := by
    apply List.map_congr_left
    intro c member
    apply lower_eq_self
    intro upper
    have letter := isAsciiLetter_lower c.toNat (by omega) upper
    rw [Char.ofNat_toNat, plain (lower c) (by rw [folded]; exact List.mem_map_of_mem member)] at letter
    cases letter
  rw [same, List.map_id] at folded
  exact List.prefix_iff_eq_take.mpr folded

theorem excerpt_of_containsFolded {query content} (some_ : query ≠ "")
    (plain : isAscii query = true ∨ ∀ c ∈ query.toList, isAsciiLetter c = false) (found : containsFolded query content) :
    (sessionSearchExcerpt content query).isSome = true := by
  obtain ⟨before, after, text⟩ := found
  have here : query.toList.map lower <+: (content.toList.drop before.length).map lower := by
    rw [List.map_drop, ← text, List.append_assoc, List.drop_left]
    exact List.prefix_append _ _
  refine (excerpt_isSome_iff some_).mpr ⟨before.length, ?_⟩
  rw [matchesHead]
  split
  next => exact List.isPrefixOf_iff_prefix.mpr here
  next wide =>
    have letters := plain.resolve_left wide
    have same : query.toList.map lower = query.toList.map id := by
      apply List.map_congr_left
      intro c member
      apply lower_eq_self
      intro upper
      have quiet := letters c member
      simp [isAsciiLetter, upper] at quiet
    rw [same, List.map_id] at here
    exact List.isPrefixOf_iff_prefix.mpr (prefix_of_folded letters here)

theorem swapped_unfound {query} (wide : isAscii query = false) (letter : ∃ c ∈ query.toList, isAsciiLetter c = true) :
    containsFolded query (String.ofList (query.toList.map swapCase)) ∧
      (sessionSearchExcerpt (String.ofList (query.toList.map swapCase)) query).isSome = false := by
  have some_ : query ≠ "" := by
    rintro rfl
    simp [isAscii] at wide
  constructor
  · rewrite [containsFolded, String.toList_ofList, List.map_map,
      List.map_congr_left (f := lower ∘ swapCase) (g := lower) fun c _ => (swapCase_spec c).1]
    exact List.infix_rfl
  · rw [Bool.eq_false_iff, Ne, excerpt_isSome_iff some_, String.toList_ofList]
    intro ⟨index, here⟩
    rw [matchesHead, wide, if_neg Bool.false_ne_true, List.isPrefixOf_iff_prefix] at here
    have whole : query.toList = query.toList.map swapCase := by
      apply List.IsInfix.eq_of_length (here.isInfix.trans (List.drop_suffix _ _).isInfix)
      rw [List.length_map]
    obtain ⟨c, member, isLetter⟩ := letter
    have fixed : ∀ c ∈ query.toList, swapCase c = id c := List.map_inj_left.mp (by rw [List.map_id, ← whole])
    exact (swapCase_spec c).2 isLetter (fixed c member)

/-- Search does not fail on its own rows, whatever is stored, exactly for the queries in ASCII
and those without ASCII letters. -/
theorem search_accepts_own_rows_iff (digest : String → String) (query : String) (valid : queryValid query = true) :
    (∀ hit : StoredSessionSearchHit, hit.selected query → hit.hasExcerpt query = true ∧ hit.intoView digest query ≠ .error noExcerpt) ↔
      (isAscii query = true ∨ ∀ c ∈ query.toList, isAsciiLetter c = false) := by
  simp only [queryValid, decide_eq_true_eq] at valid
  constructor
  · intro accepts
    by_contra other
    simp only [not_or, Bool.not_eq_true, not_forall, Bool.not_eq_false] at other
    obtain ⟨wide, c, member, letter⟩ := other
    obtain ⟨found, unfound⟩ := swapped_unfound wide ⟨c, member, letter⟩
    have excerpt := (accepts ⟨String.ofList (query.toList.map swapCase), none, none⟩ (.inl found)).1
    simp [StoredSessionSearchHit.hasExcerpt, unfound] at excerpt
  · intro plain hit selected
    have excerpt : hit.hasExcerpt query = true := by
      rw [StoredSessionSearchHit.hasExcerpt, Bool.or_eq_true]
      rcases selected with user | assistant
      · exact .inl (excerpt_of_containsFolded valid.1 plain user)
      · right
        cases stored : hit.assistantContent with
        | none =>
          rw [stored] at assistant
          have empty := assistant.length_le
          simp at empty
          exact absurd empty valid.1
        | some content =>
          rw [stored] at assistant
          exact excerpt_of_containsFolded valid.1 plain assistant
    refine ⟨excerpt, ?_⟩
    intro refused
    rw [StoredSessionSearchHit.intoView] at refused
    by_cases genuine : hit.assistantContent.all fun content => hit.assistantContentDigest = some (digest content)
    · rw [ensure_holds genuine, ok_bind, ensure_holds excerpt] at refused
      cases refused
    · rw [ensure_fails genuine, error_bind, noExcerpt] at refused
      simp at refused

theorem search_accepts_own_rows_ascii : queryValid "Plan B" = true ∧
    StoredSessionSearchHit.hasExcerpt "Plan B" ⟨"the plan b", none, none⟩ = true := by
  have valid : queryValid "Plan B" = true := by decide +kernel
  refine ⟨valid, ((search_accepts_own_rows_iff (fun _ => "") "Plan B" valid).mpr (.inl ?_) _ ?_).1⟩ <;> decide +kernel

/-- A turn that SQLite finds for a query with another letter than an ASCII one. -/
theorem search_fails_on_own_row : queryValid "é A" = true ∧ StoredSessionSearchHit.selected "é A" ⟨"é a", none, none⟩ ∧
    StoredSessionSearchHit.intoView (fun _ => "") "é A" ⟨"é a", none, none⟩ = .error noExcerpt := by
  decide +kernel

end Mealy.Context
