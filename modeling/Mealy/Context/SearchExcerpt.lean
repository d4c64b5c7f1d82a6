import Mealy.Context.SessionSearch

/-! Excerpts of a transcript search (`session_search_excerpt` of `timeline.rs`), byte by byte as
the source has it. The bytes of a match are whole characters, so that the search by characters
finds the same place, and the window around it is moved to the boundaries of characters without
losing the match. -/

namespace Mealy.Timeline
open Utf8Text Context

def sessionSearchMaximumExcerptBytes : Nat := 512

/-- `u8::to_ascii_lowercase`. -/
def lowerByte (byte : UInt8) : UInt8 := if 65 ≤ byte ∧ byte ≤ 90 then byte + 32 else byte

def eqIgnoreAsciiCase (window query : List UInt8) : Bool := window.map lowerByte = query.map lowerByte

/-- `windows(width).position(…)`. -/
def windowPosition (accepts : List UInt8 → Bool) (width : Nat) (content : List UInt8) : Option Nat :=
  (List.range (content.length + 1 - width)).find? fun index => accepts ((content.drop index).take width)

/-- `find` of a query outside ASCII compares the bytes as they are. -/
def windowMatches (query : String) (window : List UInt8) : Bool :=
  if isAscii query then eqIgnoreAsciiCase window (bytes query) else window = bytes query

def matchStart (content query : String) : Option Nat :=
  windowPosition (windowMatches query) (bytes query).length (bytes content)

def excerptAround (text : List Char) (matchStart : Nat) : List Char :=
  let start := boundaryAbove text (size text) (matchStart - 128)
  let stop := boundaryBelow text (min (start + sessionSearchMaximumExcerptBytes) (size text))
  takeBytes (stop - start) (dropBytes start text)

def sessionSearchExcerpt (content query : String) : Option String := do
  if query = "" then none
  let matchStart ← matchStart content query
  some (String.ofList (excerptAround content.toList matchStart))

/-! ### Matches by characters -/

def Alike (query : String) (matched : List Char) : Prop :=
  if isAscii query then matched.map lower = query.toList.map lower else matched = query.toList

structure MatchAt (query content : String) (before matched : List Char) : Prop where
  inside : before ++ matched <+: content.toList
  alike : Alike query matched

structure FirstMatch (query content : String) (before matched : List Char) : Prop extends MatchAt query content before matched where
  earliest : ∀ {other matched'}, MatchAt query content other matched' → size before ≤ size other

theorem lowerByte_ascii : ∀ n < 128, lowerByte (UInt8.ofNat n) = UInt8.ofNat (lower (Char.ofNat n)).toNat := by decide

theorem lower_ascii {c : Char} : (lower c).toNat < 128 ↔ c.toNat < 128 := by
  have lowered : ∀ n < 128, (lower (Char.ofNat n)).toNat < 128 := by decide
  constructor
  · intro small
    by_contra wide
    rw [lower_eq_self (by omega)] at small
    exact wide small
  · intro small
    have here := lowered c.toNat small
    rwa [Char.ofNat_toNat] at here

theorem lowerByte_lt {byte} (small : (lowerByte byte).toNat < 128) : byte.toNat < 128 := by
  by_contra wide
  have upper : ¬ (65 ≤ byte ∧ byte ≤ 90) := by
    rw [UInt8.le_iff_toNat_le, UInt8.le_iff_toNat_le]
    exact fun letter => wide (Nat.lt_of_le_of_lt letter.2 (by decide))
  rw [lowerByte, if_neg upper] at small
  exact wide small

theorem lowered_bytes {text : List Char} (ascii : ∀ c ∈ text, c.toNat < 128) :
    (bytes (String.ofList text)).map lowerByte = bytes (String.ofList (text.map lower)) := by
  rw [bytes_ascii ascii, bytes_ascii (by simpa [lower_ascii] using ascii), List.map_map, List.map_map]
  apply List.map_congr_left
  intro c member
  have lowered := lowerByte_ascii c.toNat (ascii c member)
  rwa [Char.ofNat_toNat] at lowered

theorem exists_text {window : List UInt8} (ascii : ∀ byte ∈ window, byte.toNat < 128) :
    ∃ text, (∀ c ∈ text, c.toNat < 128) ∧ bytes (String.ofList text) = window := by
  have number : ∀ n < 128, (Char.ofNat n).toNat = n := by decide
  have small : ∀ c ∈ window.map fun byte => Char.ofNat byte.toNat, c.toNat < 128 := by
    intro c member
    obtain ⟨byte, listed, rfl⟩ := List.mem_map.mp member
    rw [number _ (ascii byte listed)]
    exact ascii byte listed
  refine ⟨_, small, ?_⟩
  rw [bytes_ascii small, List.map_map]
  conv => rhs; rw [← List.map_id window]
  apply List.map_congr_left
  intro byte member
  rw [Function.comp_apply, number _ (ascii byte member), UInt8.ofNat_toNat]
  rfl

theorem isAscii_iff {query} : isAscii query = true ↔ ∀ c ∈ query.toList, c.toNat < 128 := by
  simp [isAscii]

theorem windowMatches_iff {query window} :
    windowMatches query window = true ↔ ∃ matched, Alike query matched ∧ bytes (String.ofList matched) = window := by
  rw [windowMatches]
  by_cases plain : isAscii query = true
  · have ascii := isAscii_iff.mp plain
    have lowered := lowered_bytes ascii
    rw [String.ofList_toList] at lowered
    simp only [plain, if_true, eqIgnoreAsciiCase, Alike, decide_eq_true_eq, lowered]
    constructor
    · intro same
      have small : ∀ byte ∈ window, byte.toNat < 128 := by
        intro byte member
        apply lowerByte_lt
        have listed := List.mem_map_of_mem (f := lowerByte) member
        rw [same, bytes_ascii (by simpa [lower_ascii] using ascii)] at listed
        obtain ⟨c, letter, here⟩ := List.mem_map.mp listed
        obtain ⟨d, given, rfl⟩ := List.mem_map.mp letter
        have narrow := lower_ascii.mpr (ascii d given)
        rw [← here, UInt8.toNat_ofNat', Nat.mod_eq_of_lt (by omega)]
        exact narrow
      obtain ⟨matched, narrow, rfl⟩ := exists_text small
      rw [lowered_bytes narrow] at same
      have lists := congrArg String.toList (bytes_injective same)
      rw [String.toList_ofList, String.toList_ofList] at lists
      exact ⟨matched, lists, rfl⟩
    · rintro ⟨matched, alike, rfl⟩
      rw [lowered_bytes, alike]
      intro c member
      have letter := List.mem_map_of_mem (f := lower) member
      rw [alike] at letter
      obtain ⟨d, given, same⟩ := List.mem_map.mp letter
      rw [← lower_ascii, ← same, lower_ascii]
      exact ascii d given
  · simp only [plain, Bool.false_eq_true, if_false, Alike, decide_eq_true_eq, exists_eq_left, String.ofList_toList]
    exact eq_comm

theorem Alike.length {query matched} (alike : Alike query matched) : (bytes (String.ofList matched)).length = (bytes query).length := by
  have window := windowMatches_iff.mpr ⟨matched, alike, rfl⟩
  rw [windowMatches] at window
  split at window
  next =>
    have lengths := congrArg List.length (of_decide_eq_true window)
    simpa using lengths
  next => rw [of_decide_eq_true window]

theorem Alike.nonempty {query matched} (alike : Alike query matched) (some_ : query ≠ "") : matched ≠ [] := by
  rintro rfl
  have empty := alike.length
  rw [show bytes (String.ofList []) = [] from rfl, List.length_nil, length_bytes] at empty
  apply some_
  by_contra other
  have positive := size_pos (show query.toList ≠ [] from fun none => other (String.toList_eq_nil_iff.mp none))
  omega

theorem window_iff {content query} {index} (some_ : query ≠ "") :
    (index < (bytes content).length + 1 - (bytes query).length ∧
      windowMatches query (((bytes content).drop index).take (bytes query).length) = true) ↔
      ∃ before matched, MatchAt query content before matched ∧ size before = index := by
  constructor
  · intro ⟨inside, window⟩
    obtain ⟨matched, alike, encoded⟩ := windowMatches_iff.mp window
    obtain ⟨c, rest, rfl⟩ := List.exists_cons_of_ne_nil (alike.nonempty some_)
    obtain ⟨byte, more, start, first⟩ := @bytes_firstByte c rest
    have split : bytes content = (bytes content).take index ++
        (bytes (String.ofList (c :: rest)) ++ ((bytes content).drop index).drop (bytes query).length) := by
      rw [encoded, List.take_append_drop, List.take_append_drop]
    have cut := split
    rw [start, List.cons_append, ← String.ofList_toList (s := content)] at cut
    obtain ⟨before, back, text, front, behind⟩ := exists_split_of_firstByte first cut
    refine ⟨before, c :: rest, ⟨?_, alike⟩, ?_⟩
    · rw [text, List.prefix_append_right_inj]
      rw [← List.cons_append, ← start] at behind
      simpa using prefix_of_bytes behind.symm
    · rw [← String.toList_ofList (l := before), ← length_bytes, front, List.length_take, String.ofList_toList]
      omega
  · rintro ⟨before, matched, ⟨⟨after, text⟩, alike⟩, rfl⟩
    have same := congrArg String.ofList text
    rw [String.ofList_toList] at same
    have sizes : (bytes (String.ofList before)).length = size before := by rw [length_bytes, String.toList_ofList]
    have length := alike.length
    rw [← same, bytes_append, bytes_append, List.append_assoc, ← sizes, List.drop_left, ← length, List.take_left]
    refine ⟨?_, windowMatches_iff.mpr ⟨matched, alike, rfl⟩⟩
    simp only [List.length_append]
    omega

theorem matchStart_eq_some {content query} {index} (some_ : query ≠ "") :
    matchStart content query = some index ↔ ∃ before matched, FirstMatch query content before matched ∧ size before = index := by
  rw [matchStart, windowPosition, List.find?_range_eq_some, List.mem_range]
  constructor
  · intro ⟨window, inside, missing⟩
    obtain ⟨before, matched, here, rfl⟩ := (window_iff some_).mp ⟨inside, window⟩
    refine ⟨before, matched, ⟨here, ?_⟩, rfl⟩
    intro other matched' there
    by_contra earlier
    have found := ((window_iff some_).mpr ⟨other, matched', there, rfl⟩).2
    simpa [found] using missing (size other) (by omega)
  · rintro ⟨before, matched, first, rfl⟩
    obtain ⟨inside, window⟩ := (window_iff some_).mpr ⟨before, matched, first.toMatchAt, rfl⟩
    refine ⟨window, inside, ?_⟩
    intro index earlier
    rw [Bool.not_eq_true']
    apply Bool.eq_false_iff.mpr
    intro found
    obtain ⟨other, matched', there, same⟩ := (window_iff some_).mp ⟨earlier.trans inside, found⟩
    have least := first.earliest there
    omega

theorem matchStart_isSome {content query} (some_ : query ≠ "") :
    (matchStart content query).isSome = true ↔ ∃ before matched, MatchAt query content before matched := by
  rw [matchStart, windowPosition, List.find?_isSome]
  constructor
  · rintro ⟨index, inside, window⟩
    obtain ⟨before, matched, here, _⟩ := (window_iff some_).mp ⟨List.mem_range.mp inside, window⟩
    exact ⟨before, matched, here⟩
  · rintro ⟨before, matched, here⟩
    obtain ⟨inside, window⟩ := (window_iff some_).mpr ⟨before, matched, here, rfl⟩
    exact ⟨size before, List.mem_range.mpr inside, window⟩

/-! ### The window -/

theorem boundaryAbove_spec {text fuel n b} (boundary : isCharBoundary text b = true) (above : n ≤ b) (near : b ≤ n + fuel) :
    isCharBoundary text (boundaryAbove text fuel n) = true ∧ n ≤ boundaryAbove text fuel n ∧ boundaryAbove text fuel n ≤ b := by
  induction fuel generalizing n with
  | zero =>
    have same : n = b := by omega
    rw [boundaryAbove, same]
    exact ⟨boundary, Nat.le_refl _, Nat.le_refl _⟩
  | succ fuel ih =>
    rw [boundaryAbove]
    split
    next here => exact ⟨here, Nat.le_refl _, above⟩
    next other =>
      have later : n ≠ b := by
        rintro rfl
        exact other boundary
      obtain ⟨found, lower, upper⟩ := @ih (n + 1) (by omega) (by omega)
      exact ⟨found, by omega, upper⟩

theorem slice {text start stop} (opens : isCharBoundary text start = true) (closes : isCharBoundary text stop = true)
    (order : start ≤ stop) : ∃ front back, text = front ++ takeBytes (stop - start) (dropBytes start text) ++ back ∧
      size front = start ∧ size (takeBytes (stop - start) (dropBytes start text)) = stop - start := by
  have whole := takeBytes_append_dropBytes start text
  have before := size_takeBytes opens
  have inner : isCharBoundary (dropBytes start text) (stop - start) = true := by
    have shifted := isCharBoundary_append (takeBytes start text) (dropBytes start text) (stop - start)
    rw [whole, before, Nat.add_sub_cancel' order] at shifted
    rw [← shifted]
    exact closes
  refine ⟨takeBytes start text, dropBytes (stop - start) (dropBytes start text), ?_, before, size_takeBytes inner⟩
  rw [List.append_assoc, takeBytes_append_dropBytes, whole]

theorem excerptAround_spec {text before matched : List Char} (inside : before ++ matched <+: text) :
    size (excerptAround text (size before)) ≤ sessionSearchMaximumExcerptBytes ∧
      ∃ front back, text = front ++ excerptAround text (size before) ++ back ∧
        (size matched ≤ 384 → ∃ head tail, before = front ++ head ∧ excerptAround text (size before) = head ++ matched ++ tail) := by
  have starts : before <+: text := (List.prefix_append _ _).trans inside
  have first := isCharBoundary_of_prefix starts
  have last := isCharBoundary_of_prefix inside
  have whole : size (before ++ matched) ≤ size text := by
    obtain ⟨rest, rfl⟩ := inside
    rw [size_append _ rest]
    exact Nat.le_add_right _ _
  rw [size_append] at last whole
  rw [excerptAround]
  obtain ⟨opens, lower, upper⟩ := @boundaryAbove_spec text (size text) (size before - 128) _ first (by omega) (by omega)
  generalize boundaryAbove text (size text) (size before - 128) = start at opens lower upper ⊢
  have closes := isCharBoundary_boundaryBelow text (min (start + sessionSearchMaximumExcerptBytes) (size text))
  have bounded := boundaryBelow_le text (min (start + sessionSearchMaximumExcerptBytes) (size text))
  have least {b} (boundary : isCharBoundary text b = true) :=
    @le_boundaryBelow text (min (start + sessionSearchMaximumExcerptBytes) (size text)) b boundary
  generalize boundaryBelow text (min (start + sessionSearchMaximumExcerptBytes) (size text)) = stop at closes bounded least ⊢
  have order : start ≤ stop := least opens (by omega)
  obtain ⟨front, back, cut, frontSize, length⟩ := slice opens closes order
  generalize takeBytes (stop - start) (dropBytes start text) = excerpt at cut length ⊢
  refine ⟨by omega, front, back, cut, ?_⟩
  intro small
  have reaches : size before + size matched ≤ stop := by
    apply least last
    rw [sessionSearchMaximumExcerptBytes]
    omega
  obtain ⟨head, rfl⟩ : front <+: before := by
    apply prefix_of_size_le _ starts (by omega)
    rw [cut, List.append_assoc]
    exact List.prefix_append _ _
  obtain ⟨tail, rest⟩ : front ++ head ++ matched <+: front ++ excerpt := by
    apply prefix_of_size_le inside
    · rw [cut]
      exact List.prefix_append _ _
    · rw [size_append, size_append _ excerpt]
      omega
  refine ⟨head, tail, rfl, ?_⟩
  rw [List.append_assoc, List.append_assoc, List.append_cancel_left_eq] at rest
  rw [← rest, List.append_assoc]

theorem Alike.size {query matched} (alike : Alike query matched) : Utf8Text.size matched = query.utf8ByteSize := by
  rw [← length_bytes_eq, ← alike.length, length_bytes, String.toList_ofList]

theorem sessionSearchExcerpt_eq {content query} (some_ : query ≠ "") : sessionSearchExcerpt content query =
    (matchStart content query).map fun first => String.ofList (excerptAround content.toList first) := by
  simp only [sessionSearchExcerpt, some_, if_false]
  cases matchStart content query <;> rfl

theorem sessionSearchExcerpt_empty (content) : sessionSearchExcerpt content "" = none := by
  simp [sessionSearchExcerpt]

/-- A query is found exactly where it occurs, and its excerpt is a part of the text, cut between
characters, around the first match. -/
theorem search_excerpt (content query : String) :
    ((sessionSearchExcerpt content query).isSome = true ↔ query ≠ "" ∧ ∃ before matched, MatchAt query content before matched) ∧
      ∀ excerpt, sessionSearchExcerpt content query = some excerpt →
        excerpt.utf8ByteSize ≤ sessionSearchMaximumExcerptBytes ∧
        ∃ front back before matched, content.toList = front ++ excerpt.toList ++ back ∧ FirstMatch query content before matched ∧
          (query.utf8ByteSize ≤ 384 → ∃ head tail, before = front ++ head ∧ excerpt.toList = head ++ matched ++ tail) := by
  by_cases empty : query = ""
  · subst empty
    rw [sessionSearchExcerpt_empty]
    simp
  rw [sessionSearchExcerpt_eq empty]
  constructor
  · rw [Option.isSome_map, matchStart_isSome empty]
    exact (and_iff_right empty).symm
  · intro excerpt found
    obtain ⟨_, start, rfl⟩ := Option.map_eq_some_iff.mp found
    obtain ⟨before, matched, first, rfl⟩ := (matchStart_eq_some empty).mp start
    obtain ⟨bounded, front, back, cut, contained⟩ := excerptAround_spec first.inside
    rw [first.alike.size] at contained
    rw [← length_bytes_eq, length_bytes, String.toList_ofList]
    exact ⟨bounded, front, back, before, matched, cut, first, contained⟩

/-! ### The search by characters -/

theorem matchesHead_iff {query} {text : List Char} :
    matchesHead query text = true ↔ ∃ matched, Alike query matched ∧ matched <+: text := by
  rw [matchesHead]
  by_cases plain : isAscii query = true
  · simp only [plain, if_true, Alike, List.isPrefixOf_iff_prefix]
    constructor
    · intro start
      rw [List.prefix_iff_eq_take, List.length_map, ← List.map_take] at start
      exact ⟨_, start.symm, List.take_prefix _ _⟩
    · rintro ⟨matched, alike, start⟩
      rw [← alike]
      exact start.map lower
  · simp [plain, Alike, List.isPrefixOf_iff_prefix]

theorem MatchAt.head {query content before matched} (here : MatchAt query content before matched) :
    matchesHead query (content.toList.drop before.length) = true := by
  obtain ⟨⟨rest, text⟩, alike⟩ := here
  rw [← text, List.append_assoc, List.drop_left]
  exact matchesHead_iff.mpr ⟨matched, alike, List.prefix_append _ _⟩

theorem matchStart_eq_find {content query} (some_ : query ≠ "") : matchStart content query =
    ((List.range (content.toList.length + 1)).find? fun index => matchesHead query (content.toList.drop index)).map
      fun index => size (content.toList.take index) := by
  cases found : (List.range (content.toList.length + 1)).find? fun index => matchesHead query (content.toList.drop index) with
  | none =>
    rw [Option.map_none, ← Option.not_isSome_iff_eq_none, matchStart_isSome some_]
    rintro ⟨before, matched, here⟩
    have inside := ((List.prefix_append before matched).trans here.inside).length_le
    have missing := List.find?_range_eq_none.mp found before.length (by omega)
    simp [here.head] at missing
  | some index =>
    obtain ⟨head, _, missing⟩ := List.find?_range_eq_some.mp found
    obtain ⟨matched, alike, start⟩ := matchesHead_iff.mp head
    refine (matchStart_eq_some some_).mpr ⟨content.toList.take index, matched, ⟨⟨?_, alike⟩, ?_⟩, rfl⟩
    · conv => rhs; rw [← List.take_append_drop index content.toList]
      exact (List.prefix_append_right_inj _).mpr start
    · intro other matched' there
      have later : index ≤ other.length := by
        by_contra earlier
        have absent := missing other.length (by omega)
        simp [there.head] at absent
      have starts := (List.prefix_append other matched').trans there.inside
      obtain ⟨rest, longer⟩ := List.prefix_of_prefix_length_le (List.take_prefix index content.toList) starts
        ((List.length_take_le index content.toList).trans later)
      rw [← longer, size_append]
      exact Nat.le_add_right _ _

/-- The search by characters finds the same excerpt. -/
theorem sessionSearchExcerpt_by_characters (content query : String) :
    sessionSearchExcerpt content query = Context.sessionSearchExcerpt content query := by
  by_cases empty : query = ""
  · subst empty
    simp [sessionSearchExcerpt, Context.sessionSearchExcerpt]
  · rw [sessionSearchExcerpt_eq empty, matchStart_eq_find empty]
    simp only [Context.sessionSearchExcerpt, empty, if_false]
    cases List.find? (fun index => matchesHead query (content.toList.drop index)) (List.range (content.toList.length + 1)) <;> rfl

end Mealy.Timeline
