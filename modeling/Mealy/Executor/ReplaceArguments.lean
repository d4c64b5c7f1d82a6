import Mealy.Executor.Sizes

/-! The arguments of an approved edit (`workspace_create.rs`). New content is bounded in
characters, so that its escapes fit the executor's bound; exact replacements are bounded in
raw bytes, which their escapes can exceed. -/

namespace Mealy.Executor
open Transaction Json Memories

inductive WorkspaceReplaceArgumentError where
  | expectedObject | invalidShape | invalidOperation | invalidWorkspaceId | invalidRelativePath
  | invalidExpectedCurrentDigest | invalidContent | invalidReplacements

def isPathCharacter (c : Char) : Bool := c.isAlphanum || c = '.' || c = '_' || c = '-'

def canonicalWorkspaceId (value : String) : Bool :=
  value ≠ "" ∧ value.utf8ByteSize ≤ 128 ∧ value.toList.head? ≠ some '.' ∧ value.toList.all isPathCharacter

def canonicalRelativePath (value : String) : Bool :=
  value ≠ "" ∧ value.utf8ByteSize ≤ 256 ∧ (value.toList.splitOn '/').all fun segment =>
    segment ≠ [] ∧ segment ≠ ['.'] ∧ segment ≠ ['.', '.'] ∧ segment.all isPathCharacter

def fieldCount : Value → Nat
  | .object fields => fields.length
  | _ => 0

def maximumContentBytes : Nat := 48 * 1024

def textField (object : Value) (key : String) (check : String → Bool) : Option String :=
  ((object.field key).bind Value.asString).filter check

def normalizeExactReplacement (replacement : Value) (totalBytes : Nat) :
    Except WorkspaceReplaceArgumentError (Value × Nat) := do
  ensure (fieldCount replacement = 3 ∧
    ["expectedOccurrences", "newText", "oldText"].all fun key => (replacement.field key).isSome) .invalidReplacements
  let oldText ← require (textField replacement "oldText" fun value => value ≠ "" ∧ value.toList.length ≤ 8 * 1024)
    .invalidReplacements
  let newText ← require (textField replacement "newText" fun value => value.toList.length ≤ 8 * 1024) .invalidReplacements
  let expectedOccurrences ← require (((replacement.field "expectedOccurrences").bind Value.asU64).filter fun value =>
    1 ≤ value ∧ value ≤ 32) .invalidReplacements
  let totalBytes := totalBytes + oldText.utf8ByteSize + newText.utf8ByteSize
  ensure (totalBytes ≤ maximumContentBytes) .invalidReplacements
  pure (.object [("expectedOccurrences", .nat expectedOccurrences), ("newText", .string newText),
    ("oldText", .string oldText)], totalBytes)

def normalizeEach : List Value → Nat → Except WorkspaceReplaceArgumentError (List Value)
  | [], _ => pure []
  | replacement :: rest, totalBytes => do
    let (normalized, totalBytes) ← normalizeExactReplacement replacement totalBytes
    let others ← normalizeEach rest totalBytes
    pure (normalized :: others)

def normalizeExactReplacements (replacements : Value) : Except WorkspaceReplaceArgumentError (List Value) := do
  let items ← require (replacements.asArray.filter fun items => items ≠ [] ∧ items.length ≤ 16) .invalidReplacements
  normalizeEach items 0

def normalizeWorkspaceReplaceFileArguments (arguments : Value) : Except WorkspaceReplaceArgumentError Value := do
  ensure arguments.isObject .expectedObject
  ensure (fieldCount arguments = 5 ∧
    (["expectedCurrentDigest", "operation", "relativePath", "workspaceId"].all fun key => (arguments.field key).isSome) ∧
    (arguments.field "content").isSome ≠ (arguments.field "replacements").isSome) .invalidShape
  ensure ((arguments.field "operation").bind Value.asString = some "replace_file") .invalidOperation
  let workspaceId ← require (textField arguments "workspaceId" canonicalWorkspaceId) .invalidWorkspaceId
  let relativePath ← require (textField arguments "relativePath" canonicalRelativePath) .invalidRelativePath
  let expectedCurrentDigest ← require (textField arguments "expectedCurrentDigest" isSha256Digest)
    .invalidExpectedCurrentDigest
  match arguments.field "content" with
  | some content =>
    let content ← require (content.asString.filter fun value =>
      value.toList.length ≤ 8 * 1024 ∧ value.utf8ByteSize ≤ maximumContentBytes) .invalidContent
    pure (.object [("content", .string content), ("expectedCurrentDigest", .string expectedCurrentDigest),
      ("operation", .string "replace_file"), ("relativePath", .string relativePath), ("workspaceId", .string workspaceId)])
  | none =>
    let replacements ← require (arguments.field "replacements") .invalidReplacements
    let normalized ← normalizeExactReplacements replacements
    pure (.object [("expectedCurrentDigest", .string expectedCurrentDigest), ("operation", .string "replace_file"),
      ("relativePath", .string relativePath), ("replacements", .array normalized), ("workspaceId", .string workspaceId)])

/-! ### Sizes -/

/-- The escaped text of a field, zero where it has none. -/
def textBytes (object : Value) (key : String) : Nat := (((object.field key).bind Value.asString).map quotedSize).getD 0

def replacementBytes (replacement : Value) : Nat :=
  textBytes replacement "oldText" + textBytes replacement "newText" +
    (((replacement.field "expectedOccurrences").bind Value.asU64).map fun n => (Value.nat n).size).getD 0

/-- The bytes of an edit by replacements, forty-seven for each of them beside its own. -/
def editBytes (arguments : Value) : Nat :=
  textBytes arguments "workspaceId" + textBytes arguments "relativePath" +
    ((((arguments.field "replacements").bind Value.asArray).getD []).map fun item => replacementBytes item + 47).sum

theorem textField_bytes {object key text check}
    (found : textField object key check = some text) : textBytes object key = quotedSize text := by
  simp only [textField, Option.filter_eq_some_iff] at found
  rw [textBytes, found.1]
  rfl

theorem quotedSize_bounded {text bytes} (short : text.utf8ByteSize ≤ bytes) :
    quotedSize text ≤ 6 * bytes + 2 := by
  have characters := length_le_utf8ByteSize text
  have escaped := quotedSize_le text
  omega

theorem normalizeEach_size {items normalized totalBytes} (done : normalizeEach items totalBytes = .ok normalized) :
    (normalized.map fun v => v.size + 1).sum = (items.map fun item => replacementBytes item + 47).sum := by
  induction items generalizing totalBytes normalized with
  | nil =>
    cases done
    rfl
  | cons item items ih =>
    simp only [normalizeEach, normalizeExactReplacement, eq_ok, Prod.exists, Prod.mk.injEq] at done
    obtain ⟨value, total, ⟨_, _, old, oldFound, new, newFound, count, countFound, _, _, rfl, rfl⟩, others, rest, rfl⟩ := done
    rw [List.map_cons, List.sum_cons, ih rest, List.map_cons, List.sum_cons,
      size_object_of_keys 45 (by simp) (by simp only [List.map_cons, List.map_nil]; decide +kernel), replacementBytes,
      textField_bytes oldFound, textField_bytes newFound, (Option.filter_eq_some_iff.mp countFound).1]
    simp only [List.map_cons, List.map_nil, List.sum_cons, List.sum_nil, size_string, Option.map_some, Option.getD_some]
    omega

theorem normalized_size {arguments normalized}
    (accepted : normalizeWorkspaceReplaceFileArguments arguments = .ok normalized) :
    if (arguments.field "content").isSome then normalized.size ≤ maximumArgumentBytes
    else normalized.size = 167 + editBytes arguments := by
  have operation : quotedSize "replace_file" = 14 := by decide +kernel
  simp only [normalizeWorkspaceReplaceFileArguments, eq_ok] at accepted
  obtain ⟨_, _, _, _, _, _, workspaceId, workspace, relativePath, path, digest, current, accepted⟩ := accepted
  have hex := quotedSize_digest (Option.filter_eq_some_iff.mp current).2
  rcases given : arguments.field "content" with _ | content
  · simp only [given, normalizeExactReplacements, eq_ok] at accepted
    obtain ⟨replacements, found, edits, ⟨items, listed, each⟩, rfl⟩ := accepted
    have array := (Option.filter_eq_some_iff.mp listed).1
    have some_ : edits ≠ [] := by
      obtain ⟨item, rest, rfl⟩ := List.exists_cons_of_ne_nil (of_decide_eq_true (Option.filter_eq_some_iff.mp listed).2).1
      simp only [normalizeEach, eq_ok] at each
      obtain ⟨_, _, _, _, rfl⟩ := each
      exact List.cons_ne_nil _ _
    rw [if_neg (by simp), size_object_of_keys 85 (by simp) (by simp only [List.map_cons, List.map_nil]; decide +kernel), editBytes,
      textField_bytes workspace, textField_bytes path, found]
    simp only [List.map_cons, List.map_nil, List.sum_cons, List.sum_nil, size_string, size_array some_, normalizeEach_size each,
      operation, hex, Option.bind_some, array, Option.getD_some]
    omega
  · simp only [given, eq_ok] at accepted
    obtain ⟨text, shown, rfl⟩ := accepted
    have short := of_decide_eq_true (Option.filter_eq_some_iff.mp shown).2
    have escaped := quotedSize_le text
    have workspaceBytes : quotedSize workspaceId ≤ 6 * 128 + 2 := by
      have valid := (Option.filter_eq_some_iff.mp workspace).2
      simp only [canonicalWorkspaceId, decide_eq_true_eq] at valid
      exact quotedSize_bounded valid.2.1
    have pathBytes : quotedSize relativePath ≤ 6 * 256 + 2 := by
      have valid := (Option.filter_eq_some_iff.mp path).2
      simp only [canonicalRelativePath, decide_eq_true_eq] at valid
      exact quotedSize_bounded valid.2.1
    rw [if_pos (by simp), size_object_of_keys 80 (by simp) (by simp only [List.map_cons, List.map_nil]; decide +kernel)]
    simp only [List.map_cons, List.map_nil, List.sum_cons, List.sum_nil, size_string, operation, hex, maximumArgumentBytes]
    omega

/-- An accepted edit can be dispatched and stored exactly if it gives new content, or the
escaped text of its replacements leaves room for the rest of the arguments. -/
theorem accepted_edit_dispatchable (arguments normalized : Value)
    (accepted : normalizeWorkspaceReplaceFileArguments arguments = .ok normalized) :
    (normalized.size ≤ maximumArgumentBytes ↔
      (arguments.field "content").isSome = true ∨ editBytes arguments ≤ maximumArgumentBytes - 167) ∧
    (normalized.size ≤ maximumArgumentBytes → normalized.render.toList.length ≤ 65536) := by
  have size := normalized_size accepted
  constructor
  · split at size
    next content => simp [content, size]
    next edits =>
      rw [size]
      simp only [edits, Bool.false_eq_true, false_or, maximumArgumentBytes]
      omega
  · intro fits
    exact (length_le_utf8ByteSize _).trans fits

/-- An edit that replaces an "x" by the same text several times. -/
def repeatedEdit (edits : Nat) (newText : String) : Value :=
  .object [("expectedCurrentDigest", .string (String.ofList (List.replicate 64 'a'))), ("operation", .string "replace_file"),
    ("relativePath", .string "notes.txt"),
    ("replacements", .array (List.replicate edits (.object [("expectedOccurrences", .number "1"),
      ("newText", .string newText), ("oldText", .string "x")]))),
    ("workspaceId", .string "main")]

theorem accepted_edit_dispatchable_small :
    ∃ normalized, normalizeWorkspaceReplaceFileArguments (repeatedEdit 1 "y") = .ok normalized ∧
      normalized.size ≤ maximumArgumentBytes := by
  refine ⟨_, rfl, (accepted_edit_dispatchable (repeatedEdit 1 "y") _ rfl).1.mpr (.inr ?_)⟩
  decide +kernel

theorem normalizeEach_repeated {newText} (characters : newText.toList.length ≤ 8 * 1024) {edits totalBytes}
    (bytes : totalBytes + edits * (1 + newText.utf8ByteSize) ≤ maximumContentBytes) :
    ∃ normalized, normalizeEach (List.replicate edits (.object [("expectedOccurrences", .number "1"),
      ("newText", .string newText), ("oldText", .string "x")])) totalBytes = .ok normalized := by
  induction edits generalizing totalBytes with
  | zero => exact ⟨[], rfl⟩
  | succ edits ih =>
    rw [Nat.succ_mul] at bytes
    obtain ⟨others, rest⟩ := ih (show totalBytes + 1 + newText.utf8ByteSize + edits * (1 + newText.utf8ByteSize) ≤ _ by omega)
    have within_ : totalBytes + 1 + newText.utf8ByteSize ≤ maximumContentBytes := by omega
    have first : normalizeExactReplacement (.object [("expectedOccurrences", .number "1"), ("newText", .string newText),
        ("oldText", .string "x")]) totalBytes = .ok (.object [("expectedOccurrences", .nat 1), ("newText", .string newText),
        ("oldText", .string "x")], totalBytes + 1 + newText.utf8ByteSize) := by
      have short : textField (.object [("expectedOccurrences", .number "1"), ("newText", .string newText),
          ("oldText", .string "x")]) "newText" (fun value => value.toList.length ≤ 8 * 1024) = some newText :=
        Option.filter_eq_some_iff.mpr ⟨rfl, decide_eq_true characters⟩
      simp only [normalizeExactReplacement, eq_ok]
      exact ⟨(), ⟨rfl, rfl⟩, "x", rfl, newText, short, 1, rfl, (), within_, rfl⟩
    rw [List.replicate_succ, normalizeEach, first]
    exact ⟨_, bind_eq_ok.mpr ⟨_, rfl, bind_eq_ok.mpr ⟨others, rest, rfl⟩⟩⟩

/-- Five replacements by 8192 line breaks are accepted, and their escapes exceed 64 KiB. -/
theorem line_breaks_undispatchable :
    ∃ arguments normalized, normalizeWorkspaceReplaceFileArguments arguments = .ok normalized ∧
      maximumArgumentBytes < normalized.size := by
  obtain ⟨text, characters, bytes, escaped⟩ : ∃ text : String,
      text.toList.length = 8192 ∧ text.utf8ByteSize = 8192 ∧ quotedSize text = 16386 :=
    ⟨String.ofList (List.replicate 8192 '\n'), by rw [String.toList_ofList, List.length_replicate],
      by rw [utf8ByteSize_replicate]; decide +kernel, by rw [quotedSize_replicate]; decide +kernel⟩
  obtain ⟨edits, each⟩ := normalizeEach_repeated (by omega) (show 0 + 5 * (1 + text.utf8ByteSize) ≤ _ by rw [bytes]; decide)
  have accepted : ∃ normalized, normalizeWorkspaceReplaceFileArguments (repeatedEdit 5 text) = .ok normalized := by
    have shown : (repeatedEdit 5 text).field "content" = none := rfl
    simp only [normalizeWorkspaceReplaceFileArguments, normalizeExactReplacements, eq_ok, shown]
    exact ⟨_, (), rfl, (), ⟨rfl, rfl, Bool.false_ne_true⟩, (), rfl, "main", rfl, "notes.txt", rfl, _, rfl, _, rfl, edits,
      ⟨_, rfl, each⟩, rfl⟩
  obtain ⟨normalized, accepted⟩ := accepted
  refine ⟨_, normalized, accepted, ?_⟩
  have size := normalized_size accepted
  have shown : (repeatedEdit 5 text).field "content" = none := rfl
  rw [if_neg (by simp [shown])] at size
  have listed : editBytes (repeatedEdit 5 text) = quotedSize "main" + quotedSize "notes.txt" +
      (List.replicate 5 (quotedSize "x" + quotedSize text + (Value.nat 1).size + 47)).sum := rfl
  rw [size, listed, List.sum_replicate_nat, escaped, maximumArgumentBytes]
  omega

end Mealy.Executor
