import Mealy.Executor.ReplaceArguments
import Mealy.Lib.ExactText

/-! The edit of one file in the worker (`replace_file` in `mealy-fixture-worker.rs`). The new
text is written to a private staging file, which is renamed to the target. The renamed file
brings the mode of the staging file with it. -/

namespace Mealy.Executor
open Relational Transaction Json Memories ExactText

structure WorkspaceFile where
  content : ByteArray
  mode : Nat
  regular : Bool

/-- The files below the writable root by their paths. -/
abbrev Workspace := Table String WorkspaceFile

/-- Which system calls of one edit succeed, the umask of the worker and the error of its
output stream. -/
structure SystemCalls where
  (openRoot openTarget readTarget createStaging writeStaging reopenTarget rereadTarget renameStaging : Bool)
  (syncRoot unlinkStaging : Bool)
  reportError : Option String
  umask : Nat

/-- An edit that does not succeed ends without a terminal frame or with a failed one. -/
inductive WorkerFailure where
  | rejected (error : String)
  | failed (errorClass errorMessage : String)

inductive ExistingFileError where
  | pathDenied | readFailed

def ExistingFileError.failure : ExistingFileError → WorkerFailure
  | .pathDenied => .failed "path_denied" "target is absent, non-regular, oversized, or crosses a symlink"
  | .readFailed => .failed "target_read_failed" "target content could not be read completely"

def maximumFixtureContentBytes : Nat := 1024 * 1024
def maximumReplacedFileBytes : Nat := 128 * 1024

def validRelativeFilePath (relative : String) : Bool :=
  relative ≠ "" ∧ relative.utf8ByteSize ≤ 1024 ∧ (relative.toList.splitOn '/').head? ≠ some ['.'] ∧
    (relative.toList.splitOn '/').all fun part => part ≠ [] ∧ part ≠ ['.', '.']

def secureExistingFileContent (opened complete : Bool) (relative : String) (files : Workspace) :
    Except ExistingFileError ByteArray := do
  let file ← require ((files.get relative).filter fun _ => opened) .pathDenied
  ensure (file.regular ∧ file.content.size ≤ maximumReplacedFileBytes) .pathDenied
  ensure complete .readFailed
  pure file.content

def applyReplacement (content : String) (replacement : Value) : Except WorkerFailure String := do
  ensure (replacement.isObject ∧ fieldCount replacement = 3)
    (.failed "invalid_replacements" "exact-text replacement shape is invalid")
  let oldText ← require ((replacement.field "oldText").bind Value.asString)
    (.failed "invalid_replacements" "exact-text replacement old text is invalid")
  let newText ← require ((replacement.field "newText").bind Value.asString)
    (.failed "invalid_replacements" "exact-text replacement new text is invalid")
  let expectedOccurrences ← require (((replacement.field "expectedOccurrences").bind Value.asU64).filter fun value =>
    1 ≤ value ∧ value ≤ 32) (.failed "invalid_replacements" "exact-text replacement occurrence bound is invalid")
  ensure (oldText ≠ "" ∧ oldText.toList.length ≤ 8 * 1024 ∧ newText.toList.length ≤ 8 * 1024)
    (.failed "invalid_replacements" "exact-text replacement text is invalid")
  ensure (matchCount oldText.toList 0 content.toList = expectedOccurrences)
    (.failed "patch_precondition_mismatch" "exact old text occurrence count changed")
  let content := String.ofList (replaceFrom oldText.toList newText.toList 0 content.toList)
  ensure (content.utf8ByteSize ≤ maximumFixtureContentBytes ∧ content.utf8ByteSize ≤ maximumReplacedFileBytes)
    (.failed "content_too_large" "patched content exceeds its worker bound")
  pure content

def patchedContent (hash : ByteDigest) (calls : SystemCalls) (relative expectedCurrentDigest : String)
    (replacements : List Value) (files : Workspace) : Except WorkerFailure String := do
  ensure (replacements ≠ [] ∧ replacements.length ≤ 16)
    (.failed "invalid_replacements" "exact-text replacement count is invalid")
  let current ← (secureExistingFileContent calls.openTarget calls.readTarget relative files).mapError
    ExistingFileError.failure
  ensure (hash.digest current = expectedCurrentDigest)
    (.failed "precondition_mismatch" "target content changed after evidence was collected")
  let content ← require (String.fromUTF8? current)
    (.failed "patch_target_not_utf8" "exact-text replacements require a UTF-8 target")
  replacements.foldlM applyReplacement content

def plannedContent (hash : ByteDigest) (calls : SystemCalls) (request : ExecutorRequest) (files : Workspace) :
    Except WorkerFailure (String × String × String) := do
  ensure (request.writableRoots ≠ []) (.failed "workspace_not_writable" "request has no writable sandbox root")
  let relative ← require ((request.normalizedArguments.field "relativePath").bind Value.asString)
    (.rejected "relativePath must be a string")
  let expectedCurrentDigest ← require ((request.normalizedArguments.field "expectedCurrentDigest").bind Value.asString)
    (.rejected "expectedCurrentDigest must be a string")
  let directContent := (request.normalizedArguments.field "content").bind Value.asString
  let replacements := (request.normalizedArguments.field "replacements").bind Value.asArray
  ensure (directContent.isSome ≠ replacements.isSome)
    (.failed "invalid_edit_shape" "replacement requires exactly one of content or replacements")
  ensure (isSha256Digest expectedCurrentDigest)
    (.failed "invalid_precondition" "expected current-content digest is malformed")
  ensure calls.openRoot (.failed "path_denied" "workspace root is unavailable or redirected")
  ensure (validRelativeFilePath relative) (.failed "path_denied" "target path is non-canonical")
  let content ← match directContent with
    | some content => pure content
    | none => patchedContent hash calls relative expectedCurrentDigest (replacements.getD []) files
  ensure (content.utf8ByteSize ≤ maximumFixtureContentBytes ∧ content.utf8ByteSize ≤ maximumReplacedFileBytes)
    (.failed "content_too_large" "replacement content exceeds its worker bound")
  pure (relative, expectedCurrentDigest, content)

def stagingName (request : ExecutorRequest) : String :=
  ".mealy-replace-" ++ uuidText request.effectId.id ++ "-" ++ uuidText request.attemptId.id ++ ".tmp"

def stagingMode (umask : Nat) : Nat := 0o600 - (0o600 &&& umask)

/-- `write_frame` of a terminal. -/
def SystemCalls.report (calls : SystemCalls) (terminal : Except WorkerFailure Value) : Except WorkerFailure Value :=
  match calls.reportError with
  | some error => .error (.rejected error)
  | none => terminal

def stagedDigest (hash : ByteDigest) (calls : SystemCalls) (relative expectedCurrentDigest : String) (staged : Workspace) :
    Except WorkerFailure String := do
  ensure calls.writeStaging (.failed "staging_write_failed" "replacement staging file could not be synchronized")
  let current ← (secureExistingFileContent calls.reopenTarget calls.rereadTarget relative staged).mapError
    ExistingFileError.failure
  ensure (hash.digest current = expectedCurrentDigest)
    (.failed "precondition_mismatch" "target content changed after evidence was collected")
  ensure calls.renameStaging (.failed "replace_failed" "atomic replacement could not be committed")
  pure (hash.digest current)

def replaceFile (hash : ByteDigest) (calls : SystemCalls) (request : ExecutorRequest) (files : Workspace) :
    Workspace × Except WorkerFailure Value :=
  match plannedContent hash calls request files with
  | .error (.rejected error) => (files, .error (.rejected error))
  | .error failure => (files, calls.report (.error failure))
  | .ok (relative, expectedCurrentDigest, content) =>
    if calls.createStaging = false ∨ (files.get (stagingName request)).isSome then
      (files, calls.report (.error
        (.failed "staging_unavailable" "exclusive replacement staging file could not be created")))
    else
      let replacement : WorkspaceFile := ⟨content.toUTF8, stagingMode calls.umask, true⟩
      let staged := files.put (stagingName request) replacement
      match stagedDigest hash calls relative expectedCurrentDigest staged with
      | .error failure =>
        (if calls.unlinkStaging then staged.erase (stagingName request) else staged, calls.report (.error failure))
      | .ok currentDigest =>
        let renamed := (staged.erase (stagingName request)).put relative replacement
        (renamed,
          if calls.syncRoot then
            calls.report (.ok (.object [("bytesWritten", .nat content.utf8ByteSize),
              ("contentDigest", .string (hash.digest content.toUTF8)), ("previousContentDigest", .string currentDigest),
              ("relativePath", .string relative)]))
          else .error (.rejected "replacement directory synchronization failed"))

/-! ### What an edit means -/

structure ExactReplacement where
  (oldText newText : String)
  expectedOccurrences : Nat
  oldBounded : oldText ≠ "" ∧ oldText.toList.length ≤ 8 * 1024
  newBounded : newText.toList.length ≤ 8 * 1024
  occurrencesBounded : 1 ≤ expectedOccurrences ∧ expectedOccurrences ≤ 32

def ExactReplacement.toJson (edit : ExactReplacement) : Value :=
  .object [("expectedOccurrences", .nat edit.expectedOccurrences), ("newText", .string edit.newText),
    ("oldText", .string edit.oldText)]

structure FileEdit where
  (workspaceId relativePath expectedDigest : String)
  replacements : List ExactReplacement
  some_ : replacements ≠ []
  few : replacements.length ≤ 16
  path : validRelativeFilePath relativePath = true

def FileEdit.arguments (edit : FileEdit) : Value :=
  .object [("expectedCurrentDigest", .string edit.expectedDigest), ("operation", .string "replace_file"),
    ("relativePath", .string edit.relativePath), ("replacements", .array (edit.replacements.map ExactReplacement.toJson)),
    ("workspaceId", .string edit.workspaceId)]

structure FileEdit.Requested (edit : FileEdit) (request : ExecutorRequest) (files : Workspace) (file : WorkspaceFile) :
    Prop where
  root : request.writableRoots ≠ []
  arguments : request.normalizedArguments = edit.arguments
  found : files.get edit.relativePath = some file
  regular : file.regular = true

/-- No call fails. The removal of a staging file is not among them: its result is ignored. -/
structure SystemCalls.Succeed (calls : SystemCalls) : Prop where
  openRoot : calls.openRoot = true
  openTarget : calls.openTarget = true
  readTarget : calls.readTarget = true
  createStaging : calls.createStaging = true
  writeStaging : calls.writeStaging = true
  reopenTarget : calls.reopenTarget = true
  rereadTarget : calls.rereadTarget = true
  renameStaging : calls.renameStaging = true
  syncRoot : calls.syncRoot = true
  reported : calls.reportError = none

/-- Each replacement finds its text as often as it declares in what the ones before it left,
and every text on the way is within the bound. -/
inductive Edited : List ExactReplacement → String → String → Prop where
  | done {text} (bounded : text.utf8ByteSize ≤ maximumReplacedFileBytes) : Edited [] text text
  | next {edit edits text middle final}
      (bounded : text.utf8ByteSize ≤ maximumReplacedFileBytes)
      (replaced : Replaced edit.oldText.toList edit.newText.toList text.toList edit.expectedOccurrences middle.toList)
      (rest : Edited edits middle final) : Edited (edit :: edits) text final

def EditsTo (hash : ByteDigest) (edit : FileEdit) (file : WorkspaceFile) (final : String) : Prop :=
  hash.digest file.content = edit.expectedDigest ∧
    ∃ text, String.fromUTF8? file.content = some text ∧ Edited edit.replacements text final

/-- An edit is exact: it succeeds if the replacements apply, and then only the content changes;
otherwise nothing does. -/
structure ExactEdit (hash : ByteDigest) (edit : FileEdit) (file : WorkspaceFile) (files files' : Workspace)
    (outcome : Except WorkerFailure Value) : Prop where
  succeeds : (∃ output, outcome = .ok output) ↔ ∃ final, EditsTo hash edit file final
  written : ∀ output, outcome = .ok output → ∃ final, EditsTo hash edit file final ∧
    files'.get edit.relativePath = some { file with content := final.toUTF8 } ∧
    output.field "contentDigest" = some (.string (hash.digest final.toUTF8))
  unchanged : (∀ output, outcome ≠ .ok output) → files'.get edit.relativePath = files.get edit.relativePath

/-! ### Stages of an edit -/

section Edit
variable {hash : ByteDigest} {calls : SystemCalls} {request : ExecutorRequest} {files : Workspace} {file : WorkspaceFile}
  {edit : FileEdit} {edits : List ExactReplacement}

theorem applyReplacement_ok {edit : ExactReplacement} {text middle : String} :
    applyReplacement text edit.toJson = .ok middle ↔
      Replaced edit.oldText.toList edit.newText.toList text.toList edit.expectedOccurrences middle.toList ∧
        middle.utf8ByteSize ≤ maximumReplacedFileBytes := by
  have some_ : edit.oldText.toList ≠ [] := fun empty => edit.oldBounded.1 (String.toList_eq_nil_iff.mp empty)
  have number : ∀ n, n ≤ 32 → Value.asU64 (.nat n) = some n := by decide +kernel
  have counted : ((edit.toJson.field "expectedOccurrences").bind Value.asU64).filter (fun value => 1 ≤ value ∧ value ≤ 32) =
      some edit.expectedOccurrences :=
    Option.filter_eq_some_iff.mpr ⟨number _ edit.occurrencesBounded.2, decide_eq_true edit.occurrencesBounded⟩
  have old : (edit.toJson.field "oldText").bind Value.asString = some edit.oldText := rfl
  have new : (edit.toJson.field "newText").bind Value.asString = some edit.newText := rfl
  rw [replaced_iff some_]
  simp only [applyReplacement, eq_ok, old, new, counted, Option.some.injEq, exists_eq_left', exists_const]
  constructor
  · rintro ⟨_, _, count, ⟨_, bounded⟩, rfl⟩
    exact ⟨⟨count, String.toList_ofList.symm⟩, bounded⟩
  · rintro ⟨⟨count, replaced⟩, bounded⟩
    have shown : String.ofList (replaceFrom edit.oldText.toList edit.newText.toList 0 text.toList) = middle := by
      rw [replaced, String.ofList_toList]
    rw [shown]
    exact ⟨⟨rfl, rfl⟩, ⟨edit.oldBounded.1, edit.oldBounded.2, edit.newBounded⟩, count, ⟨bounded.trans (by decide), bounded⟩, rfl⟩

theorem Edited.bounded {text final} (edited : Edited edits text final) :
    final.utf8ByteSize ≤ maximumReplacedFileBytes := by
  induction edited with
  | done bounded => exact bounded
  | next _ _ _ ih => exact ih

theorem Edited.start {text final} (edited : Edited edits text final) :
    text.utf8ByteSize ≤ maximumReplacedFileBytes := by
  cases edited <;> assumption

theorem foldlM_edits {text final : String} (bounded : text.utf8ByteSize ≤ maximumReplacedFileBytes) :
    (edits.map ExactReplacement.toJson).foldlM applyReplacement text = .ok final ↔ Edited edits text final := by
  induction edits generalizing text with
  | nil =>
    rw [List.map_nil, List.foldlM_nil, pure_eq_ok]
    constructor
    · intro same
      rw [← same]
      exact .done bounded
    · intro edited
      cases edited
      rfl
  | cons edit edits ih =>
    rw [List.map_cons, List.foldlM_cons, bind_eq_ok]
    constructor
    · intro ⟨middle, applied, rest⟩
      obtain ⟨replaced, within_⟩ := applyReplacement_ok.mp applied
      exact .next bounded replaced ((ih within_).mp rest)
    · intro edited
      cases edited with
      | @next _ _ _ middle _ _ replaced rest =>
        exact ⟨middle, applyReplacement_ok.mpr ⟨replaced, rest.start⟩, (ih rest.start).mpr rest⟩

theorem utf8ByteSize_fromUTF8 {bytes text} (read : String.fromUTF8? bytes = some text) :
    text.utf8ByteSize = bytes.size := by
  unfold String.fromUTF8? at read
  split at read
  · cases read
    rfl
  · cases read

theorem secureExistingFileContent_ok {relative opened complete current} (found : files.get relative = some file)
    (regular : file.regular = true) :
    secureExistingFileContent opened complete relative files = .ok current ↔
      opened = true ∧ complete = true ∧ file.content.size ≤ maximumReplacedFileBytes ∧ file.content = current := by
  simp only [secureExistingFileContent, eq_ok, found, Option.filter_eq_some_iff, Option.some.injEq, exists_const]
  constructor
  · rintro ⟨_, ⟨rfl, opened⟩, ⟨_, small⟩, complete, rfl⟩
    exact ⟨opened, complete, small, rfl⟩
  · rintro ⟨opened, complete, small, same⟩
    exact ⟨file, ⟨rfl, opened⟩, ⟨regular, small⟩, complete, same⟩

theorem plannedContent_ok {planned : String × String × String}
    (asked : edit.Requested request files file) :
    plannedContent hash calls request files = .ok planned ↔
      calls.openRoot = true ∧ calls.openTarget = true ∧ calls.readTarget = true ∧
        ∃ final, EditsTo hash edit file final ∧ (edit.relativePath, edit.expectedDigest, final) = planned := by
  have path : (edit.arguments.field "relativePath").bind Value.asString = some edit.relativePath := rfl
  have digest : (edit.arguments.field "expectedCurrentDigest").bind Value.asString = some edit.expectedDigest := rfl
  have direct : (edit.arguments.field "content").bind Value.asString = none := rfl
  have listed : (edit.arguments.field "replacements").bind Value.asArray =
      some (edit.replacements.map ExactReplacement.toJson) := rfl
  simp only [plannedContent, patchedContent, eq_ok, mapError_eq_ok, asked.arguments, path, digest, direct, listed,
    Option.some.injEq, exists_eq_left', exists_const, Option.getD_some, secureExistingFileContent_ok asked.found asked.regular, edit.path, EditsTo]
  constructor
  · rintro ⟨_, _, _, opened, _, final, ⟨_, _, ⟨target, read, small, rfl⟩, same, text, shown, edited⟩, _, rfl⟩
    rw [foldlM_edits (by rw [utf8ByteSize_fromUTF8 shown]; exact small)] at edited
    exact ⟨opened, target, read, final, ⟨same, text, shown, edited⟩, rfl⟩
  · rintro ⟨opened, target, read, final, ⟨same, text, shown, edited⟩, rfl⟩
    have small := edited.start
    have bounded := edited.bounded
    have canonical : isSha256Digest edit.expectedDigest = true := same ▸ hash.canonical file.content
    have listed : edit.replacements.map ExactReplacement.toJson ≠ [] ∧
        (edit.replacements.map ExactReplacement.toJson).length ≤ 16 := ⟨by simpa using edit.some_, by simpa using edit.few⟩
    have size := utf8ByteSize_fromUTF8 shown
    refine ⟨asked.root, by simp, canonical, opened, trivial, final, ⟨listed, _, ⟨target, read, by omega, rfl⟩, same, text, shown, ?_⟩,
      ⟨bounded.trans (by decide), bounded⟩, rfl⟩
    exact (foldlM_edits small).mpr edited

theorem report_error {failure output} : calls.report (.error failure) ≠ .ok output := by
  unfold SystemCalls.report
  split <;> nofun

theorem report_ok {value output} : calls.report (.ok value) = .ok output ↔ calls.reportError = none ∧ value = output := by
  unfold SystemCalls.report
  split
  next shown => simp [shown]
  next shown => simp [shown]

theorem stagedDigest_ok (content) {digest}
    (asked : edit.Requested request files file)
    (free : files.get (stagingName request) = none) :
    stagedDigest hash calls edit.relativePath edit.expectedDigest (files.put (stagingName request) content) = .ok digest ↔
      calls.writeStaging = true ∧ calls.reopenTarget = true ∧ calls.rereadTarget = true ∧ calls.renameStaging = true ∧
        file.content.size ≤ maximumReplacedFileBytes ∧ hash.digest file.content = edit.expectedDigest ∧
        hash.digest file.content = digest := by
  have apart : edit.relativePath ≠ stagingName request := by
    intro same
    rw [← same, asked.found] at free
    cases free
  have found : (files.put (stagingName request) content).get edit.relativePath = some file := by
    rw [Table.get_put_ne _ _ apart, asked.found]
  simp only [stagedDigest, eq_ok, mapError_eq_ok, exists_const, secureExistingFileContent_ok found asked.regular]
  constructor
  · rintro ⟨written, _, ⟨reopened, reread, small, rfl⟩, same, renamed, shown⟩
    exact ⟨written, reopened, reread, renamed, small, same, shown⟩
  · intro ⟨written, reopened, reread, renamed, small, same, shown⟩
    exact ⟨written, _, ⟨reopened, reread, small, rfl⟩, same, renamed, shown⟩

theorem replaceFile_succeeded {output}
    (asked : edit.Requested request files file)
    (succeeded : (replaceFile hash calls request files).2 = .ok output) :
    calls.Succeed ∧ files.get (stagingName request) = none ∧ ∃ final, EditsTo hash edit file final ∧
      (replaceFile hash calls request files).1.get edit.relativePath = some ⟨final.toUTF8, stagingMode calls.umask, true⟩ ∧
      output.field "contentDigest" = some (.string (hash.digest final.toUTF8)) := by
  unfold replaceFile at succeeded ⊢
  split at succeeded
  next => cases succeeded
  next => exact absurd succeeded report_error
  next path digest content planned =>
    obtain ⟨root, target, read, final, edited, same⟩ := (plannedContent_ok asked).mp planned
    cases same
    split at succeeded
    next => exact absurd succeeded report_error
    next free =>
      rw [not_or, Bool.not_eq_false, Option.not_isSome_iff_eq_none] at free
      simp only [free, Bool.true_eq_false, Option.isSome_none, Bool.false_eq_true, or_false, if_false]
      rcases checked : stagedDigest hash calls edit.relativePath edit.expectedDigest (files.put (stagingName request)
        ⟨content.toUTF8, stagingMode calls.umask, true⟩) with failure | current
      · simp only [checked] at succeeded
        exact absurd succeeded report_error
      · obtain ⟨written, reopened, reread, renamed, _⟩ := (stagedDigest_ok _ asked free.2).mp checked
        simp only [checked] at succeeded ⊢
        split at succeeded
        next synced =>
          obtain ⟨reported, rfl⟩ := report_ok.mp succeeded
          exact ⟨⟨root, target, read, free.1, written, reopened, reread, renamed, synced, reported⟩, trivial, content, edited,
            Table.get_put_self .., rfl⟩
        next => cases succeeded

theorem replaceFile_succeeds {final}
    (asked : edit.Requested request files file)
    (edited : EditsTo hash edit file final) (calls_ : calls.Succeed)
    (free : files.get (stagingName request) = none) : ∃ output, (replaceFile hash calls request files).2 = .ok output := by
  have planned := (plannedContent_ok asked).mpr ⟨calls_.openRoot, calls_.openTarget, calls_.readTarget, final, edited, rfl⟩
  obtain ⟨same, text, shown, chain⟩ := id edited
  have small : file.content.size ≤ maximumReplacedFileBytes := by
    rw [← utf8ByteSize_fromUTF8 shown]
    exact chain.start
  have checked := (stagedDigest_ok ⟨final.toUTF8, stagingMode calls.umask, true⟩ asked free).mpr
    ⟨calls_.writeStaging, calls_.reopenTarget, calls_.rereadTarget, calls_.renameStaging, small, same, rfl⟩
  unfold replaceFile
  rw [planned]
  simp only [calls_.createStaging, free, Bool.true_eq_false, Option.isSome_none, Bool.false_eq_true, or_false, if_false, checked,
    calls_.syncRoot, if_true, report_ok, calls_.reported]
  exact ⟨_, trivial, rfl⟩

theorem replaceFile_inapplicable
    (asked : edit.Requested request files file)
    (inapplicable : ¬ ∃ final, EditsTo hash edit file final) :
    (replaceFile hash calls request files).1 = files := by
  unfold replaceFile
  split
  next => rfl
  next => rfl
  next planned =>
    obtain ⟨_, _, _, final, edited, _⟩ := (plannedContent_ok asked).mp planned
    exact absurd ⟨final, edited⟩ inapplicable

end Edit

/-- An edit is exact if and only if, whenever its replacements apply, no call fails, no
staging file is left from before, and the target has the mode of a staging file. -/
theorem edit_exact_iff (hash : ByteDigest) (calls : SystemCalls) (request : ExecutorRequest) (files : Workspace)
    (file : WorkspaceFile) (edit : FileEdit) (asked : edit.Requested request files file) :
    ExactEdit hash edit file files (replaceFile hash calls request files).1 (replaceFile hash calls request files).2 ↔
    ((∃ final, EditsTo hash edit file final) →
      calls.Succeed ∧ files.get (stagingName request) = none ∧ file.mode = stagingMode calls.umask) := by
  constructor
  · intro exact_ applies
    obtain ⟨output, succeeded⟩ := exact_.succeeds.mpr applies
    obtain ⟨calls_, free, _, _, stored, _⟩ := replaceFile_succeeded asked succeeded
    obtain ⟨_, _, kept, _⟩ := exact_.written output succeeded
    rw [stored] at kept
    exact ⟨calls_, free, (congrArg WorkspaceFile.mode (Option.some.inj kept)).symm⟩
  · intro condition
    have applies {output : Value} (succeeded : (replaceFile hash calls request files).2 = .ok output) :
        ∃ final, EditsTo hash edit file final := by
      obtain ⟨_, _, final, edited, _⟩ := replaceFile_succeeded asked succeeded
      exact ⟨final, edited⟩
    refine ⟨⟨fun ⟨_, succeeded⟩ => applies succeeded, ?_⟩, ?_, ?_⟩
    · intro ⟨final, edited⟩
      obtain ⟨calls_, free, _⟩ := condition ⟨final, edited⟩
      exact replaceFile_succeeds asked edited calls_ free
    · intro output succeeded
      obtain ⟨_, _, mode⟩ := condition (applies succeeded)
      obtain ⟨_, _, final, edited, stored, digest⟩ := replaceFile_succeeded asked succeeded
      refine ⟨final, edited, ?_, digest⟩
      rw [stored, ← mode, ← asked.regular]
    · intro failed
      have inapplicable : ¬ ∃ final, EditsTo hash edit file final := by
        intro ⟨final, edited⟩
        obtain ⟨calls_, free, _⟩ := condition ⟨final, edited⟩
        obtain ⟨output, succeeded⟩ := replaceFile_succeeds asked edited calls_ free
        exact failed output succeeded
      rw [replaceFile_inapplicable asked inapplicable]

def replaceLetter : ExactReplacement := ⟨"a", "b", 1, by decide +kernel, by decide +kernel, by decide⟩

def letterEdit : FileEdit :=
  ⟨"main", "notes.txt", sampleByteDigest.digest "a".toUTF8, [replaceLetter], List.cons_ne_nil _ _, by decide,
    by decide +kernel⟩

def letterRequest : ExecutorRequest :=
  { sampleRequest Memories.letterDigest 3 with
    writableRoots := [⟨"/srv/notes", "/workspace"⟩], normalizedArguments := letterEdit.arguments }

def letterFiles (mode : Nat) : Workspace := Table.empty.put "notes.txt" ⟨"a".toUTF8, mode, true⟩

def workingCalls : SystemCalls := ⟨true, true, true, true, true, true, true, true, true, true, none, 0o077⟩

theorem letterEdit_requested (mode) :
    letterEdit.Requested letterRequest (letterFiles mode) ⟨"a".toUTF8, mode, true⟩ :=
  ⟨List.cons_ne_nil _ _, rfl, Table.get_put_self .., rfl⟩

theorem edit_exact_private :
    ExactEdit sampleByteDigest letterEdit ⟨"a".toUTF8, 0o600, true⟩ (letterFiles 0o600)
      (replaceFile sampleByteDigest workingCalls letterRequest (letterFiles 0o600)).1
      (replaceFile sampleByteDigest workingCalls letterRequest (letterFiles 0o600)).2 := by
  refine (edit_exact_iff _ _ _ _ _ _ (letterEdit_requested 0o600)).mpr fun _ => ⟨?_, rfl, by decide⟩
  constructor <;> rfl

/-- A file that the group may read is private after the edit. -/
theorem edit_changes_mode :
    ¬ ExactEdit sampleByteDigest letterEdit ⟨"a".toUTF8, 0o644, true⟩ (letterFiles 0o644)
      (replaceFile sampleByteDigest workingCalls letterRequest (letterFiles 0o644)).1
      (replaceFile sampleByteDigest workingCalls letterRequest (letterFiles 0o644)).2 := by
  intro exact_
  have edited : EditsTo sampleByteDigest letterEdit ⟨"a".toUTF8, 0o644, true⟩ "b" := by
    refine ⟨rfl, "a", by decide +kernel, .next (by decide +kernel) ?_ (.done (by decide +kernel))⟩
    exact (replaced_iff (by decide +kernel)).mpr (by decide +kernel)
  obtain ⟨output, succeeded⟩ := exact_.succeeds.mpr ⟨"b", edited⟩
  obtain ⟨_, _, _, _, stored, _⟩ := replaceFile_succeeded (letterEdit_requested 0o644) succeeded
  obtain ⟨_, _, kept, _⟩ := exact_.written output succeeded
  rw [stored] at kept
  exact absurd (congrArg WorkspaceFile.mode (Option.some.inj kept)) (show stagingMode 0o077 ≠ 0o644 by decide)

end Mealy.Executor
