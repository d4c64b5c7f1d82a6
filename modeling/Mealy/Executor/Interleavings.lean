import Mealy.Executor.ReplaceFile

/-! The file operations of the worker among other processes (`mealy-fixture-worker.rs`). Other
processes act on the directory between the system calls: `others` gives what they make of it
before each call. A removal or a move is checked again after the file was renamed to a name
that nobody replaces; a replacement is not. -/

namespace Mealy.Executor
open Relational Transaction Json

abbrev Others := Nat → Workspace → Workspace

abbrev ManageFailure := String × String

/-- Where a file is left by a rename that has to be checked. -/
inductive Relocation where
  | refused (failure : ManageFailure)
  | left (file : WorkspaceFile) (failure : ManageFailure)
  | restored (file back : WorkspaceFile) (failure : ManageFailure)
  | verified (file : WorkspaceFile)

section
variable {hash : ByteDigest} {calls : ManageCalls} {others : Others}

theorem stored_of_read {opened complete name files content}
    (read : secureExistingFileContent opened complete name files = .ok content) :
    ∃ file, files.get name = some file ∧ file.content = content := by
  simp only [secureExistingFileContent, eq_ok, Option.filter_eq_some_iff] at read
  obtain ⟨file, ⟨found, _⟩, _, _, _, _, rfl⟩ := read
  exact ⟨file, found, rfl⟩

/-- What a relocation leaves at its target. -/
def Sound (hash : ByteDigest) (target expected : String) (before : Workspace) : Workspace × Relocation → Prop
  | (files, .refused _) => files = before
  | (files, .left file _) => before.get target = none ∧ files.get target = some file
  | (_, .restored file back _) => before.get target = none ∧ back = file
  | (files, .verified file) => before.get target = none ∧ files.get target = some file ∧ hash.digest file.content = expected

end

theorem isSha256Digest_lengths (bytes : ByteArray) :
    Memories.isSha256Digest (String.ofList (List.replicate 64 (if bytes.size = 1 then 'a' else 'b'))) = true := by
  split <;> decide +kernel

def lengthDigest : ByteDigest where
  digest := fun bytes => String.ofList (List.replicate 64 (if bytes.size = 1 then 'a' else 'b'))
  canonical := isSha256Digest_lengths

def putBefore (call : Nat) (file : WorkspaceFile) : Others := fun step files =>
  if step = call then files.put "notes.txt" file else files

def swapBefore (call : Nat) : Others := putBefore call ⟨"bb".toUTF8, 0o600, true⟩

def notesArguments : Value :=
  .object [("content", .string "c"), ("expectedCurrentDigest", .string (lengthDigest.digest "a".toUTF8)),
    ("relativePath", .string "notes.txt")]

structure Replacement where
  files : Workspace
  overwritten : Option WorkspaceFile := none
  result : Except WorkerFailure Value

/-- `replaceFile` among other processes, with the file that its rename overwrites. -/
def replaceFileAmong (hash : ByteDigest) (calls : SystemCalls) (request : ExecutorRequest) (others : Others) (files : Workspace) :
    Replacement :=
  let seen := others 0 files
  let before := others 1 seen
  match plannedContent hash calls request seen with
  | .error (.rejected error) => { files := before, result := .error (.rejected error) }
  | .error failure => { files := before, result := calls.report (.error failure) }
  | .ok (relative, expectedCurrentDigest, content) =>
    if calls.createStaging = false ∨ (before.get (stagingName request)).isSome then
      { files := before, result := calls.report (.error
        (.failed "staging_unavailable" "exclusive replacement staging file could not be created")) }
    else
      let replacement : WorkspaceFile := ⟨content.toUTF8, stagingMode calls.umask, true⟩
      let staged := others 2 (before.put (stagingName request) replacement)
      match stagedDigest hash calls relative expectedCurrentDigest staged with
      | .error failure =>
        { files := if calls.unlinkStaging then staged.erase (stagingName request) else staged,
          result := calls.report (.error failure) }
      | .ok currentDigest =>
        let checked := others 3 staged
        match checked.get (stagingName request) with
        | none =>
          { files := checked, result := calls.report (.error (.failed "replace_failed" "atomic replacement could not be committed")) }
        | some file =>
          { files := (checked.erase (stagingName request)).put relative file, overwritten := checked.get relative,
            result := if calls.syncRoot then
                calls.report (.ok (.object [("bytesWritten", .nat content.utf8ByteSize),
                  ("contentDigest", .string (hash.digest content.toUTF8)), ("previousContentDigest", .string currentDigest),
                  ("relativePath", .string relative)]))
              else .error (.rejected "replacement directory synchronization failed") }

theorem replaceFileAmong_alone (hash) (calls) (request) (files) :
    let alone := replaceFileAmong hash calls request (fun _ files => files) files
    (alone.files, alone.result) = replaceFile hash calls request files := by
  simp only [replaceFileAmong, replaceFile]
  rcases planned : plannedContent hash calls request files with failure | ⟨relative, expected, content⟩
  · cases failure <;> rfl
  · dsimp only
    split
    next => rfl
    next =>
      cases stagedDigest hash calls relative expected (files.put (stagingName request) ⟨content.toUTF8, stagingMode calls.umask, true⟩) with
      | error => rfl
      | ok => simp

theorem plannedContent_arguments {hash calls request files relative expected content}
    (planned : plannedContent hash calls request files = .ok (relative, expected, content)) :
    (request.normalizedArguments.field "relativePath").bind Value.asString = some relative ∧
      (request.normalizedArguments.field "expectedCurrentDigest").bind Value.asString = some expected := by
  simp only [plannedContent, eq_ok] at planned
  obtain ⟨_, _, _, named, _, digest, _, _, _, _, _, _, _, _, planned⟩ := planned
  split at planned <;> simp only [eq_ok, Prod.mk.injEq] at planned
  all_goals
    obtain ⟨_, _, _, _, rfl, rfl, _⟩ := planned
    exact ⟨named, digest⟩

/-- A replacement overwrites the expected content in every interleaving in which nobody
touches the target between its last reading and the rename. -/
theorem replacement_overwrites_expected (hash : ByteDigest) (calls : SystemCalls) (request : ExecutorRequest) (others : Others)
    (files : Workspace) (relative : String)
    (target : (request.normalizedArguments.field "relativePath").bind Value.asString = some relative)
    (quiet : ∀ files, (others 3 files).get relative = files.get relative) (file : WorkspaceFile)
    (overwritten : (replaceFileAmong hash calls request others files).overwritten = some file) :
    (request.normalizedArguments.field "expectedCurrentDigest").bind Value.asString = some (hash.digest file.content) := by
  unfold replaceFileAmong at overwritten
  dsimp only at overwritten
  split at overwritten
  next => cases overwritten
  next => cases overwritten
  next path expected content planned =>
    obtain ⟨named, digest⟩ := plannedContent_arguments planned
    cases named.symm.trans target
    split at overwritten
    next => cases overwritten
    next =>
      split at overwritten
      next => cases overwritten
      next checked =>
        simp only [stagedDigest, eq_ok, mapError_eq_ok] at checked
        obtain ⟨_, _, current, read, _, same, _⟩ := checked
        obtain ⟨stored, found, rfl⟩ := stored_of_read read
        split at overwritten
        next => cases overwritten
        next =>
          rw [quiet, found] at overwritten
          cases overwritten
          rw [digest, same]

def notesRequest : ExecutorRequest := { letterRequest with normalizedArguments := notesArguments }

/-- Another process puts a file of its own with the expected content before the last reading. -/
theorem replacement_overwrites_expected_copy : ∃ file,
    (replaceFileAmong lengthDigest workingCalls notesRequest (putBefore 2 ⟨"a".toUTF8, 0o644, true⟩)
      (letterFiles 0o600)).overwritten = some file ∧ file.mode = 0o644 ∧
      (notesArguments.field "expectedCurrentDigest").bind Value.asString = some (lengthDigest.digest file.content) := by
  have renamed : (replaceFileAmong lengthDigest workingCalls notesRequest (putBefore 2 ⟨"a".toUTF8, 0o644, true⟩)
    (letterFiles 0o600)).overwritten.any (fun file => file.mode = 0o644) = true := by decide +kernel
  obtain ⟨file, overwritten, mode⟩ := (Option.any_eq_true ..).mp renamed
  exact ⟨file, overwritten, of_decide_eq_true mode,
    replacement_overwrites_expected _ _ notesRequest _ _ "notes.txt" rfl (fun _ => rfl) file overwritten⟩

/-- The target is swapped after its last reading: the rename overwrites what nobody approved. -/
theorem replacement_overwrites_swapped :
    ((replaceFileAmong lengthDigest workingCalls notesRequest (swapBefore 3) (letterFiles 0o600)).overwritten.any fun file =>
      (notesArguments.field "expectedCurrentDigest").bind Value.asString ≠ some (lengthDigest.digest file.content)) = true := by
  decide +kernel

end Mealy.Executor
