import Mealy.Lib.Table
import Mealy.Lib.Transaction

/-! The artifact blob store (`artifact.rs`): content-addressed files written by
`commit_reader`, the metadata rows inserted afterwards, and `garbage_collect`. Every
file-system call is one step, so a run interleaves any number of commits and
collections; a call that returns an I/O error ends the commit or the collection it
belongs to. `sha256` is a parameter and its values are the canonical digests. -/

namespace Mealy.Artifacts
open Relational Transaction

/-- Nanoseconds of the one clock that stamps files and is read by the daemon. -/
abbrev Instant := Nat

abbrev Bytes := List UInt8

/-- Entries of the `sha256` directory: blobs under their digest and temporary files
under the process and the sequence number that created them. -/
inductive FileName (Digest : Type) where
  | blob (digest : Digest)
  | temporary (process sequence : Nat)
deriving DecidableEq

structure StoredFile where
  inode : Nat
  content : Bytes
  modified : Instant

/-- A row of `artifact_blob`; its relative path is `sha256/` and the digest. -/
structure ArtifactBlobRow where
  (sizeBytes committedAt : Nat)
deriving DecidableEq

/-- How far one call of `commit_reader` has come. After the target file has been
refreshed or published, `modified` is the time it carries. -/
inductive CommitStage where
  | writing
  | hashed
  | locked
  | found
  | verified
  | restricted
  | opened (inode : Nat)
  | timed (inode : Nat) (now : Instant)
  | refreshed (modified : Instant)
  | absent
  | published (modified : Instant)
  | returned (modified : Instant)
deriving DecidableEq

structure Commit where
  (sequence handle : Nat)
  content : Bytes := []
  stage : CommitStage := .writing

/-- `TemporaryFile::armed`: an error still removes the temporary file. -/
def Commit.armed (commit : Commit) : Bool :=
  match commit.stage with
  | .published _ | .returned _ => false
  | _ => true

structure ArtifactGarbageCollectionReport where
  removedBlobCount : Nat := 0
  removedBlobBytes : Nat := 0
  removedTemporaryFileCount : Nat := 0
  retainedYoungFileCount : Nat := 0
  retainedReferencedBlobCount : Nat := 0

inductive CollectionStage (Digest : Type) where
  | snapshot
  | scanning (now : Instant)
  | aged (now : Instant) (name : FileName Digest) (modified : Instant) (length : Nat)
deriving DecidableEq

structure Collection (Digest : Type) where
  referenced : List Digest
  stage : CollectionStage Digest := .snapshot
  report : ArtifactGarbageCollectionReport := {}

structure World (Digest : Type) where
  clock : Instant
  (nextInode process nextSequence : Nat)
  directory : Table (FileName Digest) StoredFile
  rows : Table Digest ArtifactBlobRow
  commitLock : Option Nat
  commits : Table Nat Commit
  collections : Table Nat (Collection Digest)

def World.initial (Digest : Type) : World Digest where
  clock := 0
  nextInode := 0
  process := 0
  nextSequence := 0
  directory := .empty
  rows := .empty
  commitLock := none
  commits := .empty
  collections := .empty

/-- `maximum_blob_bytes` of the store and the configured age of collection. -/
structure Settings where
  (maximumBlobBytes minimumAge : Nat)

/-- The step is not the next one of the call it names. -/
inductive StepError where
  | outOfOrder

inductive Operation (Digest : Type) where
  | tick (elapsed : Nat)
  | crash (process : Nat)
  | createTemporaryFile (commitId : Nat)
  | write (commitId : Nat) (chunk : Bytes)
  | finish (commitId : Nat)
  | lock (commitId : Nat)
  | inspect (commitId : Nat)
  | verify (commitId : Nat)
  | restrict (commitId : Nat)
  | openExisting (commitId : Nat)
  | readClock (commitId : Nat)
  | refresh (commitId : Nat)
  | discard (commitId : Nat)
  | publish (commitId : Nat)
  | settle (commitId : Nat)
  | insertRow (commitId : Nat) (committedAt : Nat)
  | fail (commitId : Nat)
  | readReferenced (collectionId : Nat)
  | startCollection (collectionId : Nat)
  | examine (collectionId : Nat) (name : FileName Digest)
  | remove (collectionId : Nat)
  | stop (collectionId : Nat)

section Steps
variable {Digest : Type} [DecidableEq Digest]

/-! ### `commit_reader` -/

def Commit.temporary (commit : Commit) (s : World Digest) : FileName Digest :=
  .temporary s.process commit.sequence

/-- The call returns an error: the lock guard and the temporary file are dropped. -/
def failCommit (commitId : Nat) (commit : Commit) (s : World Digest) : World Digest :=
  { s with
    directory := if commit.armed then s.directory.erase (commit.temporary s) else s.directory
    commitLock := if s.commitLock = some commitId then none else s.commitLock
    commits := s.commits.erase commitId }

def setStage (commitId : Nat) (commit : Commit) (stage : CommitStage) (s : World Digest) : World Digest :=
  { s with commits := s.commits.put commitId { commit with stage } }

def commitAt (commitId : Nat) (s : World Digest) : Except StepError Commit := require (s.commits.get commitId) .outOfOrder

/-- `create_new` on up to sixteen names. -/
def createTemporaryFile (commitId : Nat) (s : World Digest) : Except StepError (World Digest) := do
  ensure (s.commits.get commitId = none) .outOfOrder
  let free := (List.range' s.nextSequence 16).find? fun sequence =>
    (s.directory.get (.temporary s.process sequence)).isNone
  match free with
  | none => pure { s with nextSequence := s.nextSequence + 16 }
  | some sequence =>
    pure { s with
      nextSequence := sequence + 1
      nextInode := s.nextInode + 1
      directory := s.directory.put (.temporary s.process sequence) ⟨s.nextInode, [], s.clock⟩
      commits := s.commits.put commitId { sequence, handle := s.nextInode } }

def changeOpened (name : FileName Digest) (inode : Nat) (change : StoredFile → StoredFile)
    (directory : Table (FileName Digest) StoredFile) : Table (FileName Digest) StoredFile :=
  match directory.get name with
  | some file => if file.inode = inode then directory.put name (change file) else directory
  | none => directory

def write (settings : Settings) (commitId : Nat) (chunk : Bytes) (s : World Digest) :
    Except StepError (World Digest) := do
  let commit ← commitAt commitId s
  ensure (commit.stage = .writing) .outOfOrder
  if settings.maximumBlobBytes < commit.content.length + chunk.length then
    pure (failCommit commitId commit s)
  else
    let append (file : StoredFile) := { file with content := file.content ++ chunk, modified := s.clock }
    pure { s with
      directory := changeOpened (commit.temporary s) commit.handle append s.directory
      commits := s.commits.put commitId { commit with content := commit.content ++ chunk } }

def finish (commitId : Nat) (s : World Digest) : Except StepError (World Digest) := do
  let commit ← commitAt commitId s
  ensure (commit.stage = .writing) .outOfOrder
  pure (setStage commitId commit .hashed s)

def lock (commitId : Nat) (s : World Digest) : Except StepError (World Digest) := do
  let commit ← commitAt commitId s
  ensure (commit.stage = .hashed ∧ s.commitLock = none) .outOfOrder
  pure { setStage commitId commit .locked s with commitLock := some commitId }

variable (sha256 : Bytes → Digest)

def Commit.target (commit : Commit) : FileName Digest := .blob (sha256 commit.content)

/-- `verify_existing_target`: is there a file at the target path? -/
def inspect (commitId : Nat) (s : World Digest) : Except StepError (World Digest) := do
  let commit ← commitAt commitId s
  ensure (commit.stage = .locked) .outOfOrder
  match s.directory.get (commit.target sha256) with
  | some _ => pure (setStage commitId commit .found s)
  | none => pure (setStage commitId commit .absent s)

/-- `read`: a file whose digest or size differs is an integrity error. -/
def verify (settings : Settings) (commitId : Nat) (s : World Digest) : Except StepError (World Digest) := do
  let commit ← commitAt commitId s
  ensure (commit.stage = .found) .outOfOrder
  match s.directory.get (commit.target sha256) with
  | none => pure (failCommit commitId commit s)
  | some file =>
    if file.content.length ≤ settings.maximumBlobBytes ∧ sha256 file.content = sha256 commit.content ∧
        file.content.length = commit.content.length then
      pure (setStage commitId commit .verified s)
    else pure (failCommit commitId commit s)

/-- `set_private_file_permissions` by path. -/
def restrict (commitId : Nat) (s : World Digest) : Except StepError (World Digest) := do
  let commit ← commitAt commitId s
  ensure (commit.stage = .verified) .outOfOrder
  match s.directory.get (commit.target sha256) with
  | none => pure (failCommit commitId commit s)
  | some _ => pure (setStage commitId commit .restricted s)

def openExisting (commitId : Nat) (s : World Digest) : Except StepError (World Digest) := do
  let commit ← commitAt commitId s
  ensure (commit.stage = .restricted) .outOfOrder
  match s.directory.get (commit.target sha256) with
  | none => pure (failCommit commitId commit s)
  | some file => pure (setStage commitId commit (.opened file.inode) s)

def readClock (commitId : Nat) (s : World Digest) : Except StepError (World Digest) := do
  let commit ← commitAt commitId s
  match commit.stage with
  | .opened inode => pure (setStage commitId commit (.timed inode s.clock) s)
  | _ => .error .outOfOrder

/-- `set_modified` on the open file. -/
def refresh (commitId : Nat) (s : World Digest) : Except StepError (World Digest) := do
  let commit ← commitAt commitId s
  match commit.stage with
  | .timed inode now =>
    let touch (file : StoredFile) := { file with modified := now }
    pure { setStage commitId commit (.refreshed now) s with
      directory := changeOpened (commit.target sha256) inode touch s.directory }
  | _ => .error .outOfOrder

/-- The duplicate temporary file is removed and the blob is returned. -/
def discard (commitId : Nat) (s : World Digest) : Except StepError (World Digest) := do
  let commit ← commitAt commitId s
  match commit.stage with
  | .refreshed modified =>
    match s.directory.get (commit.temporary s) with
    | none => pure (failCommit commitId commit s)
    | some _ =>
      pure { setStage commitId commit (.returned modified) s with
        directory := s.directory.erase (commit.temporary s)
        commitLock := none }
  | _ => .error .outOfOrder

/-- `rename` of the temporary file onto the target path. -/
def publish (commitId : Nat) (s : World Digest) : Except StepError (World Digest) := do
  let commit ← commitAt commitId s
  ensure (commit.stage = .absent) .outOfOrder
  match s.directory.get (commit.temporary s) with
  | none => pure (failCommit commitId commit s)
  | some file =>
    pure { setStage commitId commit (.published file.modified) s with
      directory := (s.directory.erase (commit.temporary s)).put (commit.target sha256) file }

/-- Permissions of the published file, `sync_directory`, and the blob is returned. -/
def settle (commitId : Nat) (s : World Digest) : Except StepError (World Digest) := do
  let commit ← commitAt commitId s
  match commit.stage with
  | .published modified =>
    match s.directory.get (commit.target sha256) with
    | none => pure (failCommit commitId commit s)
    | some _ => pure { setStage commitId commit (.returned modified) s with commitLock := none }
  | _ => .error .outOfOrder

def insertRow (commitId : Nat) (committedAt : Nat) (s : World Digest) : Except StepError (World Digest) := do
  let commit ← commitAt commitId s
  match commit.stage with
  | .returned _ =>
    let digest := sha256 commit.content
    let row : ArtifactBlobRow := (s.rows.get digest).getD ⟨commit.content.length, committedAt⟩
    if row.sizeBytes = commit.content.length then
      pure { s with
        rows := s.rows.put digest { row with committedAt := min row.committedAt committedAt }
        commits := s.commits.erase commitId }
    else pure (failCommit commitId commit s)
  | _ => .error .outOfOrder

/-- Any other error of the call, or a caller that never inserts the row. -/
def fail (commitId : Nat) (s : World Digest) : Except StepError (World Digest) := do
  let commit ← commitAt commitId s
  pure (failCommit commitId commit s)

/-! ### `garbage_collect` -/

def setCollection (collectionId : Nat) (collection : Collection Digest) (s : World Digest) : World Digest :=
  { s with collections := s.collections.put collectionId collection }

def dropCollection (collectionId : Nat) (s : World Digest) : World Digest :=
  { s with collections := s.collections.erase collectionId }

def collectionAt (collectionId : Nat) (s : World Digest) : Except StepError (Collection Digest) :=
  require (s.collections.get collectionId) .outOfOrder

/-- `referenced_artifact_digests` on a reader snapshot. -/
def readReferenced (collectionId : Nat) (s : World Digest) : Except StepError (World Digest) := do
  ensure (s.collections.get collectionId = none) .outOfOrder
  pure (setCollection collectionId { referenced := s.rows.entries.map Prod.fst } s)

/-- `SystemTime::now()` and the check of the policy. -/
def startCollection (settings : Settings) (collectionId : Nat) (s : World Digest) :
    Except StepError (World Digest) := do
  let collection ← collectionAt collectionId s
  ensure (collection.stage = .snapshot) .outOfOrder
  if settings.minimumAge = 0 then pure (dropCollection collectionId s)
  else pure (setCollection collectionId { collection with stage := .scanning s.clock } s)

def FileName.isReferenced (name : FileName Digest) (referenced : List Digest) : Bool :=
  match name with
  | .blob digest => digest ∈ referenced
  | .temporary _ _ => false

/-- `symlink_metadata` of a directory entry and the decision on it. -/
def examine (settings : Settings) (collectionId : Nat) (name : FileName Digest) (s : World Digest) :
    Except StepError (World Digest) := do
  let collection ← collectionAt collectionId s
  match collection.stage with
  | .scanning now =>
    match s.directory.get name with
    | none => pure (dropCollection collectionId s)
    | some file =>
      let report := collection.report
      if name.isReferenced collection.referenced then
        let report := { report with retainedReferencedBlobCount := report.retainedReferencedBlobCount + 1 }
        pure (setCollection collectionId { collection with report } s)
      else if now - file.modified < settings.minimumAge then
        let report := { report with retainedYoungFileCount := report.retainedYoungFileCount + 1 }
        pure (setCollection collectionId { collection with report } s)
      else
        let stage := .aged now name file.modified file.content.length
        pure (setCollection collectionId { collection with stage } s)
  | _ => .error .outOfOrder

def ArtifactGarbageCollectionReport.removed (report : ArtifactGarbageCollectionReport) (name : FileName Digest)
    (length : Nat) : ArtifactGarbageCollectionReport :=
  match name with
  | .temporary _ _ => { report with removedTemporaryFileCount := report.removedTemporaryFileCount + 1 }
  | .blob _ =>
    { report with
      removedBlobCount := report.removedBlobCount + 1
      removedBlobBytes := report.removedBlobBytes + length }

/-- `remove_file` by path. -/
def remove (collectionId : Nat) (s : World Digest) : Except StepError (World Digest) := do
  let collection ← collectionAt collectionId s
  match collection.stage with
  | .aged now name _ length =>
    match s.directory.get name with
    | none => pure (dropCollection collectionId s)
    | some _ =>
      let collection := { collection with stage := .scanning now, report := collection.report.removed name length }
      pure { setCollection collectionId collection s with directory := s.directory.erase name }
  | _ => .error .outOfOrder

def stop (collectionId : Nat) (s : World Digest) : Except StepError (World Digest) := do
  let _ ← collectionAt collectionId s
  pure (dropCollection collectionId s)

/-! ### The system -/

/-- The daemon stops: files and rows stay, calls and locks are gone. -/
def crash (process : Nat) (s : World Digest) : World Digest :=
  { s with process, nextSequence := 0, commitLock := none, commits := .empty, collections := .empty }

def exec (settings : Settings) : Operation Digest → World Digest → Except StepError (World Digest)
  | .tick elapsed, s => .ok { s with clock := s.clock + elapsed }
  | .crash process, s => .ok (crash process s)
  | .createTemporaryFile commitId, s => createTemporaryFile commitId s
  | .write commitId chunk, s => write settings commitId chunk s
  | .finish commitId, s => finish commitId s
  | .lock commitId, s => lock commitId s
  | .inspect commitId, s => inspect sha256 commitId s
  | .verify commitId, s => verify sha256 settings commitId s
  | .restrict commitId, s => restrict sha256 commitId s
  | .openExisting commitId, s => openExisting sha256 commitId s
  | .readClock commitId, s => readClock commitId s
  | .refresh commitId, s => refresh sha256 commitId s
  | .discard commitId, s => discard commitId s
  | .publish commitId, s => publish sha256 commitId s
  | .settle commitId, s => settle sha256 commitId s
  | .insertRow commitId committedAt, s => insertRow sha256 commitId committedAt s
  | .fail commitId, s => fail commitId s
  | .readReferenced collectionId, s => readReferenced collectionId s
  | .startCollection collectionId, s => startCollection settings collectionId s
  | .examine collectionId name, s => examine settings collectionId name s
  | .remove collectionId, s => remove collectionId s
  | .stop collectionId, s => stop collectionId s

def artifactSystem (settings : Settings) : System StepError (World Digest) (Operation Digest) where
  initial := .initial Digest
  exec := exec sha256 settings

end Steps
end Mealy.Artifacts
