import Mealy.Store.Artifacts

/-! Referenced blobs and the collector. The collector decides on a modification time it
read earlier and removes by path, so it can take a blob that a commit is about to re-use.
Where no removal hits a file that was refreshed or opened in between, and rows follow
their files within the minimum age, every row has its blob. -/

namespace Mealy.Artifacts
open Relational Transaction

section Invariant
variable {Digest : Type} [DecidableEq Digest] (sha256 : Bytes → Digest) (settings : Settings)

/-- The target file is open for `set_modified`. -/
def CommitStage.isOpen : CommitStage → Bool
  | .opened _ | .timed _ _ => true
  | _ => false

def World.isOpened (s : World Digest) (name : FileName Digest) : Bool :=
  s.commits.any fun _ commit => commit.target sha256 = name ∧ commit.stage.isOpen

/-- Removals take the file that was examined and that no commit has open; a row is
inserted before its file is old enough for a collection, and not between the two reads
of a starting collection. -/
def Operation.Timely (op : Operation Digest) (s : World Digest) : Prop :=
  match op with
  | .remove collectionId =>
    match (s.collections.get collectionId).map Collection.stage with
    | some (.aged _ name modified _) =>
      (s.directory.get name).all (fun file => file.modified = modified) = true ∧ s.isOpened sha256 name = false
    | _ => True
  | .insertRow commitId _ =>
    match (s.commits.get commitId).map Commit.stage with
    | some (.returned modified) =>
      s.clock < modified + settings.minimumAge ∧
        s.collections.any (fun _ collection => collection.stage = .snapshot) = false
    | _ => True
  | _ => True

instance (op : Operation Digest) (s : World Digest) : Decidable (op.Timely sha256 settings s) := by
  unfold Operation.Timely
  split
  · split <;> infer_instance
  · split <;> infer_instance
  · infer_instance

/-- While the time a commit left on its target is young, the target is there. -/
def Lasting (s : World Digest) (digest : Digest) (size : Nat) (modified : Instant) : Prop :=
  s.clock < modified + settings.minimumAge →
    ∃ file, s.directory.get (.blob digest) = some file ∧ file.content.length = size ∧ modified ≤ file.modified

/-- What a commit of `size` bytes knows of its target at each stage. -/
def StageSafe (s : World Digest) (digest : Digest) (size : Nat) : CommitStage → Prop
  | .absent => s.directory.get (.blob digest) = none
  | .verified | .restricted => ∀ file, s.directory.get (.blob digest) = some file → file.content.length = size
  | .opened inode =>
    ∃ file, s.directory.get (.blob digest) = some file ∧ file.content.length = size ∧ file.inode = inode
  | .timed inode now =>
    now ≤ s.clock ∧ ∃ file, s.directory.get (.blob digest) = some file ∧ file.content.length = size ∧
      file.inode = inode ∧ file.modified ≤ now
  | .refreshed modified | .published modified | .returned modified => Lasting settings s digest size modified
  | .writing | .hashed | .locked | .found => True

def CommitStage.holdsLock : CommitStage → Bool
  | .writing | .hashed | .returned _ => false
  | _ => true

structure CommitSafe (s : World Digest) (commitId : Nat) (commit : Commit) : Prop where
  issued : commit.sequence < s.nextSequence
  temporary : commit.armed = true → ∀ file, s.directory.get (commit.temporary s) = some file →
    file.inode = commit.handle ∧ file.content = commit.content
  held : commit.stage.holdsLock = true → s.commitLock = some commitId
  stage : StageSafe settings s (sha256 commit.content) commit.content.length commit.stage

/-- A blob whose row the collector did not see is too young for it. -/
def RowsYoung (s : World Digest) (referenced : List Digest) (now : Instant) : Prop :=
  ∀ digest row file, s.rows.get digest = some row → digest ∉ referenced →
    s.directory.get (.blob digest) = some file → now < file.modified + settings.minimumAge

def CollectionSafe (s : World Digest) (collection : Collection Digest) : Prop :=
  match collection.stage with
  | .snapshot => ∀ digest row, s.rows.get digest = some row → digest ∈ collection.referenced
  | .scanning now => now ≤ s.clock ∧ 0 < settings.minimumAge ∧ RowsYoung settings s collection.referenced now
  | .aged now name modified _ =>
    now ≤ s.clock ∧ 0 < settings.minimumAge ∧ RowsYoung settings s collection.referenced now ∧
      modified + settings.minimumAge ≤ now ∧ name.isReferenced collection.referenced = false

structure BlobsSafe (s : World Digest) : Prop where
  files : ∀ name file, s.directory.get name = some file → file.modified ≤ s.clock
  named : ∀ digest file, s.directory.get (.blob digest) = some file → sha256 file.content = digest
  commits : ∀ commitId commit, s.commits.get commitId = some commit → CommitSafe sha256 settings s commitId commit
  distinct : ∀ left right commit other, s.commits.get left = some commit → s.commits.get right = some other →
    commit.sequence = other.sequence → left = right
  collections : ∀ collectionId collection, s.collections.get collectionId = some collection →
    CollectionSafe settings s collection
  rows : ∀ digest row, s.rows.get digest = some row →
    ∃ file, s.directory.get (.blob digest) = some file ∧ file.content.length = row.sizeBytes

variable {sha256 settings} {s s' : World Digest}

/-! ### Steps that leave every blob alone -/

/-- Blobs and rows are the same and time has not gone back. -/
structure SameBlobs (s s' : World Digest) : Prop where
  clock : s.clock ≤ s'.clock
  blobs : ∀ digest, s'.directory.get (.blob digest) = s.directory.get (.blob digest)
  rows : s'.rows = s.rows

theorem SameBlobs.lasting (same : SameBlobs s s') {digest size modified}
    (lasting : Lasting settings s digest size modified) : Lasting settings s' digest size modified := by
  intro young
  rw [same.blobs]
  exact lasting (Nat.lt_of_le_of_lt same.clock young)

theorem SameBlobs.stage (same : SameBlobs s s') {digest size stage}
    (safe : StageSafe settings s digest size stage) : StageSafe settings s' digest size stage := by
  cases stage with
  | writing | hashed | locked | found => exact trivial
  | refreshed modified | published modified | returned modified => exact same.lasting safe
  | absent | verified | restricted | opened => simpa only [StageSafe, same.blobs] using safe
  | timed inode now =>
    obtain ⟨past, file⟩ := safe
    exact ⟨Nat.le_trans past same.clock, by simpa only [same.blobs] using file⟩

theorem CollectionSafe.step {collection} (safe : CollectionSafe settings s collection) (clock : s.clock ≤ s'.clock)
    (listed : collection.stage = .snapshot → s'.rows = s.rows)
    (young : ∀ now ≤ s.clock, RowsYoung settings s collection.referenced now →
      RowsYoung settings s' collection.referenced now) : CollectionSafe settings s' collection := by
  unfold CollectionSafe at safe ⊢
  split
  next snapshot =>
    rw [snapshot] at safe
    rwa [listed snapshot]
  next now scanning =>
    rw [scanning] at safe
    exact ⟨Nat.le_trans safe.1 clock, safe.2.1, young now safe.1 safe.2.2⟩
  next now name modified length aged =>
    rw [aged] at safe
    exact ⟨Nat.le_trans safe.1 clock, safe.2.1, young now safe.1 safe.2.2.1, safe.2.2.2⟩

theorem SameBlobs.collection (same : SameBlobs s s') {collection}
    (safe : CollectionSafe settings s collection) : CollectionSafe settings s' collection := by
  refine safe.step same.clock (fun _ => same.rows) fun now _ before => ?_
  simpa only [RowsYoung, same.blobs, same.rows] using before

/-! ### Steps of one commit -/

variable {commitId : Nat} {commit : Commit}

/-- A step of one commit: the others keep their temporary files and the lock. -/
structure CommitStep (sha256 : Bytes → Digest) (settings : Settings) (s s' : World Digest) (commitId : Nat)
    (commit : Commit) : Prop where
  stored : s.commits.get commitId = some commit
  others : ∀ other row, other ≠ commitId → s'.commits.get other = some row → s.commits.get other = some row
  own : ∀ row, s'.commits.get commitId = some row →
    row.sequence = commit.sequence ∧ CommitSafe sha256 settings s' commitId row
  process : s'.process = s.process
  nextSequence : s'.nextSequence = s.nextSequence
  collections : s'.collections = s.collections
  lock : ∀ other, other ≠ commitId → s.commitLock = some other → s'.commitLock = some other
  temporaries : ∀ sequence, sequence ≠ commit.sequence →
    s'.directory.get (.temporary s.process sequence) = s.directory.get (.temporary s.process sequence)
  files : ∀ name file, s'.directory.get name = some file → file.modified ≤ s'.clock

theorem CommitStep.of_put {row} (stored : s.commits.get commitId = some commit)
    (commits : s'.commits = s.commits.put commitId row) (sequence : row.sequence = commit.sequence)
    (own : CommitSafe sha256 settings s' commitId row) (process : s'.process = s.process)
    (nextSequence : s'.nextSequence = s.nextSequence) (collections : s'.collections = s.collections)
    (lock : ∀ other, other ≠ commitId → s.commitLock = some other → s'.commitLock = some other)
    (temporaries : ∀ number, number ≠ commit.sequence →
      s'.directory.get (.temporary s.process number) = s.directory.get (.temporary s.process number))
    (files : ∀ name file, s'.directory.get name = some file → file.modified ≤ s'.clock) :
    CommitStep sha256 settings s s' commitId commit := by
  refine ⟨stored, ?_, ?_, process, nextSequence, collections, lock, temporaries, files⟩
  · intro other kept different found
    rw [commits, Table.get_put_ne _ _ different] at found
    exact found
  · intro kept found
    rw [commits, Table.get_put_self] at found
    cases found
    exact ⟨sequence, own⟩

variable (safe : BlobsSafe sha256 settings s)
include safe

theorem CommitStep.safe_of_stages (step : CommitStep sha256 settings s s' commitId commit)
    (stages : ∀ other row, other ≠ commitId → s.commits.get other = some row →
      StageSafe settings s' (sha256 row.content) row.content.length row.stage)
    (named : ∀ digest file, s'.directory.get (.blob digest) = some file → sha256 file.content = digest)
    (collected : ∀ collectionId collection, s.collections.get collectionId = some collection →
      CollectionSafe settings s' collection)
    (rows : ∀ digest row, s'.rows.get digest = some row →
      ∃ file, s'.directory.get (.blob digest) = some file ∧ file.content.length = row.sizeBytes) :
    BlobsSafe sha256 settings s' := by
  have apart {other : Nat} {row : Commit} (different : other ≠ commitId) (kept : s.commits.get other = some row) :
      row.sequence ≠ commit.sequence :=
    fun same => different (safe.distinct _ _ _ _ kept step.stored same)
  refine ⟨step.files, named, ?_, ?_, ?_, rows⟩
  · intro other row kept
    by_cases same : other = commitId
    · subst same
      exact (step.own row kept).2
    · have before := step.others other row same kept
      have was := safe.commits other row before
      refine ⟨step.nextSequence ▸ was.issued, ?_, fun holds => step.lock other same (was.held holds),
        stages other row same before⟩
      intro armed file found
      rw [Commit.temporary, step.process, step.temporaries _ (apart same before)] at found
      exact was.temporary armed file found
  · intro left right row other first second same
    by_cases leftOwn : left = commitId <;> by_cases rightOwn : right = commitId
    · exact leftOwn.trans rightOwn.symm
    · subst leftOwn
      exact absurd (same.symm.trans (step.own row first).1) (apart rightOwn (step.others _ _ rightOwn second))
    · subst rightOwn
      exact absurd (same.trans (step.own other second).1) (apart leftOwn (step.others _ _ leftOwn first))
    · exact safe.distinct _ _ _ _ (step.others _ _ leftOwn first) (step.others _ _ rightOwn second) same
  · intro collectionId collection kept
    exact collected collectionId collection (step.collections ▸ kept)

theorem CommitStep.blobsSafe (step : CommitStep sha256 settings s s' commitId commit)
    (same : SameBlobs s s') : BlobsSafe sha256 settings s' := by
  refine step.safe_of_stages safe (fun other row _ stored => same.stage (safe.commits other row stored).stage) ?_
    (fun collectionId collection stored => same.collection (safe.collections collectionId collection stored)) ?_
  · intro digest file found
    exact safe.named digest file (same.blobs digest ▸ found)
  · intro digest row stored
    rw [same.rows] at stored
    simpa only [same.blobs] using safe.rows digest row stored

theorem failCommit_safe (stored : s.commits.get commitId = some commit) :
    BlobsSafe sha256 settings (failCommit commitId commit s) := by
  have directory (name : FileName Digest) (other : name ≠ commit.temporary s) :
      (failCommit commitId commit s).directory.get name = s.directory.get name := by
    unfold failCommit
    dsimp only
    split
    next => exact Table.get_erase_ne _ other
    next => rfl
  have step : CommitStep sha256 settings s (failCommit commitId commit s) commitId commit := by
    refine ⟨stored, ?_, ?_, rfl, rfl, rfl, ?_, ?_, ?_⟩
    · intro other row _ kept
      exact Table.get_of_get_erase kept
    · intro row kept
      simp [failCommit] at kept
    · intro other different held
      have notOwn : s.commitLock ≠ some commitId := fun own => different (Option.some.inj (held.symm.trans own))
      simpa [failCommit, notOwn] using held
    · intro sequence different
      exact directory _ (fun same => different (FileName.temporary.inj same).2)
    · intro name file found
      refine safe.files name file ?_
      unfold failCommit at found
      dsimp only at found
      split at found
      next => exact Table.get_of_get_erase found
      next => exact found
  exact step.blobsSafe safe ⟨Nat.le_refl _, fun digest => directory _ (by rintro ⟨⟩), rfl⟩

theorem BlobsSafe.at_stage {stage} (stored : s.commits.get commitId = some commit) (current : commit.stage = stage) :
    CommitSafe sha256 settings s commitId { commit with stage } := by
  subst current
  exact safe.commits commitId commit stored

theorem setStage_safe {before} (stored : s.commits.get commitId = some commit) (current : commit.stage = before) (stage)
    (armed : Commit.armed { commit with stage := before } = true)
    (holds : stage.holdsLock = true → before.holdsLock = true)
    (next : StageSafe settings s (sha256 commit.content) commit.content.length stage) :
    BlobsSafe sha256 settings (setStage commitId commit stage s) := by
  have was := safe.at_stage stored current
  have step : CommitStep sha256 settings s (setStage commitId commit stage s) commitId commit := by
    refine .of_put stored rfl rfl ?_ rfl rfl rfl (fun _ _ held => held) (fun _ _ => rfl) safe.files
    exact ⟨was.issued, fun _ => was.temporary armed, fun own => was.held (holds own), next⟩
  exact step.blobsSafe safe ⟨Nat.le_refl _, fun _ => rfl, rfl⟩

omit safe in
theorem changeOpened_other {name other : FileName Digest} {inode} {change : StoredFile → StoredFile}
    {directory : Table (FileName Digest) StoredFile} (different : other ≠ name) :
    (changeOpened name inode change directory).get other = directory.get other := by
  unfold changeOpened
  split
  next =>
    split
    next => exact Table.get_put_ne _ _ different
    next => rfl
  next => rfl

omit safe in
theorem changeOpened_self {name : FileName Digest} {inode} {change : StoredFile → StoredFile}
    {directory : Table (FileName Digest) StoredFile} {file}
    (found : (changeOpened name inode change directory).get name = some file) :
    ∃ before, directory.get name = some before ∧ (file = change before ∨ before.inode ≠ inode ∧ file = before) := by
  unfold changeOpened at found
  split at found
  next before present =>
    refine ⟨before, present, ?_⟩
    split at found
    next => exact .inl (Option.some.inj (found.symm.trans (Table.get_put_self ..)))
    next foreign => exact .inr ⟨foreign, Option.some.inj (found.symm.trans present)⟩
  next missing => exact absurd (missing.symm.trans found) (by simp)

omit [DecidableEq Digest] safe in
@[simp] theorem commitAt_eq_ok : commitAt commitId s = .ok commit ↔ s.commits.get commitId = some commit := require_eq_ok

theorem createTemporaryFile_safe
    (stepped : createTemporaryFile commitId s = .ok s') : BlobsSafe sha256 settings s' := by
  simp only [createTemporaryFile, eq_ok] at stepped
  obtain ⟨_, fresh, stepped⟩ := stepped
  -- Names already handed out lie below the next sequence number, and a new one is free.
  have later {next : Nat} (grows : s.nextSequence ≤ next) {other : Nat} {row : Commit}
      (kept : s.commits.get other = some row) : row.sequence < next :=
    Nat.lt_of_lt_of_le (safe.commits other row kept).issued grows
  split at stepped
  next =>
    cases stepped
    refine ⟨safe.files, safe.named, ?_, safe.distinct, safe.collections, safe.rows⟩
    intro other row kept
    have was := safe.commits other row kept
    exact ⟨later (Nat.le_add_right _ _) kept, was.temporary, was.held, was.stage⟩
  next sequence free =>
    cases stepped
    obtain ⟨least, _⟩ := List.mem_range'_1.mp (List.mem_of_find?_eq_some free)
    have used {other : Nat} {row : Commit} (kept : s.commits.get other = some row) : row.sequence ≠ sequence :=
      fun same => absurd (later least kept) (by omega)
    have same : SameBlobs s { s with
        nextSequence := sequence + 1
        nextInode := s.nextInode + 1
        directory := s.directory.put (.temporary s.process sequence) ⟨s.nextInode, [], s.clock⟩
        commits := s.commits.put commitId { sequence, handle := s.nextInode } } :=
      ⟨Nat.le_refl _, fun _ => Table.get_put_ne _ _ (by simp), rfl⟩
    refine ⟨?_, ?_, ?_, ?_, fun id row kept => same.collection (safe.collections id row kept), ?_⟩
    · intro name file found
      rcases Table.of_get_put found with ⟨_, rfl⟩ | ⟨_, found⟩
      · exact Nat.le_refl _
      · exact safe.files name file found
    · intro digest file found
      exact safe.named digest file (same.blobs digest ▸ found)
    · intro other row kept
      rcases Table.of_get_put kept with ⟨_, rfl⟩ | ⟨_, kept⟩
      · refine ⟨Nat.lt_succ_self _, ?_, by rintro ⟨⟩, trivial⟩
        intro _ file found
        obtain rfl := Option.some.inj ((Table.get_put_self ..).symm.trans found)
        exact ⟨rfl, rfl⟩
      · have was := safe.commits other row kept
        refine ⟨later (Nat.le_succ_of_le least) kept, ?_, was.held, same.stage was.stage⟩
        intro armed file found
        refine was.temporary armed file ?_
        exact (Table.get_put_ne _ _ fun clash => used kept (FileName.temporary.inj clash).2).symm.trans found
    · intro left right row other first second clash
      rcases Table.of_get_put first with ⟨rfl, rfl⟩ | ⟨_, earlier⟩ <;>
        rcases Table.of_get_put second with ⟨rfl, rfl⟩ | ⟨_, later⟩
      · rfl
      · exact absurd clash.symm (used later)
      · exact absurd clash (used earlier)
      · exact safe.distinct _ _ _ _ earlier later clash
    · intro digest row stored
      simpa only [same.blobs] using safe.rows digest row stored

theorem write_safe {chunk}
    (stepped : write settings commitId chunk s = .ok s') : BlobsSafe sha256 settings s' := by
  simp only [write, eq_ok, commitAt_eq_ok] at stepped
  obtain ⟨commit, stored, _, writing, stepped⟩ := stepped
  split at stepped
  next => cases stepped; exact failCommit_safe safe stored
  next =>
    have was := safe.at_stage stored writing
    cases stepped
    -- The file under the temporary name is the one the handle writes.
    have written (file : StoredFile) (found : (changeOpened (commit.temporary s) commit.handle
        (fun file => { file with content := file.content ++ chunk, modified := s.clock }) s.directory).get
          (commit.temporary s) = some file) :
        file.inode = commit.handle ∧ file.content = commit.content ++ chunk ∧ file.modified ≤ s.clock := by
      obtain ⟨before, present, rfl | ⟨foreign, _⟩⟩ := changeOpened_self found
      · obtain ⟨inode, content⟩ := was.temporary rfl before present
        exact ⟨inode, congrArg (· ++ chunk) content, Nat.le_refl _⟩
      · exact absurd (was.temporary rfl before present).1 foreign
    refine CommitStep.blobsSafe safe (?_ : CommitStep sha256 settings s _ commitId commit)
      ⟨Nat.le_refl _, fun digest => changeOpened_other (by rintro ⟨⟩), rfl⟩
    refine .of_put stored rfl rfl ?_ rfl rfl rfl (fun _ _ held => held) ?_ ?_
    · refine ⟨was.issued, ?_, ?_, ?_⟩
      · intro _ file found
        obtain ⟨inode, content, _⟩ := written file found
        exact ⟨inode, content⟩
      · simp [writing, CommitStage.holdsLock]
      · simp [writing, StageSafe]
    · intro sequence different
      exact changeOpened_other fun clash => different (FileName.temporary.inj clash).2
    · intro name file found
      by_cases own : name = commit.temporary s
      · subst own
        exact (written file found).2.2
      · exact safe.files name file ((changeOpened_other own).symm.trans found)

theorem finish_safe (stepped : finish commitId s = .ok s') :
    BlobsSafe sha256 settings s' := by
  simp only [finish, eq_ok, commitAt_eq_ok] at stepped
  obtain ⟨commit, stored, _, writing, rfl⟩ := stepped
  exact setStage_safe safe stored writing _ rfl (by rintro ⟨⟩) trivial

theorem lock_safe (stepped : lock commitId s = .ok s') :
    BlobsSafe sha256 settings s' := by
  simp only [lock, eq_ok, commitAt_eq_ok] at stepped
  obtain ⟨commit, stored, _, ⟨hashed, free⟩, rfl⟩ := stepped
  have was := safe.at_stage stored hashed
  refine CommitStep.blobsSafe safe (?_ : CommitStep sha256 settings s _ commitId commit)
    ⟨Nat.le_refl _, fun _ => rfl, rfl⟩
  refine .of_put stored rfl rfl ?_ rfl rfl rfl ?_ (fun _ _ => rfl) safe.files
  · exact ⟨was.issued, fun _ => was.temporary rfl, fun _ => rfl, trivial⟩
  · intro other _ held
    exact absurd (free.symm.trans held) (by simp)

theorem inspect_safe (stepped : inspect sha256 commitId s = .ok s') :
    BlobsSafe sha256 settings s' := by
  simp only [inspect, eq_ok, commitAt_eq_ok] at stepped
  obtain ⟨commit, stored, _, locked, stepped⟩ := stepped
  split at stepped
  next => cases stepped; exact setStage_safe safe stored locked _ rfl (fun _ => rfl) trivial
  next missing => cases stepped; exact setStage_safe safe stored locked _ rfl (fun _ => rfl) missing

theorem verify_safe (stepped : verify sha256 settings commitId s = .ok s') :
    BlobsSafe sha256 settings s' := by
  simp only [verify, eq_ok, commitAt_eq_ok] at stepped
  obtain ⟨commit, stored, _, found, stepped⟩ := stepped
  split at stepped
  next => cases stepped; exact failCommit_safe safe stored
  next file present =>
    split at stepped
    next checked =>
      cases stepped
      refine setStage_safe safe stored found _ rfl (fun _ => rfl) ?_
      intro current same
      obtain rfl := Option.some.inj (present.symm.trans same)
      exact checked.2.2
    next => cases stepped; exact failCommit_safe safe stored

theorem restrict_safe (stepped : restrict sha256 commitId s = .ok s') :
    BlobsSafe sha256 settings s' := by
  simp only [restrict, eq_ok, commitAt_eq_ok] at stepped
  obtain ⟨commit, stored, _, verified, stepped⟩ := stepped
  split at stepped
  next => cases stepped; exact failCommit_safe safe stored
  next =>
    cases stepped
    exact setStage_safe safe stored verified _ rfl (fun _ => rfl) (safe.at_stage stored verified).stage

theorem openExisting_safe (stepped : openExisting sha256 commitId s = .ok s') :
    BlobsSafe sha256 settings s' := by
  simp only [openExisting, eq_ok, commitAt_eq_ok] at stepped
  obtain ⟨commit, stored, _, restricted, stepped⟩ := stepped
  split at stepped
  next => cases stepped; exact failCommit_safe safe stored
  next file present =>
    cases stepped
    have size := (safe.at_stage stored restricted).stage
    exact setStage_safe safe stored restricted _ rfl (fun _ => rfl) ⟨file, present, size file present, rfl⟩

theorem readClock_safe (stepped : readClock commitId s = .ok s') :
    BlobsSafe sha256 settings s' := by
  simp only [readClock, bind_eq_ok, commitAt_eq_ok] at stepped
  obtain ⟨commit, stored, stepped⟩ := stepped
  split at stepped
  next inode opened =>
    cases stepped
    obtain ⟨file, present, size, same⟩ := (safe.at_stage stored opened).stage
    exact setStage_safe safe stored opened _ rfl (fun _ => rfl)
      ⟨Nat.le_refl _, file, present, size, same, safe.files _ file present⟩
  next => cases stepped

theorem discard_safe (stepped : discard commitId s = .ok s') :
    BlobsSafe sha256 settings s' := by
  simp only [discard, bind_eq_ok, commitAt_eq_ok] at stepped
  obtain ⟨commit, stored, stepped⟩ := stepped
  split at stepped
  next modified refreshed =>
    split at stepped
    next => cases stepped; exact failCommit_safe safe stored
    next =>
      cases stepped
      have was := safe.at_stage stored refreshed
      have blobs (digest : Digest) :
          (s.directory.erase (commit.temporary s)).get (.blob digest) = s.directory.get (.blob digest) :=
        Table.get_erase_ne _ nofun
      refine CommitStep.blobsSafe safe (?_ : CommitStep sha256 settings s _ commitId commit)
        ⟨Nat.le_refl _, blobs, rfl⟩
      refine .of_put stored rfl rfl ?_ rfl rfl rfl ?_ ?_ ?_
      · refine ⟨was.issued, nofun, nofun, ?_⟩
        intro young
        obtain ⟨file, present, facts⟩ := was.stage young
        exact ⟨file, (blobs _).trans present, facts⟩
      · intro other different taken
        exact absurd (Option.some.inj (taken.symm.trans (was.held rfl))) different
      · intro sequence different
        exact Table.get_erase_ne _ fun clash => different (FileName.temporary.inj clash).2
      · intro name file found
        exact safe.files name file (Table.get_of_get_erase found)
  next => cases stepped

theorem settle_safe (stepped : settle sha256 commitId s = .ok s') :
    BlobsSafe sha256 settings s' := by
  simp only [settle, bind_eq_ok, commitAt_eq_ok] at stepped
  obtain ⟨commit, stored, stepped⟩ := stepped
  split at stepped
  next modified published =>
    split at stepped
    next => cases stepped; exact failCommit_safe safe stored
    next =>
      cases stepped
      have was := safe.at_stage stored published
      refine CommitStep.blobsSafe safe (?_ : CommitStep sha256 settings s _ commitId commit)
        ⟨Nat.le_refl _, fun _ => rfl, rfl⟩
      refine .of_put stored rfl rfl ⟨was.issued, nofun, nofun, was.stage⟩ rfl rfl rfl ?_ (fun _ _ => rfl) safe.files
      intro other different taken
      exact absurd (Option.some.inj (taken.symm.trans (was.held rfl))) different
  next => cases stepped

theorem fail_safe (stepped : fail commitId s = .ok s') :
    BlobsSafe sha256 settings s' := by
  simp only [fail, eq_ok, commitAt_eq_ok] at stepped
  obtain ⟨commit, stored, rfl⟩ := stepped
  exact failCommit_safe safe stored

/-! ### Steps that refresh or add a blob -/

/-- Every blob stays with its content and no older time; rows and clock are the same. -/
structure BlobsGrow (s s' : World Digest) : Prop where
  clock : s'.clock = s.clock
  kept : ∀ digest file, s.directory.get (.blob digest) = some file →
    ∃ later, s'.directory.get (.blob digest) = some later ∧ later.content = file.content ∧
      file.modified ≤ later.modified
  rows : s'.rows = s.rows

omit safe in
theorem BlobsGrow.lasting (grow : BlobsGrow s s') {digest size modified}
    (lasting : Lasting settings s digest size modified) : Lasting settings s' digest size modified := by
  intro young
  obtain ⟨file, present, length, fresh⟩ := lasting (grow.clock ▸ young)
  obtain ⟨later, kept, content, raised⟩ := grow.kept digest file present
  exact ⟨later, kept, by rw [content, length], Nat.le_trans fresh raised⟩

theorem BlobsGrow.collection (grow : BlobsGrow s s') {collection} (before : CollectionSafe settings s collection) :
    CollectionSafe settings s' collection := by
  refine before.step grow.clock.ge (fun _ => grow.rows) fun now _ young digest row later stored unseen present => ?_
  rw [grow.rows] at stored
  obtain ⟨file, found, _⟩ := safe.rows digest row stored
  obtain ⟨_, kept, _, raised⟩ := grow.kept digest file found
  obtain rfl := Option.some.inj (kept.symm.trans present)
  exact Nat.lt_of_lt_of_le (young digest row file stored unseen found) (Nat.add_le_add_right raised _)

theorem CommitStep.safe_of_grow (step : CommitStep sha256 settings s s' commitId commit)
    (held : s.commitLock = some commitId) (grow : BlobsGrow s s')
    (named : ∀ digest file, s'.directory.get (.blob digest) = some file → sha256 file.content = digest) :
    BlobsSafe sha256 settings s' := by
  refine step.safe_of_stages safe ?_ named
    (fun collectionId collection stored => grow.collection safe (safe.collections collectionId collection stored)) ?_
  · intro other row different stored
    have was := safe.commits other row stored
    have unlocked : row.stage.holdsLock = false :=
      Bool.eq_false_iff.mpr fun holds => different (Option.some.inj ((was.held holds).symm.trans held))
    have stage := was.stage
    cases current : row.stage with
    | writing | hashed => exact trivial
    | returned modified =>
      rw [current] at stage
      exact grow.lasting stage
    | locked | found | verified | restricted | opened | timed | refreshed | absent | published =>
      simp [current, CommitStage.holdsLock] at unlocked
  · intro digest row stored
    rw [grow.rows] at stored
    obtain ⟨file, present, size⟩ := safe.rows digest row stored
    obtain ⟨later, kept, content, _⟩ := grow.kept digest file present
    exact ⟨later, kept, by rw [content, size]⟩

theorem refresh_safe (stepped : refresh sha256 commitId s = .ok s') :
    BlobsSafe sha256 settings s' := by
  simp only [refresh, bind_eq_ok, commitAt_eq_ok] at stepped
  obtain ⟨commit, stored, stepped⟩ := stepped
  split at stepped
  next inode now timed =>
    cases stepped
    have was := safe.at_stage stored timed
    have held := was.held rfl
    obtain ⟨past, file, present, size, same, older⟩ := was.stage
    have directory : changeOpened (commit.target sha256) inode (fun file => { file with modified := now })
        s.directory = s.directory.put (commit.target sha256) { file with modified := now } := by
      simp only [changeOpened, Commit.target, present, same, if_true]
    rw [directory]
    refine CommitStep.safe_of_grow safe (?_ : CommitStep sha256 settings s _ commitId commit) held
      ⟨rfl, ?_, rfl⟩ ?_
    · refine .of_put stored rfl rfl ?_ rfl rfl rfl (fun _ _ taken => taken) ?_ ?_
      · refine ⟨was.issued, ?_, fun _ => held, ?_⟩
        · intro _ temporary found
          have apart : commit.temporary s ≠ commit.target sha256 := nofun
          exact was.temporary rfl temporary ((Table.get_put_ne _ _ apart).symm.trans found)
        · intro _
          exact ⟨_, Table.get_put_self .., size, Nat.le_refl _⟩
      · intro number _
        exact Table.get_put_ne _ _ nofun
      · intro name current found
        rcases Table.of_get_put found with ⟨_, rfl⟩ | ⟨_, before⟩
        · exact past
        · exact safe.files name current before
    · intro digest current found
      by_cases target : FileName.blob digest = commit.target sha256
      · rw [target] at found
        obtain rfl := Option.some.inj (present.symm.trans found)
        exact ⟨{ file with modified := now }, target ▸ Table.get_put_self .., rfl, older⟩
      · exact ⟨current, (Table.get_put_ne _ _ target).trans found, rfl, Nat.le_refl _⟩
    · intro digest current found
      rcases Table.of_get_put found with ⟨target, rfl⟩ | ⟨_, before⟩
      · cases target
        exact safe.named _ file present
      · exact safe.named digest current before
  next => cases stepped

theorem publish_safe (stepped : publish sha256 commitId s = .ok s') :
    BlobsSafe sha256 settings s' := by
  simp only [publish, eq_ok, commitAt_eq_ok] at stepped
  obtain ⟨commit, stored, _, absent, stepped⟩ := stepped
  split at stepped
  next => cases stepped; exact failCommit_safe safe stored
  next file present =>
    cases stepped
    have was := safe.at_stage stored absent
    have held := was.held rfl
    have free := was.stage
    obtain ⟨_, content⟩ := was.temporary rfl file present
    have other (name : FileName Digest) (target : name ≠ commit.target sha256) (own : name ≠ commit.temporary s) :
        ((s.directory.erase (commit.temporary s)).put (commit.target sha256) file).get name =
          s.directory.get name := by
      rw [Table.get_put_ne _ _ target, Table.get_erase_ne _ own]
    refine CommitStep.safe_of_grow safe (?_ : CommitStep sha256 settings s _ commitId commit) held
      ⟨rfl, ?_, rfl⟩ ?_
    · refine .of_put stored rfl rfl ?_ rfl rfl rfl (fun _ _ taken => taken) ?_ ?_
      · refine ⟨was.issued, by rintro ⟨⟩, fun _ => held, ?_⟩
        intro _
        exact ⟨file, Table.get_put_self .., congrArg List.length content, Nat.le_refl _⟩
      · intro number different
        exact other _ (by rintro ⟨⟩) fun clash => different (FileName.temporary.inj clash).2
      · intro name current found
        rcases Table.of_get_put found with ⟨_, rfl⟩ | ⟨_, found⟩
        · exact safe.files _ _ present
        · exact safe.files name current (Table.get_of_get_erase found)
    · intro digest current found
      have target : FileName.blob digest ≠ commit.target sha256 := by
        intro same
        cases same
        exact absurd (free.symm.trans found) (by simp)
      exact ⟨current, (other _ target (by rintro ⟨⟩)).trans found, rfl, Nat.le_refl _⟩
    · intro digest current found
      rcases Table.of_get_put found with ⟨target, rfl⟩ | ⟨_, found⟩
      · cases target
        exact congrArg sha256 content
      · exact safe.named digest current (Table.get_of_get_erase found)

omit safe in
theorem RowsYoung.insert {referenced now digest row file} (young : RowsYoung settings s referenced now)
    (fresh : now < file.modified + settings.minimumAge) (present : s.directory.get (.blob digest) = some file)
    (rows : s'.rows = s.rows.put digest row) (directory : s'.directory = s.directory) :
    RowsYoung settings s' referenced now := by
  intro other kept found inserted unseen there
  rw [directory] at there
  rw [rows] at inserted
  rcases Table.of_get_put inserted with ⟨rfl, _⟩ | ⟨_, inserted⟩
  · cases present.symm.trans there
    exact fresh
  · exact young other kept found inserted unseen there

theorem insertRow_safe {committedAt}
    (timely : (Operation.insertRow commitId committedAt).Timely sha256 settings s)
    (stepped : insertRow sha256 commitId committedAt s = .ok s') : BlobsSafe sha256 settings s' := by
  simp only [insertRow, bind_eq_ok, commitAt_eq_ok] at stepped
  obtain ⟨commit, stored, stepped⟩ := stepped
  split at stepped
  next modified returned =>
    split at stepped
    next agrees =>
      cases stepped
      simp only [Operation.Timely, stored, Option.map_some, returned] at timely
      obtain ⟨young, started⟩ := timely
      obtain ⟨file, present, size, fresh⟩ := (safe.at_stage stored returned).stage young
      refine CommitStep.safe_of_stages safe (?_ : CommitStep sha256 settings s _ commitId commit)
        (fun other row _ kept => (safe.commits other row kept).stage) safe.named ?_ ?_
      · refine ⟨stored, fun _ _ _ kept => Table.get_of_get_erase kept, ?_, rfl, rfl, rfl, fun _ _ taken => taken,
          fun _ _ => rfl, safe.files⟩
        intro row kept
        simp at kept
      · intro collectionId collection kept
        have running := (Table.any_eq_false _ _).mp started collectionId collection kept
        refine (safe.collections collectionId collection kept).step le_rfl
          (fun snapshot => absurd snapshot (of_decide_eq_false running)) fun now past rowsYoung => ?_
        exact rowsYoung.insert (Nat.lt_of_le_of_lt past (Nat.lt_of_lt_of_le young (Nat.add_le_add_right fresh _)))
          present rfl rfl
      · intro digest row inserted
        rcases Table.of_get_put inserted with ⟨rfl, rfl⟩ | ⟨_, inserted⟩
        · exact ⟨file, present, size.trans agrees.symm⟩
        · exact safe.rows digest row inserted
    next => cases stepped; exact failCommit_safe safe stored
  next => cases stepped

/-! ### Steps of a collection -/

variable {collectionId : Nat} {collection : Collection Digest}

theorem setCollection_safe (next : CollectionSafe settings s collection) :
    BlobsSafe sha256 settings (setCollection collectionId collection s) := by
  refine ⟨safe.files, safe.named, fun id row kept => ?_, safe.distinct, ?_, safe.rows⟩
  · have was := safe.commits id row kept
    exact ⟨was.issued, was.temporary, was.held, was.stage⟩
  · intro id row kept
    rcases Table.of_get_put kept with ⟨_, rfl⟩ | ⟨_, kept⟩
    · exact next
    · exact safe.collections id row kept

theorem dropCollection_safe :
    BlobsSafe sha256 settings (dropCollection collectionId s) := by
  refine ⟨safe.files, safe.named, fun id row kept => ?_, safe.distinct, fun id row kept => ?_, safe.rows⟩
  · have was := safe.commits id row kept
    exact ⟨was.issued, was.temporary, was.held, was.stage⟩
  · exact safe.collections id row (Table.get_of_get_erase kept)

omit [DecidableEq Digest] safe in
@[simp] theorem collectionAt_eq_ok :
    collectionAt collectionId s = .ok collection ↔ s.collections.get collectionId = some collection := require_eq_ok

theorem readReferenced_safe (stepped : readReferenced collectionId s = .ok s') :
    BlobsSafe sha256 settings s' := by
  simp only [readReferenced, eq_ok] at stepped
  obtain ⟨_, _, rfl⟩ := stepped
  refine setCollection_safe safe ?_
  intro digest row stored
  exact List.mem_map.mpr ⟨(digest, row), (Table.mem_entries ..).mpr stored, rfl⟩

theorem startCollection_safe
    (stepped : startCollection settings collectionId s = .ok s') : BlobsSafe sha256 settings s' := by
  simp only [startCollection, eq_ok, collectionAt_eq_ok] at stepped
  obtain ⟨collection, stored, _, snapshot, stepped⟩ := stepped
  split at stepped
  next => cases stepped; exact dropCollection_safe safe
  next positive =>
    cases stepped
    have all := safe.collections collectionId collection stored
    simp only [CollectionSafe, snapshot] at all
    refine setCollection_safe safe ⟨Nat.le_refl _, Nat.pos_of_ne_zero positive, ?_⟩
    intro digest row _ kept unseen
    exact absurd (all digest row kept) unseen

theorem examine_safe {name}
    (stepped : examine settings collectionId name s = .ok s') : BlobsSafe sha256 settings s' := by
  simp only [examine, bind_eq_ok, collectionAt_eq_ok] at stepped
  obtain ⟨collection, stored, stepped⟩ := stepped
  split at stepped
  next now scanning =>
    have was := safe.collections collectionId collection stored
    have facts := was
    simp only [CollectionSafe, scanning] at facts
    obtain ⟨past, positive, young⟩ := facts
    split at stepped
    next => cases stepped; exact dropCollection_safe safe
    next file present =>
      split at stepped
      next => cases stepped; exact setCollection_safe safe was
      next unseen =>
        split at stepped
        next => cases stepped; exact setCollection_safe safe was
        next old =>
          cases stepped
          have aged : file.modified + settings.minimumAge ≤ now := by
            have difference := Nat.not_lt.mp old
            exact Nat.add_comm .. ▸ Nat.add_le_of_le_sub (Nat.le_of_lt (Nat.lt_of_sub_pos
              (Nat.lt_of_lt_of_le positive difference))) difference
          exact setCollection_safe safe ⟨past, positive, young, aged, Bool.eq_false_iff.mpr unseen⟩
  next => cases stepped

theorem stop_safe (stepped : stop collectionId s = .ok s') :
    BlobsSafe sha256 settings s' := by
  simp only [stop, eq_ok] at stepped
  obtain ⟨_, _, rfl⟩ := stepped
  exact dropCollection_safe safe

theorem erase_safe {name}
    (old : ∀ digest file, name = .blob digest → s.directory.get name = some file →
      file.modified + settings.minimumAge ≤ s.clock ∧ s.rows.get digest = none)
    (closed : s.isOpened sha256 name = false) :
    BlobsSafe sha256 settings { s with directory := s.directory.erase name } := by
  have still {digest : Digest} {file : StoredFile} (present : s.directory.get (.blob digest) = some file)
      (young : s.clock < file.modified + settings.minimumAge) :
      (s.directory.erase name).get (.blob digest) = some file := by
    by_cases same : FileName.blob digest = name
    · exact absurd young (Nat.not_lt.mpr (old digest file same.symm (same ▸ present)).1)
    · exact (Table.get_erase_ne _ same).trans present
  have unopened {commitId : Nat} {commit : Commit} (stored : s.commits.get commitId = some commit)
      (opened : commit.stage.isOpen = true) : FileName.blob (sha256 commit.content) ≠ name := by
    have never := (Table.any_eq_false _ _).mp closed commitId commit stored
    intro same
    simp [opened, Commit.target, same] at never
  refine ⟨fun _ file found => safe.files _ file (Table.get_of_get_erase found),
    fun _ file found => safe.named _ file (Table.get_of_get_erase found), ?_, safe.distinct, ?_, ?_⟩
  · intro commitId commit stored
    have was := safe.commits commitId commit stored
    have stage := was.stage
    refine ⟨was.issued, fun armed file found => was.temporary armed file (Table.get_of_get_erase found), was.held, ?_⟩
    cases current : commit.stage with
    | writing | hashed | locked | found => exact trivial
    | absent =>
      rw [current] at stage
      exact Option.eq_none_iff_forall_ne_some.mpr fun file found =>
        absurd (stage.symm.trans (Table.get_of_get_erase found)) (by simp)
    | verified | restricted =>
      rw [current] at stage
      exact fun file found => stage file (Table.get_of_get_erase found)
    | opened | timed =>
      rw [current] at stage
      have kept : (s.directory.erase name).get (.blob (sha256 commit.content)) = _ :=
        Table.get_erase_ne _ (unopened stored (by simp [current, CommitStage.isOpen]))
      simpa only [StageSafe, kept] using stage
    | refreshed modified | published modified | returned modified =>
      rw [current] at stage
      intro young
      obtain ⟨file, present, size, fresh⟩ := stage young
      exact ⟨file, still present (Nat.lt_of_lt_of_le young (Nat.add_le_add_right fresh _)), size, fresh⟩
  · intro collectionId collection stored
    exact (safe.collections collectionId collection stored).step le_rfl (fun _ => rfl) fun _ _ was digest row file kept
      unseen found => was digest row file kept unseen (Table.get_of_get_erase found)
  · intro digest row stored
    obtain ⟨file, present, size⟩ := safe.rows digest row stored
    have other : FileName.blob digest ≠ name := by
      intro same
      exact absurd ((old digest file same.symm (same ▸ present)).2.symm.trans stored) (by simp)
    exact ⟨file, (Table.get_erase_ne _ other).trans present, size⟩

theorem remove_safe
    (timely : (Operation.remove collectionId).Timely sha256 settings s)
    (stepped : remove collectionId s = .ok s') : BlobsSafe sha256 settings s' := by
  simp only [remove, bind_eq_ok, collectionAt_eq_ok] at stepped
  obtain ⟨collection, stored, stepped⟩ := stepped
  split at stepped
  next now name modified length aged =>
    split at stepped
    next => cases stepped; exact dropCollection_safe safe
    next file present =>
      cases stepped
      have was := safe.collections collectionId collection stored
      simp only [CollectionSafe, aged] at was
      obtain ⟨past, positive, young, old, unseen⟩ := was
      simp only [Operation.Timely, stored, Option.map_some, aged, present, Option.all_some, decide_eq_true_eq] at timely
      obtain ⟨unchanged, closed⟩ := timely
      have removed : BlobsSafe sha256 settings { s with directory := s.directory.erase name } := by
        refine erase_safe safe ?_ closed
        intro digest current same found
        obtain rfl := Option.some.inj (present.symm.trans found)
        rw [← unchanged] at old
        refine ⟨Nat.le_trans old past, Option.eq_none_iff_forall_ne_some.mpr fun row kept => ?_⟩
        subst same
        have absent : digest ∉ collection.referenced := of_decide_eq_false unseen
        exact absurd (young digest row file kept absent present) (Nat.not_lt.mpr old)
      refine setCollection_safe removed ⟨past, positive, ?_⟩
      exact fun digest row current kept unlisted found =>
        young digest row current kept unlisted (Table.get_of_get_erase found)
  next => cases stepped

/-! ### Whole runs -/

omit safe in
theorem initial_safe : BlobsSafe sha256 settings (World.initial Digest) := by
  refine ⟨?_, ?_, ?_, ?_, ?_, ?_⟩ <;> intros <;> simp_all [World.initial]

theorem exec_safe {op} (timely : op.Timely sha256 settings s)
    (stepped : exec sha256 settings op s = .ok s') : BlobsSafe sha256 settings s' := by
  cases op with
  | tick elapsed =>
    cases stepped
    have same : SameBlobs s { s with clock := s.clock + elapsed } := ⟨Nat.le_add_right _ _, fun _ => rfl, rfl⟩
    refine ⟨fun name file found => Nat.le_trans (safe.files name file found) same.clock, safe.named,
      fun id row stored => ?_, safe.distinct, fun id row stored => same.collection (safe.collections id row stored),
      safe.rows⟩
    have was := safe.commits id row stored
    exact ⟨was.issued, was.temporary, was.held, same.stage was.stage⟩
  | crash process =>
    cases stepped
    exact ⟨safe.files, safe.named, nofun, nofun, nofun, safe.rows⟩
  | createTemporaryFile => exact createTemporaryFile_safe safe stepped
  | write => exact write_safe safe stepped
  | finish => exact finish_safe safe stepped
  | lock => exact lock_safe safe stepped
  | inspect => exact inspect_safe safe stepped
  | verify => exact verify_safe safe stepped
  | restrict => exact restrict_safe safe stepped
  | openExisting => exact openExisting_safe safe stepped
  | readClock => exact readClock_safe safe stepped
  | refresh => exact refresh_safe safe stepped
  | discard => exact discard_safe safe stepped
  | publish => exact publish_safe safe stepped
  | settle => exact settle_safe safe stepped
  | insertRow => exact insertRow_safe safe timely stepped
  | fail => exact fail_safe safe stepped
  | readReferenced => exact readReferenced_safe safe stepped
  | startCollection => exact startCollection_safe safe stepped
  | examine => exact examine_safe safe stepped
  | remove => exact remove_safe safe timely stepped
  | stop => exact stop_safe safe stepped

end Invariant

/-- In every run whose removals and row insertions are timely, every row of
`artifact_blob` has its blob file, with the recorded digest and size. -/
theorem referenced_blobs_kept {Digest : Type} [DecidableEq Digest] {sha256 : Bytes → Digest} {settings : Settings}
    {s : World Digest}
    (reached : (artifactSystem sha256 settings).ReachableIf (fun op s => op.Timely sha256 settings s) s) :
    ∀ digest row, s.rows.get digest = some row →
      ∃ file, s.directory.get (.blob digest) = some file ∧ sha256 file.content = digest ∧
        file.content.length = row.sizeBytes := by
  have kept (op : Operation Digest) (before after : World Digest) (safe : BlobsSafe sha256 settings before)
      (timely : op.Timely sha256 settings before)
      (stepped : (artifactSystem sha256 settings).exec op before = .ok after) : BlobsSafe sha256 settings after :=
    exec_safe safe timely stepped
  have safe := reached.invariant initial_safe kept
  intro digest row stored
  obtain ⟨file, present, size⟩ := safe.rows digest row stored
  exact ⟨file, present, safe.named digest file present, size⟩

def firstCommit (commitId : Nat) (content : Bytes) : List (Operation Bytes) :=
  [.createTemporaryFile commitId, .write commitId content, .finish commitId, .lock commitId, .inspect commitId,
    .publish commitId, .settle commitId]

def repeatedCommit (commitId : Nat) (content : Bytes) : List (Operation Bytes) :=
  [.createTemporaryFile commitId, .write commitId content, .finish commitId, .lock commitId, .inspect commitId,
    .verify commitId, .restrict commitId, .openExisting commitId, .readClock commitId, .refresh commitId,
    .discard commitId]

def hourlyCollection : Settings := { maximumBlobBytes := 1024, minimumAge := 3600 }

theorem referenced_blobs_kept_after_collection :
    ∃ s, (artifactSystem id hourlyCollection).ReachableIf (fun op s => op.Timely id hourlyCollection s) s ∧
      s.rows.get [1, 2, 3] = some ⟨3, 0⟩ ∧
      ∃ file, s.directory.get (.blob [1, 2, 3]) = some file ∧ id file.content = [1, 2, 3] ∧
        file.content.length = 3 := by
  have run : ∃ s, (artifactSystem id hourlyCollection).ReachableIf (fun op s => op.Timely id hourlyCollection s) s ∧
      s.rows.get [1, 2, 3] = some ⟨3, 0⟩ :=
    System.exists_reachableIf
      (firstCommit 0 [1, 2, 3] ++ [.insertRow 0 0, .tick 7200, .readReferenced 0, .startCollection 0,
        .examine 0 (.blob [1, 2, 3]), .stop 0]) (by decide +kernel)
  obtain ⟨s, reached, stored⟩ := run
  exact ⟨s, reached, stored, referenced_blobs_kept reached _ _ stored⟩

/-- The collector examines an old blob without a row; before it removes the file, a
commit of the same content re-uses it and inserts its row. -/
theorem reused_blob_collected :
    ∃ s, (artifactSystem id hourlyCollection).Reachable s ∧
      s.rows.get [1, 2, 3] = some ⟨3, 0⟩ ∧ s.directory.get (.blob [1, 2, 3]) = none :=
  System.exists_reachableIf
    (firstCommit 0 [1, 2, 3] ++ [.fail 0, .tick 7200, .readReferenced 0, .startCollection 0,
      .examine 0 (.blob [1, 2, 3])] ++ repeatedCommit 1 [1, 2, 3] ++ [.insertRow 1 0, .remove 0]) (by decide +kernel)

end Mealy.Artifacts
