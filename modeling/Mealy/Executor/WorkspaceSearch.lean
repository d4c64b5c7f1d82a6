import Mealy.Executor.WorkspaceRead
import Mealy.Lib.BreadthFirst

/-! Searching a workspace (`workspace.rs`). One flag says that some bound cut the search short, at
any of four nested loops; a search that ends without it has found every line. -/

namespace Mealy.Executor
open BreadthFirst Transaction Utf8Text

/-! ### The tree and the lines of a file -/

inductive FileType where
  | directory | file | other

/-- What a path names. A directory lists names as bytes with the types the system reports; `.` and
`..` are skipped by the code before anything is counted. -/
inductive Node where
  | directory (entries : List (List UInt8 × FileType))
  | file (content : List UInt8)
  | other

def Node.fileType : Node → FileType
  | .directory _ => .directory
  | .file _ => .file
  | .other => .other

/-- An unchanging workspace: what stands at a path that is reached without a symbolic link, and
the paths the system refuses to open. -/
structure WorkspaceTree where
  node : String → Option Node
  refused : String → Option ReadToolError

def openWorkspacePath (workspace : WorkspaceTree) (path : String) : Except ReadToolError Node :=
  match workspace.refused path with
  | some error => .error error
  | none => require (workspace.node path) .notFound

def openDirectory (workspace : WorkspaceTree) (path : String) : Except ReadToolError (List (List UInt8 × FileType)) := do
  match ← openWorkspacePath workspace path with
  | .directory entries => pure entries
  | _ => .error .notFound

def openFile (workspace : WorkspaceTree) (path : String) : Except ReadToolError (List UInt8) := do
  match ← openWorkspacePath workspace path with
  | .file content => pure content
  | _ => .error (.unavailable "workspace search read failed")

def childPath (directory name : String) : String := if directory = "" then name else directory ++ "/" ++ name

/-- `str::split_inclusive('\n')` -/
def splitInclusive : List Char → List (List Char)
  | [] => []
  | c :: rest =>
    if c = '\n' then [c] :: splitInclusive rest
    else
      match splitInclusive rest with
      | [] => [[c]]
      | piece :: pieces => (c :: piece) :: pieces

/-- A line without its line feed, and without a carriage return before it. -/
def stripLine (piece : List Char) : List Char :=
  if piece.getLast? = some '\n' then
    if piece.dropLast.getLast? = some '\r' then piece.dropLast.dropLast else piece.dropLast
  else piece

/-- `str::lines` -/
def lines (text : String) : List (List Char) := (splitInclusive text.toList).map stripLine

/-! ### The search -/

structure SearchArguments where
  (workspaceId query : String)
  path : String := ""
  maximumResults : Nat := 25

/-- `validate_operation_arguments` of a search. -/
def SearchArguments.validate (arguments : SearchArguments) : Except ReadToolError Unit := do
  ensure (canonicalWorkspaceId arguments.workspaceId) (.invalidArguments "workspaceId is invalid")
  ensure (validateLogicalPath arguments.path true)
    (.invalidArguments "path must be a normalized relative workspace path")
  ensure (arguments.query ≠ "" ∧ arguments.query.utf8ByteSize ≤ 256 ∧ arguments.query.toList.all (fun c => !isControl c) ∧
      1 ≤ arguments.maximumResults ∧ arguments.maximumResults ≤ 100)
    (.invalidArguments "query or maximumResults is invalid")

def maximumSearchFiles : Nat := 10000
def maximumSearchDirectories : Nat := 10000
def maximumSearchEntries : Nat := 100000
def maximumSearchBytes : Nat := 16 * 1024 * 1024
def maximumSearchFileBytes : Nat := 1024 * 1024

structure SearchMatch where
  path : String
  line : Nat
  (sourceLocator snippet : String)

structure SearchProgress where
  found : List SearchMatch := []
  scannedFiles : Nat := 0
  scannedDirectories : Nat := 0
  scannedEntries : Nat := 0
  scannedBytes : Nat := 0
  truncated : Bool := false

def SearchProgress.push (progress : SearchProgress) (found : SearchMatch) : SearchProgress :=
  { progress with found := progress.found ++ [found] }

def SearchProgress.countFile (progress : SearchProgress) (read content : List UInt8) : SearchProgress :=
  { progress with
    scannedFiles := progress.scannedFiles + 1
    scannedBytes := progress.scannedBytes + read.length
    truncated := progress.truncated || decide (read.length < content.length) }

structure SearchOutput extends SearchProgress where
  (workspaceId path sourceLocator query : String)

variable (workspace : WorkspaceTree) (arguments : SearchArguments)

def matchAt (path : String) (line : List Char) (index : Nat) : SearchMatch where
  path := path
  line := index + 1
  sourceLocator := workspaceLocator arguments.workspaceId path ++ "#L" ++ toString (index + 1)
  snippet := String.ofList (line.take 512)

/-- The entries of a directory up to the bound, those with a name in UTF-8 kept. -/
def listEntries : List (List UInt8 × FileType) → SearchProgress → List (String × FileType) × SearchProgress
  | [], progress => ([], progress)
  | (encoded, fileType) :: rest, progress =>
    if maximumSearchEntries ≤ progress.scannedEntries then ([], { progress with truncated := true })
    else
      let listed := listEntries rest { progress with scannedEntries := progress.scannedEntries + 1 }
      match ofBytes encoded with
      | some name => ((name, fileType) :: listed.1, listed.2)
      | none => listed

def matchLines (path : String) : List (List Char × Nat) → SearchProgress → SearchProgress
  | [], progress => progress
  | (line, index) :: rest, progress =>
    if arguments.query.toList <:+: line then
      let progress := progress.push (matchAt arguments path line index)
      if arguments.maximumResults ≤ progress.found.length then { progress with truncated := true }
      else matchLines path rest progress
    else matchLines path rest progress

def scanChildren (directory : String) :
    List (String × FileType) → SearchProgress → Except ReadToolError (List String × SearchProgress)
  | [], progress => .ok ([], progress)
  | (name, .directory) :: rest, progress => do
    let (directories, progress) ← scanChildren directory rest progress
    pure (childPath directory name :: directories, progress)
  | (_, .other) :: rest, progress => scanChildren directory rest progress
  | (name, .file) :: rest, progress =>
    if maximumSearchFiles ≤ progress.scannedFiles ∨ maximumSearchBytes ≤ progress.scannedBytes then
      .ok ([], { progress with truncated := true })
    else do
      let content ← openFile workspace (childPath directory name)
      let bytes := content.take (min maximumSearchFileBytes (maximumSearchBytes - progress.scannedBytes))
      let progress := progress.countFile bytes content
      match ofBytes bytes with
      | none => if progress.truncated then pure ([], progress) else scanChildren directory rest progress
      | some text =>
        let progress := matchLines arguments (childPath directory name) (lines text).zipIdx progress
        if arguments.maximumResults ≤ progress.found.length then pure ([], progress)
        else scanChildren directory rest progress

def searchLoop : Nat → List String → SearchProgress → Except ReadToolError SearchProgress
  | _, [], progress => .ok progress
  | 0, _ :: _, progress => .ok { progress with truncated := true }
  | left + 1, directory :: pending, progress => do
    let entries ← openDirectory workspace directory
    let (children, progress) := listEntries entries
      { progress with scannedDirectories := progress.scannedDirectories + 1 }
    if progress.truncated then pure progress
    else
      let (directories, progress) ← scanChildren workspace arguments directory
        (children.insertionSort fun left right => left.1 ≤ right.1) progress
      if progress.truncated then pure progress else searchLoop left (pending ++ directories) progress

/-- `execute_search`, not cancelled. -/
def executeSearch : Except ReadToolError SearchOutput := do
  let _ ← openDirectory workspace arguments.path
  let progress ← searchLoop workspace arguments maximumSearchDirectories [arguments.path] {}
  pure { progress with
    workspaceId := arguments.workspaceId, path := arguments.path
    sourceLocator := workspaceLocator arguments.workspaceId arguments.path, query := arguments.query }

/-! ### What a search is for -/

/-- Reached from the searched path through directories only. -/
inductive Beneath (workspace : WorkspaceTree) (root : String) : String → Prop where
  | root : Beneath workspace root root
  | child {directory entries name fileType} (beneath : Beneath workspace root directory)
      (isDirectory : workspace.node directory = some (.directory entries)) (listed : (bytes name, fileType) ∈ entries) :
      Beneath workspace root (childPath directory name)

/-- The query occurs behind as many line feeds as there are lines before this one. -/
def OccursOn (content : List UInt8) (query : String) (line : Nat) : Prop :=
  ∃ before after, content = before ++ bytes query ++ after ∧ before.count 10 + 1 = line

def SearchMatch.Sound (found : SearchMatch) : Prop :=
  ∃ content, Beneath workspace arguments.path found.path ∧ workspace.node found.path = some (.file content) ∧
    OccursOn content arguments.query found.line

/-- The types a directory reports are those of its children. -/
def TrueTypes : Prop :=
  ∀ directory entries name fileType, workspace.node directory = some (.directory entries) →
    (bytes name, fileType) ∈ entries → ∃ node, workspace.node (childPath directory name) = some node ∧
      node.fileType = fileType

/-- The children of a directory with names in UTF-8, sorted by name. -/
def childPaths (directory : String) : List String :=
  match workspace.node directory with
  | some (.directory entries) =>
    ((entries.filterMap fun entry => ofBytes entry.1).insertionSort (· ≤ ·)).map (childPath directory)
  | _ => []

def isDirectory (path : String) : Bool :=
  match workspace.node path with
  | some (.directory _) => true
  | _ => false

def subdirectories (directory : String) : List String := (childPaths workspace directory).filter (isDirectory workspace)

def lineMatches (path : String) (numbered : List (List Char × Nat)) : List SearchMatch :=
  (numbered.filter fun line => arguments.query.toList <:+: line.1).map fun line => matchAt arguments path line.1 line.2

/-- Every line of a text file that contains the query. -/
def fileMatches (path : String) : List SearchMatch :=
  match workspace.node path with
  | some (.file content) =>
    match ofBytes content with
    | some text => lineMatches arguments path (lines text).zipIdx
    | none => []
  | _ => []

/-- The files of a directory in the order of their names. -/
def directoryMatches (directory : String) : List SearchMatch :=
  (childPaths workspace directory).flatMap (fileMatches workspace arguments)

/-! ### Lines -/

theorem splitInclusive_at {text : List Char} {i piece} (found : (splitInclusive text)[i]? = some piece) :
    ∃ before after, text = before ++ piece ++ after ∧ before.count '\n' = i ∧ (i = 0 → before = []) := by
  induction text generalizing i piece with
  | nil => cases found
  | cons c text ih =>
    rw [splitInclusive] at found
    split_ifs at found with feed
    · subst feed
      cases i with
      | zero =>
        cases found
        exact ⟨[], text, rfl, rfl, fun _ => rfl⟩
      | succ i =>
        obtain ⟨before, after, rfl, counted, -⟩ := ih found
        exact ⟨'\n' :: before, after, rfl, by rw [List.count_cons_self, counted], nofun⟩
    · cases pieces : splitInclusive text with
      | nil =>
        rw [pieces] at found
        obtain ⟨rfl, rfl⟩ : i = 0 ∧ piece = [c] := by
          cases i with
          | zero => exact ⟨rfl, (Option.some.inj found).symm⟩
          | succ i => cases found
        exact ⟨[], text, rfl, rfl, fun _ => rfl⟩
      | cons first rest =>
        rw [pieces] at found
        cases i with
        | zero =>
          cases found
          obtain ⟨before, after, shape, -, start⟩ := @ih 0 first (by rw [pieces]; rfl)
          obtain rfl := start rfl
          exact ⟨[], after, by rw [shape]; rfl, rfl, fun _ => rfl⟩
        | succ i =>
          obtain ⟨before, after, rfl, counted, -⟩ := @ih (i + 1) piece (by rw [pieces]; exact found)
          exact ⟨c :: before, after, rfl, by rw [List.count_cons_of_ne feed, counted], nofun⟩

theorem not_mem_dropLast_splitInclusive {text : List Char} {piece} (member : piece ∈ splitInclusive text) :
    '\n' ∉ piece.dropLast := by
  induction text generalizing piece with
  | nil => cases member
  | cons c text ih =>
    rw [splitInclusive] at member
    split_ifs at member with feed
    · rcases List.mem_cons.mp member with rfl | later
      · simp
      · exact ih later
    · cases pieces : splitInclusive text with
      | nil =>
        rw [pieces] at member
        rw [List.mem_singleton.mp member]
        simp
      | cons first rest =>
        rw [pieces] at member ih
        rcases List.mem_cons.mp member with rfl | later
        · have none := ih List.mem_cons_self
          cases first with
          | nil => simp
          | cons d first => simpa [Ne.symm feed] using none
        · exact ih (List.mem_cons_of_mem _ later)

theorem stripLine_prefix (piece : List Char) : stripLine piece <+: piece := by
  unfold stripLine
  split_ifs
  · exact (List.dropLast_prefix _).trans (List.dropLast_prefix _)
  · exact List.dropLast_prefix _
  · exact List.prefix_rfl

theorem not_mem_stripLine {piece : List Char} (none : '\n' ∉ piece.dropLast) : '\n' ∉ stripLine piece := by
  unfold stripLine
  split_ifs with feed
  · exact fun member => none ((List.dropLast_subset _) member)
  · exact none
  · intro member
    rcases List.eq_nil_or_concat piece with rfl | ⟨front, last, rfl⟩
    · cases member
    · simp at none feed member
      rcases member with front | rfl
      · exact none front
      · exact feed rfl

theorem lines_occurs {text : String} {line index query} (numbered : (line, index) ∈ (lines text).zipIdx)
    (contained : query <:+: line) :
    ∃ before after, text.toList = before ++ query ++ after ∧ before.count '\n' = index := by
  obtain ⟨piece, isPiece, rfl⟩ := by
    simpa [lines, List.mem_zipIdx_iff_getElem?, List.getElem?_map] using numbered
  obtain ⟨before, after, shape, counted, -⟩ := splitInclusive_at isPiece
  obtain ⟨left, right, isLine⟩ := contained
  obtain ⟨rest, isPrefix⟩ := stripLine_prefix piece
  have noFeed : '\n' ∉ left := by
    have none := not_mem_stripLine (not_mem_dropLast_splitInclusive (List.mem_of_getElem? isPiece))
    rw [← isLine] at none
    exact fun member => none (by simp [member])
  refine ⟨before ++ left, right ++ rest ++ after, ?_, ?_⟩
  · rw [shape, ← isPrefix, ← isLine]
    simp only [List.append_assoc]
  · rw [List.count_append, counted, List.count_eq_zero.mpr noFeed, Nat.add_zero]

/-! ### The loops -/

variable {workspace arguments} {path directory : String} {p p' : SearchProgress}

theorem lineMatches_sound {content text limit} (beneath : Beneath workspace arguments.path path)
    (isFile : workspace.node path = some (.file content)) (read : ofBytes (content.take limit) = some text)
    {found} (member : found ∈ lineMatches arguments path (lines text).zipIdx) : found.Sound workspace arguments := by
  obtain ⟨⟨line, index⟩, listed, rfl⟩ := List.mem_map.mp member
  obtain ⟨numbered, contained⟩ := List.mem_filter.mp listed
  obtain ⟨before, after, shape, counted⟩ := lines_occurs numbered (of_decide_eq_true contained)
  refine ⟨content, beneath, isFile, bytes (String.ofList before), bytes (String.ofList after) ++ content.drop limit, ?_, ?_⟩
  · nth_rewrite 1 [← List.take_append_drop limit content]
    have isText : text = String.ofList (before ++ arguments.query.toList ++ after) := by rw [← shape, String.ofList_toList]
    rw [← ofBytes_eq_some.mp read, isText, bytes_append, bytes_append, String.ofList_toList]
    simp only [List.append_assoc]
  · rw [count_bytes, counted]
    rfl

theorem lineMatches_cons (line index rest) : lineMatches arguments path ((line, index) :: rest) =
    if arguments.query.toList <:+: line then matchAt arguments path line index :: lineMatches arguments path rest
    else lineMatches arguments path rest := by
  split_ifs with contained <;> simp [lineMatches, contained]

theorem matchLines_found (numbered) (few : p.found.length < arguments.maximumResults) :
    (matchLines arguments path numbered p).found.length ≤ arguments.maximumResults ∧
    (∀ found ∈ (matchLines arguments path numbered p).found, found ∈ p.found ∨ found ∈ lineMatches arguments path numbered) ∧
    ((matchLines arguments path numbered p).truncated = false → p.truncated = false ∧
      (matchLines arguments path numbered p).found.length < arguments.maximumResults ∧
      (matchLines arguments path numbered p).found = p.found ++ lineMatches arguments path numbered) := by
  induction numbered generalizing p with
  | nil => exact ⟨few.le, fun _ => .inl, fun complete => ⟨complete, few, (List.append_nil _).symm⟩⟩
  | cons line rest ih =>
    obtain ⟨line, index⟩ := line
    simp only [matchLines, lineMatches_cons]
    split_ifs with contained full
    · refine ⟨by simpa [SearchProgress.push, Nat.succ_le_iff] using few, fun found member => ?_, nofun⟩
      exact (List.mem_append.mp member).imp_right fun new => List.mem_cons.mpr (.inl (List.mem_singleton.mp new))
    · obtain ⟨bounded, sound, complete⟩ := @ih (p.push (matchAt arguments path line index)) (Nat.not_le.mp full)
      refine ⟨bounded, fun found member => ?_, fun untruncated => ?_⟩
      · rcases sound found member with earlier | later
        · exact (List.mem_append.mp earlier).imp_right fun new => List.mem_cons.mpr (.inl (List.mem_singleton.mp new))
        · exact .inr (List.mem_cons_of_mem _ later)
      · obtain ⟨clear, few, all⟩ := complete untruncated
        exact ⟨clear, few, all.trans (List.append_assoc ..)⟩
    · exact ih few

theorem matchLines_counts (numbered) : ∃ found truncated,
    matchLines arguments path numbered p = { p with found, truncated } := by
  induction numbered generalizing p with
  | nil => exact ⟨_, _, rfl⟩
  | cons line rest ih =>
    obtain ⟨line, index⟩ := line
    simp only [matchLines]
    split_ifs
    · exact ⟨_, _, rfl⟩
    · exact @ih (p.push (matchAt arguments path line index))
    · exact ih

/-- The bounds, and matches that stand in the files they name. -/
structure SearchProgress.Kept (workspace : WorkspaceTree) (arguments : SearchArguments) (p : SearchProgress) : Prop where
  files : p.scannedFiles ≤ maximumSearchFiles
  entries : p.scannedEntries ≤ maximumSearchEntries
  bytes : p.scannedBytes ≤ maximumSearchBytes
  results : p.found.length ≤ arguments.maximumResults
  sound : ∀ found ∈ p.found, found.Sound workspace arguments

theorem openWorkspacePath_ok {node} (ok : openWorkspacePath workspace path = .ok node) : workspace.node path = some node := by
  unfold openWorkspacePath at ok
  split at ok
  · cases ok
  · exact require_eq_ok.mp ok

theorem openFile_ok {content} (ok : openFile workspace path = .ok content) : workspace.node path = some (.file content) := by
  obtain ⟨node, opened, ok⟩ := bind_eq_ok.mp ok
  cases node <;> cases ok
  exact openWorkspacePath_ok opened

theorem openDirectory_ok {entries} (ok : openDirectory workspace path = .ok entries) :
    workspace.node path = some (.directory entries) := by
  obtain ⟨node, opened, ok⟩ := bind_eq_ok.mp ok
  cases node <;> cases ok
  exact openWorkspacePath_ok opened

theorem countFile_kept {content limit} (kept : p.Kept workspace arguments) (files : p.scannedFiles < maximumSearchFiles)
    (short : limit ≤ maximumSearchBytes - p.scannedBytes) :
    (p.countFile (content.take limit) content).Kept workspace arguments := by
  have bytes := kept.bytes
  refine ⟨files, kept.entries, ?_, kept.results, kept.sound⟩
  simp only [SearchProgress.countFile, List.length_take]
  omega

theorem countFile_clear {content limit} (clear : (p.countFile (content.take limit) content).truncated = false) :
    p.truncated = false ∧ content.take limit = content := by
  obtain ⟨clear, uncut⟩ := Bool.or_eq_false_iff.mp clear
  have long := Nat.not_lt.mp (of_decide_eq_false uncut)
  rw [List.length_take] at long
  exact ⟨clear, List.take_of_length_le (by omega)⟩

/-- What the children of a directory add to a search: all there is to find, unless it was cut short. -/
structure Scanned (workspace : WorkspaceTree) (arguments : SearchArguments) (paths directories : List String)
    (p p' : SearchProgress) : Prop where
  kept : p'.Kept workspace arguments
  counted : p'.scannedDirectories = p.scannedDirectories
  below : ∀ path ∈ directories, Beneath workspace arguments.path path
  complete : p'.truncated = false → p.truncated = false ∧ p'.found.length < arguments.maximumResults ∧
    directories = paths.filter (isDirectory workspace) ∧ p'.found = p.found ++ paths.flatMap (fileMatches workspace arguments)

theorem Scanned.cons {paths directories} {r : SearchProgress} (later : Scanned workspace arguments paths directories r p')
    (counted : r.scannedDirectories = p.scannedDirectories) (plain : isDirectory workspace path = false)
    (dealt : r.truncated = false → p.truncated = false ∧ r.found = p.found ++ fileMatches workspace arguments path) :
    Scanned workspace arguments (path :: paths) directories p p' := by
  refine ⟨later.kept, later.counted.trans counted, later.below, fun untruncated => ?_⟩
  obtain ⟨clear, few, isFound, isMatches⟩ := later.complete untruncated
  refine ⟨(dealt clear).1, few, ?_, ?_⟩
  · rw [List.filter_cons_of_neg (by simp [plain]), isFound]
  · rw [List.flatMap_cons, isMatches, (dealt clear).2, List.append_assoc]

section
variable {entries : List (List UInt8 × FileType)} (trueTypes : TrueTypes workspace)
  (beneath : Beneath workspace arguments.path directory) (opened : workspace.node directory = some (.directory entries))
include trueTypes beneath opened

theorem scanChildren_ok {children directories} (listed : ∀ child ∈ children, (bytes child.1, child.2) ∈ entries)
    (kept : p.Kept workspace arguments) (few : p.found.length < arguments.maximumResults)
    (ok : scanChildren workspace arguments directory children p = .ok (directories, p')) :
    Scanned workspace arguments (children.map fun child => childPath directory child.1) directories p p' := by
  induction children generalizing p directories with
  | nil =>
    cases ok
    exact ⟨kept, rfl, nofun, fun complete => ⟨complete, few, rfl, (List.append_nil _).symm⟩⟩
  | cons child rest ih =>
    obtain ⟨name, fileType⟩ := child
    rw [List.forall_mem_cons] at listed
    have below : Beneath workspace arguments.path (childPath directory name) := .child beneath opened listed.1
    obtain ⟨node, isNode, isType⟩ := trueTypes _ _ _ _ opened listed.1
    rw [List.map_cons]
    cases fileType with
    | directory =>
      obtain ⟨⟨found, p''⟩, scanned, same⟩ := bind_eq_ok.mp ok
      cases same
      have later := ih listed.2 kept few scanned
      refine ⟨later.kept, later.counted, List.forall_mem_cons.mpr ⟨below, later.below⟩, fun untruncated => ?_⟩
      obtain ⟨clear, few, isFound, isMatches⟩ := later.complete untruncated
      cases node <;> cases isType
      refine ⟨clear, few, ?_, ?_⟩
      · rw [List.filter_cons_of_pos (by simp [isDirectory, isNode]), isFound]
      · rw [List.flatMap_cons, fileMatches, isNode]
        exact isMatches
    | other =>
      cases node <;> cases isType
      exact (ih listed.2 kept few ok).cons rfl (by simp [isDirectory, isNode]) fun clear =>
        ⟨clear, by simp [fileMatches, isNode]⟩
    | file =>
      rw [scanChildren] at ok
      split_ifs at ok with full
      · cases ok
        exact ⟨⟨kept.files, kept.entries, kept.bytes, kept.results, kept.sound⟩, rfl, nofun, nofun⟩
      obtain ⟨content, readFile, ok⟩ := bind_eq_ok.mp ok
      have isFile := openFile_ok readFile
      have plain : isDirectory workspace (childPath directory name) = false := by simp [isDirectory, isFile]
      generalize isLimit : min maximumSearchFileBytes (maximumSearchBytes - p.scannedBytes) = limit at ok
      have keptRead : (p.countFile (content.take limit) content).Kept workspace arguments :=
        countFile_kept kept (Nat.not_le.mp (not_or.mp full).1) (isLimit ▸ Nat.min_le_right ..)
      cases isText : ofBytes (content.take limit) with
      | none =>
        simp only [isText] at ok
        split_ifs at ok with cut
        · cases ok
          exact ⟨keptRead, rfl, nofun, fun clear => by cases cut.symm.trans clear⟩
        · refine (ih listed.2 keptRead few ok).cons rfl plain fun clear => ?_
          obtain ⟨clear, whole⟩ := countFile_clear clear
          rw [whole] at isText
          exact ⟨clear, by simp [fileMatches, isFile, isText, SearchProgress.countFile]⟩
      | some text =>
        simp only [isText] at ok
        obtain ⟨bounded, sound, complete⟩ := @matchLines_found arguments (childPath directory name)
          (p.countFile (content.take limit) content) (lines text).zipIdx few
        obtain ⟨found, truncated, counts⟩ := @matchLines_counts arguments (childPath directory name)
          (p.countFile (content.take limit) content) (lines text).zipIdx
        rw [counts] at bounded sound complete ok
        have keptLines : SearchProgress.Kept workspace arguments
            { p.countFile (content.take limit) content with found, truncated } := by
          refine ⟨keptRead.files, keptRead.entries, keptRead.bytes, bounded, fun found member => ?_⟩
          rcases sound found member with earlier | new
          · exact kept.sound found earlier
          · exact lineMatches_sound below isFile isText new
        split_ifs at ok with enough
        · cases ok
          exact ⟨keptLines, rfl, nofun, fun clear => absurd enough (Nat.not_le.mpr (complete clear).2.1)⟩
        · refine (ih listed.2 keptLines (Nat.not_le.mp enough) ok).cons rfl plain fun clear => ?_
          obtain ⟨unread, -, all⟩ := complete clear
          obtain ⟨clear, whole⟩ := countFile_clear unread
          rw [whole] at isText
          exact ⟨clear, by simpa [fileMatches, isFile, isText, SearchProgress.countFile] using all⟩

end

theorem listEntries_listed (entries) (bounded : p.scannedEntries ≤ maximumSearchEntries) :
    (∃ scannedEntries truncated, (listEntries entries p).2 = { p with scannedEntries, truncated } ∧
      scannedEntries ≤ maximumSearchEntries) ∧
    (∀ child ∈ (listEntries entries p).1, (bytes child.1, child.2) ∈ entries) ∧
    ((listEntries entries p).2.truncated = false → p.truncated = false ∧
      (listEntries entries p).1.map Prod.fst = entries.filterMap fun entry => ofBytes entry.1) := by
  induction entries generalizing p with
  | nil => exact ⟨⟨_, _, rfl, bounded⟩, nofun, fun clear => ⟨clear, rfl⟩⟩
  | cons entry rest ih =>
    obtain ⟨encoded, fileType⟩ := entry
    simp only [listEntries]
    split_ifs with full
    · exact ⟨⟨_, _, rfl, bounded⟩, nofun, nofun⟩
    · obtain ⟨counts, listed, complete⟩ := @ih { p with scannedEntries := p.scannedEntries + 1 } (Nat.not_le.mp full)
      cases isName : ofBytes encoded with
      | none =>
        refine ⟨counts, fun child member => List.mem_cons_of_mem _ (listed child member), fun clear => ?_⟩
        obtain ⟨clear, all⟩ := complete clear
        exact ⟨clear, by simpa [isName] using all⟩
      | some name =>
        refine ⟨counts, List.forall_mem_cons.mpr ⟨?_, fun child member => List.mem_cons_of_mem _ (listed child member)⟩,
          fun clear => ?_⟩
        · rw [ofBytes_eq_some.mp isName]
          exact List.mem_cons_self
        · obtain ⟨clear, all⟩ := complete clear
          exact ⟨clear, by simpa [isName] using all⟩

theorem searchLoop_ok (trueTypes : TrueTypes workspace) {left pending visited}
    (ok : searchLoop workspace arguments left pending p = .ok p')
    (frontier : Frontier (subdirectories workspace) arguments.path visited pending)
    (below : ∀ path ∈ pending, Beneath workspace arguments.path path) (kept : p.Kept workspace arguments)
    (few : p.found.length < arguments.maximumResults) (counted : p.scannedDirectories + left = maximumSearchDirectories)
    (all : p.found = visited.flatMap (directoryMatches workspace arguments)) :
    p'.Kept workspace arguments ∧ p'.scannedDirectories ≤ maximumSearchDirectories ∧
    (p'.truncated = false → ∃ depth, level (subdirectories workspace) arguments.path depth = [] ∧
      p'.found = (levels (subdirectories workspace) arguments.path depth).flatMap (directoryMatches workspace arguments)) := by
  induction left generalizing p pending visited with
  | zero =>
    cases pending with
    | nil =>
      cases ok
      obtain ⟨depth, empty, rfl⟩ := frontier.finished
      exact ⟨kept, by omega, fun _ => ⟨depth, empty, all⟩⟩
    | cons directory pending =>
      cases ok
      exact ⟨⟨kept.files, kept.entries, kept.bytes, kept.results, kept.sound⟩, by simp only; omega, nofun⟩
  | succ left ih =>
    cases pending with
    | nil =>
      cases ok
      obtain ⟨depth, empty, rfl⟩ := frontier.finished
      exact ⟨kept, by omega, fun _ => ⟨depth, empty, all⟩⟩
    | cons directory pending =>
      rw [List.forall_mem_cons] at below
      obtain ⟨entries, opened, ok⟩ := bind_eq_ok.mp ok
      replace opened := openDirectory_ok opened
      obtain ⟨⟨scannedEntries, truncated, counts, fewEntries⟩, listed, complete⟩ := @listEntries_listed
        { p with scannedDirectories := p.scannedDirectories + 1 } entries kept.entries
      generalize listEntries entries { p with scannedDirectories := p.scannedDirectories + 1 } = listing at ok listed complete counts
      obtain ⟨children, progress⟩ := listing
      dsimp only at ok listed complete counts
      subst counts
      have keptListed : SearchProgress.Kept workspace arguments
          { p with scannedDirectories := p.scannedDirectories + 1, scannedEntries, truncated } :=
        ⟨kept.files, fewEntries, kept.bytes, kept.results, kept.sound⟩
      split_ifs at ok with cut
      · cases ok
        exact ⟨keptListed, by simp only; omega, fun clear => by cases cut.symm.trans clear⟩
      · obtain ⟨⟨directories, progress⟩, scanned, ok⟩ := bind_eq_ok.mp ok
        have step := scanChildren_ok trueTypes below.1 opened
          (fun child member => listed child ((List.mem_insertionSort _).mp member)) keptListed few scanned
        have isPaths : ((children.insertionSort fun left right => left.1 ≤ right.1).map fun child =>
            childPath directory child.1) = childPaths workspace directory := by
          have sorted := List.map_insertionSort (fun left right : String × FileType => left.1 ≤ right.1) (· ≤ ·) Prod.fst
            children fun _ _ _ _ => Iff.rfl
          rw [(complete (Bool.of_not_eq_true cut)).2] at sorted
          simp only [childPaths, opened, ← sorted, List.map_map]
          rfl
        rw [isPaths] at step
        split_ifs at ok with cutChildren
        · cases ok
          exact ⟨step.kept, by rw [step.counted]; simp only; omega, fun clear => by cases cutChildren.symm.trans clear⟩
        · obtain ⟨-, few, isDirectories, isMatches⟩ := step.complete (Bool.of_not_eq_true cutChildren)
          subst isDirectories
          refine ih ok frontier.step (List.forall_mem_append.mpr ⟨below.2, step.below⟩) step.kept few
            (by rw [step.counted]; simp only; omega) ?_
          rw [isMatches, List.flatMap_append, List.flatMap_singleton, ← all]
          rfl

/-- A search names lines that contain the query in regular files beneath the path and stays within
its bounds; one that was not cut short has found all such lines, level by level. -/
theorem search_sound_and_complete {output} (trueTypes : TrueTypes workspace) (accepted : arguments.validate = .ok ())
    (ok : executeSearch workspace arguments = .ok output) :
    (∀ found ∈ output.found, found.Sound workspace arguments) ∧
    output.found.length ≤ arguments.maximumResults ∧
    output.scannedDirectories ≤ maximumSearchDirectories ∧ output.scannedEntries ≤ maximumSearchEntries ∧
    output.scannedFiles ≤ maximumSearchFiles ∧ output.scannedBytes ≤ maximumSearchBytes ∧
    (output.truncated = false → ∃ depth, level (subdirectories workspace) arguments.path depth = [] ∧
      output.found =
        (levels (subdirectories workspace) arguments.path depth).flatMap (directoryMatches workspace arguments)) := by
  have checked := accepted
  simp only [SearchArguments.validate, eq_ok] at checked
  obtain ⟨-, -, -, -, -, -, -, positive, -⟩ := checked
  simp only [executeSearch, eq_ok] at ok
  obtain ⟨_, -, progress, ran, rfl⟩ := ok
  obtain ⟨kept, directories, complete⟩ := searchLoop_ok trueTypes ran .start
    (fun path member => List.mem_singleton.mp member ▸ .root)
    ⟨Nat.zero_le _, Nat.zero_le _, Nat.zero_le _, Nat.zero_le _, by simp⟩ positive rfl rfl
  exact ⟨kept.sound, kept.results, directories, kept.entries, kept.files, kept.bytes, complete⟩

/-- A note beside a directory with another one. -/
def noteWorkspace : WorkspaceTree where
  node path :=
    if path = "" then some (.directory [(bytes "note", .file), (bytes "sub", .directory)])
    else if path = "note" then some (.file (bytes "one\na fox\n"))
    else if path = "sub" then some (.directory [(bytes "deep", .file)])
    else if path = "sub/deep" then some (.file (bytes "fox\n")) else none
  refused _ := none

theorem noteWorkspace_trueTypes : TrueTypes noteWorkspace := by
  intro directory entries name fileType opened listed
  simp only [noteWorkspace] at opened
  split_ifs at opened with isRoot isNote isSub isDeep <;> cases opened <;>
    simp only [List.mem_cons, List.not_mem_nil, or_false, Prod.mk.injEq] at listed
  · rcases listed with ⟨isName, rfl⟩ | ⟨isName, rfl⟩ <;> obtain rfl := bytes_injective isName
    · exact ⟨.file (bytes "one\na fox\n"), by simp [noteWorkspace, childPath, isRoot], rfl⟩
    · exact ⟨.directory [(bytes "deep", .file)], by simp [noteWorkspace, childPath, isRoot], rfl⟩
  · obtain ⟨isName, rfl⟩ := listed
    obtain rfl := bytes_injective isName
    exact ⟨.file (bytes "fox\n"), by rw [isSub]; rfl, rfl⟩

/-- Both lines with a fox are found, and nothing is left out. -/
theorem search_notes : ∃ output, executeSearch noteWorkspace ⟨"main", "fox", "", 25⟩ = .ok output ∧
    output.found.length = 2 ∧ (∀ found ∈ output.found, found.Sound noteWorkspace ⟨"main", "fox", "", 25⟩) ∧
    output.scannedFiles ≤ maximumSearchFiles ∧
    ∃ depth, level (subdirectories noteWorkspace) "" depth = [] ∧ output.found =
      (levels (subdirectories noteWorkspace) "" depth).flatMap (directoryMatches noteWorkspace ⟨"main", "fox", "", 25⟩) :=
  have ok : executeSearch noteWorkspace ⟨"main", "fox", "", 25⟩ = .ok _ := rfl
  have searched := search_sound_and_complete noteWorkspace_trueTypes (by decide) ok
  ⟨_, ok, rfl, searched.1, searched.2.2.2.2.1, searched.2.2.2.2.2.2 rfl⟩

end Mealy.Executor
