import Mealy.Executor.ReplaceArguments
import Mealy.Lib.Utf8Text

/-! Reading a workspace file page by page (`workspace.rs`). A page is cut at a byte position and
has to be text by itself, so a file of text can be read to its end only when no character lies
across a multiple of the page size. -/

namespace Mealy.Executor
open Transaction Utf8Text

inductive ReadToolError where
  | invalidArguments (message : String) | notFound | unavailable (message : String) | cancelled
deriving DecidableEq

def validateLogicalPath (value : String) (allowEmpty : Bool) : Bool :=
  (allowEmpty ∨ value ≠ "") ∧ value.utf8ByteSize ≤ 2048 ∧ '\\' ∉ value.toList ∧
    value.toList.all (fun c => !isControl c) ∧ Memories.hasNormalComponents value

def workspaceLocator (workspaceId path : String) : String := "workspace://" ++ workspaceId ++ "/" ++ path

structure ReadArguments where
  (workspaceId path : String)
  offsetBytes : Nat := 0
  maximumBytes : Nat := 32 * 1024

/-- `validate_operation_arguments` of a read. -/
def ReadArguments.validate (arguments : ReadArguments) : Except ReadToolError Unit := do
  ensure (canonicalWorkspaceId arguments.workspaceId) (.invalidArguments "workspaceId is invalid")
  ensure (validateLogicalPath arguments.path false)
    (.invalidArguments "path must be a normalized relative workspace path")
  ensure (1 ≤ arguments.maximumBytes ∧ arguments.maximumBytes ≤ 128 * 1024)
    (.invalidArguments "maximumBytes is outside its bound")

structure ReadOutput where
  (workspaceId path sourceLocator : String)
  (offsetBytes returnedBytes fileSizeBytes : Nat)
  truncated : Bool
  (contentSha256 content : String)
deriving DecidableEq

/-- Opening the path gives the bytes of a regular file, or none for anything else. -/
def executeRead (sha256 : List UInt8 → String) (opened : Except ReadToolError (Option (List UInt8))) (cancelled : Bool)
    (arguments : ReadArguments) : Except ReadToolError ReadOutput := do
  let file ← require (← opened) (.invalidArguments "workspace.read requires a regular file")
  let window := (file.drop arguments.offsetBytes).take (arguments.maximumBytes + 1)
  ensure (cancelled = false) .cancelled
  let bytes := window.take arguments.maximumBytes
  let content ← require (ofBytes bytes) (.invalidArguments "workspace.read accepts UTF-8 text files only")
  pure {
    workspaceId := arguments.workspaceId, path := arguments.path
    sourceLocator := workspaceLocator arguments.workspaceId arguments.path
    offsetBytes := arguments.offsetBytes, returnedBytes := bytes.length, fileSizeBytes := file.length
    truncated := arguments.maximumBytes < window.length, contentSha256 := sha256 bytes, content }

/-! ### Page by page -/

/-- The pages from an offset to the end, each continuing where the one before stopped. -/
inductive Paged (read : Nat → Except ReadToolError ReadOutput) : Nat → List ReadOutput → Prop where
  | last {offset page} (ok : read offset = .ok page) (whole : page.truncated = false) : Paged read offset [page]
  | more {offset page pages} (ok : read offset = .ok page) (cut : page.truncated = true)
      (rest : Paged read (offset + page.returnedBytes) pages) : Paged read offset (page :: pages)

/-- Reading to the end succeeds and gives the text in pages of the size asked for. -/
def Reconstructs (sha256 : List UInt8 → String) (arguments : ReadArguments) (text : String) : Prop :=
  ∃ pages, Paged (fun offsetBytes => executeRead sha256 (.ok (some (bytes text))) false
      { arguments with offsetBytes }) 0 pages ∧
    pages.flatMap (fun page => page.content.toList) = text.toList ∧
    ∀ page ∈ pages, (bytes page.content).length ≤ arguments.maximumBytes ∧
      page.returnedBytes = (bytes page.content).length ∧ page.contentSha256 = sha256 (bytes page.content)

section
variable {sha256 : List UInt8 → String} {arguments : ReadArguments}

theorem executeRead_eq_ok {before after : List Char} {page} :
    executeRead sha256 (.ok (some (bytes (String.ofList (before ++ after))))) false
      { arguments with offsetBytes := size before } = .ok page ↔
    ∃ content, bytes content = (bytes (String.ofList after)).take arguments.maximumBytes ∧
      page = ⟨arguments.workspaceId, arguments.path, workspaceLocator arguments.workspaceId arguments.path,
        size before, (bytes content).length, size (before ++ after), arguments.maximumBytes < size after,
        sha256 (bytes content), content⟩ := by
  have rest : (bytes (String.ofList (before ++ after))).drop (size before) = bytes (String.ofList after) := by
    rw [bytes_append, List.drop_left' (by rw [length_bytes, String.toList_ofList])]
  have window : ((bytes (String.ofList after)).take (arguments.maximumBytes + 1)).take arguments.maximumBytes =
      (bytes (String.ofList after)).take arguments.maximumBytes := by
    rw [List.take_take, Nat.min_eq_left (Nat.le_succ _)]
  have cut : (arguments.maximumBytes < ((bytes (String.ofList after)).take (arguments.maximumBytes + 1)).length) ↔
      arguments.maximumBytes < size after := by
    rw [List.length_take, length_bytes, String.toList_ofList]
    omega
  simp only [executeRead, eq_ok, Except.ok.injEq, exists_eq_left', Option.some.injEq, rest, window, cut,
    ofBytes_eq_some, length_bytes, String.toList_ofList]
  constructor
  · rintro ⟨_, _, content, isContent, rfl⟩
    exact ⟨content, isContent, by rw [← isContent, length_bytes]⟩
  · rintro ⟨content, isContent, rfl⟩
    exact ⟨(), trivial, content, isContent, by rw [← isContent, length_bytes]⟩

/-- No character of the text lies across a multiple of the page size. -/
def AlignedPages (maximumBytes : Nat) (text : List Char) : Prop :=
  ∀ k, k * maximumBytes ≤ size text → isCharBoundary text (k * maximumBytes) = true

theorem AlignedPages.append {first second : List Char} (full : size first = arguments.maximumBytes) :
    AlignedPages arguments.maximumBytes (first ++ second) ↔ AlignedPages arguments.maximumBytes second := by
  constructor
  · intro aligned k within_
    have boundary := aligned (k + 1) (by rw [Nat.succ_mul, size_append]; omega)
    rwa [Nat.succ_mul, Nat.add_comm, ← full, isCharBoundary_append, full] at boundary
  · intro aligned k within_
    cases k with
    | zero => rw [Nat.zero_mul, isCharBoundary_zero]
    | succ k =>
      have shorter : k * arguments.maximumBytes ≤ size second := by
        rw [Nat.succ_mul, size_append] at within_
        omega
      rw [Nat.succ_mul, Nat.add_comm]
      nth_rewrite 1 [← full]
      rw [isCharBoundary_append]
      exact aligned k shorter

variable {before after : List Char}

theorem AlignedPages.paged (positive : 0 < arguments.maximumBytes)
    (aligned : AlignedPages arguments.maximumBytes after) :
    ∃ pages, Paged (fun offsetBytes => executeRead sha256 (.ok (some (bytes (String.ofList (before ++ after))))) false
        { arguments with offsetBytes }) (size before) pages ∧
      pages.flatMap (fun page => page.content.toList) = after ∧
      ∀ page ∈ pages, (bytes page.content).length ≤ arguments.maximumBytes ∧
        page.returnedBytes = (bytes page.content).length ∧ page.contentSha256 = sha256 (bytes page.content) := by
  induction fuel : size after using Nat.strong_induction_on generalizing before after with
  | _ _ ih =>
    subst fuel
    by_cases fits : size after ≤ arguments.maximumBytes
    · have all : bytes (String.ofList after) = (bytes (String.ofList after)).take arguments.maximumBytes := by
        rw [List.take_of_length_le (by rwa [length_bytes, String.toList_ofList])]
      refine ⟨[_], .last (executeRead_eq_ok.mpr ⟨_, all, rfl⟩) (decide_eq_false (Nat.not_lt.mpr fits)), by simp, ?_⟩
      intro page member
      rw [List.mem_singleton.mp member]
      exact ⟨by rwa [length_bytes, String.toList_ofList], rfl, rfl⟩
    · have boundary := aligned 1 (by omega)
      rw [Nat.one_mul] at boundary
      obtain ⟨first, second, rfl, full⟩ : ∃ first second, after = first ++ second ∧
          size first = arguments.maximumBytes :=
        ⟨_, _, (takeBytes_append_dropBytes _ _).symm, size_takeBytes boundary⟩
      have length : (bytes (String.ofList first)).length = arguments.maximumBytes := by
        rw [length_bytes, String.toList_ofList, full]
      have page : bytes (String.ofList first) =
          (bytes (String.ofList (first ++ second))).take arguments.maximumBytes := by
        rw [bytes_append, ← length, List.take_left]
      have shorter : size second < size (first ++ second) := by rw [size_append]; omega
      obtain ⟨pages, paged, contents, checked⟩ :=
        @ih (size second) shorter (before ++ first) second ((AlignedPages.append full).mp aligned) rfl
      refine ⟨_ :: pages, .more (executeRead_eq_ok.mpr ⟨_, page, rfl⟩) (decide_eq_true (Nat.not_le.mp fits)) ?_, ?_, ?_⟩
      · rw [size_append, full, List.append_assoc] at paged
        rwa [length]
      · rw [List.flatMap_cons, contents, String.toList_ofList]
      · exact List.forall_mem_cons.mpr ⟨⟨length.le, rfl, rfl⟩, checked⟩

theorem Paged.aligned (positive : 0 < arguments.maximumBytes) {offset pages}
    (paged : Paged (fun offsetBytes => executeRead sha256 (.ok (some (bytes (String.ofList (before ++ after))))) false
      { arguments with offsetBytes }) offset pages) (isOffset : offset = size before) :
    AlignedPages arguments.maximumBytes after := by
  generalize isText : before ++ after = text at paged
  induction paged generalizing before after with
  | last ok whole =>
    subst isText isOffset
    obtain ⟨content, -, rfl⟩ := executeRead_eq_ok.mp ok
    have fits : size after ≤ arguments.maximumBytes := Nat.not_lt.mp (of_decide_eq_false whole)
    intro k within_
    match k with
    | 0 => rw [Nat.zero_mul, isCharBoundary_zero]
    | 1 =>
      rw [show 1 * arguments.maximumBytes = size after by omega]
      exact isCharBoundary_size after
    | k + 2 =>
      have larger : 2 * arguments.maximumBytes ≤ (k + 2) * arguments.maximumBytes :=
        Nat.mul_le_mul_right _ (Nat.le_add_left 2 k)
      omega
  | more ok cut _ ih =>
    subst isText isOffset
    obtain ⟨content, isContent, rfl⟩ := executeRead_eq_ok.mp ok
    have more : arguments.maximumBytes < size after := of_decide_eq_true cut
    obtain ⟨second, rfl⟩ : content.toList <+: after := by
      have isPrefix := prefix_of_bytes (isContent ▸ List.take_append_drop arguments.maximumBytes _)
      rwa [String.toList_ofList] at isPrefix
    have full : size content.toList = arguments.maximumBytes := by
      rw [← length_bytes, isContent, List.length_take, length_bytes, String.toList_ofList]
      omega
    refine (AlignedPages.append full).mpr (ih ?_ (List.append_assoc ..))
    show size before + (bytes content).length = size (before ++ content.toList)
    rw [size_append, length_bytes]

/-- Reading page by page reconstructs a file of text exactly when no character of it lies across
a multiple of the page size. -/
theorem paged_read_iff (text : String) (accepted : arguments.validate = .ok ()) :
    Reconstructs sha256 arguments text ↔ AlignedPages arguments.maximumBytes text.toList := by
  obtain ⟨-, -, -, -, positive, -⟩ := by simpa only [ReadArguments.validate, eq_ok] using accepted
  have isText : text = String.ofList ([] ++ text.toList) := by rw [List.nil_append, String.ofList_toList]
  constructor
  · rintro ⟨pages, paged, -, -⟩
    rw [isText] at paged
    exact paged.aligned positive rfl
  · intro aligned
    have paged := @AlignedPages.paged sha256 arguments [] _ positive aligned
    rwa [← isText] at paged

end

/-- Nine bytes are read in three pages, the first of which ends with the accent. -/
theorem paged_read_accent : (bytes "aaébbbcc").length = 9 ∧ Reconstructs (fun _ => "") ⟨"main", "notes.txt", 0, 4⟩ "aaébbbcc" := by
  refine ⟨by decide, (paged_read_iff _ (by decide)).mpr fun k within_ => ?_⟩
  have few : k * 4 ≤ 9 := within_
  obtain rfl | rfl | rfl : k = 0 ∨ k = 1 ∨ k = 2 := by omega
  all_goals decide

/-- The last character starts on the first page and ends on the second. -/
theorem accent_across_pages_refused :
    (⟨"main", "notes.txt", 0, 4⟩ : ReadArguments).validate = .ok () ∧
    executeRead (fun _ => "") (.ok (some (bytes "aaaé"))) false ⟨"main", "notes.txt", 0, 4⟩ =
      .error (.invalidArguments "workspace.read accepts UTF-8 text files only") ∧
    ¬ Reconstructs (fun _ => "") ⟨"main", "notes.txt", 0, 4⟩ "aaaé" := by
  have refused : executeRead (fun _ => "") (.ok (some (bytes "aaaé"))) false ⟨"main", "notes.txt", 0, 4⟩ =
      .error (.invalidArguments "workspace.read accepts UTF-8 text files only") := by decide
  refine ⟨by decide, refused, ?_⟩
  rintro ⟨pages, paged, -⟩
  cases paged <;> cases refused.symm.trans ‹_›

end Mealy.Executor
