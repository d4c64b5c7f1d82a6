import Mealy.Executor.Sizes
import Mealy.Lib.Separated

/-! The mounts of a request (`executor.rs`). The daemon compares the texts of their paths; what
a mount shows to the worker is given by the directories of the path. -/

namespace Mealy.Executor
open Transaction Separated

/-- The components below the root of the file system. -/
def components (path : String) : List (List Char) := (path.toList.splitOn '/').drop 1

/-- The path is the directory or lies in it. -/
abbrev Within (path directory : String) : Prop := components directory <+: components path

theorem splitOn_eq_components {path} (canonical : canonicalAbsolutePath path = true) :
    path.toList.splitOn '/' = [] :: components path := by
  simp only [canonicalAbsolutePath, decide_eq_true_eq] at canonical
  obtain ⟨rest, text⟩ : ∃ rest, path.toList = '/' :: rest := by
    cases shape : path.toList with
    | nil => simp [shape] at canonical
    | cons first rest => exact ⟨rest, by simpa [shape] using canonical.2.2.1⟩
  rw [components, text, ← List.nil_append ('/' :: rest), List.splitOn_append_cons_self]
  rfl

theorem within_iff {directory path} (first : canonicalAbsolutePath directory = true)
    (last : canonicalAbsolutePath path = true) :
    Within path directory ↔ directory = path ∨ isBeneath directory path = true := by
  have parts := @splitOn_prefix_iff _ _ '/' directory.toList path.toList
  rw [splitOn_eq_components first, splitOn_eq_components last, List.cons_prefix_cons, String.toList_inj] at parts
  simpa [Within, isBeneath, List.isPrefixOf_iff_prefix] using parts

theorem not_within_of_apart {left right path} (first : canonicalAbsolutePath left = true)
    (last : canonicalAbsolutePath right = true) (apart : pathsOverlap left right = false) :
    ¬ (Within path left ∧ Within path right) := by
  intro both
  simp only [pathsOverlap, decide_eq_false_iff_not, not_or] at apart
  -- Two directories above one path lie one in the other.
  rcases List.prefix_or_prefix_of_prefix both.1 both.2 with inside | inside
  · exact absurd ((within_iff first last).mp inside) (by simp [apart])
  · exact absurd ((within_iff last first).mp inside) (by simp [apart, Ne.symm apart.1])

theorem count_within_le_one {mounts : List ExecutorMount} {path : String} (place : ExecutorMount → String)
    (canonical : ∀ mount ∈ mounts, canonicalAbsolutePath (place mount) = true)
    (apart : mounts.Pairwise fun mount other => pathsOverlap (place mount) (place other) = false) :
    (mounts.filter fun mount => Within path (place mount)).length ≤ 1 := by
  induction mounts with
  | nil => exact Nat.zero_le 1
  | cons mount mounts ih =>
    rw [List.pairwise_cons] at apart
    rw [List.forall_mem_cons] at canonical
    by_cases covers : Within path (place mount)
    · have others : (mounts.filter fun other => Within path (place other)) = [] := by
        rw [List.filter_eq_nil_iff]
        intro other member inside
        exact not_within_of_apart canonical.1 (canonical.2 other member) (apart.1 other member)
          ⟨covers, of_decide_eq_true inside⟩
      simp [covers, others]
    · simpa [covers] using ih canonical.2 apart.2

theorem validateMounts_canonical {mounts} (valid : validateMounts mounts = true) :
    ∀ mount ∈ mounts, canonicalAbsolutePath mount.hostPath = true ∧ canonicalAbsolutePath mount.sandboxPath = true ∧
      reservedSandboxPath mount.sandboxPath = false := by
  simp only [validateMounts, decide_eq_true_eq, List.all_eq_true] at valid
  intro mount member
  simpa using valid.2.2 mount member

/-- Every path is shown to the worker through at most one mount, at its host path and at its
sandbox path, and no mount is placed over the worker's own directories. -/
theorem mounts_never_overlap (hash : Memories.DigestFunction) (request : ExecutorRequest)
    (valid : request.validate hash = .ok ()) :
    (∀ path, ((request.readableRoots ++ request.writableRoots).filter fun mount => Within path mount.hostPath).length ≤ 1 ∧
      ((request.readableRoots ++ request.writableRoots).filter fun mount => Within path mount.sandboxPath).length ≤ 1) ∧
    (∀ path, ∀ readable ∈ request.readableRoots, ∀ writable ∈ request.writableRoots,
      ¬ (Within path readable.hostPath ∧ Within path writable.hostPath) ∧
      ¬ (Within path readable.sandboxPath ∧ Within path writable.sandboxPath)) ∧
    ∀ mount ∈ request.readableRoots ++ request.writableRoots, ∀ reserved ∈ ["/dev", "/proc", "/runtime", "/tmp"],
      ¬ Within mount.sandboxPath reserved := by
  simp only [ExecutorRequest.validate, eq_ok] at valid
  obtain ⟨_, _, _, _, _, _, _, _, _, _, _, readable, _, writable, _, apart, _⟩ := valid
  have canonical := List.forall_mem_append.mpr ⟨validateMounts_canonical readable, validateMounts_canonical writable⟩
  refine ⟨?_, ?_, ?_⟩
  · intro path
    exact ⟨count_within_le_one _ (fun mount member => (canonical mount member).1) (apart.imp And.left),
      count_within_le_one _ (fun mount member => (canonical mount member).2.1) (apart.imp And.right)⟩
  · intro path first firstListed last lastListed
    have between := (List.pairwise_append.mp apart).2.2 first firstListed last lastListed
    have valid := canonical first (List.mem_append_left _ firstListed)
    have valid' := canonical last (List.mem_append_right _ lastListed)
    exact ⟨not_within_of_apart valid.1 valid'.1 between.1, not_within_of_apart valid.2.1 valid'.2.1 between.2⟩
  · intro mount member reserved listed inside
    obtain ⟨_, sandbox, free⟩ := canonical mount member
    have plain : canonicalAbsolutePath reserved = true :=
      (by decide +kernel : ∀ reserved ∈ ["/dev", "/proc", "/runtime", "/tmp"], canonicalAbsolutePath reserved = true) _ listed
    simp only [reservedSandboxPath, List.any_eq_false, decide_eq_true_eq] at free
    exact free reserved listed (((within_iff plain sandbox).mp inside).imp_left Eq.symm)

/-- A workspace beside a directory of data with the same beginning. -/
theorem mounts_never_overlap_siblings :
    ∃ (hash : Memories.DigestFunction) (request : ExecutorRequest), request.validate hash = .ok () ∧
      request.readableRoots = [⟨"/srv/data", "/data"⟩] ∧ request.writableRoots = [⟨"/srv/data-2", "/workspace"⟩] ∧
      ¬ (Within "/srv/data-2/a" "/srv/data" ∧ Within "/srv/data-2/a" "/srv/data-2") := by
  let request := { sampleRequest Memories.letterDigest 3 with
    readableRoots := [⟨"/srv/data", "/data"⟩], writableRoots := [⟨"/srv/data-2", "/workspace"⟩] }
  have valid : request.validate Memories.letterDigest = .ok () := by decide +kernel
  exact ⟨Memories.letterDigest, request, valid, rfl, rfl, ((mounts_never_overlap Memories.letterDigest request valid).2.1 "/srv/data-2/a" _
    (List.mem_singleton_self _) _ (List.mem_singleton_self _)).1⟩

end Mealy.Executor
