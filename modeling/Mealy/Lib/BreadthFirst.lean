import Mathlib

/-! Walking a graph with a queue. What has been visited is always the levels above the current one
and a part of it, and the queue holds the rest of that level and the successors of the part. -/

namespace BreadthFirst

variable {α : Type} (next : α → List α) (root : α)

/-- What is reached from the root in a number of steps, in the order of the steps. -/
def level : Nat → List α
  | 0 => [root]
  | n + 1 => (level n).flatMap next

def levels (depth : Nat) : List α := (List.range depth).flatMap (level next root)

theorem levels_succ (n) : levels next root (n + 1) = levels next root n ++ level next root n := by
  rw [levels, List.range_succ, List.flatMap_append, List.flatMap_singleton, levels]

def Frontier (visited pending : List α) : Prop :=
  ∃ n done todo, level next root n = done ++ todo ∧ visited = levels next root n ++ done ∧
    pending = todo ++ done.flatMap next

variable {next root} {visited pending : List α}

theorem Frontier.start : Frontier next root [] [root] := ⟨0, [], [root], rfl, rfl, rfl⟩

theorem Frontier.step {first} (frontier : Frontier next root visited (first :: pending)) :
    Frontier next root (visited ++ [first]) (pending ++ next first) := by
  obtain ⟨n, done, todo, isLevel, isVisited, isPending⟩ := frontier
  cases todo with
  | nil =>
    -- the level is finished: the queue is the next one
    have below : level next root (n + 1) = first :: pending := by
      rw [level, isLevel, List.append_nil]
      exact isPending.symm
    refine ⟨n + 1, [first], pending, below, ?_, by simp⟩
    rw [levels_succ, isVisited, isLevel, List.append_nil]
  | cons _ todo =>
    obtain ⟨rfl, rfl⟩ := List.cons.inj isPending
    exact ⟨n, done ++ [first], todo, by simp [isLevel], by simp [isVisited], by simp⟩

theorem Frontier.finished (frontier : Frontier next root visited []) :
    ∃ depth, level next root depth = [] ∧ visited = levels next root depth := by
  obtain ⟨n, done, todo, isLevel, isVisited, isPending⟩ := frontier
  obtain ⟨rfl, none⟩ := List.append_eq_nil_iff.mp isPending.symm
  rw [List.append_nil] at isLevel
  exact ⟨n + 1, by rw [level, isLevel, none], by rw [levels_succ, isVisited, isLevel]⟩

end BreadthFirst
