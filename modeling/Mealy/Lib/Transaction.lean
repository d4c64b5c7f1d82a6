import Mathlib

/-! Atomic transactions over a state and the runs of a system made of them. A
transaction either commits a new state or fails and changes nothing; a system
runs any sequence of its operations, and `ReachableIf` restricts each step by a
condition on the operation and on the state it starts from. -/

namespace Transaction

universe u v w
variable {ε : Type u} {α β : Type v}

/-- Fail with `e` unless `p` holds: a guard of the statement that follows. -/
def ensure (p : Prop) [Decidable p] (e : ε) : Except ε PUnit.{v + 1} :=
  if p then .ok ⟨⟩ else .error e

/-- The row a query returned, or the error for a query without rows. -/
def require (o : Option α) (e : ε) : Except ε α :=
  match o with
  | some a => .ok a
  | none => .error e

theorem ok_bind {a} {f : α → Except ε β} : (Except.ok a >>= f) = f a := rfl

theorem error_bind {e} {f : α → Except ε β} : (Except.error e >>= f) = .error e := rfl

theorem ensure_holds {p} [Decidable p] {e : ε} (holds : p) : ensure.{u, v} p e = .ok ⟨⟩ := if_pos holds

theorem ensure_fails {p} [Decidable p] {e : ε} (fails : ¬ p) : ensure.{u, v} p e = .error e := if_neg fails

@[simp] theorem bind_eq_ok {x} {f : α → Except ε β} {b} :
    (x >>= f) = .ok b ↔ ∃ a, x = .ok a ∧ f a = .ok b := by
  cases x with
  | error e => exact ⟨(nomatch ·), fun ⟨_, bad, _⟩ => nomatch bad⟩
  | ok a => exact ⟨fun h => ⟨a, rfl, h⟩, fun ⟨_, same, h⟩ => by cases same; exact h⟩

@[simp] theorem ensure_eq_ok {p} [Decidable p] {e : ε} {x : PUnit.{v + 1}} :
    ensure p e = .ok x ↔ p := by
  unfold ensure
  split <;> simp_all

@[simp] theorem require_eq_ok {o : Option α} {e : ε} {a : α} : require o e = .ok a ↔ o = some a := by
  cases o <;> simp [require]

@[simp] theorem pure_eq_ok {a b} : (pure a : Except ε α) = .ok b ↔ a = b :=
  ⟨fun h => Except.ok.inj h, fun h => congrArg _ h⟩

theorem eq_ok {ε} :
    (∀ {α β : Type} {x : Except ε α} {f : α → Except ε β} {b}, (x >>= f) = .ok b ↔ ∃ a, x = .ok a ∧ f a = .ok b) ∧
      (∀ {p : Prop} [Decidable p] {e : ε} {x : Unit}, ensure p e = .ok x ↔ p) ∧
      (∀ {α : Type} {o : Option α} {e : ε} {a}, require o e = .ok a ↔ o = some a) ∧
      ∀ {α : Type} {a b : α}, (pure a : Except ε α) = .ok b ↔ a = b :=
  ⟨bind_eq_ok, ensure_eq_ok, require_eq_ok, pure_eq_ok⟩

@[simp] theorem map_eq_ok {x : Except ε α} {f : α → β} {b : β} : x.map f = .ok b ↔ ∃ a, x = .ok a ∧ f a = b := by
  cases x <;> simp [Except.map]

@[simp] theorem mapError_eq_ok {ε' : Type*} {x : Except ε α} {f : ε → ε'} {a : α} :
    x.mapError f = .ok a ↔ x = .ok a := by
  cases x <;> simp [Except.mapError]

@[simp] theorem toOption_eq_some {x : Except ε α} {a : α} : x.toOption = some a ↔ x = .ok a := by
  cases x <;> simp [Except.toOption]

theorem toOption_map {x : Except ε α} {f : α → β} : (x.map f).toOption = x.toOption.map f := by
  cases x <;> rfl

theorem mem_of_mapM {f : α → Except ε β} {items : List α} {results : List β} (mapped : items.mapM f = .ok results)
    {result : β} (member : result ∈ results) : ∃ item ∈ items, f item = .ok result := by
  induction items generalizing results with
  | nil =>
    rw [List.mapM_nil, pure_eq_ok] at mapped
    subst mapped
    exact absurd member List.not_mem_nil
  | cons item rest ih =>
    simp only [List.mapM_cons, bind_eq_ok, pure_eq_ok] at mapped
    obtain ⟨first, computed, others, tail, rfl⟩ := mapped
    rcases List.mem_cons.mp member with rfl | later
    · exact ⟨item, List.mem_cons_self, computed⟩
    · obtain ⟨source, listed, computed⟩ := ih tail later
      exact ⟨source, List.mem_cons_of_mem _ listed, computed⟩

theorem forM_eq_ok {f : α → Except ε PUnit} {items : List α} :
    items.forM f = .ok ⟨⟩ ↔ ∀ item ∈ items, f item = .ok ⟨⟩ := by
  induction items with
  | nil => exact ⟨fun _ _ member => (List.not_mem_nil member).elim, fun _ => rfl⟩
  | cons first rest ih =>
    rw [List.forall_mem_cons, ← ih]
    exact bind_eq_ok.trans ⟨fun ⟨_, head, tail⟩ => ⟨head, tail⟩, fun ⟨head, tail⟩ => ⟨_, head, tail⟩⟩

/-- A start state and atomic operations, each of which may fail. -/
structure System (ε : Type u) (σ : Type v) (ο : Type w) where
  initial : σ
  exec : ο → σ → Except ε σ

namespace System
variable {σ : Type v} {ο : Type w} (sys : System ε σ ο)

def Step (s s' : σ) : Prop := ∃ op, sys.exec op s = .ok s'

/-- States reached by steps whose operation and start state meet `allowed`. -/
inductive ReachableIf (allowed : ο → σ → Prop) : σ → Prop where
  | initial : ReachableIf allowed sys.initial
  | step {s s' op} (before : ReachableIf allowed s) (meets : allowed op s)
      (ok : sys.exec op s = .ok s') : ReachableIf allowed s'

/-- States reached by any sequence of committed operations. -/
abbrev Reachable : σ → Prop := sys.ReachableIf fun _ _ => True

def runIf (allowed : ο → σ → Prop) [∀ op s, Decidable (allowed op s)] (s : σ) : List ο → Option σ
  | [] => some s
  | op :: ops => if allowed op s then (sys.exec op s).toOption.bind fun s' => runIf allowed s' ops else none

variable {sys}

theorem ReachableIf.weaken {allowed wider : ο → σ → Prop} {s} (reached : sys.ReachableIf allowed s)
    (implies : ∀ op s, allowed op s → wider op s) : sys.ReachableIf wider s := by
  induction reached with
  | initial => exact .initial
  | step _ meets ok ih => exact .step ih (implies _ _ meets) ok

theorem ReachableIf.reachable {allowed : ο → σ → Prop} {s} (reached : sys.ReachableIf allowed s) :
    sys.Reachable s := reached.weaken fun _ _ _ => trivial

theorem ReachableIf.invariant {allowed : ο → σ → Prop} {holds : σ → Prop} (start : holds sys.initial)
    (kept : ∀ op s s', holds s → allowed op s → sys.exec op s = .ok s' → holds s')
    {s} (reached : sys.ReachableIf allowed s) : holds s := by
  induction reached with
  | initial => exact start
  | step _ meets ok ih => exact kept _ _ _ ih meets ok

theorem ReachableIf.invariant_with {allowed : ο → σ → Prop} {known holds : σ → Prop}
    (background : ∀ s, sys.Reachable s → known s) (start : holds sys.initial)
    (kept : ∀ op s s', known s → holds s → allowed op s → sys.exec op s = .ok s' → holds s')
    {s} (reached : sys.ReachableIf allowed s) : holds s := by
  induction reached with
  | initial => exact start
  | step before meets ok ih =>
    exact kept _ _ _ (background _ before.reachable) ih meets ok

theorem ReachableIf.runIf {allowed : ο → σ → Prop} [∀ op s, Decidable (allowed op s)] {s s' : σ} {ops : List ο}
    (reached : sys.ReachableIf allowed s) (ran : sys.runIf allowed s ops = some s') : sys.ReachableIf allowed s' := by
  induction ops generalizing s with
  | nil => cases ran; exact reached
  | cons op ops ih =>
    simp only [System.runIf, Option.ite_none_right_eq_some, Option.bind_eq_some_iff, toOption_eq_some] at ran
    obtain ⟨meets, middle, first, rest⟩ := ran
    exact ih (.step reached meets first) rest

theorem exists_reachableIf {allowed : ο → σ → Prop} [∀ op s, Decidable (allowed op s)] {check : σ → Prop}
    [DecidablePred check] (ops : List ο) (ran : (sys.runIf allowed sys.initial ops).any (fun s => check s) = true) :
    ∃ s, sys.ReachableIf allowed s ∧ check s := by
  obtain ⟨s, ended, checked⟩ := Option.any_eq_true _ _ |>.mp ran
  exact ⟨s, ReachableIf.initial.runIf ended, of_decide_eq_true checked⟩

theorem exists_step {allowed : ο → σ → Prop} [∀ op s, Decidable (allowed op s)] {op : ο} {check : σ → σ → Prop}
    [∀ s s', Decidable (check s s')] (ops : List ο)
    (ran : (sys.runIf allowed sys.initial ops).any
      (fun s => (sys.exec op s).toOption.any fun s' => check s s') = true) :
    ∃ s s', sys.ReachableIf allowed s ∧ sys.exec op s = .ok s' ∧ check s s' := by
  obtain ⟨s, ended, checked⟩ := Option.any_eq_true _ _ |>.mp ran
  obtain ⟨s', ok, meets⟩ := Option.any_eq_true _ _ |>.mp checked
  exact ⟨s, s', ReachableIf.initial.runIf ended, toOption_eq_some.mp ok, of_decide_eq_true meets⟩

/-- `s'` is reached from `s` by some further operations. -/
abbrev Later (sys : System ε σ ο) : σ → σ → Prop := Relation.ReflTransGen sys.Step

theorem Later.preserves {sys : System ε σ ο} (relation : σ → σ → Prop) (refl : ∀ s, relation s s)
    (trans : ∀ {a b c}, relation a b → relation b c → relation a c)
    (kept : ∀ op s s', sys.exec op s = .ok s' → relation s s') {s s' : σ} (later : sys.Later s s') :
    relation s s' := by
  induction later with
  | refl => exact refl _
  | tail _ step ih =>
    obtain ⟨op, ok⟩ := step
    exact trans ih (kept op _ _ ok)

theorem Reachable.later {sys : System ε σ ο} {s s' : σ} (reached : sys.Reachable s)
    (later : sys.Later s s') : sys.Reachable s' := by
  induction later with
  | refl => exact reached
  | tail _ step ih =>
    obtain ⟨op, ok⟩ := step
    exact .step ih trivial ok

end System
end Transaction
