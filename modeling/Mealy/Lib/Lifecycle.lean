import Mathlib

/-! An object whose operations answer and change it in place. A sequence of operations goes on
after a refused one, so what a refused operation leaves behind matters. -/

namespace Lifecycle

variable {σ ο ε α : Type} (apply : ο → σ → Except ε α × σ)

def Accepts (op : ο) (s : σ) : Prop := ∃ answer, (apply op s).1 = .ok answer

instance (op : ο) (s : σ) : Decidable (Accepts apply op s) :=
  match answered : (apply op s).1 with
  | .ok answer => .isTrue ⟨answer, answered⟩
  | .error _ => .isFalse fun ⟨_, ok⟩ => nomatch answered.symm.trans ok

/-- The object after a sequence of operations, refused ones included. -/
def after (s : σ) (ops : List ο) : σ := ops.foldl (fun s op => (apply op s).2) s

def accepted (s : σ) : List ο → Nat
  | [] => 0
  | op :: ops => (if Accepts apply op s then 1 else 0) + accepted (apply op s).2 ops

/-- Refused operations leave the object as it was. -/
def RefusalsKeep (s : σ) : Prop := ∀ op, ¬ Accepts apply op s → (apply op s).2 = s

variable {apply} {op : ο} {s s' : σ}

theorem accepts_of_ok {answer} (ok : apply op s = (.ok answer, s')) : Accepts apply op s := ⟨answer, by rw [ok]⟩

theorem not_accepts_of_error {error} (failed : apply op s = (.error error, s')) : ¬ Accepts apply op s := by
  rintro ⟨answer, ok⟩
  rw [failed] at ok
  cases ok

theorem refusalsKeep (cases_ : ∀ op, (∃ error, apply op s = (.error error, s)) ∨ Accepts apply op s) :
    RefusalsKeep apply s := by
  intro op refused
  rcases cases_ op with ⟨error, failed⟩ | accepted
  · rw [failed]
  · exact absurd accepted refused

theorem after_induction {holds : σ → Prop} (kept : ∀ op s, holds s → holds (apply op s).2) {s} (start : holds s) (ops) :
    holds (after apply s ops) := by
  induction ops generalizing s with
  | nil => exact start
  | cons op ops ih => exact ih (kept op s start)

theorem after_of_frozen (frozen : ∀ op, (apply op s).2 = s) (ops) : after apply s ops = s := by
  induction ops with
  | nil => rfl
  | cons op ops ih => rwa [after, List.foldl_cons, frozen op]

theorem counted_after (revision : σ → Nat)
    (counted : ∀ op s, revision (apply op s).2 = revision s + if Accepts apply op s then 1 else 0) (s ops) :
    revision (after apply s ops) = revision s + accepted apply s ops := by
  induction ops generalizing s with
  | nil => rfl
  | cons op ops ih =>
    have later := ih (apply op s).2
    rw [counted] at later
    rw [accepted, ← Nat.add_assoc]
    exact later

end Lifecycle
