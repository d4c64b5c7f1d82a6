import Mealy.Lib.Lifecycle
import Mealy.Proofs.TaskLifecycle

/-! The lifecycles of the domain's own aggregates (`mealy-domain`): tasks, effects and work leases,
changed in place by operations that come in any order. -/

namespace Mealy.Domain
open Lifecycle

/-! ### Tasks and effects -/

/-- `TaskTransition` and `EffectTransition`. -/
structure Transition (ι ς : Type) where
  id : ι
  (source target : ς)
  (previousRevision newRevision : Nat)

inductive TransitionError (ι ς : Type) where
  | invalidTransition (id : ι) (source target : ς)
  | revisionOverflow (id : ι)

/-- The fact both aggregates record for an edge of their lifecycle. -/
def transition {ι ς : Type} (allowed : ς → ς → Bool) (id : ι) (status : ς) (revision : Nat) (target : ς) :
    Except (TransitionError ι ς) (Transition ι ς) :=
  if allowed status target = false then .error (.invalidTransition id status target)
  else if revision + 1 < 2 ^ 64 then .ok ⟨id, status, target, revision, revision + 1⟩
  else .error (.revisionOverflow id)

theorem transition_cases {ι ς : Type} (allowed : ς → ς → Bool) (id : ι) (status : ς) (revision : Nat) (target : ς) :
    (∃ error, transition allowed id status revision target = .error error) ∨
    allowed status target = true ∧
      transition allowed id status revision target = .ok ⟨id, status, target, revision, revision + 1⟩ := by
  unfold transition
  split_ifs with refused
  · exact .inl ⟨_, rfl⟩
  · exact .inr ⟨Bool.of_not_eq_false refused, rfl⟩
  · exact .inl ⟨_, rfl⟩

inductive TaskError where
  | transition (error : TransitionError TaskId TaskStatus)
  | validationRequired (taskId : TaskId)

structure TaskState where
  id : TaskId
  status : TaskStatus
  revision : Nat
  validationRequired : Bool
  validationId : Option ValidationId

namespace TaskState

def new (id : TaskId) (validationRequired : Bool) : TaskState := ⟨id, .queued, 0, validationRequired, none⟩

abbrev Answer := Except TaskError (Transition TaskId TaskStatus) × TaskState

def transition (task : TaskState) (target : TaskStatus) : Answer :=
  match Domain.transition TaskStatus.allowed task.id task.status task.revision target with
  | .error error => (.error (.transition error), task)
  | .ok transition => (.ok transition, { task with status := target, revision := transition.newRevision })

def start (task : TaskState) : Answer := task.transition .running
def wait (task : TaskState) : Answer := task.transition .waiting
def resume (task : TaskState) : Answer := task.transition .queued
def pause (task : TaskState) : Answer := task.transition .paused
def requestCancel (task : TaskState) : Answer := task.transition .cancelling
def finishCancel (task : TaskState) : Answer := task.transition .cancelled
def fail (task : TaskState) : Answer := task.transition .failed

def succeed (task : TaskState) (validationId : Option ValidationId) : Answer :=
  if task.validationRequired = true ∧ validationId = none then (.error (.validationRequired task.id), task)
  else
    match task.transition .succeeded with
    | (.error error, task) => (.error error, task)
    | (.ok transition, task) => (.ok transition, { task with validationId })

end TaskState

inductive TaskOperation where
  | start | wait | resume | pause | requestCancel | finishCancel | fail
  | succeed (validationId : Option ValidationId)

def TaskOperation.apply : TaskOperation → TaskState → TaskState.Answer
  | .start, task => task.start
  | .wait, task => task.wait
  | .resume, task => task.resume
  | .pause, task => task.pause
  | .requestCancel, task => task.requestCancel
  | .finishCancel, task => task.finishCancel
  | .fail, task => task.fail
  | .succeed validationId, task => task.succeed validationId

inductive EffectError where
  | transition (error : TransitionError EffectId EffectStatus)
  | missingIdempotencyKey (effectId : EffectId)

def allowedEffect : EffectStatus → EffectStatus → Bool
  | .proposed, .awaitingApproval | .proposed, .authorized | .proposed, .denied => true
  | .awaitingApproval, .authorized | .awaitingApproval, .denied => true
  | .authorized, .dispatching => true
  | .dispatching, .succeeded | .dispatching, .failed | .dispatching, .outcomeUnknown => true
  | .outcomeUnknown, .succeeded | .outcomeUnknown, .failed | .outcomeUnknown, .compensated => true
  | _, _ => false

structure EffectState where
  id : EffectId
  status : EffectStatus
  revision : Nat
  idempotency : IdempotencyClass
  idempotencyKey : Option String

namespace EffectState

def new (id : EffectId) (idempotency : IdempotencyClass) (idempotencyKey : Option String) : EffectState :=
  ⟨id, .proposed, 0, idempotency, idempotencyKey⟩

abbrev Answer := Except EffectError (Transition EffectId EffectStatus) × EffectState

def transition (effect : EffectState) (target : EffectStatus) : Answer :=
  match Domain.transition allowedEffect effect.id effect.status effect.revision target with
  | .error error => (.error (.transition error), effect)
  | .ok transition => (.ok transition, { effect with status := target, revision := transition.newRevision })

def requestApproval (effect : EffectState) : Answer := effect.transition .awaitingApproval
def authorize (effect : EffectState) : Answer := effect.transition .authorized
def deny (effect : EffectState) : Answer := effect.transition .denied

def beginDispatch (effect : EffectState) : Answer :=
  if effect.idempotency = .keyed ∧ effect.idempotencyKey = none then (.error (.missingIdempotencyKey effect.id), effect)
  else effect.transition .dispatching

def succeed (effect : EffectState) : Answer := effect.transition .succeeded
def fail (effect : EffectState) : Answer := effect.transition .failed
def markUnknown (effect : EffectState) : Answer := effect.transition .outcomeUnknown
def reconcileSucceeded (effect : EffectState) : Answer := effect.transition .succeeded
def reconcileFailed (effect : EffectState) : Answer := effect.transition .failed
def compensate (effect : EffectState) : Answer := effect.transition .compensated

end EffectState

inductive EffectOperation where
  | requestApproval | authorize | deny | beginDispatch | succeed | fail | markUnknown
  | reconcileSucceeded | reconcileFailed | compensate

def EffectOperation.apply : EffectOperation → EffectState → EffectState.Answer
  | .requestApproval, effect => effect.requestApproval
  | .authorize, effect => effect.authorize
  | .deny, effect => effect.deny
  | .beginDispatch, effect => effect.beginDispatch
  | .succeed, effect => effect.succeed
  | .fail, effect => effect.fail
  | .markUnknown, effect => effect.markUnknown
  | .reconcileSucceeded, effect => effect.reconcileSucceeded
  | .reconcileFailed, effect => effect.reconcileFailed
  | .compensate, effect => effect.compensate

/-! ### Leases -/

abbrev SystemTime := Int

inductive LeaseError where
  | invalidExpiry | notActive (status : LeaseState) | alreadyExpired | notExpired | expiryNotExtended | clockRegression

structure WorkLease where
  fence : LeaseFence
  (acquiredAt heartbeatAt expiresAt : SystemTime)
  status : LeaseState

namespace WorkLease

def new (fence : LeaseFence) (acquiredAt expiresAt : SystemTime) : Except LeaseError WorkLease :=
  if expiresAt ≤ acquiredAt then .error .invalidExpiry
  else .ok ⟨fence, acquiredAt, acquiredAt, expiresAt, .active⟩

def rehydrate (fence : LeaseFence) (acquiredAt heartbeatAt expiresAt : SystemTime) (status : LeaseState) :
    Except LeaseError WorkLease :=
  if heartbeatAt < acquiredAt ∨ expiresAt ≤ heartbeatAt then .error .invalidExpiry
  else .ok ⟨fence, acquiredAt, heartbeatAt, expiresAt, status⟩

abbrev Answer := Except LeaseError Unit × WorkLease

def heartbeat (lease : WorkLease) (now newExpiry : SystemTime) : Answer :=
  if lease.status ≠ .active then (.error (.notActive lease.status), lease)
  else if now < lease.heartbeatAt then (.error .clockRegression, lease)
  else if lease.expiresAt ≤ now then (.error .alreadyExpired, lease)
  else if newExpiry ≤ lease.expiresAt then (.error .expiryNotExtended, lease)
  else (.ok (), { lease with heartbeatAt := now, expiresAt := newExpiry })

def release (lease : WorkLease) (now : SystemTime) : Answer :=
  if lease.status ≠ .active then (.error (.notActive lease.status), lease)
  else if now < lease.heartbeatAt then (.error .clockRegression, lease)
  else if lease.expiresAt ≤ now then (.error .alreadyExpired, lease)
  else (.ok (), { lease with status := .released })

def expire (lease : WorkLease) (now : SystemTime) : Answer :=
  if lease.status ≠ .active then (.error (.notActive lease.status), lease)
  else if now < lease.expiresAt then (.error .notExpired, lease)
  else (.ok (), { lease with status := .expired })

end WorkLease

inductive LeaseOperation where
  | heartbeat (now newExpiry : SystemTime)
  | release (now : SystemTime)
  | expire (now : SystemTime)

def LeaseOperation.apply : LeaseOperation → WorkLease → WorkLease.Answer
  | .heartbeat now newExpiry, lease => lease.heartbeat now newExpiry
  | .release now, lease => lease.release now
  | .expire now, lease => lease.expire now

/-! ### What one operation does -/

theorem TaskState.apply_cases (op : TaskOperation) (task : TaskState) :
    (∃ error, op.apply task = (.error error, task)) ∨
    ∃ answer target validationId, op.apply task =
      (.ok answer, { task with status := target, revision := task.revision + 1, validationId }) ∧
      task.status.allowed target = true ∧
      (target = .succeeded → task.validationRequired = true → validationId ≠ none) := by
  have moved : ∀ target, (∃ error, task.transition target = (.error error, task)) ∨
      ∃ answer, task.transition target = (.ok answer, { task with status := target, revision := task.revision + 1 }) ∧
        task.status.allowed target = true := by
    intro target
    unfold TaskState.transition
    rcases transition_cases TaskStatus.allowed task.id task.status task.revision target with ⟨error, failed⟩ | ⟨edge, ok⟩
    · rw [failed]
      exact .inl ⟨_, rfl⟩
    · rw [ok]
      exact .inr ⟨_, rfl, edge⟩
  have plain : ∀ target, target ≠ .succeeded → (∃ error, task.transition target = (.error error, task)) ∨
      ∃ answer target' validationId, task.transition target =
        (.ok answer, { task with status := target', revision := task.revision + 1, validationId }) ∧
        task.status.allowed target' = true ∧
        (target' = .succeeded → task.validationRequired = true → validationId ≠ none) := by
    intro target other
    rcases moved target with refused | ⟨answer, ok, edge⟩
    · exact .inl refused
    · exact .inr ⟨answer, target, task.validationId, ok, edge, fun succeeded => absurd succeeded other⟩
  cases op with
  | succeed validationId =>
    simp only [TaskOperation.apply, TaskState.succeed]
    split_ifs with missing
    · exact .inl ⟨_, rfl⟩
    · rcases moved .succeeded with ⟨error, failed⟩ | ⟨answer, ok, edge⟩
      · rw [failed]
        exact .inl ⟨_, rfl⟩
      · rw [ok]
        exact .inr ⟨_, _, _, rfl, edge, fun _ required none => missing ⟨required, none⟩⟩
  | _ => exact plain _ nofun

theorem EffectState.apply_cases (op : EffectOperation) (effect : EffectState) :
    (∃ error, op.apply effect = (.error error, effect)) ∨
    ∃ answer target, op.apply effect = (.ok answer, { effect with status := target, revision := effect.revision + 1 }) ∧
      allowedEffect effect.status target = true ∧
      (target = .dispatching → effect.idempotency = .keyed → effect.idempotencyKey ≠ none) := by
  have moved : ∀ target, (target = .dispatching → effect.idempotency = .keyed → effect.idempotencyKey ≠ none) →
      (∃ error, effect.transition target = (.error error, effect)) ∨
      ∃ answer target', effect.transition target =
        (.ok answer, { effect with status := target', revision := effect.revision + 1 }) ∧
        allowedEffect effect.status target' = true ∧
        (target' = .dispatching → effect.idempotency = .keyed → effect.idempotencyKey ≠ none) := by
    intro target keyed
    unfold EffectState.transition
    rcases transition_cases allowedEffect effect.id effect.status effect.revision target with ⟨error, failed⟩ | ⟨edge, ok⟩
    · rw [failed]
      exact .inl ⟨_, rfl⟩
    · rw [ok]
      exact .inr ⟨_, target, rfl, edge, keyed⟩
  cases op with
  | beginDispatch =>
    simp only [EffectOperation.apply, EffectState.beginDispatch]
    split_ifs with missing
    · exact .inl ⟨_, rfl⟩
    · exact moved _ fun _ keyed none => missing ⟨keyed, none⟩
  | _ => exact moved _ nofun

/-- The times of a lease in order. -/
def WorkLease.Ordered (lease : WorkLease) : Prop :=
  lease.acquiredAt ≤ lease.heartbeatAt ∧ lease.heartbeatAt < lease.expiresAt

theorem WorkLease.apply_cases (op : LeaseOperation) (lease : WorkLease) :
    (∃ error, op.apply lease = (.error error, lease)) ∨
    lease.status = .active ∧ ∃ lease', op.apply lease = (.ok (), lease') ∧ (lease.Ordered → lease'.Ordered) := by
  cases op with
  | heartbeat now newExpiry =>
    simp only [LeaseOperation.apply, WorkLease.heartbeat]
    split_ifs with active regressed expired short
    all_goals first | exact .inl ⟨_, rfl⟩ | skip
    refine .inr ⟨not_not.mp active, _, rfl, fun ordered => ?_⟩
    exact ⟨ordered.1.trans (not_lt.mp regressed), (not_le.mp expired).trans (not_le.mp short)⟩
  | release now =>
    simp only [LeaseOperation.apply, WorkLease.release]
    split_ifs with active
    all_goals first | exact .inl ⟨_, rfl⟩ | exact .inr ⟨not_not.mp active, _, rfl, id⟩
  | expire now =>
    simp only [LeaseOperation.apply, WorkLease.expire]
    split_ifs with active
    all_goals first | exact .inl ⟨_, rfl⟩ | exact .inr ⟨not_not.mp active, _, rfl, id⟩

/-! ### Any sequence of operations -/

/-- What any operations leave of a new task. -/
structure TaskSound (validationRequired : Bool) (count : Nat) (task : TaskState) : Prop where
  refused : RefusalsKeep TaskOperation.apply task
  counted : task.revision = count
  absorbing : task.status.isTerminal = true → ∀ later, after TaskOperation.apply task later = task
  validated : validationRequired = true → task.status = .succeeded → task.validationId ≠ none

def TaskState.Validated (task : TaskState) : Prop :=
  task.validationRequired = true ∧ (task.status = .succeeded → task.validationId ≠ none)

theorem task_sound (id validationRequired ops) :
    TaskSound validationRequired (accepted TaskOperation.apply (.new id validationRequired) ops)
      (after TaskOperation.apply (.new id validationRequired) ops) where
  refused := refusalsKeep fun op => (TaskState.apply_cases op _).imp_right fun ⟨_, _, _, ok, _⟩ => accepts_of_ok ok
  counted := by
    refine (counted_after TaskState.revision ?_ _ ops).trans (Nat.zero_add _)
    intro op task
    rcases TaskState.apply_cases op task with ⟨error, failed⟩ | ⟨answer, target, validationId, ok, -⟩
    · rw [if_neg (not_accepts_of_error failed), failed]
      rfl
    · rw [if_pos (accepts_of_ok ok), ok]
  absorbing := by
    intro terminal
    refine after_of_frozen fun op => ?_
    rcases TaskState.apply_cases op (after TaskOperation.apply (.new id validationRequired) ops) with
      ⟨error, failed⟩ | ⟨answer, target, validationId, -, edge, -⟩
    · rw [failed]
    · have final : ∀ status target : TaskStatus, status.isTerminal = true → status.allowed target = false := by
        intro status target
        cases status <;> cases target <;> decide
      cases (final _ _ terminal).symm.trans edge
  validated := by
    intro required
    have start : (TaskState.new id validationRequired).Validated := ⟨required, nofun⟩
    refine (after_induction ?_ start ops).2
    intro op task kept
    rcases TaskState.apply_cases op task with ⟨error, failed⟩ | ⟨answer, target, validationId, ok, -, checked⟩
    · rwa [failed]
    · rw [ok]
      exact ⟨kept.1, fun succeeded => checked succeeded kept.1⟩

/-- What any operations leave of a new effect. -/
structure EffectSound (idempotency : IdempotencyClass) (key : Option String) (count : Nat) (effect : EffectState) : Prop where
  refused : RefusalsKeep EffectOperation.apply effect
  counted : effect.revision = count
  absorbing : effect.status.isTerminal = true → ∀ later, after EffectOperation.apply effect later = effect
  keyed : idempotency = .keyed → key = none → effect.status ≠ .dispatching
  undecided : effect.status = .outcomeUnknown →
    ∀ later, (after EffectOperation.apply effect later).status ≠ .dispatching

/-- The states from which no dispatch can be reached any more. -/
def EffectState.Dispatched (effect : EffectState) : Prop :=
  effect.status = .outcomeUnknown ∨ effect.status.isTerminal = true

theorem EffectState.Dispatched.after {effect : EffectState} (dispatched : effect.Dispatched) (ops) :
    (Lifecycle.after EffectOperation.apply effect ops).Dispatched := by
  refine after_induction ?_ dispatched ops
  intro op effect dispatched
  rcases EffectState.apply_cases op effect with ⟨error, failed⟩ | ⟨answer, target, ok, edge, -⟩
  · rwa [failed]
  · rw [ok]
    have onward : ∀ status target : EffectStatus, status = .outcomeUnknown ∨ status.isTerminal = true →
        allowedEffect status target = true → target.isTerminal = true := by
      intro status target
      cases status <;> cases target <;> decide
    exact .inr (onward _ _ dispatched edge)

def EffectState.Unkeyed (effect : EffectState) : Prop :=
  effect.idempotency = .keyed ∧ effect.idempotencyKey = none ∧ effect.status ≠ .dispatching

theorem effect_sound (id idempotency key ops) :
    EffectSound idempotency key (accepted EffectOperation.apply (.new id idempotency key) ops)
      (after EffectOperation.apply (.new id idempotency key) ops) where
  refused := refusalsKeep fun op => (EffectState.apply_cases op _).imp_right fun ⟨_, _, ok, _⟩ => accepts_of_ok ok
  counted := by
    refine (counted_after EffectState.revision ?_ _ ops).trans (Nat.zero_add _)
    intro op effect
    rcases EffectState.apply_cases op effect with ⟨error, failed⟩ | ⟨answer, target, ok, -⟩
    · rw [if_neg (not_accepts_of_error failed), failed]
      rfl
    · rw [if_pos (accepts_of_ok ok), ok]
  absorbing := by
    intro terminal
    refine after_of_frozen fun op => ?_
    rcases EffectState.apply_cases op (after EffectOperation.apply (.new id idempotency key) ops) with
      ⟨error, failed⟩ | ⟨answer, target, -, edge, -⟩
    · rw [failed]
    · have final : ∀ status target : EffectStatus, status.isTerminal = true → allowedEffect status target = false := by
        intro status target
        cases status <;> cases target <;> decide
      cases (final _ _ terminal).symm.trans edge
  keyed := by
    intro isKeyed none
    have start : (EffectState.new id idempotency key).Unkeyed := ⟨isKeyed, none, nofun⟩
    refine (after_induction ?_ start ops).2.2
    rintro op effect ⟨isKeyed, none, outside⟩
    rcases EffectState.apply_cases op effect with ⟨error, failed⟩ | ⟨answer, target, ok, -, checked⟩
    · rw [failed]
      exact ⟨isKeyed, none, outside⟩
    · rw [ok]
      exact ⟨isKeyed, none, fun dispatching => checked dispatching isKeyed none⟩
  undecided := by
    intro undecided later dispatching
    rcases EffectState.Dispatched.after (.inl undecided) later with same | terminal
    · cases same.symm.trans dispatching
    · rw [dispatching] at terminal
      cases terminal

/-- What any operations leave of a lease. -/
structure LeaseSound (lease : WorkLease) : Prop where
  refused : RefusalsKeep LeaseOperation.apply lease
  absorbing : lease.status ≠ .active → ∀ later, after LeaseOperation.apply lease later = lease
  ordered : lease.acquiredAt ≤ lease.heartbeatAt ∧ lease.heartbeatAt < lease.expiresAt
  extended : ∀ now newExpiry, Accepts LeaseOperation.apply (.heartbeat now newExpiry) lease →
    lease.expiresAt < (LeaseOperation.apply (.heartbeat now newExpiry) lease).2.expiresAt
  ended : lease.status = .active → ∀ now, lease.heartbeatAt ≤ now →
    Xor (Accepts LeaseOperation.apply (.release now) lease) (Accepts LeaseOperation.apply (.expire now) lease)
  rehydrated : WorkLease.rehydrate lease.fence lease.acquiredAt lease.heartbeatAt lease.expiresAt lease.status = .ok lease

theorem WorkLease.Ordered.sound {lease : WorkLease} (ordered : lease.Ordered) : LeaseSound lease where
  refused := refusalsKeep fun op => (WorkLease.apply_cases op lease).imp_right fun ⟨_, _, ok, _⟩ => accepts_of_ok ok
  absorbing := by
    intro inactive
    refine after_of_frozen fun op => ?_
    rcases WorkLease.apply_cases op lease with ⟨error, failed⟩ | ⟨active, -⟩
    · rw [failed]
    · exact absurd active inactive
  ordered := ordered
  extended := by
    rintro now newExpiry ⟨answer, ok⟩
    simp only [LeaseOperation.apply, WorkLease.heartbeat] at ok ⊢
    split_ifs at ok ⊢ with active regressed expired short
    exact not_le.mp short
  ended := by
    intro active now started
    simp only [Accepts, LeaseOperation.apply, WorkLease.release, WorkLease.expire, active, ne_eq, not_true,
      if_false, not_lt.mpr started]
    by_cases expired : lease.expiresAt ≤ now
    · exact .inr ⟨⟨(), by rw [if_neg (not_lt.mpr expired)]⟩, by simp [expired]⟩
    · exact .inl ⟨⟨(), by rw [if_neg expired]⟩, by simp [not_le.mp expired]⟩
  rehydrated := if_neg (not_or.mpr ⟨not_lt.mpr ordered.1, not_le.mpr ordered.2⟩)

theorem WorkLease.Ordered.after {lease : WorkLease} (ordered : lease.Ordered) (ops) :
    (Lifecycle.after LeaseOperation.apply lease ops).Ordered := by
  refine after_induction ?_ ordered ops
  intro op lease ordered
  rcases WorkLease.apply_cases op lease with ⟨error, failed⟩ | ⟨-, lease', ok, kept⟩
  · rwa [failed]
  · rw [ok]
    exact kept ordered

/-- A lease as the code can make one: acquired, or read back from a stored snapshot. -/
def WorkLease.Made (lease : WorkLease) : Prop :=
  (∃ fence acquiredAt expiresAt, WorkLease.new fence acquiredAt expiresAt = .ok lease) ∨
    ∃ fence acquiredAt heartbeatAt expiresAt status,
      WorkLease.rehydrate fence acquiredAt heartbeatAt expiresAt status = .ok lease

theorem WorkLease.Made.ordered {lease : WorkLease} (made : lease.Made) : lease.Ordered := by
  rcases made with ⟨fence, acquiredAt, expiresAt, made⟩ | ⟨fence, acquiredAt, heartbeatAt, expiresAt, status, made⟩
  · unfold WorkLease.new at made
    split_ifs at made with early
    cases made
    exact ⟨le_refl _, not_le.mp early⟩
  · unfold WorkLease.rehydrate at made
    split_ifs at made with early
    cases made
    exact ⟨not_lt.mp fun before => early (.inl before), not_le.mp fun before => early (.inr before)⟩

/-- The lifecycles of tasks, effects and leases under any operations in any order. -/
theorem domain_lifecycles :
    (∀ id validationRequired ops, TaskSound validationRequired
      (accepted TaskOperation.apply (.new id validationRequired) ops)
      (after TaskOperation.apply (.new id validationRequired) ops)) ∧
    (∀ id idempotency key ops, EffectSound idempotency key
      (accepted EffectOperation.apply (.new id idempotency key) ops)
      (after EffectOperation.apply (.new id idempotency key) ops)) ∧
    ∀ lease : WorkLease, lease.Made → ∀ ops, LeaseSound (after LeaseOperation.apply lease ops) :=
  ⟨task_sound, effect_sound, fun _ made ops => (made.ordered.after ops).sound⟩

theorem domain_lifecycles_first_lease :
    LeaseSound (after LeaseOperation.apply ⟨⟨⟨1⟩, ⟨1⟩, ⟨1⟩, 1⟩, 0, 0, 10, .active⟩ [.heartbeat 5 20, .release 30, .expire 20]) :=
  domain_lifecycles.2.2 _ (.inl ⟨⟨⟨1⟩, ⟨1⟩, ⟨1⟩, 1⟩, 0, 10, rfl⟩) _

end Mealy.Domain
