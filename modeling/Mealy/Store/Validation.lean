import Mealy.Store.Recovery

/-! Recording a validation of a running task (`validation.rs`). A fresh-context
validation inserts its validator as a task and run that have already succeeded. -/

namespace Mealy
open Relational Transaction

inductive ValidationMethod where
  | deterministic | freshContextModel | waiver
deriving DecidableEq

/-- `RecordValidationCommit`. The validated context, the rubric and the evidence are
digested into rows that nothing modelled here reads. -/
structure RecordValidationCommit where
  validationId : ValidationId
  taskId : TaskId
  producerFence : LeaseFence
  method : ValidationMethod
  outcome : ValidationOutcome
  validator : Option (TaskId × RunId)
  responsiblePrincipalId : PrincipalId
  recordedAt : Millis

def RecordValidationCommit.identityValid (commit : RecordValidationCommit) : Bool :=
  match commit.method with
  | .freshContextModel => commit.outcome ≠ .waived ∧ commit.validator.isSome
  | .deterministic => commit.outcome ≠ .waived ∧ commit.validator.isNone
  | .waiver => commit.outcome = .waived ∧ commit.validator.isNone

def Store.loadValidationProducer (s : Store) (fence : LeaseFence) (taskId : TaskId) (observedAt : Millis) :
    Except StoreError (Task × Session) := do
  let run ← require (s.runningUnder fence) .staleFence
  let task ← require (s.tasks.get taskId) .staleFence
  let lease ← require (s.heldLease fence) .staleFence
  let (_, turn) ← require (s.turnOfRun fence.runId) .staleFence
  let session ← require (s.sessions.get turn.sessionId) .staleFence
  let _ ← require (s.loops.get fence.runId) .staleFence
  ensure (run.taskId = taskId ∧ turn.taskId = taskId ∧ task.status = .running ∧
    lease.acquiredAt ≤ observedAt ∧ observedAt < lease.expiresAt) .staleFence
  pure (task, session)

def insertValidatorRun (validator : Option (TaskId × RunId)) (recordedAt : Millis) (s : Store) : Txn :=
  match validator with
  | none => .ok s
  | some (validatorTaskId, validatorRunId) => do
    ensure (s.tasks.get validatorTaskId = none ∧ s.runs.get validatorRunId = none) .conflict
    pure { s with
      tasks := s.tasks.put validatorTaskId
        { status := .succeeded, revision := 0, validationRequired := false, validationId := none },
      runs := s.runs.put validatorRunId
        { taskId := validatorTaskId, agentRole := .validator, status := .succeeded,
          currentFencingToken := 0, cancellationRequestedAt := none, nextAttemptAt := none,
          createdAt := recordedAt } }

def recordValidation (commit : RecordValidationCommit) (s : Store) : Txn := do
  ensure commit.identityValid
    (.invariantViolation "validation method, outcome, and child identities diverge")
  let (task, session) ← s.loadValidationProducer commit.producerFence commit.taskId commit.recordedAt
  ensure (commit.responsiblePrincipalId = session.principalId) .conflict
  ensure (task.validationRequired → commit.method = .freshContextModel ∨ commit.method = .waiver) .conflict
  ensure (s.validations.get commit.validationId = none) .conflict
  let validated ← insertValidatorRun commit.validator commit.recordedAt s
  ensure (task.validationId = none) .conflict
  pure { validated with
    validations := validated.validations.put commit.validationId
      { taskId := commit.taskId, outcome := commit.outcome },
    tasks := validated.tasks.put commit.taskId
      { task with validationId := some commit.validationId, revision := task.revision + 1 } }

end Mealy
