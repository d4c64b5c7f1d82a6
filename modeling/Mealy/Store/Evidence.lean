import Mealy.Store.Schema

/-! Outcome evidence of the effect ledger (`effect_ledger.rs` of the application
crate): the versioned envelope around the details of one outcome, and how a
boundary left open by a lost lease is classified. -/

namespace Mealy
open Transaction

def effectOutcomeEvidenceContractVersion : String := "mealy.effect-outcome-evidence.v1"

def maximumEffectOutcomeDetailsBytes : Nat := 32 * 1024

def interruptedEffectOutcomeErrorClass : String := "worker_interrupted_after_dispatch"

def interruptedEffectOutcomeClassification : String :=
  "external_outcome_unproven_after_worker_interruption"

def interruptedEffectRetryErrorClass : String := "worker_interrupted_retryable"

def interruptedEffectRetryClassification : String :=
  "external_outcome_unproven_but_retry_is_contract_safe"

def EffectOutcomeKind.text : EffectOutcomeKind → String
  | .succeeded => "succeeded"
  | .failed => "failed"
  | .outcomeUnknown => "outcome_unknown"
  | .compensated => "compensated"

def IdempotencyClass.text : IdempotencyClass → String
  | .pure => "pure"
  | .idempotent => "idempotent"
  | .keyed => "keyed"
  | .nonIdempotent => "non_idempotent"

def RecoveryStrategy.text : RecoveryStrategy → String
  | .retry => "retry"
  | .reconcile => "reconcile"
  | .compensate => "compensate"
  | .neverRetry => "never_retry"

def LeaseState.text : LeaseState → String
  | .active => "active"
  | .released => "released"
  | .expired => "expired"

def acceptsDetails (subject : String) (details : Json.Value) : Except StoreError Unit :=
  match details with
  | .object [] | .null | .bool _ | .number _ | .string _ | .array _ =>
    .error (.invalidEvidence (subject ++ " must be a non-empty JSON object"))
  | .object (_ :: _) =>
    ensure (details.size ≤ maximumEffectOutcomeDetailsBytes)
      (.invalidEvidence (subject ++ " exceed 32768 bytes"))

def effectOutcomeEvidenceMaterial (effectId : EffectId) (attemptId : AttemptId) (sequence : Nat)
    (kind : EffectOutcomeKind) (details : Json.Value) (errorClass : Option String) (recordedAt : Millis) :
    Except StoreError Json.Value := do
  acceptsDetails "effect outcome evidence details" details
  ensure (∀ value ∈ errorClass, value ≠ "" ∧ value.utf8ByteSize ≤ 128)
    (.invalidEvidence "effect outcome error class must contain between 1 and 128 UTF-8 bytes")
  pure (.object
    [("attemptId", .string (Json.uuidText attemptId.id)),
     ("contractVersion", .string effectOutcomeEvidenceContractVersion),
     ("effectId", .string (Json.uuidText effectId.id)),
     ("errorClass", errorClass.elim .null .string),
     ("evidence", details),
     ("outcomeKind", .string kind.text),
     ("recordedAtMs", .nat recordedAt),
     ("sequence", .nat sequence)])

/-! ### Recovery classification -/

inductive EffectAttemptBoundary where
  | prepared | running | outcomeUnknown
deriving DecidableEq

inductive EffectRecoveryDisposition where
  | resumePrepared | retry | retryWithSameKey | requiresReconciliation | requiresCompensation
  | terminallyFailed
deriving DecidableEq

def EffectRecoveryDisposition.text : EffectRecoveryDisposition → String
  | .resumePrepared => "resume_prepared"
  | .retry => "retry"
  | .retryWithSameKey => "retry_with_same_key"
  | .requiresReconciliation => "requires_reconciliation"
  | .requiresCompensation => "requires_compensation"
  | .terminallyFailed => "terminally_failed"

def classifyRecovery (boundary : EffectAttemptBoundary) (idempotency : IdempotencyClass)
    (recovery : RecoveryStrategy) : EffectRecoveryDisposition :=
  if boundary = .prepared then .resumePrepared
  else if recovery = .compensate then .requiresCompensation
  else if recovery = .neverRetry then .terminallyFailed
  else if boundary = .outcomeUnknown then .requiresReconciliation
  else match idempotency, recovery with
    | .keyed, .retry => .retryWithSameKey
    | .pure, .retry | .idempotent, .retry => .retry
    | _, _ => .requiresReconciliation

/-- The dispositions under which an interrupted dispatch may run again. -/
def EffectRecoveryDisposition.isRetry : EffectRecoveryDisposition → Bool
  | .retry | .retryWithSameKey => true
  | .resumePrepared | .requiresReconciliation | .requiresCompensation | .terminallyFailed => false

def retryableIntent (idempotency : IdempotencyClass) (recovery : RecoveryStrategy) : Bool :=
  recovery = .retry ∧ idempotency ≠ .nonIdempotent

theorem classifyRecovery_running_isRetry (idempotency) (recovery) :
    (classifyRecovery .running idempotency recovery).isRetry = retryableIntent idempotency recovery := by
  cases idempotency <;> cases recovery <;> rfl

end Mealy
