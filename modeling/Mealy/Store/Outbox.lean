import Mealy.Store.Schema

/-! Outbox delivery (`outbox.rs` of the application and of the store): claiming the
oldest due record, completing it, and retrying or failing it. The store port works on
whole transactions; the use cases above it check the policy and read the clock. -/

namespace Mealy
open Relational Transaction

structure OutboxId where
  id : Nat
deriving DecidableEq

/-- Nanoseconds since the Unix epoch; a clock may stand before it. -/
abbrev SystemTime := Int

abbrev Duration := Nat

def Duration.fromMillis (milliseconds : Nat) : Duration := milliseconds * 10 ^ 6

def Duration.fromHours (hours : Nat) : Duration := Duration.fromMillis (hours * 3600000)

/-- The instants of a `SystemTime`, whose seconds are an `i64`. -/
def SystemTime.representable (time : SystemTime) : Option SystemTime :=
  if -(2 ^ 63 * 10 ^ 9) ≤ time ∧ time < 2 ^ 63 * 10 ^ 9 then some time else none

def SystemTime.checkedAdd (time : SystemTime) (delay : Duration) : Option SystemTime :=
  SystemTime.representable (time + (delay : Int))

def SystemTime.checkedSub (time : SystemTime) (delay : Duration) : Option SystemTime :=
  SystemTime.representable (time - (delay : Int))

inductive OutboxState where
  | pending | delivering | delivered | failed
deriving DecidableEq

structure OutboxRow where
  (topic payloadJson : String)
  createdAt : Millis
  state : OutboxState := .pending
  attempts : Nat := 0
  nextAttemptAt : Option Millis := none
  deliveryOwnerId : Option WorkerId := none
  deliveryStartedAt : Option Millis := none
  deliveredAt : Option Millis := none
  lastError : Option String := none

abbrev Outbox := Table OutboxId OutboxRow

/-- One record claimed for a delivery attempt. -/
structure OutboxDelivery where
  outboxId : OutboxId
  (topic payloadJson : String)
  attempt : Nat
deriving DecidableEq

inductive OutboxClaimOutcome where
  | claimed (delivery : OutboxDelivery)
  | noPendingDelivery

inductive OutboxStoreError where
  | staleClaim
  | unavailable (reason : String)
  | invariantViolation (reason : String)

/-! ### The store port -/

namespace OutboxStore

def epochMilliseconds (time : SystemTime) : Except OutboxStoreError Millis := do
  ensure (0 ≤ time) (.invariantViolation "outbox clock returned a time before the Unix epoch")
  let milliseconds := time.toNat / 10 ^ 6
  ensure (milliseconds ≤ maximumI64) (.invariantViolation "outbox timestamp exceeds SQLite")
  pure milliseconds

def optionalMilliseconds : Option SystemTime → Except OutboxStoreError (Option Millis)
  | none => .ok none
  | some time => (epochMilliseconds time).map some

structure OutboxClaimCommit where
  ownerId : WorkerId
  (claimedAt staleBefore : SystemTime)
  maximumAttempts : Nat

/-- A claim whose delivery started too long ago, or at no recorded time. -/
def OutboxRow.isStale (row : OutboxRow) (staleBefore : Millis) : Bool :=
  row.state = .delivering ∧ row.deliveryStartedAt.all fun started => started ≤ staleBefore

/-- The first `UPDATE` of a claim: stale deliveries are pending again. -/
def recoverStale (claimedAt staleBefore : Millis) (rows : Outbox) : Outbox :=
  rows.update fun _ row =>
    if OutboxRow.isStale row staleBefore then
      { row with
        state := .pending, deliveryOwnerId := none, deliveryStartedAt := none,
        nextAttemptAt := some (min (row.nextAttemptAt.getD claimedAt) claimedAt),
        lastError := row.lastError.or (some "dispatcher claim timed out") }
    else row

/-- The second: pending records without an attempt left have failed. -/
def failExhausted (maximumAttempts : Nat) (rows : Outbox) : Outbox :=
  rows.update fun _ row =>
    if row.state = .pending ∧ maximumAttempts ≤ row.attempts then
      { row with
        state := .failed, nextAttemptAt := none,
        lastError := row.lastError.or (some "maximum delivery attempts exhausted") }
    else row

def deliversBefore (a b : OutboxId × OutboxRow) : Bool :=
  let due (row : OutboxRow) := row.nextAttemptAt.getD row.createdAt
  due a.2 < due b.2 ∨ (due a.2 = due b.2 ∧
    (a.2.createdAt < b.2.createdAt ∨ (a.2.createdAt = b.2.createdAt ∧ a.1.id ≤ b.1.id)))

def dueFirst (maximumAttempts : Nat) (claimedAt : Millis) (rows : Outbox) : Option (OutboxId × OutboxRow) :=
  Table.firstBy deliversBefore (rows.select fun _ row =>
    row.state = .pending ∧ row.attempts < maximumAttempts ∧ row.nextAttemptAt.all fun due => due ≤ claimedAt)

def claimNextOutbox (commit : OutboxClaimCommit) (rows : Outbox) :
    Except OutboxStoreError (OutboxClaimOutcome × Outbox) := do
  let claimedAt ← epochMilliseconds commit.claimedAt
  let staleBefore ← epochMilliseconds commit.staleBefore
  ensure (staleBefore ≤ claimedAt ∧ commit.maximumAttempts ≠ 0)
    (.invariantViolation "invalid outbox claim policy reached storage")
  let swept := failExhausted commit.maximumAttempts (recoverStale claimedAt staleBefore rows)
  match dueFirst commit.maximumAttempts claimedAt swept with
  | none => pure (.noPendingDelivery, swept)
  | some (outboxId, row) =>
    let nextAttempt := row.attempts + 1
    ensure (nextAttempt ≤ maximumI64) (.invariantViolation "outbox attempt counter overflow")
    ensure (nextAttempt < 2 ^ 32) (.invariantViolation "outbox attempt exceeds u32")
    let claimed := swept.put outboxId
      { row with
        state := .delivering, attempts := nextAttempt, deliveryOwnerId := some commit.ownerId,
        deliveryStartedAt := some claimedAt, nextAttemptAt := none }
    pure (.claimed ⟨outboxId, row.topic, row.payloadJson, nextAttempt⟩, claimed)

def heldRow (rows : Outbox) (outboxId : OutboxId) (ownerId : WorkerId) (now : Millis) : Option OutboxRow :=
  (rows.get outboxId).filter fun row =>
    row.state = .delivering ∧ row.deliveryOwnerId = some ownerId ∧
      row.deliveryStartedAt.any fun started => started ≤ now

structure CompleteOutboxCommit where
  outboxId : OutboxId
  ownerId : WorkerId
  deliveredAt : SystemTime

def completeOutbox (commit : CompleteOutboxCommit) (rows : Outbox) : Except OutboxStoreError Outbox := do
  let deliveredAt ← epochMilliseconds commit.deliveredAt
  let row ← require (heldRow rows commit.outboxId commit.ownerId deliveredAt) .staleClaim
  pure (rows.put commit.outboxId
    { row with state := .delivered, deliveredAt := some deliveredAt, nextAttemptAt := none, lastError := none })

structure RetryOutboxCommit where
  outboxId : OutboxId
  ownerId : WorkerId
  failedAt : SystemTime
  retryAt : Option SystemTime
  error : String

/-- `length(text) > 0`, where SQLite counts up to the first NUL. -/
def hasLength (text : String) : Bool := text.toList.head?.any fun c => c ≠ Char.ofNat 0

def retryOutbox (commit : RetryOutboxCommit) (rows : Outbox) : Except OutboxStoreError Outbox := do
  let failedAt ← epochMilliseconds commit.failedAt
  let retryAt ← optionalMilliseconds commit.retryAt
  ensure (retryAt.all fun retry => failedAt < retry)
    (.invariantViolation "outbox retry must be scheduled after failure")
  let row ← require (heldRow rows commit.outboxId commit.ownerId failedAt) .staleClaim
  ensure (hasLength commit.error) (.unavailable "CHECK constraint failed: last_error")
  pure (rows.put commit.outboxId
    { row with
      state := if retryAt.isSome then .pending else .failed, nextAttemptAt := retryAt,
      lastError := some commit.error, deliveryOwnerId := none, deliveryStartedAt := none })

end OutboxStore

/-! ### The use cases -/

inductive OutboxUseCaseError where
  | invalidClaimTimeout | invalidMaximumAttempts | invalidRetryDelay | invalidError | timeOverflow
  | store (error : OutboxStoreError)

/-- `map_err(OutboxUseCaseError::from)`. -/
def liftStore {α : Type} (result : Except OutboxStoreError α) : Except OutboxUseCaseError α :=
  result.mapError .store

def claimNextOutbox (now : SystemTime) (ownerId : WorkerId) (claimTimeout : Duration) (maximumAttempts : Nat)
    (rows : Outbox) : Except OutboxUseCaseError (OutboxClaimOutcome × Outbox) := do
  ensure (claimTimeout ≠ 0 ∧ claimTimeout ≤ Duration.fromHours 1) .invalidClaimTimeout
  ensure (1 ≤ maximumAttempts ∧ maximumAttempts ≤ 100) .invalidMaximumAttempts
  let staleBefore := (SystemTime.checkedSub now claimTimeout).getD 0
  liftStore (OutboxStore.claimNextOutbox { ownerId, claimedAt := now, staleBefore, maximumAttempts } rows)

def completeOutbox (now : SystemTime) (ownerId : WorkerId) (outboxId : OutboxId) (rows : Outbox) :
    Except OutboxUseCaseError Outbox :=
  liftStore (OutboxStore.completeOutbox { outboxId, ownerId, deliveredAt := now } rows)

def OutboxDelivery.retryAt (delivery : OutboxDelivery) (now : SystemTime) (maximumAttempts : Nat)
    (retryDelay : Duration) : Except OutboxUseCaseError (Option SystemTime) :=
  if maximumAttempts ≤ delivery.attempt then .ok none
  else (require (SystemTime.checkedAdd now retryDelay) .timeOverflow).map some

def retryOutbox (now : SystemTime) (ownerId : WorkerId) (delivery : OutboxDelivery) (maximumAttempts : Nat)
    (retryDelay : Duration) (error : String) (rows : Outbox) : Except OutboxUseCaseError Outbox := do
  ensure (1 ≤ maximumAttempts ∧ maximumAttempts ≤ 100) .invalidMaximumAttempts
  ensure (retryDelay ≠ 0 ∧ retryDelay ≤ Duration.fromHours 24) .invalidRetryDelay
  ensure (error ≠ "" ∧ error.utf8ByteSize ≤ 4096) .invalidError
  let retryAt ← delivery.retryAt now maximumAttempts retryDelay
  liftStore (OutboxStore.retryOutbox { outboxId := delivery.outboxId, ownerId, failedAt := now, retryAt, error } rows)

/-! ### Committed transactions -/

@[simp] theorem liftStore_eq_ok {α} {result : Except OutboxStoreError α} {a : α} :
    liftStore result = .ok a ↔ result = .ok a := mapError_eq_ok

theorem OutboxDelivery.retryAt_eq_none {delivery : OutboxDelivery} {now : SystemTime} {maximumAttempts : Nat}
    {retryDelay : Duration} {planned : Option SystemTime}
    (plan : delivery.retryAt now maximumAttempts retryDelay = .ok planned) :
    planned = none ↔ maximumAttempts ≤ delivery.attempt := by
  unfold retryAt at plan
  split at plan
  next reached => cases plan; simp [reached]
  next below =>
    cases time : SystemTime.checkedAdd now retryDelay with
    | none => simp [time, require, Except.map] at plan
    | some instant =>
      simp only [time, require, Except.map, Except.ok.injEq] at plan
      simp [← plan, below]

namespace OutboxStore

theorem heldRow_eq_some {rows outboxId ownerId now row} :
    heldRow rows outboxId ownerId now = some row ↔ rows.get outboxId = some row ∧ row.state = .delivering ∧
      row.deliveryOwnerId = some ownerId ∧ ∃ started, row.deliveryStartedAt = some started ∧ started ≤ now := by
  simp [heldRow, Option.filter_eq_some_iff, Option.any_eq_true]

theorem swept_row {claimedAt staleBefore maximumAttempts rows outboxId row'}
    (stored : (failExhausted maximumAttempts (recoverStale claimedAt staleBefore rows)).get outboxId = some row') :
    ∃ row, rows.get outboxId = some row ∧ row'.attempts = row.attempts ∧
      (row' = row ∨ row'.state = .pending ∧ row.state = .delivering ∨
        row'.state = .failed ∧ (row.state = .pending ∨ row.state = .delivering)) := by
  simp only [failExhausted, recoverStale, Table.get_update, Option.map_map, Option.map_eq_some_iff,
    Function.comp_apply] at stored
  obtain ⟨row, found, rfl⟩ := stored
  refine ⟨row, found, ?_⟩
  by_cases stale : OutboxRow.isStale row staleBefore = true
  · have delivering : row.state = .delivering := by
      simp only [OutboxRow.isStale, decide_eq_true_eq] at stale
      exact stale.1
    simp only [stale, ↓reduceIte, true_and]
    split <;> simp [delivering]
  · simp only [stale, Bool.false_eq_true, ↓reduceIte]
    split
    next exhausted => simp [exhausted.1]
    next => simp

theorem dueFirst_some {maximumAttempts claimedAt rows outboxId row} (due : dueFirst maximumAttempts claimedAt rows = some (outboxId, row)) :
    rows.get outboxId = some row ∧ row.state = .pending ∧ row.attempts < maximumAttempts := by
  obtain ⟨found, accepted⟩ := (Table.mem_select ..).mp (Table.firstBy_mem due)
  simp only [decide_eq_true_eq] at accepted
  exact ⟨found, accepted.1, accepted.2.1⟩

theorem claimNextOutbox_ok {commit rows rows' outcome}
    (ok : claimNextOutbox commit rows = .ok (outcome, rows')) :
    ∃ claimedAt staleBefore,
      let swept := failExhausted commit.maximumAttempts (recoverStale claimedAt staleBefore rows)
      (outcome = .noPendingDelivery ∧ rows' = swept) ∨
      ∃ outboxId row, swept.get outboxId = some row ∧ row.state = .pending ∧ row.attempts < commit.maximumAttempts ∧
        outcome = .claimed ⟨outboxId, row.topic, row.payloadJson, row.attempts + 1⟩ ∧
        rows' = swept.put outboxId
          { row with
            state := .delivering, attempts := row.attempts + 1, deliveryOwnerId := some commit.ownerId,
            deliveryStartedAt := some claimedAt, nextAttemptAt := none } := by
  simp only [claimNextOutbox, eq_ok] at ok
  obtain ⟨claimedAt, _, staleBefore, _, _, _, ok⟩ := ok
  refine ⟨claimedAt, staleBefore, ?_⟩
  split at ok
  next =>
    cases pure_eq_ok.mp ok
    exact .inl ⟨rfl, rfl⟩
  next outboxId row due =>
    simp only [eq_ok] at ok
    obtain ⟨_, _, _, _, same⟩ := ok
    cases same
    obtain ⟨found, pending, below⟩ := dueFirst_some due
    exact .inr ⟨outboxId, row, found, pending, below, rfl, rfl⟩

theorem completeOutbox_ok {commit rows rows'} (ok : completeOutbox commit rows = .ok rows') :
    ∃ deliveredAt row, heldRow rows commit.outboxId commit.ownerId deliveredAt = some row ∧
      rows' = rows.put commit.outboxId
        { row with
          state := .delivered, deliveredAt := some deliveredAt, nextAttemptAt := none, lastError := none } := by
  simp only [completeOutbox, eq_ok] at ok
  obtain ⟨deliveredAt, _, row, held, rfl⟩ := ok
  exact ⟨deliveredAt, row, held, rfl⟩

theorem optionalMilliseconds_isSome {time millis}
    (converted : optionalMilliseconds time = .ok millis) : millis.isSome = time.isSome := by
  unfold optionalMilliseconds at converted
  split at converted
  next => cases converted; rfl
  next instant =>
    cases epoch : epochMilliseconds instant with
    | error e => simp [epoch, Except.map] at converted
    | ok value =>
      simp only [epoch, Except.map, Except.ok.injEq] at converted
      simp [← converted]

theorem retryOutbox_ok {commit rows rows'} (ok : retryOutbox commit rows = .ok rows') :
    ∃ failedAt retryAt row, epochMilliseconds commit.failedAt = .ok failedAt ∧
      retryAt.isSome = commit.retryAt.isSome ∧ (∀ retry, retryAt = some retry → failedAt < retry) ∧
      heldRow rows commit.outboxId commit.ownerId failedAt = some row ∧
      rows' = rows.put commit.outboxId
        { row with
          state := if retryAt.isSome then .pending else .failed, nextAttemptAt := retryAt,
          lastError := some commit.error, deliveryOwnerId := none, deliveryStartedAt := none } := by
  simp only [retryOutbox, eq_ok] at ok
  obtain ⟨failedAt, observed, retryAt, scheduled, _, later, row, held, _, _, rfl⟩ := ok
  refine ⟨failedAt, retryAt, row, observed, optionalMilliseconds_isSome scheduled, fun retry planned => ?_, held, rfl⟩
  subst planned
  simpa using later

end OutboxStore
end Mealy
