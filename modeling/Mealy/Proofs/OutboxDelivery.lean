import Mealy.Store.Outbox

/-! The delivery protocol of the outbox. Claims may be stolen once they are stale, so the
state of the protocol also keeps the claims that were granted; what an owner may do is
decided by the latest claim of a record. -/

namespace Mealy
open Relational Transaction

variable {s s' : OutboxRun} {outboxId : OutboxId} {op : OutboxOperation} {ownerId : WorkerId} {now : SystemTime}
  {maximumAttempts : Nat}

/-- The outbox and the claims granted so far, the latest first. -/
structure OutboxRun where
  rows : Outbox := .empty
  claims : List (OutboxDelivery × WorkerId) := []

/-- Records are enqueued by the transactions that announce something. -/
inductive OutboxOperation where
  | enqueue (outboxId : OutboxId) (topic payloadJson : String) (createdAt : Millis)
  | claim (now : SystemTime) (ownerId : WorkerId) (claimTimeout : Duration) (maximumAttempts : Nat)
  | complete (now : SystemTime) (ownerId : WorkerId) (outboxId : OutboxId)
  | retry (now : SystemTime) (ownerId : WorkerId) (delivery : OutboxDelivery) (maximumAttempts : Nat)
      (retryDelay : Duration) (error : String)

def OutboxRun.recordClaim (s : OutboxRun) (ownerId : WorkerId) (result : OutboxClaimOutcome × Outbox) : OutboxRun where
  rows := result.2
  claims :=
    match result.1 with
    | .claimed delivery => (delivery, ownerId) :: s.claims
    | .noPendingDelivery => s.claims

def OutboxOperation.exec (op : OutboxOperation) (s : OutboxRun) : Except OutboxUseCaseError OutboxRun :=
  match op with
  | enqueue outboxId topic payloadJson createdAt => do
    ensure (s.rows.get outboxId = none) (.store (.unavailable "UNIQUE constraint failed: outbox.outbox_id"))
    pure { s with rows := s.rows.put outboxId { topic, payloadJson, createdAt } }
  | claim now ownerId claimTimeout maximumAttempts => do
    let result ← claimNextOutbox now ownerId claimTimeout maximumAttempts s.rows
    pure (s.recordClaim ownerId result)
  | complete now ownerId outboxId => do
    let rows ← completeOutbox now ownerId outboxId s.rows
    pure { s with rows }
  | retry now ownerId delivery maximumAttempts retryDelay error => do
    let rows ← retryOutbox now ownerId delivery maximumAttempts retryDelay error s.rows
    pure { s with rows }

def outboxSystem : System OutboxUseCaseError OutboxRun OutboxOperation where
  initial := {}
  exec := OutboxOperation.exec

namespace OutboxRun

def claimsOf (s : OutboxRun) (outboxId : OutboxId) : Nat := s.claims.countP fun claim => claim.1.outboxId = outboxId

def latestClaim (s : OutboxRun) (outboxId : OutboxId) : Option (OutboxDelivery × WorkerId) :=
  s.claims.find? fun claim => claim.1.outboxId = outboxId

def Holds (s : OutboxRun) (ownerId : WorkerId) (outboxId : OutboxId) : Prop :=
  ∃ row, s.rows.get outboxId = some row ∧ row.state = .delivering ∧ row.deliveryOwnerId = some ownerId

def LatestOwner (s : OutboxRun) (ownerId : WorkerId) (outboxId : OutboxId) : Prop :=
  ∃ delivery, s.latestClaim outboxId = some (delivery, ownerId)

theorem latestClaim_cons (rows) (delivery) (ownerId)
    (claims) (outboxId) :
    latestClaim ⟨rows, (delivery, ownerId) :: claims⟩ outboxId =
      if delivery.outboxId = outboxId then some (delivery, ownerId) else latestClaim ⟨rows, claims⟩ outboxId := by
  simp [latestClaim, List.find?_cons]
  split <;> simp_all

end OutboxRun

/-! ### What a step does to one record -/

/-- The counter and the state of a record before and after a step. -/
inductive OutboxEdge (op : OutboxOperation) (outboxId : OutboxId) (s s' : OutboxRun) (row row' : OutboxRow) : Prop where
  | keep (same : row' = row) (claims : s'.latestClaim outboxId = s.latestClaim outboxId)
      (count : s'.claimsOf outboxId = s.claimsOf outboxId)
  | sweep (claims : s'.latestClaim outboxId = s.latestClaim outboxId)
      (count : s'.claimsOf outboxId = s.claimsOf outboxId) (attempts : row'.attempts = row.attempts)
      (before : row.state = .pending ∨ row.state = .delivering)
      (after : row'.state = .pending ∨ row'.state = .failed)
  | claim {delivery : OutboxDelivery} {ownerId : WorkerId} (claims : s'.latestClaim outboxId = some (delivery, ownerId))
      (count : s'.claimsOf outboxId = s.claimsOf outboxId + 1) (attempts : row'.attempts = row.attempts + 1)
      (attempt : delivery.attempt = row'.attempts) (before : row.state = .pending ∨ row.state = .delivering)
      (after : row'.state = .delivering) (owner : row'.deliveryOwnerId = some ownerId)
  | complete {now : SystemTime} {ownerId : WorkerId} (by_ : op = .complete now ownerId outboxId)
      (claims : s'.claims = s.claims) (attempts : row'.attempts = row.attempts) (before : row.state = .delivering)
      (owner : row.deliveryOwnerId = some ownerId) (after : row'.state = .delivered)
  | retry (claims : s'.claims = s.claims) (attempts : row'.attempts = row.attempts) (before : row.state = .delivering)
      (after : row'.state = .pending ∨ row'.state = .failed)

theorem claim_edge {claimTimeout row'}
    (ok : (OutboxOperation.claim now ownerId claimTimeout maximumAttempts).exec s = .ok s')
    (stored : s'.rows.get outboxId = some row') :
    ∃ row, s.rows.get outboxId = some row ∧
      OutboxEdge (.claim now ownerId claimTimeout maximumAttempts) outboxId s s' row row' := by
  simp only [OutboxOperation.exec, eq_ok] at ok
  obtain ⟨⟨outcome, rows⟩, claimed, rfl⟩ := ok
  simp only [claimNextOutbox, eq_ok, liftStore_eq_ok] at claimed
  obtain ⟨_, _, _, _, claimed⟩ := claimed
  obtain ⟨claimedAt, staleBefore, none | taken⟩ := OutboxStore.claimNextOutbox_ok claimed
  · obtain ⟨rfl, rfl⟩ := none
    obtain ⟨row, found, attempts, change⟩ := OutboxStore.swept_row stored
    refine ⟨row, found, ?_⟩
    rcases change with same | ⟨after, before⟩ | ⟨after, before⟩
    · exact .keep same rfl rfl
    · exact .sweep rfl rfl attempts (.inr before) (.inl after)
    · exact .sweep rfl rfl attempts before (.inr after)
  · obtain ⟨takenId, taken, found, pending, _, rfl, rfl⟩ := taken
    dsimp only [OutboxRun.recordClaim] at stored ⊢
    by_cases same : outboxId = takenId
    · subst same
      simp only [Table.get_put_self, Option.some.injEq] at stored
      subst stored
      obtain ⟨row, found, attempts, change⟩ := OutboxStore.swept_row found
      have before : row.state = .pending ∨ row.state = .delivering := by
        rcases change with same | ⟨_, before⟩ | ⟨_, before⟩
        · exact .inl (same ▸ pending)
        · exact .inr before
        · exact before
      exact ⟨row, found, .claim (by rw [OutboxRun.latestClaim_cons, if_pos rfl]) (by simp [OutboxRun.claimsOf])
        (by simp [attempts]) rfl before rfl rfl⟩
    · rw [Table.get_put_ne _ _ same] at stored
      have other : takenId ≠ outboxId := fun equal => same equal.symm
      obtain ⟨row, found, attempts, change⟩ := OutboxStore.swept_row stored
      refine ⟨row, found, ?_⟩
      rcases change with unchanged | ⟨after, before⟩ | ⟨after, before⟩
      · exact .keep unchanged (by simp [OutboxRun.latestClaim, other]) (by simp [OutboxRun.claimsOf, other])
      · exact .sweep (by simp [OutboxRun.latestClaim, other]) (by simp [OutboxRun.claimsOf, other]) attempts
          (.inr before) (.inl after)
      · exact .sweep (by simp [OutboxRun.latestClaim, other]) (by simp [OutboxRun.claimsOf, other]) attempts
          before (.inr after)

theorem complete_ok (ok : (OutboxOperation.complete now ownerId outboxId).exec s = .ok s') :
    ∃ deliveredAt row, s.rows.get outboxId = some row ∧ row.state = .delivering ∧ row.deliveryOwnerId = some ownerId ∧
      s' = { s with
        rows := s.rows.put outboxId
          { row with
            state := .delivered, deliveredAt := some deliveredAt, nextAttemptAt := none, lastError := none } } := by
  simp only [OutboxOperation.exec, completeOutbox, eq_ok, liftStore_eq_ok] at ok
  obtain ⟨rows, completed, rfl⟩ := ok
  obtain ⟨deliveredAt, row, held, rfl⟩ := OutboxStore.completeOutbox_ok completed
  obtain ⟨found, delivering, owner, _⟩ := OutboxStore.heldRow_eq_some.mp held
  exact ⟨deliveredAt, row, found, delivering, owner, rfl⟩

theorem retry_ok {delivery retryDelay error}
    (ok : (OutboxOperation.retry now ownerId delivery maximumAttempts retryDelay error).exec s = .ok s') :
    ∃ failedAt retryAt row, OutboxStore.epochMilliseconds now = .ok failedAt ∧
      s.rows.get delivery.outboxId = some row ∧ row.state = .delivering ∧ row.deliveryOwnerId = some ownerId ∧
      (retryAt = none ↔ maximumAttempts ≤ delivery.attempt) ∧ (∀ retry, retryAt = some retry → failedAt < retry) ∧
      s' = { s with
        rows := s.rows.put delivery.outboxId
          { row with
            state := if retryAt.isSome then .pending else .failed, nextAttemptAt := retryAt,
            lastError := some error, deliveryOwnerId := none, deliveryStartedAt := none } } := by
  simp only [OutboxOperation.exec, retryOutbox, eq_ok, liftStore_eq_ok] at ok
  obtain ⟨rows, ⟨_, _, _, _, _, _, planned, plan, retried⟩, rfl⟩ := ok
  obtain ⟨failedAt, retryAt, row, observed, same, later, held, rfl⟩ := OutboxStore.retryOutbox_ok retried
  obtain ⟨found, delivering, owner, _⟩ := OutboxStore.heldRow_eq_some.mp held
  refine ⟨failedAt, retryAt, row, observed, found, delivering, owner, ?_, later, rfl⟩
  rw [← OutboxDelivery.retryAt_eq_none plan, ← Option.isNone_iff_eq_none, ← Option.isNone_iff_eq_none]
  simp only [← Option.not_isSome, same]

theorem outbox_edge {row row'}
    (ok : op.exec s = .ok s') (found : s.rows.get outboxId = some row)
    (stored : s'.rows.get outboxId = some row') : OutboxEdge op outboxId s s' row row' := by
  cases op with
  | enqueue newId topic payloadJson createdAt =>
    simp only [OutboxOperation.exec, eq_ok] at ok
    obtain ⟨_, fresh, rfl⟩ := ok
    have other : outboxId ≠ newId := by
      rintro rfl
      simp [fresh] at found
    dsimp only at stored
    rw [Table.get_put_ne _ _ other, found] at stored
    exact .keep (Option.some.inj stored).symm rfl rfl
  | claim =>
    obtain ⟨before, found', edge⟩ := claim_edge ok stored
    rw [found] at found'
    cases found'
    exact edge
  | complete now ownerId completedId =>
    obtain ⟨_, held, heldFound, delivering, owner, rfl⟩ := complete_ok ok
    by_cases same : outboxId = completedId
    · subst same
      cases found.symm.trans heldFound
      simp only [Table.get_put_self, Option.some.injEq] at stored
      subst stored
      exact .complete rfl rfl rfl delivering owner rfl
    · dsimp only at stored
      rw [Table.get_put_ne _ _ same, found] at stored
      exact .keep (Option.some.inj stored).symm rfl rfl
  | retry now ownerId delivery =>
    obtain ⟨_, retryAt, held, _, heldFound, delivering, _, _, _, rfl⟩ := retry_ok ok
    by_cases same : outboxId = delivery.outboxId
    · subst same
      cases found.symm.trans heldFound
      simp only [Table.get_put_self, Option.some.injEq] at stored
      subst stored
      exact .retry rfl rfl delivering (by cases retryAt <;> simp)
    · dsimp only at stored
      rw [Table.get_put_ne _ _ same, found] at stored
      exact .keep (Option.some.inj stored).symm rfl rfl

theorem outbox_origin {row'}
    (ok : op.exec s = .ok s') (stored : s'.rows.get outboxId = some row') :
    (∃ row, s.rows.get outboxId = some row) ∨
      s.rows.get outboxId = none ∧ row'.attempts = 0 ∧ row'.state = .pending ∧ s'.claims = s.claims := by
  cases op with
  | enqueue newId topic payloadJson createdAt =>
    simp only [OutboxOperation.exec, eq_ok] at ok
    obtain ⟨_, fresh, rfl⟩ := ok
    dsimp only at stored
    rw [Table.get_put] at stored
    split at stored
    next same =>
      subst same
      cases stored
      exact .inr ⟨fresh, rfl, rfl, rfl⟩
    next => exact .inl ⟨row', stored⟩
  | claim =>
    obtain ⟨row, found, _⟩ := claim_edge ok stored
    exact .inl ⟨row, found⟩
  | complete now ownerId completedId =>
    obtain ⟨_, held, heldFound, _, _, rfl⟩ := complete_ok ok
    dsimp only at stored
    rw [Table.get_put] at stored
    split at stored
    next same => exact .inl ⟨held, same ▸ heldFound⟩
    next => exact .inl ⟨row', stored⟩
  | retry now ownerId delivery =>
    obtain ⟨_, _, held, _, heldFound, _, _, _, _, rfl⟩ := retry_ok ok
    dsimp only at stored
    rw [Table.get_put] at stored
    split at stored
    next same => exact .inl ⟨held, same ▸ heldFound⟩
    next => exact .inl ⟨row', stored⟩

theorem outbox_kept {row} (ok : op.exec s = .ok s') (found : s.rows.get outboxId = some row) :
    ∃ row', s'.rows.get outboxId = some row' := by
  cases op with
  | enqueue newId topic payloadJson createdAt =>
    simp only [OutboxOperation.exec, eq_ok] at ok
    obtain ⟨_, _, rfl⟩ := ok
    simp only [Table.get_put]
    split <;> simp [found]
  | claim now ownerId claimTimeout maximumAttempts =>
    simp only [OutboxOperation.exec, claimNextOutbox, eq_ok, liftStore_eq_ok] at ok
    obtain ⟨⟨outcome, rows⟩, ⟨_, _, _, _, claimed⟩, rfl⟩ := ok
    obtain ⟨claimedAt, staleBefore, ⟨rfl, rfl⟩ | ⟨_, _, _, _, _, rfl, rfl⟩⟩ := OutboxStore.claimNextOutbox_ok claimed
    · simp [OutboxRun.recordClaim, OutboxStore.failExhausted, OutboxStore.recoverStale, Table.get_update, found]
    · simp only [OutboxRun.recordClaim, Table.get_put]
      split
      next => exact ⟨_, rfl⟩
      next => simp [OutboxStore.failExhausted, OutboxStore.recoverStale, Table.get_update, found]
  | complete =>
    obtain ⟨_, _, _, _, _, rfl⟩ := complete_ok ok
    simp only [Table.get_put]
    split <;> simp [found]
  | retry =>
    obtain ⟨_, _, _, _, _, _, _, _, _, rfl⟩ := retry_ok ok
    simp only [Table.get_put]
    split <;> simp [found]

/-! ### The invariant -/

/-- The counter of a record is the number of its claims, the latest claim knows the
counter, and a delivery belongs to the owner of the latest claim. -/
structure OutboxValid (s : OutboxRun) : Prop where
  known : ∀ outboxId, s.rows.get outboxId = none → s.claimsOf outboxId = 0
  attempts : ∀ outboxId row, s.rows.get outboxId = some row → row.attempts = s.claimsOf outboxId
  latest : ∀ outboxId row delivery ownerId, s.rows.get outboxId = some row →
    s.latestClaim outboxId = some (delivery, ownerId) → delivery.attempt = row.attempts
  owner : ∀ outboxId row ownerId, s.rows.get outboxId = some row → row.state = .delivering →
    row.deliveryOwnerId = some ownerId → s.LatestOwner ownerId outboxId

theorem OutboxRun.latestClaim_eq_none (unclaimed : s.claimsOf outboxId = 0) :
    s.latestClaim outboxId = none := by
  simpa [claimsOf, latestClaim, List.countP_eq_zero] using unclaimed

theorem outboxValid_claims (valid : OutboxValid s)
    (ok : op.exec s = .ok s') (outboxId) (absent : s'.rows.get outboxId = none) :
    s'.claimsOf outboxId = 0 := by
  have before : s.rows.get outboxId = none := by
    cases found : s.rows.get outboxId with
    | none => rfl
    | some row =>
      obtain ⟨row', stored⟩ := outbox_kept ok found
      simp [absent] at stored
  have unclaimed := valid.known _ before
  cases op with
  | enqueue newId topic payloadJson createdAt =>
    simp only [OutboxOperation.exec, eq_ok] at ok
    obtain ⟨_, _, rfl⟩ := ok
    exact unclaimed
  | claim now ownerId claimTimeout maximumAttempts =>
    simp only [OutboxOperation.exec, claimNextOutbox, eq_ok, liftStore_eq_ok] at ok
    obtain ⟨⟨outcome, rows⟩, ⟨_, _, _, _, claimed⟩, rfl⟩ := ok
    obtain ⟨_, _, ⟨rfl, rfl⟩ | ⟨takenId, _, _, _, _, rfl, rfl⟩⟩ := OutboxStore.claimNextOutbox_ok claimed
    · exact unclaimed
    · have other : takenId ≠ outboxId := by
        rintro rfl
        simp [OutboxRun.recordClaim] at absent
      simpa [OutboxRun.recordClaim, OutboxRun.claimsOf, other] using unclaimed
  | complete =>
    obtain ⟨_, _, _, _, _, rfl⟩ := complete_ok ok
    exact unclaimed
  | retry =>
    obtain ⟨_, _, _, _, _, _, _, _, _, rfl⟩ := retry_ok ok
    exact unclaimed

theorem outboxValid_step (valid : OutboxValid s) (ok : op.exec s = .ok s') : OutboxValid s' where
  known := outboxValid_claims valid ok
  attempts outboxId row' stored := by
    rcases outbox_origin ok stored with ⟨row, found⟩ | ⟨fresh, zero, _, claims⟩
    · have before := valid.attempts _ _ found
      cases outbox_edge ok found stored with
      | keep same _ count => rw [same, count, before]
      | sweep _ count attempts => rw [attempts, count, before]
      | claim _ count attempts => rw [attempts, count, before]
      | complete _ claims attempts => simpa [OutboxRun.claimsOf, claims, attempts] using before
      | retry claims attempts => simpa [OutboxRun.claimsOf, claims, attempts] using before
    · rw [zero, OutboxRun.claimsOf, claims]
      exact (valid.known _ fresh).symm
  latest outboxId row' delivery ownerId stored claimed := by
    rcases outbox_origin ok stored with ⟨row, found⟩ | ⟨fresh, _, _, claims⟩
    · have before := fun earlier => valid.latest _ _ delivery ownerId found earlier
      cases outbox_edge ok found stored with
      | keep same claims => rw [same]; exact before (claims ▸ claimed)
      | sweep claims _ attempts => rw [attempts]; exact before (claims ▸ claimed)
      | claim claims _ _ attempt =>
        cases claims.symm.trans claimed
        exact attempt
      | complete _ claims attempts => rw [attempts]; exact before (by simpa [OutboxRun.latestClaim, claims] using claimed)
      | retry claims attempts => rw [attempts]; exact before (by simpa [OutboxRun.latestClaim, claims] using claimed)
    · have unclaimed := OutboxRun.latestClaim_eq_none (valid.known _ fresh)
      simp only [OutboxRun.latestClaim] at unclaimed claimed
      rw [claims, unclaimed] at claimed
      cases claimed
  owner outboxId row' ownerId stored delivering owner := by
    rcases outbox_origin ok stored with ⟨row, found⟩ | ⟨_, _, pending, _⟩
    · cases outbox_edge ok found stored with
      | keep same claims =>
        subst same
        obtain ⟨delivery, latest⟩ := valid.owner _ _ _ found delivering owner
        exact ⟨delivery, claims ▸ latest⟩
      | sweep _ _ _ _ after => simp [delivering] at after
      | claim claims _ _ _ _ _ claimant =>
        cases owner.symm.trans claimant
        exact ⟨_, claims⟩
      | complete _ _ _ _ _ after => simp [delivering] at after
      | retry _ _ _ after => simp [delivering] at after
    · simp [delivering] at pending

theorem outboxValid (reached : outboxSystem.Reachable s) : OutboxValid s := by
  have start : OutboxValid outboxSystem.initial :=
    ⟨fun _ _ => rfl, fun _ _ stored => by simp [outboxSystem] at stored,
      fun _ _ _ _ stored => by simp [outboxSystem] at stored, fun _ _ _ stored => by simp [outboxSystem] at stored⟩
  exact reached.invariant start fun _ _ _ valid _ step => outboxValid_step valid step

/-! ### The protocol -/

theorem claims_grow (ok : op.exec s = .ok s') :
    s'.claims = s.claims ∨ ∃ now ownerId claimTimeout maximumAttempts delivery,
      op = .claim now ownerId claimTimeout maximumAttempts ∧ s'.claims = (delivery, ownerId) :: s.claims := by
  cases op with
  | enqueue =>
    simp only [OutboxOperation.exec, eq_ok] at ok
    obtain ⟨_, _, rfl⟩ := ok
    exact .inl rfl
  | claim now ownerId claimTimeout maximumAttempts =>
    simp only [OutboxOperation.exec, eq_ok] at ok
    obtain ⟨⟨outcome, rows⟩, _, rfl⟩ := ok
    cases outcome with
    | noPendingDelivery => exact .inl rfl
    | claimed delivery => exact .inr ⟨now, ownerId, claimTimeout, maximumAttempts, delivery, rfl, rfl⟩
  | complete =>
    obtain ⟨_, _, _, _, _, rfl⟩ := complete_ok ok
    exact .inl rfl
  | retry =>
    obtain ⟨_, _, _, _, _, _, _, _, _, rfl⟩ := retry_ok ok
    exact .inl rfl

/-- The record a completion or a retry is about, and who asks for it. -/
def OutboxOperation.settles : OutboxOperation → Option (WorkerId × OutboxId)
  | complete _ ownerId outboxId => some (ownerId, outboxId)
  | retry _ ownerId delivery .. => some (ownerId, delivery.outboxId)
  | enqueue .. | claim .. => none

theorem settles_latest
    (valid : OutboxValid s) (settles : op.settles = some (ownerId, outboxId)) (ok : op.exec s = .ok s') :
    s.LatestOwner ownerId outboxId := by
  cases op with
  | complete =>
    cases settles
    obtain ⟨_, row, found, delivering, owner, _⟩ := complete_ok ok
    exact valid.owner _ _ _ found delivering owner
  | retry =>
    cases settles
    obtain ⟨_, _, row, _, found, delivering, owner, _⟩ := retry_ok ok
    exact valid.owner _ _ _ found delivering owner
  | enqueue => cases settles
  | claim => cases settles

/-- What a committed retry leaves: a record scheduled no earlier than the failure, or a
failed one, the latter exactly when its counter has reached the maximum. -/
def RetrySettled (s s' : OutboxRun) (now : SystemTime) (delivery : OutboxDelivery) (maximumAttempts : Nat) : Prop :=
  ∃ failedAt row row', OutboxStore.epochMilliseconds now = .ok failedAt ∧
    s.rows.get delivery.outboxId = some row ∧ s'.rows.get delivery.outboxId = some row' ∧
    (row'.state = .failed ∨ row'.state = .pending ∧ ∃ due, row'.nextAttemptAt = some due ∧ failedAt ≤ due) ∧
    (row'.state = .failed ↔ maximumAttempts ≤ row.attempts)

/-- The attempt of the delivery and the counter of its record stand on the same side of
the maximum. -/
def CountsCurrent (s : OutboxRun) (delivery : OutboxDelivery) (maximumAttempts : Nat) : Prop :=
  ∀ row, s.rows.get delivery.outboxId = some row → (maximumAttempts ≤ delivery.attempt ↔ maximumAttempts ≤ row.attempts)

theorem retrySettled_iff {delivery retryDelay error}
    (ok : (OutboxOperation.retry now ownerId delivery maximumAttempts retryDelay error).exec s = .ok s') :
    RetrySettled s s' now delivery maximumAttempts ↔ CountsCurrent s delivery maximumAttempts := by
  obtain ⟨failedAt, retryAt, row, observed, found, _, _, planned, later, rfl⟩ := retry_ok ok
  have failed : (if retryAt.isSome then OutboxState.pending else .failed) = .failed ↔
      maximumAttempts ≤ delivery.attempt := by
    rw [← planned]
    cases retryAt <;> simp
  constructor
  · rintro ⟨_, before, after, _, found', stored, _, exactly⟩ row' found''
    rw [found] at found' found''
    cases found'
    cases found''
    simp only [Table.get_put_self, Option.some.injEq] at stored
    subst stored
    exact failed.symm.trans exactly
  · intro current
    refine ⟨failedAt, row, _, observed, found, Table.get_put_self .., ?_, failed.trans (current row found)⟩
    cases retryAt with
    | none => exact .inl rfl
    | some due => exact .inr ⟨rfl, due, rfl, Nat.le_of_lt (later due rfl)⟩

/-- The delivery protocol, in every state that any interleaving of owners reaches: the
counter of a record is the number of its claims, the latest claim carries it, and one
owner at most holds the record, the one of the latest claim. Every step keeps delivered
and failed records and delivers a record only for that owner; nobody else can complete
or retry. A retry settles its record by the stored counter exactly when the delivery it
is handed counts on the same side of the maximum. -/
theorem outbox_delivery_protocol {s : OutboxRun} (reached : outboxSystem.Reachable s) :
    (∀ outboxId row, s.rows.get outboxId = some row → row.attempts = s.claimsOf outboxId ∧
      ∀ delivery ownerId, s.latestClaim outboxId = some (delivery, ownerId) → delivery.attempt = row.attempts) ∧
    (∀ outboxId first second, s.Holds first outboxId → s.Holds second outboxId →
      first = second ∧ s.LatestOwner first outboxId) ∧
    (∀ op s', outboxSystem.exec op s = .ok s' →
      (s'.claims = s.claims ∨ ∃ now ownerId claimTimeout maximumAttempts delivery,
        op = .claim now ownerId claimTimeout maximumAttempts ∧ s'.claims = (delivery, ownerId) :: s.claims) ∧
      ∀ outboxId row, s.rows.get outboxId = some row → ∃ row', s'.rows.get outboxId = some row' ∧
        row'.attempts + s.claimsOf outboxId = row.attempts + s'.claimsOf outboxId ∧
        (row.state = .delivered ∨ row.state = .failed → row'.state = row.state) ∧
        (row'.state = .delivered → row.state ≠ .delivered →
          ∃ now ownerId, op = .complete now ownerId outboxId ∧ s.LatestOwner ownerId outboxId)) ∧
    (∀ op ownerId outboxId, op.settles = some (ownerId, outboxId) → ¬ s.LatestOwner ownerId outboxId →
      ∃ error, outboxSystem.exec op s = .error error) ∧
    ∀ now ownerId delivery maximumAttempts retryDelay error s',
      outboxSystem.exec (.retry now ownerId delivery maximumAttempts retryDelay error) s = .ok s' →
        (RetrySettled s s' now delivery maximumAttempts ↔ CountsCurrent s delivery maximumAttempts) := by
  have valid := outboxValid reached
  refine ⟨fun outboxId row found => ⟨valid.attempts _ _ found, fun _ _ => valid.latest _ _ _ _ found⟩, ?_, ?_, ?_,
    fun _ _ _ _ _ _ _ committed => retrySettled_iff committed⟩
  · rintro outboxId first second ⟨row, found, delivering, owner⟩ ⟨row', found', _, owner'⟩
    rw [found] at found'
    cases found'
    rw [owner] at owner'
    cases owner'
    exact ⟨rfl, valid.owner _ _ _ found delivering owner⟩
  · intro op s' committed
    refine ⟨claims_grow committed, fun outboxId row found => ?_⟩
    obtain ⟨row', stored⟩ := outbox_kept committed found
    have counted := (outboxValid_step valid committed).attempts _ _ stored
    have before := valid.attempts _ _ found
    refine ⟨row', stored, ?_⟩
    cases outbox_edge committed found stored with
    | keep same _ count =>
      subst same
      exact ⟨by omega, fun _ => rfl, fun delivered undelivered => absurd delivered undelivered⟩
    | sweep _ count attempts before after =>
      exact ⟨by omega, fun ended => by rcases ended with e | e <;> simp [e] at before,
        fun delivered => by simp [delivered] at after⟩
    | claim _ count attempts _ before after =>
      exact ⟨by omega, fun ended => by rcases ended with e | e <;> simp [e] at before,
        fun delivered => by simp [delivered] at after⟩
    | @complete now ownerId by_ claims attempts before owner after =>
      exact ⟨by omega, fun ended => by simp [before] at ended,
        fun _ _ => ⟨now, ownerId, by_, valid.owner _ _ _ found before owner⟩⟩
    | retry claims attempts before after =>
      exact ⟨by omega, fun ended => by simp [before] at ended, fun delivered => by simp [delivered] at after⟩
  · intro op ownerId outboxId settles other
    cases result : outboxSystem.exec op s with
    | error e => exact ⟨e, rfl⟩
    | ok s' => exact absurd (settles_latest valid settles result) other

/-- A record claimed by owner 1 and, once that claim is stale, by owner 2. -/
def stolenClaim : List OutboxOperation :=
  [.enqueue ⟨0⟩ "session.turn_completed" "\x7b\x7d" 10,
   .claim (Duration.fromMillis 100) ⟨1⟩ (Duration.fromMillis 50) 3,
   .claim (Duration.fromMillis 200) ⟨2⟩ (Duration.fromMillis 50) 3]

theorem outbox_delivery_protocol_stolen :
    ∃ s : OutboxRun, outboxSystem.Reachable s ∧ s.latestClaim ⟨0⟩ = some (⟨⟨0⟩, "session.turn_completed", "\x7b\x7d", 2⟩, ⟨2⟩) ∧
      ∃ error, outboxSystem.exec (.complete (Duration.fromMillis 300) ⟨1⟩ ⟨0⟩) s = .error error := by
  obtain ⟨s, reached, latest⟩ : ∃ s : OutboxRun, outboxSystem.Reachable s ∧
      s.latestClaim ⟨0⟩ = some (⟨⟨0⟩, "session.turn_completed", "\x7b\x7d", 2⟩, ⟨2⟩) :=
    System.exists_reachableIf stolenClaim (by decide +kernel)
  refine ⟨s, reached, latest, (outbox_delivery_protocol reached).2.2.2.1 _ _ _ rfl ?_⟩
  rintro ⟨delivery, other⟩
  cases latest.symm.trans other

/-- An owner whose first claim went stale claims the record again, for its second and
last attempt, and then retries the first delivery: the record is scheduled once more. -/
theorem stale_delivery_rescheduled :
    ∃ s s' : OutboxRun, outboxSystem.Reachable s ∧
      outboxSystem.exec (.retry (Duration.fromMillis 300) ⟨1⟩ ⟨⟨0⟩, "session.turn_completed", "\x7b\x7d", 1⟩ 2
        (Duration.fromMillis 50) "unreachable") s = .ok s' ∧
      ∃ row, s'.rows.get ⟨0⟩ = some row ∧ row.attempts = 2 ∧ row.state = .pending := by
  obtain ⟨s, s', reached, step, left⟩ : ∃ s s' : OutboxRun, outboxSystem.Reachable s ∧
      outboxSystem.exec (.retry (Duration.fromMillis 300) ⟨1⟩ ⟨⟨0⟩, "session.turn_completed", "\x7b\x7d", 1⟩ 2
        (Duration.fromMillis 50) "unreachable") s = .ok s' ∧
      (s'.rows.get ⟨0⟩).any (fun row => row.attempts = 2 ∧ row.state = .pending) = true :=
    System.exists_step
      [.enqueue ⟨0⟩ "session.turn_completed" "\x7b\x7d" 10,
       .claim (Duration.fromMillis 100) ⟨1⟩ (Duration.fromMillis 50) 2,
       .claim (Duration.fromMillis 200) ⟨1⟩ (Duration.fromMillis 50) 2] (by decide +kernel)
  simp only [Option.any_eq_true, decide_eq_true_eq] at left
  obtain ⟨row, stored, attempts, pending⟩ := left
  exact ⟨s, s', reached, step, row, stored, attempts, pending⟩

end Mealy
