import Mealy.Store.TelegramDelivery

/-! Ambiguous Telegram sends. A request without a definite rejection must not be issued
again. The driver parks the ambiguous answers it sees, but a stop between request and
write-back leaves the record claimed, and a server error is written back as a failure to
be retried; where neither happens no ambiguous send is repeated. -/

namespace Mealy
open Relational Transaction

namespace DeliveryRun

/-- The record has reached its end. -/
def Concluded (s : DeliveryRun) (outboxId : OutboxId) : Prop :=
  ∃ row, s.rows.get outboxId = some row ∧ (row.state = .delivered ∨ row.state = .failed)

/-- The driver holds the record of its current request. -/
def IsHeld (s : DeliveryRun) (outboxId : OutboxId) : Bool :=
  s.stage.delivery.any fun delivery => delivery.outboxId = outboxId

/-- A clock that the write-back accepts: a storable time not before the claim. -/
def clockAccepted (s : DeliveryRun) (now : SystemTime) (outboxId : OutboxId) : Bool :=
  0 ≤ now ∧ now.toNat / 10 ^ 6 ≤ maximumI64 ∧
    ((s.rows.get outboxId).bind OutboxRow.deliveryStartedAt).all fun started => started ≤ now.toNat / 10 ^ 6

/-- The current record has an unsettled send. -/
def hasUnsettled (s : DeliveryRun) : Bool := s.stage.delivery.any fun delivery => delivery.outboxId ∈ s.unsettled

end DeliveryRun

/-- The daemon does not stop, and a batch does not break off, between an unsettled send
and its write-back; no answer is a server error; and the write-back of an unsettled send
reads a clock that is not before its claim. -/
def DeliveryOperation.Conclusive (op : DeliveryOperation) (s : DeliveryRun) : Prop :=
  match op with
  | .restart _ | .abort => s.hasUnsettled = false
  | .answer (.response status _) => ¬ (500 ≤ status ∧ status ≤ 599)
  | .finish now => ∀ delivery ∈ s.stage.delivery, delivery.outboxId ∈ s.unsettled →
      s.clockAccepted now delivery.outboxId = true
  | _ => True

instance (op : DeliveryOperation) (s : DeliveryRun) : Decidable (op.Conclusive s) := by
  unfold DeliveryOperation.Conclusive
  split <;> infer_instance

def OutboxDeliveryResult.Parks : OutboxDeliveryResult → Prop
  | .delivered => True
  | .terminal error | .outcomeUnknown error => error ≠ "" ∧ error.utf8ByteSize ≤ 4096 ∧ OutboxStore.hasLength error
  | .failed _ | .failedAfter _ _ => False

/-- The record is claimed by this driver for this attempt. -/
structure ClaimedBy (s : DeliveryRun) (delivery : OutboxDelivery) : Prop where
  held : ∃ row started, s.rows.get delivery.outboxId = some row ∧ row.state = .delivering ∧
    row.deliveryOwnerId = some s.ownerId ∧ row.deliveryStartedAt = some started
  attempt : 1 ≤ delivery.attempt ∧ delivery.attempt ≤ maximumDeliveryAttempts

structure SendsValid (s : DeliveryRun) : Prop where
  claimed : ∀ delivery, s.stage.delivery = some delivery → ClaimedBy s delivery
  fresh : ∀ delivery route, s.stage = .claimed delivery route → delivery.outboxId ∉ s.unsettled
  parks : ∀ delivery result, s.stage = .answered delivery result → delivery.outboxId ∈ s.unsettled → result.Parks
  concluded : ∀ outboxId ∈ s.unsettled, s.Concluded outboxId ∨ s.IsHeld outboxId = true

variable {parse : String → Option Json.Value} {s s' : DeliveryRun}

/-! ### The answers of Telegram -/

theorem telegramResult_parks {target received}
    (conclusive : (DeliveryOperation.answer received).Conclusive s) (unrejected : received.rejects parse target = false) :
    (telegramResult parse target received).Parks := by
  cases received with
  | transportError | unreadable => exact ⟨by decide, by decide, by decide⟩
  | response status body =>
    unfold TelegramAnswer.rejects at unrejected
    unfold telegramResult
    dsimp only at unrejected ⊢
    split at unrejected
    next success =>
      rw [if_pos success]
      split
      next => exact trivial
      next rejected => simp [rejected] at unrejected
      next => exact ⟨by decide, by decide, by decide⟩
    next failure =>
      exact absurd conclusive (by simpa [DeliveryOperation.Conclusive] using unrejected)

theorem finishOutboxDelivery_parks {now delivery result}
    (claimed : ClaimedBy s delivery) (accepted : s.clockAccepted now delivery.outboxId = true) (parks : result.Parks) :
    ∃ rows, finishOutboxDelivery now s.ownerId delivery result maximumDeliveryAttempts s.rows = .ok rows ∧
      ({ s with rows, stage := .idle } : DeliveryRun).Concluded delivery.outboxId ∧
      ∀ other, other ≠ delivery.outboxId → rows.get other = s.rows.get other := by
  obtain ⟨row, started, stored, delivering, owner, begun⟩ := claimed.held
  obtain ⟨least, most⟩ := claimed.attempt
  simp only [DeliveryRun.clockAccepted, stored, Option.bind_some, begun, Option.all_some, decide_eq_true_eq] at accepted
  obtain ⟨epoch, storable, after⟩ := accepted
  have instant : OutboxStore.epochMilliseconds now = .ok (now.toNat / 10 ^ 6) := by
    simp only [OutboxStore.epochMilliseconds, ensure_holds epoch, ensure_holds storable, ok_bind]
    rfl
  have holds : OutboxStore.heldRow s.rows delivery.outboxId s.ownerId (now.toNat / 10 ^ 6) = some row :=
    OutboxStore.heldRow_eq_some.mpr ⟨stored, delivering, owner, started, begun, after⟩
  have ended (row' : OutboxRow) (final : row'.state = .delivered ∨ row'.state = .failed) :
      ({ s with rows := s.rows.put delivery.outboxId row', stage := .idle } : DeliveryRun).Concluded
        delivery.outboxId ∧
      ∀ other, other ≠ delivery.outboxId → (s.rows.put delivery.outboxId row').get other = s.rows.get other :=
    ⟨⟨row', Table.get_put_self .., final⟩, fun other different => Table.get_put_ne _ _ different⟩
  have parked {error : String} (valid : error ≠ "" ∧ error.utf8ByteSize ≤ 4096 ∧ OutboxStore.hasLength error) :
      ∃ row', retryOutbox now s.ownerId delivery delivery.attempt (Duration.fromMillis 1) error s.rows =
        .ok (s.rows.put delivery.outboxId row') ∧ row'.state = .failed := by
    have bounds : 1 ≤ delivery.attempt ∧ delivery.attempt ≤ 100 :=
      ⟨least, Nat.le_trans most (by decide)⟩
    have delay : Duration.fromMillis 1 ≠ 0 ∧ Duration.fromMillis 1 ≤ Duration.fromHours 24 := by decide
    have last : delivery.retryAt now delivery.attempt (Duration.fromMillis 1) = .ok none :=
      if_pos (Nat.le_refl _)
    have unplanned : OutboxStore.optionalMilliseconds none = .ok none := rfl
    have text := valid.2.2
    refine ⟨{ row with
      state := .failed, nextAttemptAt := none, lastError := some error, deliveryOwnerId := none,
      deliveryStartedAt := none }, ?_, rfl⟩
    simp only [retryOutbox, ensure_holds bounds, ensure_holds delay, ensure_holds (And.intro valid.1 valid.2.1), last,
      ok_bind, OutboxStore.retryOutbox, instant, unplanned, holds, require]
    simp [ensure, text, liftStore, Except.mapError, bind, Except.bind, pure, Except.pure]
  unfold finishOutboxDelivery
  cases result with
  | delivered =>
    refine ⟨_, ?_, ended { row with
      state := .delivered, deliveredAt := some (now.toNat / 10 ^ 6), nextAttemptAt := none, lastError := none }
      (.inl rfl)⟩
    simp only [completeOutbox, OutboxStore.completeOutbox, instant, ok_bind, holds, require]
    rfl
  | terminal error | outcomeUnknown error =>
    obtain ⟨row', written, failed⟩ := parked parks
    exact ⟨_, written, ended row' (.inr failed)⟩
  | failed error | failedAfter error retryDelay => exact parks.elim

/-! ### Steps -/

theorem claimNextOutbox_takes {now ownerId rows rows' outcome}
    (ok : claimNextOutbox now ownerId claimTimeout maximumDeliveryAttempts rows = .ok (outcome, rows')) :
    (∀ outboxId row, rows.get outboxId = some row → row.state = .delivered ∨ row.state = .failed →
      rows'.get outboxId = some row ∧ ∀ delivery, outcome = .claimed delivery → delivery.outboxId ≠ outboxId) ∧
    ∀ delivery, outcome = .claimed delivery → 1 ≤ delivery.attempt ∧ delivery.attempt ≤ maximumDeliveryAttempts ∧
      ∃ row started, rows'.get delivery.outboxId = some row ∧ row.state = .delivering ∧
        row.deliveryOwnerId = some ownerId ∧ row.deliveryStartedAt = some started := by
  simp only [claimNextOutbox, eq_ok, liftStore_eq_ok] at ok
  obtain ⟨_, _, _, _, ok⟩ := ok
  obtain ⟨claimedAt, staleBefore, taken⟩ := OutboxStore.claimNextOutbox_ok ok
  -- The sweeps only touch pending records and deliveries.
  have swept {outboxId : OutboxId} {row : OutboxRow} (stored : rows.get outboxId = some row)
      (ended : row.state = .delivered ∨ row.state = .failed) :
      (OutboxStore.failExhausted maximumDeliveryAttempts
        (OutboxStore.recoverStale claimedAt staleBefore rows)).get outboxId = some row := by
    have present : ((OutboxStore.failExhausted maximumDeliveryAttempts
        (OutboxStore.recoverStale claimedAt staleBefore rows)).get outboxId).isSome := by
      simp [OutboxStore.failExhausted, OutboxStore.recoverStale, Table.get_update, stored]
    obtain ⟨row', kept⟩ := Option.isSome_iff_exists.mp present
    obtain ⟨before, found, _, same | ⟨_, delivering⟩ | ⟨_, live⟩⟩ := OutboxStore.swept_row kept
    all_goals obtain rfl := Option.some.inj (stored.symm.trans found)
    · rw [kept, same]
    · simp [delivering] at ended
    · rcases live with live | live <;> simp [live] at ended
  rcases taken with ⟨rfl, rfl⟩ | ⟨takenId, row, found, pending, below, rfl, rfl⟩
  · exact ⟨fun outboxId row stored ended => ⟨swept stored ended, by simp⟩, by simp⟩
  · refine ⟨fun outboxId other stored ended => ?_, ?_⟩
    · have different : takenId ≠ outboxId := by
        intro same
        subst same
        obtain rfl := Option.some.inj (found.symm.trans (swept stored ended))
        simp [pending] at ended
      refine ⟨(Table.get_put_ne _ _ different.symm).trans (swept stored ended), ?_⟩
      rintro delivery ⟨⟩
      exact different
    · rintro delivery ⟨⟩
      exact ⟨Nat.le_add_left _ _, below, _, _, Table.get_put_self .., rfl, rfl, rfl⟩

theorem finishOutboxDelivery_ok {now ownerId delivery result maximumAttempts rows rows'}
    (ok : finishOutboxDelivery now ownerId delivery result maximumAttempts rows = .ok rows') :
    ∃ row row', rows.get delivery.outboxId = some row ∧ row.state = .delivering ∧
      rows' = rows.put delivery.outboxId row' := by
  have retried {maximum : Nat} {retryDelay : Duration} {error : String}
      (written : retryOutbox now ownerId delivery maximum retryDelay error rows = .ok rows') :
      ∃ row row', rows.get delivery.outboxId = some row ∧ row.state = .delivering ∧
        rows' = rows.put delivery.outboxId row' := by
    simp only [retryOutbox, bind_eq_ok, liftStore_eq_ok] at written
    obtain ⟨_, _, _, _, _, _, _, _, written⟩ := written
    obtain ⟨_, _, row, _, _, _, held, rfl⟩ := OutboxStore.retryOutbox_ok written
    obtain ⟨stored, delivering, _⟩ := OutboxStore.heldRow_eq_some.mp held
    exact ⟨row, _, stored, delivering, rfl⟩
  unfold finishOutboxDelivery at ok
  cases result with
  | delivered =>
    obtain ⟨_, row, held, rfl⟩ := OutboxStore.completeOutbox_ok (liftStore_eq_ok.mp ok)
    obtain ⟨stored, delivering, _⟩ := OutboxStore.heldRow_eq_some.mp held
    exact ⟨row, _, stored, delivering, rfl⟩
  | failed error =>
    obtain ⟨_, _, written⟩ := bind_eq_ok.mp ok
    exact retried written
  | failedAfter error retryDelay => exact retried ok
  | terminal error | outcomeUnknown error => exact retried ok

theorem DeliveryRun.prepare_ok {credential} (ok : s.prepare parse credential = .ok s') :
    ∃ delivery target, s.stage = .claimed delivery (.telegram target) ∧
      ((∃ error, s' = { s with stage := .answered delivery (.failed error) }) ∨
        s' = { s with stage := .sending delivery target, unsettled := delivery.outboxId :: s.unsettled }) := by
  unfold DeliveryRun.prepare at ok
  split at ok
  next delivery target stage =>
    refine ⟨delivery, target, stage, ?_⟩
    split at ok
    next error _ => exact .inl ⟨error, (Except.ok.inj ok).symm⟩
    next => exact .inr (Except.ok.inj ok).symm
  next => cases ok

theorem DeliveryRun.answer_ok {received} (ok : s.answer parse received = .ok s') :
    ∃ delivery target, s.stage = .sending delivery target ∧ s' = { s with
      stage := .answered delivery (telegramResult parse target received)
      unsettled :=
        if received.rejects parse target then s.unsettled.filter (· ≠ delivery.outboxId) else s.unsettled } := by
  unfold DeliveryRun.answer at ok
  split at ok
  next delivery target stage => exact ⟨delivery, target, stage, (Except.ok.inj ok).symm⟩
  next => cases ok

theorem DeliveryRun.deliver_ok {result} (ok : s.deliver result = .ok s') :
    ∃ delivery route, s.stage = .claimed delivery route ∧ s' = { s with stage := .answered delivery result } := by
  unfold DeliveryRun.deliver at ok
  split at ok
  next => cases ok
  next delivery route _ stage => exact ⟨delivery, route, stage, (Except.ok.inj ok).symm⟩
  next => cases ok

theorem DeliveryRun.finish_ok {now} (ok : s.finish now = .ok s') :
    ∃ delivery result, s.stage = .answered delivery result ∧ s'.stage = .idle ∧ s'.unsettled = s.unsettled ∧
      ((finishOutboxDelivery now s.ownerId delivery result maximumDeliveryAttempts s.rows).toOption = some s'.rows ∨
        (finishOutboxDelivery now s.ownerId delivery result maximumDeliveryAttempts s.rows).toOption = none ∧
          s'.rows = s.rows) := by
  unfold DeliveryRun.finish at ok
  split at ok
  next delivery result stage =>
    refine ⟨delivery, result, stage, ?_⟩
    split at ok
    next rows written =>
      cases ok
      exact ⟨rfl, rfl, .inl (by rw [written]; rfl)⟩
    next error failed =>
      cases ok
      exact ⟨rfl, rfl, .inr ⟨by rw [failed]; rfl, rfl⟩⟩
  next => cases ok

theorem DeliveryRun.Concluded.step {op : DeliveryOperation} {outboxId : OutboxId} (concluded : s.Concluded outboxId)
    (stepped : op.exec parse s = .ok s') : s'.Concluded outboxId := by
  obtain ⟨row, stored, ended⟩ := concluded
  cases op with
  | enqueue newId topic payloadJson createdAt =>
    simp only [DeliveryOperation.exec, eq_ok] at stepped
    obtain ⟨_, fresh, rfl⟩ := stepped
    have different : outboxId ≠ newId := by
      rintro rfl
      exact absurd (fresh.symm.trans stored) (by simp)
    exact ⟨row, (Table.get_put_ne _ _ different).trans stored, ended⟩
  | claim now route =>
    simp only [DeliveryOperation.exec, DeliveryRun.claim, bind_eq_ok, mapError_eq_ok] at stepped
    obtain ⟨_, _, ⟨outcome, rows⟩, claimed, stepped⟩ := stepped
    have kept := ((claimNextOutbox_takes claimed).1 outboxId row stored ended).1
    dsimp only at stepped
    split at stepped
    all_goals cases stepped; exact ⟨row, kept, ended⟩
  | prepare credential =>
    obtain ⟨_, _, _, ⟨_, rfl⟩ | rfl⟩ := DeliveryRun.prepare_ok stepped
    all_goals exact ⟨row, stored, ended⟩
  | answer received =>
    obtain ⟨_, _, _, rfl⟩ := DeliveryRun.answer_ok stepped
    exact ⟨row, stored, ended⟩
  | deliver result =>
    obtain ⟨_, _, _, rfl⟩ := DeliveryRun.deliver_ok stepped
    exact ⟨row, stored, ended⟩
  | finish now =>
    obtain ⟨delivery, result, _, _, _, written | ⟨_, same⟩⟩ := DeliveryRun.finish_ok stepped
    · obtain ⟨held, row', found, delivering, put⟩ := finishOutboxDelivery_ok (toOption_eq_some.mp written)
      have different : outboxId ≠ delivery.outboxId := by
        rintro rfl
        obtain rfl := Option.some.inj (stored.symm.trans found)
        simp [delivering] at ended
      exact ⟨row, by rw [put, Table.get_put_ne _ _ different, stored], ended⟩
    · exact ⟨row, same ▸ stored, ended⟩
  | abort => cases stepped; exact ⟨row, stored, ended⟩
  | restart ownerId => cases stepped; exact ⟨row, stored, ended⟩

theorem ClaimedBy.of_rows {delivery} (claimed : ClaimedBy s delivery)
    (row : s'.rows.get delivery.outboxId = s.rows.get delivery.outboxId) (owner : s'.ownerId = s.ownerId) :
    ClaimedBy s' delivery :=
  ⟨by rw [row, owner]; exact claimed.held, claimed.attempt⟩

namespace SendsValid

theorem release (valid : SendsValid s) (idle : s'.stage = .idle) (unsettled : s'.unsettled = s.unsettled)
    (lasts : ∀ outboxId, s.Concluded outboxId → s'.Concluded outboxId)
    (current : ∀ delivery, s.stage.delivery = some delivery → delivery.outboxId ∈ s.unsettled →
      s'.Concluded delivery.outboxId) : SendsValid s' := by
  refine ⟨?_, ?_, ?_, ?_⟩
  · intro delivery held
    simp [idle, DriverStage.delivery] at held
  · intro delivery route claimed
    simp [idle] at claimed
  · intro delivery result answered
    simp [idle] at answered
  · intro outboxId member
    rw [unsettled] at member
    rcases valid.concluded outboxId member with concluded | held
    · exact .inl (lasts outboxId concluded)
    · obtain ⟨delivery, stage, same⟩ := Option.any_eq_true _ _ |>.mp held
      have same := of_decide_eq_true same
      subst same
      exact .inl (current delivery stage member)

theorem stop (valid : SendsValid s) (settled : s.hasUnsettled = false) (idle : s'.stage = .idle)
    (unsettled : s'.unsettled = s.unsettled) (lasts : ∀ outboxId, s.Concluded outboxId → s'.Concluded outboxId) :
    SendsValid s' := by
  refine valid.release idle unsettled lasts ?_
  intro delivery held member
  simp [DeliveryRun.hasUnsettled, held, member] at settled

theorem ended (valid : SendsValid s) (settled : s.hasUnsettled = false) {outboxId}
    (member : outboxId ∈ s.unsettled) : s.Concluded outboxId := by
  rcases valid.concluded outboxId member with concluded | held
  · exact concluded
  · obtain ⟨delivery, stage, same⟩ := Option.any_eq_true _ _ |>.mp held
    have same := of_decide_eq_true same
    subst same
    simp [DeliveryRun.hasUnsettled, stage, member] at settled

theorem enqueue (valid : SendsValid s) {newId row} (fresh : s.rows.get newId = none)
    (lasts : ∀ outboxId, s.Concluded outboxId → ({ s with rows := s.rows.put newId row } : DeliveryRun).Concluded outboxId) :
    SendsValid { s with rows := s.rows.put newId row } := by
  refine ⟨?_, valid.fresh, valid.parks, fun id member => (valid.concluded id member).imp_left (lasts id)⟩
  intro delivery held
  have claimed := valid.claimed delivery held
  refine claimed.of_rows (Table.get_put_ne _ _ ?_) rfl
  obtain ⟨row, _, stored, _⟩ := claimed.held
  intro same
  rw [same] at stored
  exact absurd (fresh.symm.trans stored) (by simp)

theorem claim (valid : SendsValid s) {now route} (ok : s.claim now route = .ok s')
    (lasts : ∀ outboxId, s.Concluded outboxId → s'.Concluded outboxId) : SendsValid s' := by
  simp only [DeliveryRun.claim, eq_ok, mapError_eq_ok] at ok
  obtain ⟨_, idle, ⟨outcome, rows⟩, claimed, ok⟩ := ok
  obtain ⟨untouched, taken⟩ := claimNextOutbox_takes claimed
  have settled : s.hasUnsettled = false := by simp [DeliveryRun.hasUnsettled, idle, DriverStage.delivery]
  dsimp only at ok
  split at ok
  next delivery route =>
    cases ok
    obtain ⟨least, most, row⟩ := taken delivery rfl
    refine ⟨?_, ?_, by simp, fun id member => .inl (lasts id (valid.ended settled member))⟩
    · rintro _ ⟨⟩
      exact ⟨row, least, most⟩
    · rintro _ _ ⟨⟩ member
      obtain ⟨row, stored, final⟩ := valid.ended settled member
      exact (untouched _ row stored final).2 delivery rfl rfl
  next =>
    cases ok
    exact valid.stop settled idle rfl lasts

theorem answered {delivery result unsettled} (valid : SendsValid s) (held : s.stage.delivery = some delivery)
    (before : ∀ id ∈ unsettled, id ∈ s.unsettled) (parks : delivery.outboxId ∈ unsettled → result.Parks) :
    SendsValid { s with stage := .answered delivery result, unsettled } := by
  refine ⟨?_, by simp, ?_, fun outboxId member => ?_⟩
  · rintro _ ⟨⟩
    exact (valid.claimed delivery held).of_rows rfl rfl
  · rintro _ _ ⟨⟩ member
    exact parks member
  · refine (valid.concluded outboxId (before outboxId member)).imp_right ?_
    rw [DeliveryRun.IsHeld, held]
    exact id

theorem prepare (valid : SendsValid s) {credential} (ok : s.prepare parse credential = .ok s') : SendsValid s' := by
  obtain ⟨delivery, target, stage, ⟨error, rfl⟩ | rfl⟩ := DeliveryRun.prepare_ok ok
  all_goals
    have held : s.stage.delivery = some delivery := by rw [stage]; rfl
    have unsent := valid.fresh delivery _ stage
  · exact valid.answered held (fun _ => id) (absurd · unsent)
  · refine ⟨?_, by simp, by simp, ?_⟩
    · rintro _ ⟨⟩
      exact (valid.claimed delivery held).of_rows rfl rfl
    · intro id member
      rcases List.mem_cons.mp member with rfl | before
      · exact .inr (by simp [DeliveryRun.IsHeld, DriverStage.delivery])
      · exact .inl (valid.ended (by simp [DeliveryRun.hasUnsettled, held, unsent]) before)

theorem answer (valid : SendsValid s) {received} (conclusive : (DeliveryOperation.answer received).Conclusive s)
    (ok : s.answer parse received = .ok s') : SendsValid s' := by
  obtain ⟨delivery, target, stage, rfl⟩ := DeliveryRun.answer_ok ok
  refine valid.answered (by rw [stage]; rfl) ?_ ?_
  · intro id member
    split at member
    next => exact List.mem_of_mem_filter member
    next => exact member
  · intro member
    split at member
    next => simp at member
    next unrejected => exact telegramResult_parks conclusive (Bool.eq_false_iff.mpr unrejected)

theorem finish (valid : SendsValid s) {now} (conclusive : (DeliveryOperation.finish now).Conclusive s)
    (ok : s.finish now = .ok s') (lasts : ∀ outboxId, s.Concluded outboxId → s'.Concluded outboxId) : SendsValid s' := by
  obtain ⟨delivery, result, stage, idle, unsettled, outcome⟩ := DeliveryRun.finish_ok ok
  have held : s.stage.delivery = some delivery := by rw [stage]; rfl
  refine valid.release idle unsettled lasts ?_
  intro current holds member
  obtain rfl := Option.some.inj (held.symm.trans holds)
  -- The write-back of an unsettled send succeeds and ends the record.
  obtain ⟨rows, written, ⟨row, stored, final⟩, _⟩ := finishOutboxDelivery_parks (valid.claimed delivery held)
    (conclusive delivery held member) (valid.parks delivery result stage member)
  rw [written] at outcome
  rcases outcome with same | ⟨failed, _⟩
  · exact ⟨row, by rw [← Option.some.inj same]; exact stored, final⟩
  · cases failed

theorem step {op : DeliveryOperation} (valid : SendsValid s) (conclusive : op.Conclusive s)
    (stepped : op.exec parse s = .ok s') : SendsValid s' := by
  have lasts (outboxId : OutboxId) (concluded : s.Concluded outboxId) : s'.Concluded outboxId := concluded.step stepped
  cases op with
  | enqueue newId topic payloadJson createdAt =>
    simp only [DeliveryOperation.exec, eq_ok] at stepped
    obtain ⟨_, fresh, rfl⟩ := stepped
    exact valid.enqueue fresh lasts
  | claim now route => exact valid.claim stepped lasts
  | prepare credential => exact valid.prepare stepped
  | answer received => exact valid.answer conclusive stepped
  | deliver result =>
    obtain ⟨delivery, route, stage, rfl⟩ := DeliveryRun.deliver_ok stepped
    exact valid.answered (by rw [stage]; rfl) (fun _ => id) (absurd · (valid.fresh delivery route stage))
  | finish now => exact valid.finish conclusive stepped lasts
  | abort =>
    cases stepped
    exact valid.stop conclusive rfl rfl lasts
  | restart ownerId =>
    cases stepped
    exact valid.stop conclusive rfl rfl lasts

end SendsValid

/-- In every run without a stop or a broken batch between an unsettled send and its
write-back, without server errors and with write-backs not dated before their claims:
no claimed record has an unsettled send, so none is sent again; a record with one has
ended, or its request is the current one and every accepted write-back of its answer ends
it; and a record that has ended stays so. -/
theorem ambiguous_send_not_repeated {parse : String → Option Json.Value} {s : DeliveryRun}
    (reached : (deliverySystem parse).ReachableIf (fun op s => op.Conclusive s) s) :
    (∀ delivery route, s.stage = .claimed delivery route → delivery.outboxId ∉ s.unsettled) ∧
    (∀ outboxId ∈ s.unsettled, s.Concluded outboxId ∨ s.IsHeld outboxId = true) ∧
    (∀ delivery result now, s.stage = .answered delivery result → delivery.outboxId ∈ s.unsettled →
      s.clockAccepted now delivery.outboxId = true →
      ∃ s', (deliverySystem parse).exec (.finish now) s = .ok s' ∧ s'.Concluded delivery.outboxId) ∧
    ∀ op s' outboxId, (deliverySystem parse).exec op s = .ok s' → s.Concluded outboxId → s'.Concluded outboxId := by
  have start : SendsValid (deliverySystem parse).initial := by
    refine ⟨?_, ?_, ?_, ?_⟩ <;> simp [deliverySystem, DriverStage.delivery]
  have kept (op : DeliveryOperation) (before after : DeliveryRun) (valid : SendsValid before)
      (conclusive : op.Conclusive before) (stepped : (deliverySystem parse).exec op before = .ok after) :
      SendsValid after := valid.step conclusive stepped
  have valid := reached.invariant start kept
  refine ⟨valid.fresh, valid.concluded, ?_, fun op s' outboxId stepped concluded => concluded.step stepped⟩
  intro delivery result now stage member accepted
  have claimed := valid.claimed delivery (by simp [stage, DriverStage.delivery])
  obtain ⟨rows, written, concluded, _⟩ :=
    finishOutboxDelivery_parks claimed accepted (valid.parks delivery result stage member)
  refine ⟨{ s with rows, stage := .idle }, ?_, concluded⟩
  simp only [deliverySystem, DeliveryOperation.exec, DeliveryRun.finish, stage, written]

def readsEmptyObject (text : String) : Option Json.Value := if text = "\x7b\x7d" then some (.object []) else none

def sentNotification : List DeliveryOperation :=
  [.enqueue ⟨1⟩ "session.input_promoted" "\x7b\x7d" 0, .claim (100 * 10 ^ 9) (some (.telegram ⟨7⟩)), .prepare .accepted]

theorem ambiguous_send_not_repeated_parked :
    ∃ s, (deliverySystem readsEmptyObject).ReachableIf (fun op s => op.Conclusive s) s ∧
      s.unsettled = [⟨1⟩] ∧ s.stage = .idle ∧ s.Concluded ⟨1⟩ := by
  have run : ∃ s, (deliverySystem readsEmptyObject).ReachableIf (fun op s => op.Conclusive s) s ∧
      s.unsettled = [⟨1⟩] ∧ s.stage = .idle :=
    System.exists_reachableIf (sentNotification ++ [.answer (.response 200 "not JSON"), .finish (101 * 10 ^ 9)])
      (by decide +kernel)
  obtain ⟨s, reached, unsettled, idle⟩ := run
  refine ⟨s, reached, unsettled, idle, ?_⟩
  obtain ⟨_, concluded, _⟩ := ambiguous_send_not_repeated reached
  refine (concluded ⟨1⟩ (by simp [unsettled])).resolve_right ?_
  simp [DeliveryRun.IsHeld, idle, DriverStage.delivery]

/-- The daemon stops after the request, or Telegram answers with a server error: the same
record is claimed and sent once more. -/
theorem unsettled_send_repeated :
    (∃ s s', (deliverySystem readsEmptyObject).Reachable s ∧
      (deliverySystem readsEmptyObject).exec (.prepare .accepted) s = .ok s' ∧ ⟨1⟩ ∈ s.unsettled ∧
      s'.stage = .sending ⟨⟨1⟩, "session.input_promoted", "\x7b\x7d", 2⟩ ⟨7⟩) ∧
    ∃ s s', (deliverySystem readsEmptyObject).Reachable s ∧
      (deliverySystem readsEmptyObject).exec (.prepare .accepted) s = .ok s' ∧ ⟨1⟩ ∈ s.unsettled ∧
      s'.stage = .sending ⟨⟨1⟩, "session.input_promoted", "\x7b\x7d", 2⟩ ⟨7⟩ :=
  ⟨System.exists_step (sentNotification ++ [.restart ⟨1⟩, .claim (200 * 10 ^ 9) (some (.telegram ⟨7⟩))])
      (by decide +kernel),
    System.exists_step (sentNotification ++
      [.answer (.response 503 ""), .finish (101 * 10 ^ 9), .claim (200 * 10 ^ 9) (some (.telegram ⟨7⟩))])
      (by decide +kernel)⟩

end Mealy
