import Mealy.Store.SessionPort

/-! The store with its journal as a transition system. Every operation writes its rows,
its journal events and its outbox record in one transaction; two operations build a
part of their reply only after the commit. -/

namespace Mealy
open Relational Transaction EventLog

/-! ### Outbox records -/

def PromotionCommit.topic (commit : PromotionCommit) (s : Store) : Option String :=
  match s.loadPendingHead commit.sessionId, (s.sessions.get commit.sessionId).bind Session.activeTurnId with
  | none, _ => none
  | some _, none => some "session.input_promoted"
  | some (_, entry), some _ =>
    match entry.deliveryMode with
    | .queue => none
    | .steerAtBoundary => some "session.input_steered"
    | .interruptThenQueue => if entry.interruptRequestedAt.isSome then none else some "session.interrupt_requested"

def CompleteRunCommit.topic (commit : CompleteRunCommit) (s : Store) : Option String :=
  (s.turnOfRun commit.fence.runId).map fun (_, turn) =>
    match turn.kind with
    | .canonical => "session.turn_completed"
    | .delegated => "delegation.completed"

def RecordEffectProposalCommit.topic (commit : RecordEffectProposalCommit) : Option String :=
  commit.approval.map fun _ => "effect.approval_requested"

def Operation.topic (op : Operation) (s : Store) : Option String :=
  match op with
  | promoteNext commit => commit.topic s
  | completeRun commit => commit.topic s
  | recordEffectProposal commit => commit.topic
  | recordAgentEffectProposal commit => commit.proposal.topic
  | _ => none

def DelegationOperation.topic (op : DelegationOperation) (s : DelegationStore) : Option String :=
  match op with
  | daemon op _ => op.topic s.core
  | promote commit _ => commit.topic s.core
  | _ => none

def DelegationOperation.isSessionPort : DelegationOperation → Bool
  | daemon (.createSession _) _ | daemon (.admitInput _) _ => true
  | _ => false

/-! ### Model progress -/

structure RecordModelProgressCommit where
  fence : LeaseFence
  attemptId : AttemptId
  eventId : EventId
  progressSequence : Nat
  delta : String
  cumulativeBytes : Nat
  recordedAt : Millis

def maximumModelProgressBytes : Nat := 64 * 1024
def maximumModelProgressEvents : Nat := 256
def maximumModelProgressDeltaBytes : Nat := 4 * 1024

/-- `record_model_progress`: a bounded part of the output that a provider streams. -/
def recordModelProgress (commit : RecordModelProgressCommit) (s : JournaledStore) : Except StoreError JournaledStore := do
  let deltaBytes := commit.delta.utf8ByteSize
  ensure (commit.delta ≠ "" ∧ deltaBytes ≤ maximumModelProgressDeltaBytes ∧
    commit.progressSequence < maximumModelProgressEvents ∧
    commit.cumulativeBytes ≤ maximumModelProgressBytes ∧ deltaBytes ≤ commit.cumulativeBytes)
    (.invariantViolation "model progress evidence exceeds its bound")
  let owner ← s.core.loadFencedOwner commit.fence commit.recordedAt
  owner.run.ensureNotCancelled
  let _ ← require (s.core.fencedAttempt commit.fence commit.attemptId .dispatching) .conflict
  let recorded := s.journal.events.countP fun event =>
    event.aggregate = .modelAttempt commit.attemptId ∧ event.eventType = "model.output.delta"
  let prior := (s.progress.get commit.attemptId).getD 0
  ensure (recorded = commit.progressSequence ∧ prior + deltaBytes = commit.cumulativeBytes)
    (.invariantViolation "model progress sequence or cumulative byte evidence is invalid")
  let journal ← s.journal.record "aggregate sequence overflow"
    [appendNext commit.eventId (.modelAttempt commit.attemptId) "model.output.delta"]
  pure { s with journal, progress := s.progress.put commit.attemptId commit.cumulativeBytes }

/-! ### The operations -/

/-- The identities of the records beside the journal. -/
structure Delivery where
  (outboxId childAcknowledgementOutboxId : OutboxId)

def JournaledStore.publish (outboxId : OutboxId) : Option String → Table OutboxId String →
    Except StoreError (Table OutboxId String)
  | none, outbox => .ok outbox
  | some topic, outbox => insertOutbox outboxId topic outbox

def LaunchAgentDelegationCommit.admission (commit : LaunchAgentDelegationCommit) (reserved : Reserved)
    (delivery : Delivery) (s : JournaledStore) : Except StoreError Admission := do
  let (_, turn) ← require (s.core.turnOfRun commit.parentFence.runId) .conflict
  let parent ← require (s.admissions.get turn.inboxEntryId) .conflict
  pure
    { providerSelectionSource := "inherited", selectedProviderId := none, selectedModelId := none,
      admissionEventId := reserved.event .event,
      acknowledgementOutboxId := delivery.childAcknowledgementOutboxId,
      correlationId := parent.correlationId, acceptedAt := commit.preparedAt }

def LaunchAgentDelegationCommit.admissions (commit : LaunchAgentDelegationCommit) (reserved : Reserved)
    (delivery : Delivery) (s : JournaledStore) : Except StoreError (Table InboxEntryId Admission) := do
  let admission ← commit.admission reserved delivery s
  ensure (s.admissionIsFresh admission ∧ 0 < sqliteLength commit.packageText) .conflict
  pure (s.admissions.put commit.childInboxEntryId admission)

def DelegationOperation.admissions (op : DelegationOperation) (reserved : Reserved) (delivery : Delivery)
    (s : JournaledStore) : Except StoreError (Table InboxEntryId Admission) :=
  match op with
  | launch commit _ _ => commit.admissions reserved delivery s
  | _ => .ok s.admissions

def journaled (op : DelegationOperation) (reserved : Reserved) (delivery : Delivery) (s : JournaledStore) :
    Except StoreError JournaledStore := do
  let store ← op.transaction s.store
  let admissions ← op.admissions reserved delivery s
  let journal ← s.journal.record "aggregate sequence overflow" (op.entries reserved s.store)
  let outbox ← JournaledStore.publish delivery.outboxId (op.topic s.store) s.outbox
  pure { s with store, admissions, journal, outbox }

def StartupRecoveryCommit.recovery (commit : StartupRecoveryCommit) (leaseId : LeaseId) (index : Nat) :
    DelegationOperation :=
  .daemon (.recoverLease
    { leaseId, recoverAllActive := commit.recoverAllActive, eventId := (commit.reserved index).1,
      evidenceDigest := (commit.reserved index).2, now := commit.now }) rfl

def journaledBatch (commit : StartupRecoveryCommit) (reserved : Nat → Reserved) (delivery : Delivery) :
    List LeaseId → Nat → JournaledStore → Except StoreError JournaledStore
  | [], _, s => .ok s
  | leaseId :: rest, index, s => do
    let recovered ← journaled (commit.recovery leaseId index) (reserved index) delivery s
    journaledBatch commit reserved delivery rest (index + 1) recovered

inductive JournalOperation where
  | createSession (commit : SessionPort.SessionCreationCommit)
  | admitInput (commit : SessionPort.InputAdmissionCommit)
  | store (op : DelegationOperation) (portless : op.isSessionPort = false) (reserved : Reserved) (delivery : Delivery)
  | recoverStartupBatch (commit : StartupRecoveryCommit) (reserved : Nat → Reserved) (delivery : Delivery)
  | recordModelProgress (commit : RecordModelProgressCommit)

namespace JournalOperation

def exec (op : JournalOperation) (s : JournaledStore) : Except StoreError JournaledStore :=
  match op with
  | createSession commit => SessionPort.createSession commit s
  | admitInput commit => (SessionPort.admitInput commit s).map Prod.snd
  | store op _ reserved delivery => journaled op reserved delivery s
  | recoverStartupBatch commit reserved delivery =>
    let expired := (s.core.loadExpired commit.now commit.recoverAllActive).take commit.batchLimit
    journaledBatch commit reserved delivery (expired.map Prod.fst) 0 s
  | recordModelProgress commit => Mealy.recordModelProgress commit s

/-- `hydrated_lease`, built from the renewed row. -/
def hydratedLease (commit : HeartbeatCommit) (s : Store) : Except StoreError Unit := do
  let lease ← require (s.leases.get commit.fence.leaseId) .staleFence
  ensure (lease.acquiredAt ≤ commit.heartbeatAt ∧ commit.heartbeatAt < commit.expiresAt)
    (.invariantViolation "lease expiry must be later than acquisition")

/-- The part of the reply that is built after the commit. -/
def reply (op : JournalOperation) (s s' : JournaledStore) : Except StoreError Unit :=
  match op with
  | store (.daemon (.heartbeat commit) _) _ _ _ => hydratedLease commit s'.core
  | store (.promote commit _) _ _ _ =>
    match s.core.loadPendingHead commit.sessionId, (s.core.sessions.get commit.sessionId).bind Session.activeTurnId with
    | some (_, entry), none => (SessionPort.positive entry.sequence "inbox sequence").map fun _ => ()
    | _, _ => .ok ()
  | _ => .ok ()

/-- What a caller sees: the result and the store it leaves. A transaction that fails is
rolled back; a reply that fails comes after the commit. -/
def perform (op : JournalOperation) (s : JournaledStore) : Except StoreError Unit × JournaledStore :=
  match op.exec s with
  | .ok s' => (op.reply s s', s')
  | .error e => (.error e, s)

end JournalOperation

def journalSystem : System StoreError JournaledStore JournalOperation where
  initial := {}
  exec := JournalOperation.exec

abbrev JournaledStore.Reachable (s : JournaledStore) : Prop := journalSystem.Reachable s

/-! ### Committed transactions -/

theorem Journal.record_ok {journal journal' : Journal} {overflow : String} {entries : List JournalEntry} :
    journal.record overflow entries = .ok journal' ↔ journal.appendAll maximumI64 entries = .ok journal' := by
  unfold Journal.record
  cases journal.appendAll maximumI64 entries <;> simp

namespace SessionPort

theorem createSession_ok {commit : SessionCreationCommit} {s s' : JournaledStore}
    (ok : createSession commit s = .ok s') :
    ∃ core journal providerSelections, Mealy.createSession commit.toSessionCreationCommit s.core = .ok core ∧
      s.journal.appendAll maximumI64 [sessionCreatedEntry commit.eventId commit.sessionId] = .ok journal ∧
      s' = { s with
        store := { s.store with core }, journal, providerSelections,
        principals := insertOrIgnore s.principals commit.ownership.principalId .active,
        bindings := insertOrIgnore s.bindings commit.ownership.channelBindingId
          { principalId := commit.ownership.principalId, status := .active } } := by
  simp only [createSession, eq_ok, Journal.record_ok] at ok
  obtain ⟨_, _, _, _, core, created, journal, recorded, rfl⟩ := ok
  exact ⟨core, journal, _, created, recorded, rfl⟩

theorem acceptInput_ok {commit : InputAdmissionCommit} {session : Session} {acceptedAt : Millis}
    {s s' : JournaledStore} {outcome : InputAdmissionOutcome}
    (ok : acceptInput commit session acceptedAt s = .ok (outcome, s')) :
    ∃ selection core journal outbox timelineCursor,
      resolvedProviderSelection s commit.sessionId commit.providerSelection = .ok selection ∧
      s.core.loadAdmission commit.sessionId commit.dedupeKey = none ∧
      Mealy.admitInput commit.toInputAdmissionCommit s.core = .ok core ∧
      s.journal.appendAll maximumI64 [inputAcceptedEntry commit.eventId commit.sessionId] = .ok journal ∧
      journal.cursorOf commit.eventId = some timelineCursor ∧ 0 < timelineCursor ∧
      0 < session.nextInboxSequence ∧
      outcome = .accepted
        { sessionId := commit.sessionId, inboxEntryId := commit.inboxEntryId,
          inboxSequence := session.nextInboxSequence, deliveryMode := commit.deliveryMode,
          providerSelection := selection, providerSelectionSource := commit.providerSelection.source,
          eventId := commit.eventId, outboxId := commit.outboxId, correlationId := commit.correlationId, acceptedAt,
          timelineCursor } ∧
      s' = { s with
        store := { s.store with core }, journal, outbox,
        admissions := s.admissions.put commit.inboxEntryId (commit.admission selection acceptedAt) } := by
  simp only [acceptInput, positive, eq_ok, Journal.record_ok, Prod.mk.injEq] at ok
  obtain ⟨_, _, _, _, selection, resolved, _, ⟨_, counted, rfl⟩, _, _, _, ⟨unused, _⟩, core, admitted, journal,
    recorded, outbox, _, cursor, stamped, _, ⟨_, later, rfl⟩, rfl, rfl⟩ := ok
  exact ⟨selection, core, journal, outbox, cursor, resolved, unused, admitted, recorded, stamped, later, counted,
    rfl, rfl⟩

theorem admitInput_ok {commit s s' outcome} (ok : admitInput commit s = .ok (outcome, s')) :
    (s' = s ∧ ∃ receipt, outcome = .duplicate receipt) ∨ ∃ acceptedAt session,
      epochMilliseconds commit.acceptedAt = .ok acceptedAt ∧ activeIdentity s commit.ownership = true ∧
      s.core.sessions.get commit.sessionId = some session ∧ session.ownedBy commit.ownership = true ∧
      acceptInput commit session acceptedAt s = .ok (outcome, s') := by
  simp only [admitInput, eq_ok] at ok
  obtain ⟨acceptedAt, timed, _, known, session, found, _, owned, ok⟩ := ok
  split at ok
  next stored _ =>
    simp only [eq_ok, Prod.mk.injEq] at ok
    obtain ⟨_, _, receipt, _, rfl, rfl⟩ := ok
    exact .inl ⟨rfl, receipt, rfl⟩
  next => exact .inr ⟨acceptedAt, session, timed, known, found, owned, ok⟩

end SessionPort

theorem JournalOperation.admitInput_ok {commit : SessionPort.InputAdmissionCommit} {s s' : JournaledStore}
    (ok : (JournalOperation.admitInput commit).exec s = .ok s') :
    s' = s ∨ ∃ core journal timelineCursor outbox selection acceptedAt,
      s.core.loadAdmission commit.sessionId commit.dedupeKey = none ∧
      Mealy.admitInput commit.toInputAdmissionCommit s.core = .ok core ∧
      s.journal.appendAll maximumI64 [inputAcceptedEntry commit.eventId commit.sessionId] = .ok journal ∧
      journal.cursorOf commit.eventId = some timelineCursor ∧
      s' = { s with
        store := { s.store with core }, journal, outbox,
        admissions := s.admissions.put commit.inboxEntryId (commit.admission selection acceptedAt) } := by
  obtain ⟨⟨_, _⟩, admitted, rfl⟩ := map_eq_ok.mp ok
  obtain ⟨rfl, _⟩ | ⟨_, _, _, _, _, _, accepted⟩ := SessionPort.admitInput_ok admitted
  · exact .inl rfl
  · obtain ⟨_, _, _, _, _, _, unused, core, recorded, stamped, _, _, _, rfl⟩ := SessionPort.acceptInput_ok accepted
    exact .inr ⟨_, _, _, _, _, _, unused, core, recorded, stamped, rfl⟩

theorem journaled_ok {op : DelegationOperation} {reserved : Reserved} {delivery : Delivery} {s s' : JournaledStore}
    (ok : journaled op reserved delivery s = .ok s') :
    ∃ store admissions journal outbox, op.transaction s.store = .ok store ∧
      op.admissions reserved delivery s = .ok admissions ∧
      s.journal.appendAll maximumI64 (op.entries reserved s.store) = .ok journal ∧
      s' = { s with store, admissions, journal, outbox } := by
  simp only [journaled, eq_ok, Journal.record_ok] at ok
  obtain ⟨store, stepped, admissions, admitted, journal, recorded, outbox, _, rfl⟩ := ok
  exact ⟨store, admissions, journal, outbox, stepped, admitted, recorded, rfl⟩

theorem recordModelProgress_ok {commit : RecordModelProgressCommit} {s s' : JournaledStore}
    (ok : recordModelProgress commit s = .ok s') :
    ∃ journal progress, s.journal.appendAll maximumI64
        [appendNext commit.eventId (.modelAttempt commit.attemptId) "model.output.delta"] = .ok journal ∧
      s' = { s with journal, progress } := by
  simp only [recordModelProgress, eq_ok, Journal.record_ok] at ok
  obtain ⟨_, _, _, _, _, _, _, _, _, _, journal, recorded, rfl⟩ := ok
  exact ⟨journal, _, recorded, rfl⟩

end Mealy
