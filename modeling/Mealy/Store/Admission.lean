import Mealy.Store.JournalSystem

/-! The admission use case (`sessions.rs` of the application): the bounds that every
input passes before the session port, whichever adapter of the daemon delivers it. -/

namespace Mealy
open Relational Transaction

variable {limits : InputAdmissionLimits} {command : AdmitInputCommand} {ids : AdmissionIds}
  {s s' : JournaledStore} {outcome : SessionPort.InputAdmissionOutcome}

structure InputAdmissionLimits where
  (dedupeKeyBytes contentBytes pendingInputs : Nat)

structure AdmitInputCommand where
  sessionId : SessionId
  ownership : OwnershipContext
  dedupeKey : String
  deliveryMode : DeliveryMode
  content : String
  providerSelection : ProviderSelectionPreference

/-- The identifiers and the time that an admission takes from its generators. -/
structure AdmissionIds where
  inboxEntryId : InboxEntryId
  eventId : EventId
  outboxId : OutboxId
  correlationId : CorrelationId
  acceptedAt : SystemTime

inductive SessionUseCaseError where
  | emptyDedupeKey
  | dedupeKeyTooLarge (actual maximum : Nat)
  | emptyContent
  | contentTooLarge (actual maximum : Nat)
  | invalidQueueCapacity
  | invalidProviderSelection
  | store (error : StoreError)

def AdmitInputCommand.commit (command : AdmitInputCommand) (limits : InputAdmissionLimits) (ids : AdmissionIds) :
    SessionPort.InputAdmissionCommit where
  sessionId := command.sessionId
  ownership := command.ownership
  inboxEntryId := ids.inboxEntryId
  dedupeKey := command.dedupeKey
  deliveryMode := command.deliveryMode
  content := command.content
  maximumPendingInputs := limits.pendingInputs
  providerSelection := command.providerSelection
  eventId := ids.eventId
  outboxId := ids.outboxId
  correlationId := ids.correlationId
  acceptedAt := ids.acceptedAt

def AdmitInputCommand.validate (command : AdmitInputCommand) (limits : InputAdmissionLimits) :
    Except SessionUseCaseError Unit := do
  let keyBytes := command.dedupeKey.utf8ByteSize
  ensure (keyBytes ≠ 0) .emptyDedupeKey
  ensure (keyBytes ≤ limits.dedupeKeyBytes) (.dedupeKeyTooLarge keyBytes limits.dedupeKeyBytes)
  let contentBytes := command.content.utf8ByteSize
  ensure (contentBytes ≠ 0) .emptyContent
  ensure (contentBytes ≤ limits.contentBytes) (.contentTooLarge contentBytes limits.contentBytes)
  ensure (limits.pendingInputs ≠ 0) .invalidQueueCapacity
  ensure command.providerSelection.isValid .invalidProviderSelection

def admitInputCommand (limits : InputAdmissionLimits) (command : AdmitInputCommand) (ids : AdmissionIds)
    (s : JournaledStore) : Except SessionUseCaseError (SessionPort.InputAdmissionOutcome × JournaledStore) := do
  command.validate limits
  (SessionPort.admitInput (command.commit limits ids) s).mapError .store

def SessionPort.InputAdmissionOutcome.receipt : SessionPort.InputAdmissionOutcome → SessionPort.InputAdmissionReceipt
  | .accepted receipt | .duplicate receipt => receipt

def words (text : String) : List String :=
  ((text.toList.splitOnP isWhitespace).filter (· ≠ [])).map String.ofList

/-! ### Committed admissions -/

theorem admitInputCommand_ok (ok : admitInputCommand limits command ids s = .ok (outcome, s')) :
    SessionPort.admitInput (command.commit limits ids) s = .ok (outcome, s') := by
  simp only [admitInputCommand, bind_eq_ok, mapError_eq_ok] at ok
  obtain ⟨_, _, ok⟩ := ok
  exact ok

theorem admitInputCommand_exec (ok : admitInputCommand limits command ids s = .ok (outcome, s')) :
    journalSystem.exec (.admitInput (command.commit limits ids)) s = .ok s' := by
  simp only [journalSystem, JournalOperation.exec, admitInputCommand_ok ok, Except.map]

theorem admitInputCommand_entry (ok : admitInputCommand limits command ids s = .ok (outcome, s')) :
    ∃ entry, s'.core.inbox.get outcome.receipt.inboxEntryId = some entry ∧ entry.sessionId = command.sessionId ∧
      entry.dedupeKey = command.dedupeKey := by
  have admitted := admitInputCommand_ok ok
  obtain ⟨rfl, receipt, rfl⟩ | ⟨_, session, _, _, _, _, accepted⟩ := SessionPort.admitInput_ok admitted
  · simp only [SessionPort.admitInput, eq_ok] at admitted
    obtain ⟨_, _, _, _, _, _, _, _, admitted⟩ := admitted
    split at admitted
    next stored loaded =>
      simp only [SessionPort.StoredAdmission.intoReceipt, eq_ok, Prod.mk.injEq, SessionPort.InputAdmissionOutcome.duplicate.injEq] at admitted
      obtain ⟨_, _, _, ⟨_, _, _, _, _, _, rfl⟩, rfl, _⟩ := admitted
      simp only [SessionPort.loadAdmission, Option.bind_eq_bind, Option.bind_eq_some_iff, Option.pure_def,
        Option.some.injEq, Prod.exists] at loaded
      obtain ⟨entryId, entry, loaded, _, _, _, _, rfl⟩ := loaded
      obtain ⟨found, matched⟩ := Table.find_some loaded
      obtain ⟨session, key⟩ := of_decide_eq_true matched
      exact ⟨entry, found, session, key⟩
    next =>
      obtain ⟨_, _, _, _, _, _, _, _, _, _, _, _, same, _⟩ := SessionPort.acceptInput_ok admitted
      cases same
  · obtain ⟨_, core, _, _, _, _, unused, inserted, _, _, _, _, rfl, rfl⟩ := SessionPort.acceptInput_ok accepted
    simp only [admitInput, unused, eq_ok] at inserted
    obtain ⟨_, _, _, _, _, _, _, _, _, _, rfl⟩ := inserted
    exact ⟨_, Table.get_put_self .., rfl, rfl⟩

theorem admitInputCommand_adds (ok : admitInputCommand limits command ids s = .ok (outcome, s')) {entryId}
    (other : entryId ≠ outcome.receipt.inboxEntryId) : s'.core.inbox.get entryId = s.core.inbox.get entryId := by
  obtain ⟨rfl, _⟩ | ⟨_, session, _, _, _, _, accepted⟩ :=
    SessionPort.admitInput_ok (admitInputCommand_ok ok)
  · rfl
  · obtain ⟨_, core, _, _, _, _, unused, inserted, _, _, _, _, rfl, rfl⟩ := SessionPort.acceptInput_ok accepted
    simp only [admitInput, unused, eq_ok] at inserted
    obtain ⟨_, _, _, _, _, _, _, _, _, _, rfl⟩ := inserted
    exact Table.get_put_ne _ _ other

end Mealy
