import Mealy.Store.Journal
import Mealy.Store.Outbox

/-! The store with its journal, and the session port as its clients see it
(`sessions.rs`): who may admit an input, what the provider preference of an input
resolves to, and the receipt that every delivery of the same input returns. -/

namespace Mealy
open Relational Transaction EventLog

structure CorrelationId where
  id : Nat
deriving DecidableEq

/-! ### Provider selections -/

structure ProviderSelection where
  (providerId modelId : String)
deriving DecidableEq

def validProviderSelectionLabel (value : String) (maximumBytes : Nat) : Bool :=
  value ≠ "" ∧ value.utf8ByteSize ≤ maximumBytes ∧ isTrimmed value ∧ value.toList.all fun c => !isControl c

def ProviderSelection.isValid (selection : ProviderSelection) : Bool :=
  validProviderSelectionLabel selection.providerId 128 ∧ validProviderSelectionLabel selection.modelId 128

inductive ProviderSelectionPreference where
  | inheritSession
  | automatic
  | exact (selection : ProviderSelection)

namespace ProviderSelectionPreference

def source : ProviderSelectionPreference → String
  | inheritSession => "inherited"
  | automatic => "automatic"
  | exact _ => "exact"

def isValid : ProviderSelectionPreference → Bool
  | inheritSession | automatic => true
  | exact selection => selection.isValid

end ProviderSelectionPreference

def selectionFromPair : Option String → Option String → Except StoreError (Option ProviderSelection)
  | none, none => .ok none
  | some providerId, some modelId => do
    let selection : ProviderSelection := { providerId, modelId }
    ensure selection.isValid (.invariantViolation "stored provider selection is invalid")
    pure (some selection)
  | some _, none | none, some _ => .error (.invariantViolation "stored provider selection pair is incomplete")

/-- SQLite's `length` of a text counts its characters before the first NUL. -/
def sqliteLength (text : String) : Nat := (text.toList.takeWhile fun c => c.toNat ≠ 0).length

/-- `CHECK (id IS NULL OR length(id) BETWEEN 1 AND 128)`. -/
def labelFits (label : Option String) : Bool := label.all fun text => 1 ≤ sqliteLength text ∧ sqliteLength text ≤ 128

/-! ### The store with its journal -/

inductive RegistryStatus where
  | active | revoked
deriving DecidableEq

structure ChannelBinding where
  principalId : PrincipalId
  status : RegistryStatus

/-- The columns of `session_inbox` that only the session port reads. -/
structure Admission where
  providerSelectionSource : String
  (selectedProviderId selectedModelId : Option String)
  admissionEventId : EventId
  acknowledgementOutboxId : OutboxId
  correlationId : CorrelationId
  acceptedAt : Millis

structure JournaledStore where
  store : DelegationStore := {}
  journal : Journal := {}
  principals : Table PrincipalId RegistryStatus := .empty
  bindings : Table ChannelBindingId ChannelBinding := .empty
  providerSelections : Table SessionId (Option String × Option String) := .empty
  admissions : Table InboxEntryId Admission := .empty
  outbox : Table OutboxId String := .empty
  progress : Table AttemptId Nat := .empty

abbrev JournaledStore.core (s : JournaledStore) : Store := s.store.core

/-- The error of a rejected event; the stores word a full counter differently. -/
def rejected (overflow : String) : Rejection → StoreError
  | .duplicate => .conflict
  | .unnumbered => .invariantViolation "session aggregate sequence is missing"
  | .exhausted => .invariantViolation overflow

/-- Append the entries of an operation; the first one that is rejected fails it. -/
def Journal.record (journal : Journal) (overflow : String) (entries : List JournalEntry) : Except StoreError Journal :=
  match journal.appendAll maximumI64 entries with
  | .ok appended => .ok appended
  | .error rejection => .error (rejected overflow rejection)

def insertOutbox (outboxId : OutboxId) (topic : String) (outbox : Table OutboxId String) :
    Except StoreError (Table OutboxId String) := do
  ensure (outbox.get outboxId = none) .conflict
  pure (outbox.put outboxId topic)

def insertOrIgnore {κ ρ : Type} [DecidableEq κ] (table : Table κ ρ) (key : κ) (row : ρ) : Table κ ρ :=
  if (table.get key).isSome then table else table.put key row

def JournaledStore.admissionIsFresh (s : JournaledStore) (admission : Admission) : Bool :=
  !(s.admissions.any fun _ other =>
    other.admissionEventId = admission.admissionEventId ∨
      other.acknowledgementOutboxId = admission.acknowledgementOutboxId)

namespace SessionPort

def epochMilliseconds (time : SystemTime) : Except StoreError Millis := do
  ensure (0 ≤ time) (.invariantViolation "application clock returned a time before the Unix epoch")
  let milliseconds := time.toNat / 10 ^ 6
  ensure (milliseconds ≤ maximumI64) (.invariantViolation "application clock exceeds the SQLite timestamp range")
  pure milliseconds

/-! ### Creating a session -/

structure SessionCreationCommit extends Mealy.SessionCreationCommit where
  providerSelection : Option ProviderSelection
  eventId : EventId
  createdAt : SystemTime

/-- `create_session`. The trigger `session_identity_registry` registers the owner. -/
def createSession (commit : SessionCreationCommit) (s : JournaledStore) : Except StoreError JournaledStore := do
  ensure (commit.providerSelection.all ProviderSelection.isValid)
    (.invariantViolation "application supplied an invalid provider selection")
  let _ ← epochMilliseconds commit.createdAt
  let core ← Mealy.createSession commit.toSessionCreationCommit s.core
  let journal ← s.journal.record "session journal sequence overflow" [sessionCreatedEntry commit.eventId commit.sessionId]
  pure { s with
    store := { s.store with core },
    journal,
    principals := insertOrIgnore s.principals commit.ownership.principalId .active,
    bindings := insertOrIgnore s.bindings commit.ownership.channelBindingId
      { principalId := commit.ownership.principalId, status := .active },
    providerSelections := match commit.providerSelection with
      | some selection =>
        s.providerSelections.put commit.sessionId (some selection.providerId, some selection.modelId)
      | none => s.providerSelections }

/-! ### Admitting an input -/

structure InputAdmissionCommit extends Mealy.InputAdmissionCommit where
  providerSelection : ProviderSelectionPreference
  eventId : EventId
  outboxId : OutboxId
  correlationId : CorrelationId
  acceptedAt : SystemTime

structure InputAdmissionReceipt where
  sessionId : SessionId
  inboxEntryId : InboxEntryId
  inboxSequence : Nat
  deliveryMode : DeliveryMode
  providerSelection : Option ProviderSelection
  providerSelectionSource : String
  eventId : EventId
  outboxId : OutboxId
  correlationId : CorrelationId
  acceptedAt : Millis
  timelineCursor : Nat
deriving DecidableEq

inductive InputAdmissionOutcome where
  | accepted (receipt : InputAdmissionReceipt)
  | duplicate (receipt : InputAdmissionReceipt)
deriving DecidableEq

def activeIdentity (s : JournaledStore) (ownership : OwnershipContext) : Bool :=
  s.principals.get ownership.principalId = some .active ∧
  (s.bindings.get ownership.channelBindingId).any fun binding =>
    binding.principalId = ownership.principalId ∧ binding.status = .active

def resolvedProviderSelection (s : JournaledStore) (sessionId : SessionId) :
    ProviderSelectionPreference → Except StoreError (Option ProviderSelection)
  | .inheritSession =>
    match s.providerSelections.get sessionId with
    | some (providerId, modelId) => selectionFromPair providerId modelId
    | none => .ok none
  | .automatic => .ok none
  | .exact selection => .ok (some selection)

structure StoredAdmission where
  inboxEntryId : InboxEntryId
  entry : InboxEntry
  admission : Admission
  timelineCursor : Nat

def loadAdmission (s : JournaledStore) (sessionId : SessionId) (dedupeKey : String) : Option StoredAdmission := do
  let (inboxEntryId, entry) ← s.core.loadAdmission sessionId dedupeKey
  let admission ← s.admissions.get inboxEntryId
  let timelineCursor ← s.journal.cursorOf admission.admissionEventId
  pure { inboxEntryId, entry, admission, timelineCursor }

def Admission.matchesPreference (admission : Admission) : ProviderSelectionPreference → Bool
  | .inheritSession => admission.providerSelectionSource = "inherited"
  | .automatic =>
    admission.providerSelectionSource = "automatic" ∧ admission.selectedProviderId = none ∧
      admission.selectedModelId = none
  | .exact selection =>
    admission.providerSelectionSource = "exact" ∧ admission.selectedProviderId = some selection.providerId ∧
      admission.selectedModelId = some selection.modelId

def positive (value : Nat) (field : String) : Except StoreError Nat := do
  ensure (0 < value) (.invariantViolation ("stored " ++ field ++ " is zero"))
  pure value

def StoredAdmission.intoReceipt (stored : StoredAdmission) (sessionId : SessionId) :
    Except StoreError InputAdmissionReceipt := do
  let inboxSequence ← positive stored.entry.sequence "inbox sequence"
  let providerSelection ← selectionFromPair stored.admission.selectedProviderId stored.admission.selectedModelId
  let timelineCursor ← positive stored.timelineCursor "admission timeline cursor"
  pure
    { sessionId, inboxEntryId := stored.inboxEntryId, inboxSequence, deliveryMode := stored.entry.deliveryMode,
      providerSelection, providerSelectionSource := stored.admission.providerSelectionSource,
      eventId := stored.admission.admissionEventId, outboxId := stored.admission.acknowledgementOutboxId,
      correlationId := stored.admission.correlationId, acceptedAt := stored.admission.acceptedAt, timelineCursor }

/-- The columns that `insert_inbox_and_advance` adds to the inbox entry. -/
def InputAdmissionCommit.admission (commit : InputAdmissionCommit) (selection : Option ProviderSelection)
    (acceptedAt : Millis) : Admission where
  providerSelectionSource := commit.providerSelection.source
  selectedProviderId := selection.map ProviderSelection.providerId
  selectedModelId := selection.map ProviderSelection.modelId
  admissionEventId := commit.eventId
  acknowledgementOutboxId := commit.outboxId
  correlationId := commit.correlationId
  acceptedAt := acceptedAt

def acceptInput (commit : InputAdmissionCommit) (session : Session) (acceptedAt : Millis) (s : JournaledStore) :
    Except StoreError (InputAdmissionOutcome × JournaledStore) := do
  ensure (commit.maximumPendingInputs ≤ maximumI64)
    (.invariantViolation "session pending-input limit exceeds SQLite")
  ensure (s.core.pendingInputs commit.sessionId < commit.maximumPendingInputs) .backpressure
  let selection ← resolvedProviderSelection s commit.sessionId commit.providerSelection
  let inboxSequence ← positive session.nextInboxSequence "inbox sequence"
  ensure (session.nextInboxSequence + 1 ≤ maximumI64) (.invariantViolation "session inbox sequence overflow")
  let admission := commit.admission selection acceptedAt
  ensure (s.core.loadAdmission commit.sessionId commit.dedupeKey = none ∧ s.admissionIsFresh admission ∧
    0 < sqliteLength commit.dedupeKey ∧ 0 < sqliteLength commit.content ∧
    labelFits admission.selectedProviderId ∧ labelFits admission.selectedModelId) .conflict
  let core ← Mealy.admitInput commit.toInputAdmissionCommit s.core
  let journal ← s.journal.record "session journal sequence overflow" [inputAcceptedEntry commit.eventId commit.sessionId]
  let outbox ← insertOutbox commit.outboxId "session.input_acknowledgement" s.outbox
  let cursor ← require (journal.cursorOf commit.eventId)
    (.invariantViolation "accepted input is missing its timeline cursor")
  let timelineCursor ← positive cursor "admission timeline cursor"
  pure
    (.accepted
      { sessionId := commit.sessionId, inboxEntryId := commit.inboxEntryId, inboxSequence,
        deliveryMode := commit.deliveryMode, providerSelection := selection,
        providerSelectionSource := commit.providerSelection.source, eventId := commit.eventId,
        outboxId := commit.outboxId, correlationId := commit.correlationId, acceptedAt, timelineCursor },
     { s with
       store := { s.store with core },
       journal, outbox,
       admissions := s.admissions.put commit.inboxEntryId admission })

def admitInput (commit : InputAdmissionCommit) (s : JournaledStore) :
    Except StoreError (InputAdmissionOutcome × JournaledStore) := do
  let acceptedAt ← epochMilliseconds commit.acceptedAt
  ensure (activeIdentity s commit.ownership) .unauthorized
  let session ← require (s.core.sessions.get commit.sessionId) .notFound
  ensure (session.ownedBy commit.ownership) .unauthorized
  match loadAdmission s commit.sessionId commit.dedupeKey with
  | some stored =>
    ensure (stored.entry.deliveryMode = commit.deliveryMode ∧ stored.entry.content = commit.content ∧
      Admission.matchesPreference stored.admission commit.providerSelection) .idempotencyConflict
    let receipt ← stored.intoReceipt commit.sessionId
    pure (.duplicate receipt, s)
  | none => acceptInput commit session acceptedAt s

end SessionPort
end Mealy
