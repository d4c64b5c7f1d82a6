import Mealy.Proofs.JournalIntegrity

/-! The durable inbox. An accepted input stays as it was admitted, so that every later
delivery with its key is answered from the stored row; the numbering of the inbox and
the order of the turns hold in every run. -/

namespace Mealy
open Relational Transaction EventLog

variable {s s' : JournaledStore} {commit : InputAdmissionCommit} {ownership : OwnershipContext}
  {selection : Option ProviderSelection} {op : JournalOperation} {entryId : InboxEntryId}
  {admission : Admission}

/-! ### Admissions -/

theorem admitInput_accepts {s s'}
    (unused : s.loadAdmission commit.sessionId commit.dedupeKey = none) (ok : admitInput commit s = .ok s') :
    ∃ session, s.sessions.get commit.sessionId = some session ∧ s.inbox.get commit.inboxEntryId = none ∧
      s'.inbox.get commit.inboxEntryId = some
        { sessionId := commit.sessionId, sequence := session.nextInboxSequence, dedupeKey := commit.dedupeKey,
          deliveryMode := commit.deliveryMode, content := commit.content, state := .pending, promotedTurnId := none,
          interruptRequestedAt := none } := by
  simp only [admitInput, unused, eq_ok] at ok
  obtain ⟨session, found, _, _, _, _, _, fresh, _, _, rfl⟩ := ok
  exact ⟨session, found, fresh, Table.get_put_self ..⟩

theorem launchAgentDelegation_inbox {commit s s'} (ok : launchAgentDelegation commit s = .ok s') :
    s.inbox.get commit.childInboxEntryId = none ∧ ∃ entry, s'.inbox = s.inbox.put commit.childInboxEntryId entry := by
  simp only [launchAgentDelegation, eq_ok] at ok
  obtain ⟨_, _, parent, _, tool, _, _, _, _, _, graph, inserted, child, turned, parked⟩ := ok
  obtain ⟨_, _, _, _, _, rfl⟩ := insertDelegationGraph_ok inserted
  simp only [insertDelegatedTurn, eq_ok] at turned
  obtain ⟨_, ⟨fresh, _⟩, _, _, rfl⟩ := turned
  simp only [parkParentForChild, eq_ok, nextToken_eq_ok] at parked
  obtain ⟨_, _, _, _, parked⟩ := parked
  obtain ⟨_, _, _, _, _, rfl⟩ := parkRun_ok parked
  exact ⟨fresh, _, rfl⟩

def AdmissionsStored (s s' : JournaledStore) : Prop :=
  s'.admissions = s.admissions ∨ ∃ entryId entry admission, s.core.inbox.get entryId = none ∧
    s'.core.inbox.get entryId = some entry ∧ s'.admissions = s.admissions.put entryId admission

theorem admissions_stored (ok : op.exec s = .ok s') :
    AdmissionsStored s s' := by
  cases op with
  | createSession commit =>
    obtain ⟨_, _, _, _, _, rfl⟩ := SessionPort.createSession_ok ok
    exact .inl rfl
  | admitInput commit =>
    obtain rfl | ⟨_, _, _, _, _, _, unused, core, _, _, rfl⟩ := JournalOperation.admitInput_ok ok
    · exact .inl rfl
    · obtain ⟨_, _, fresh, stored⟩ := admitInput_accepts unused core
      exact .inr ⟨_, _, _, fresh, stored, rfl⟩
  | store op _ reserved delivery =>
    obtain ⟨_, _, _, _, stepped, admitted, _, rfl⟩ := journaled_ok ok
    cases op with
    | launch commit requested policy =>
      simp only [DelegationOperation.admissions, LaunchAgentDelegationCommit.admissions, eq_ok]
        at admitted
      obtain ⟨_, _, _, _, rfl⟩ := admitted
      obtain ⟨fresh, entry, inbox⟩ := launchAgentDelegation_inbox (launch_ok stepped).1
      exact .inr ⟨_, entry, _, fresh, by rw [inbox, Table.get_put_self], rfl⟩
    | _ => exact .inl (Except.ok.inj admitted).symm
  | recoverStartupBatch commit reserved delivery => exact .inl (journaledBatch_ok ok).2.1
  | recordModelProgress commit =>
    obtain ⟨_, _, _, rfl⟩ := recordModelProgress_ok ok
    exact .inl rfl

/-! ### Owners -/

theorem insertOrIgnore_kept {κ ρ : Type} [DecidableEq κ] {table : Table κ ρ} {key other : κ} {row stored : ρ}
    (found : table.get other = some stored) : (insertOrIgnore table key row).get other = some stored := by
  unfold insertOrIgnore
  split
  next => exact found
  next absent => exact Table.kept_put_fresh (by simpa using absent) _ _ found

theorem activeIdentity_kept (ok : op.exec s = .ok s')
    (known : SessionPort.activeIdentity s ownership = true) :
    SessionPort.activeIdentity s' ownership = true := by
  have same (principals : s'.principals = s.principals) (bindings : s'.bindings = s.bindings) :
      SessionPort.activeIdentity s' ownership = true := by
    simpa only [SessionPort.activeIdentity, principals, bindings] using known
  cases op with
  | createSession commit =>
    obtain ⟨_, _, _, _, _, rfl⟩ := SessionPort.createSession_ok ok
    simp only [SessionPort.activeIdentity, decide_eq_true_eq, Option.any_eq_true] at known ⊢
    obtain ⟨principal, binding, bound, live⟩ := known
    exact ⟨insertOrIgnore_kept principal, binding, insertOrIgnore_kept bound, live⟩
  | admitInput commit =>
    obtain rfl | ⟨_, _, _, _, _, _, _, _, _, _, rfl⟩ := JournalOperation.admitInput_ok ok <;> exact known
  | store op _ reserved delivery =>
    obtain ⟨_, _, _, _, _, _, _, rfl⟩ := journaled_ok ok
    exact known
  | recoverStartupBatch commit reserved delivery =>
    obtain ⟨_, _, principals, bindings, _⟩ := journaledBatch_ok ok
    exact same principals bindings
  | recordModelProgress commit =>
    obtain ⟨_, _, _, rfl⟩ := recordModelProgress_ok ok
    exact known

/-! ### An admitted input stays -/

/-- The row of an admitted input: the entry as it was sent, its admission with the
cursor of its event, and the owner of its session. -/
structure Admitted (entryId : InboxEntryId) (entry : InboxEntry) (admission : Admission) (timelineCursor : Nat)
    (ownership : OwnershipContext) (s : JournaledStore) : Prop where
  sent : ∃ stored, s.core.inbox.get entryId = some stored ∧ entry.SamePlace stored ∧
    stored.deliveryMode = entry.deliveryMode ∧ stored.content = entry.content
  kept : s.admissions.get entryId = some admission
  stamped : s.journal.cursorOf admission.admissionEventId = some timelineCursor
  owned : ∃ session, s.core.sessions.get entry.sessionId = some session ∧ session.ownedBy ownership = true
  known : SessionPort.activeIdentity s ownership = true

theorem Admitted.step {entry timelineCursor}
    (admitted : Admitted entryId entry admission timelineCursor ownership s) (ok : op.exec s = .ok s') :
    Admitted entryId entry admission timelineCursor ownership s' := by
  obtain ⟨⟨stored, found, ⟨ofSession, sequence, key⟩, mode, content⟩, kept, stamped, ⟨session, sessionFound, owned⟩,
    known⟩ := admitted
  have move := JournalOperation.conversation_move ok
  refine ⟨?_, ?_, ?_, ?_, activeIdentity_kept ok known⟩
  · obtain ⟨stored', found', ⟨ofSession', sequence', key'⟩, mode', content'⟩ := move.entry_kept found
    exact ⟨stored', found', ⟨ofSession'.trans ofSession, sequence'.trans sequence, key'.trans key⟩, mode'.trans mode,
      content'.trans content⟩
  · rcases admissions_stored ok with same | ⟨newId, _, _, fresh, _, put⟩
    · rw [same, kept]
    · rw [put, Table.get_put_ne _ _ (by rintro rfl; simp [found] at fresh), kept]
  · obtain ⟨entries, appended⟩ := journal_appends ok
    exact Log.cursorOf_kept (Log.appendAll_timeline appended) stamped
  · obtain ⟨session', found', principal, channel⟩ := move.sessionsKept _ _ sessionFound
    refine ⟨session', found', ?_⟩
    simpa only [Session.ownedBy, principal, channel] using owned

theorem Admitted.later {entry timelineCursor}
    (admitted : Admitted entryId entry admission timelineCursor ownership s) (later : journalSystem.Later s s') :
    Admitted entryId entry admission timelineCursor ownership s' := by
  induction later with
  | refl => exact admitted
  | tail _ step ih =>
    obtain ⟨op, ok⟩ := step
    exact ih.step ok

namespace SessionPort

theorem loadAdmission_admitted {entry timelineCursor} (valid : InboxValid s.core)
    (admitted : Admitted entryId entry admission timelineCursor ownership s) :
    ∃ stored, loadAdmission s entry.sessionId entry.dedupeKey =
        some { inboxEntryId := entryId, entry := stored, admission, timelineCursor } ∧
      stored.sequence = entry.sequence ∧ stored.deliveryMode = entry.deliveryMode ∧
      stored.content = entry.content := by
  obtain ⟨stored, found, ⟨ofSession, sequence, key⟩, mode, content⟩ := admitted.sent
  have row : s.core.loadAdmission entry.sessionId entry.dedupeKey = some (entryId, stored) := by
    refine Table.find_eq_some_of_unique found (decide_eq_true ⟨ofSession, key⟩) fun otherId other other_found same => ?_
    obtain ⟨sameSession, sameKey⟩ := of_decide_eq_true same
    exact valid.keyed _ _ _ _ other_found found (sameSession.trans ofSession.symm) (sameKey.trans key.symm)
  refine ⟨stored, ?_, sequence, mode, content⟩
  simp [loadAdmission, row, admitted.kept, admitted.stamped]

theorem matchesPreference_iff {acceptedAt}
    (resolved : resolvedProviderSelection s commit.sessionId commit.providerSelection = .ok selection)
    (preference) :
    Admission.matchesPreference (commit.admission selection acceptedAt) preference = true ↔
      commit.providerSelection = preference := by
  cases sent : commit.providerSelection with
  | inheritSession =>
    cases preference <;>
      simp [Admission.matchesPreference, InputAdmissionCommit.admission, ProviderSelectionPreference.source, sent]
  | automatic =>
    rw [sent] at resolved
    cases resolved
    cases preference <;>
      simp [Admission.matchesPreference, InputAdmissionCommit.admission, ProviderSelectionPreference.source, sent]
  | exact chosen =>
    rw [sent] at resolved
    cases resolved
    cases preference with
    | inheritSession | automatic =>
      simp [Admission.matchesPreference, InputAdmissionCommit.admission, ProviderSelectionPreference.source, sent]
    | exact other =>
      cases chosen
      cases other
      simp [Admission.matchesPreference, InputAdmissionCommit.admission, ProviderSelectionPreference.source, sent]

theorem selectionFromPair_valid {selection} (valid : selection.isValid = true) :
    selectionFromPair (some selection.providerId) (some selection.modelId) = .ok (some selection) := by
  simp [selectionFromPair, ensure, valid]

theorem selectionFromPair_again {providerId modelId} (read : selectionFromPair providerId modelId = .ok selection) :
    selectionFromPair (selection.map ProviderSelection.providerId) (selection.map ProviderSelection.modelId) =
      .ok selection := by
  unfold selectionFromPair at read
  split at read
  next => cases read; rfl
  next =>
    simp only [eq_ok] at read
    obtain ⟨_, checked, rfl⟩ := read
    exact selectionFromPair_valid checked
  next => cases read
  next => cases read

theorem selectionFromPair_resolved {sessionId preference} (valid : preference.isValid = true)
    (resolved : resolvedProviderSelection s sessionId preference = .ok selection) :
    selectionFromPair (selection.map ProviderSelection.providerId) (selection.map ProviderSelection.modelId) =
      .ok selection := by
  cases preference with
  | automatic => cases resolved; rfl
  | exact chosen => cases resolved; exact selectionFromPair_valid valid
  | inheritSession =>
    simp only [resolvedProviderSelection] at resolved
    split at resolved
    next => exact selectionFromPair_again resolved
    next => cases resolved; rfl

def InputAdmissionCommit.entry (commit : InputAdmissionCommit) (sequence : Nat) : InboxEntry where
  sessionId := commit.sessionId
  sequence := sequence
  dedupeKey := commit.dedupeKey
  deliveryMode := commit.deliveryMode
  content := commit.content
  state := .pending
  promotedTurnId := none
  interruptRequestedAt := none

theorem accepted_admitted {receipt} (ok : admitInput commit s = .ok (.accepted receipt, s')) :
    ∃ selection acceptedAt, resolvedProviderSelection s commit.sessionId commit.providerSelection = .ok selection ∧
      Admitted commit.inboxEntryId (commit.entry receipt.inboxSequence) (commit.admission selection acceptedAt)
        receipt.timelineCursor commit.ownership s' ∧ 0 < receipt.inboxSequence ∧ 0 < receipt.timelineCursor ∧
      receipt =
        { sessionId := commit.sessionId, inboxEntryId := commit.inboxEntryId, inboxSequence := receipt.inboxSequence,
          deliveryMode := commit.deliveryMode, providerSelection := selection,
          providerSelectionSource := commit.providerSelection.source, eventId := commit.eventId,
          outboxId := commit.outboxId, correlationId := commit.correlationId, acceptedAt,
          timelineCursor := receipt.timelineCursor } := by
  have stepped : (JournalOperation.admitInput commit).exec s = .ok s' := map_eq_ok.mpr ⟨_, ok, rfl⟩
  have move := JournalOperation.conversation_move stepped
  obtain ⟨_, _, bad⟩ | ⟨acceptedAt, session, _, known, found, owned, accepted⟩ := admitInput_ok ok
  · cases bad
  obtain ⟨selection, _, _, _, _, resolved, unused, core, _, stamped, later, counted, same, rfl⟩ :=
    acceptInput_ok accepted
  cases same
  obtain ⟨_, found', _, stored⟩ := admitInput_accepts unused core
  rw [found] at found'
  cases found'
  obtain ⟨session', sessionFound, principal, channel⟩ := move.sessionsKept _ _ found
  refine ⟨selection, acceptedAt, resolved, ⟨⟨_, stored, ⟨rfl, rfl, rfl⟩, rfl, rfl⟩, Table.get_put_self .., stamped,
    ⟨session', sessionFound, ?_⟩, known⟩, counted, later, rfl⟩
  simpa only [Session.ownedBy, principal, channel] using owned

theorem positive_eq_ok {value field} (positive_ : 0 < value) : positive value field = .ok value := by
  simp only [positive, eq_ok]
  exact ⟨⟨⟩, positive_, trivial⟩

theorem intoReceipt_ok {stored : StoredAdmission} {sessionId : SessionId}
    (numbered : 0 < stored.entry.sequence) (stamped : 0 < stored.timelineCursor)
    (read : selectionFromPair stored.admission.selectedProviderId stored.admission.selectedModelId = .ok selection) :
    stored.intoReceipt sessionId = .ok
      { sessionId, inboxEntryId := stored.inboxEntryId, inboxSequence := stored.entry.sequence,
        deliveryMode := stored.entry.deliveryMode, providerSelection := selection,
        providerSelectionSource := stored.admission.providerSelectionSource,
        eventId := stored.admission.admissionEventId, outboxId := stored.admission.acknowledgementOutboxId,
        correlationId := stored.admission.correlationId, acceptedAt := stored.admission.acceptedAt,
        timelineCursor := stored.timelineCursor } := by
  rw [StoredAdmission.intoReceipt, positive_eq_ok numbered, ok_bind, read, ok_bind, positive_eq_ok stamped]
  rfl

theorem admitInput_stored {acceptedAt session stored} (timed : epochMilliseconds commit.acceptedAt = .ok acceptedAt)
    (known : activeIdentity s commit.ownership = true) (found : s.core.sessions.get commit.sessionId = some session)
    (owned : session.ownedBy commit.ownership = true)
    (row : loadAdmission s commit.sessionId commit.dedupeKey = some stored) :
    admitInput commit s =
      if stored.entry.deliveryMode = commit.deliveryMode ∧ stored.entry.content = commit.content ∧
          Admission.matchesPreference stored.admission commit.providerSelection = true
      then (stored.intoReceipt commit.sessionId).map fun receipt => (.duplicate receipt, s)
      else .error .idempotencyConflict := by
  simp only [admitInput, timed, ok_bind, ensure_holds known, found, require, ensure_holds owned, row]
  split
  next matches_ =>
    rw [ensure_holds matches_, ok_bind]
    cases stored.intoReceipt commit.sessionId <;> rfl
  next differs => rw [ensure_fails differs, error_bind]

def InputAdmissionCommit.Repeats (again commit : InputAdmissionCommit) : Prop :=
  again.deliveryMode = commit.deliveryMode ∧ again.content = commit.content ∧
    again.providerSelection = commit.providerSelection

theorem admitted_again {again : InputAdmissionCommit} {later : JournaledStore}
    {receipt : InputAdmissionReceipt} (valid : commit.providerSelection.isValid = true)
    (accepted : admitInput commit s = .ok (.accepted receipt, s')) (reaches : journalSystem.Later s' later)
    (inbox : InboxValid later.core) (sameSession : again.sessionId = commit.sessionId)
    (sameOwner : again.ownership = commit.ownership) (sameKey : again.dedupeKey = commit.dedupeKey)
    {acceptedAt : Millis} (timed : epochMilliseconds again.acceptedAt = .ok acceptedAt) :
    (again.Repeats commit → admitInput again later = .ok (.duplicate receipt, later)) ∧
    (¬ again.Repeats commit → admitInput again later = .error .idempotencyConflict) := by
  obtain ⟨selection, firstAt, resolved, admitted, counted, stamped, fields⟩ := accepted_admitted accepted
  have admitted := admitted.later reaches
  obtain ⟨stored, row, sequence, mode, content⟩ := loadAdmission_admitted inbox admitted
  obtain ⟨session, found, owned⟩ := admitted.owned
  have sent : loadAdmission later again.sessionId again.dedupeKey =
      some ⟨commit.inboxEntryId, stored, commit.admission selection firstAt, receipt.timelineCursor⟩ := by
    rw [sameSession, sameKey]
    exact row
  have session_found : later.core.sessions.get again.sessionId = some session := by rw [sameSession]; exact found
  rw [← sameOwner] at owned
  rw [admitInput_stored timed (sameOwner ▸ admitted.known) session_found owned sent]
  have matches_iff : (stored.deliveryMode = again.deliveryMode ∧ stored.content = again.content ∧
      Admission.matchesPreference (commit.admission selection firstAt) again.providerSelection = true) ↔
      again.Repeats commit := by
    rw [matchesPreference_iff resolved, mode, content]
    exact and_congr eq_comm (and_congr eq_comm eq_comm)
  constructor
  · intro repeats
    rw [if_pos (matches_iff.mpr repeats)]
    have numbered : 0 < stored.sequence := by rw [sequence]; exact counted
    rw [intoReceipt_ok numbered stamped (selectionFromPair_resolved valid resolved), fields, sameSession]
    simp only [Except.map, mode, sequence]
    rfl
  · intro differs
    rw [if_neg (matches_iff.not.mpr differs)]

end SessionPort

/-! ### The inbox in every run -/

/-- An exact preference that is admitted names a valid selection. -/
def JournalOperation.SelectsValidly (op : JournalOperation) : Prop :=
  match op with
  | admitInput commit => commit.providerSelection.isValid = true
  | _ => True

instance (op : JournalOperation) : Decidable op.SelectsValidly := by
  unfold JournalOperation.SelectsValidly
  split <;> infer_instance

/-- States of the runs that admit only valid preferences. -/
abbrev JournaledStore.ValidlyReachable (s : JournaledStore) : Prop :=
  journalSystem.ReachableIf (fun op _ => op.SelectsValidly) s

structure DurableInbox (s : JournaledStore) : Prop where
  /-- The numbers of the entries are those that the counter has given out, -/
  numbered : ∀ sessionId session, s.core.sessions.get sessionId = some session → ∀ n,
    (∃ entryId entry, s.core.inbox.get entryId = some entry ∧ entry.sessionId = sessionId ∧ entry.sequence = n) ↔
      1 ≤ n ∧ n < session.nextInboxSequence
  /-- each to one entry, -/
  distinct : ∀ firstId secondId first second, s.core.inbox.get firstId = some first →
    s.core.inbox.get secondId = some second → first.sessionId = second.sessionId →
    first.sequence = second.sequence → firstId = secondId
  /-- and a key belongs to one entry. -/
  keyed : ∀ firstId secondId first second, s.core.inbox.get firstId = some first →
    s.core.inbox.get secondId = some second → first.sessionId = second.sessionId →
    first.dedupeKey = second.dedupeKey → firstId = secondId
  /-- A key that was accepted before is answered with its receipt or a conflict. -/
  repeated : ∀ before after commit receipt, before.ValidlyReachable →
    (JournalOperation.admitInput commit).SelectsValidly →
    SessionPort.admitInput commit before = .ok (.accepted receipt, after) → journalSystem.Later after s →
    ∀ again : SessionPort.InputAdmissionCommit, again.sessionId = commit.sessionId →
      again.ownership = commit.ownership → again.dedupeKey = commit.dedupeKey →
      (∃ acceptedAt, SessionPort.epochMilliseconds again.acceptedAt = .ok acceptedAt) →
      (again.Repeats commit → SessionPort.admitInput again s = .ok (.duplicate receipt, s)) ∧
      (¬ again.Repeats commit → SessionPort.admitInput again s = .error .idempotencyConflict ∧
        ((JournalOperation.admitInput again).perform s).2 = s)
  /-- A canonical turn starts from a waiting entry behind those of the earlier turns, -/
  ordered : ∀ op s', JournalOperation.exec op s = .ok s' → ∀ turnId turn, s.core.turns.get turnId = none →
    s'.core.turns.get turnId = some turn → turn.kind = .canonical →
    ∃ entry, s.core.inbox.get turn.inboxEntryId = some entry ∧ entry.sessionId = turn.sessionId ∧
      entry.state = .pending ∧ ∀ earlierId earlier, s.core.turns.get earlierId = some earlier →
        earlier.sessionId = turn.sessionId → earlier.kind = .canonical →
        ∃ consumed, s.core.inbox.get earlier.inboxEntryId = some consumed ∧ consumed.sequence < entry.sequence
  /-- an entry starts one turn, -/
  once : ∀ firstId secondId first second, s.core.turns.get firstId = some first →
    s.core.turns.get secondId = some second → first.inboxEntryId = second.inboxEntryId → firstId = secondId
  /-- and a session names its active canonical turn exactly when there is one. -/
  active : ∀ sessionId session turnId, s.core.sessions.get sessionId = some session →
    (session.activeTurnId = some turnId ↔ ∃ turn, s.core.turns.get turnId = some turn ∧
      turn.sessionId = sessionId ∧ turn.kind = .canonical ∧ turn.status = .active)

theorem turn_order (reached : s.Reachable) : TurnOrder s.core := by
  have start : TurnOrder journalSystem.initial.core := by
    constructor <;> simp [journalSystem]
  have kept (op : JournalOperation) (s s' : JournaledStore) (inbox : InboxValid s.core) (order : TurnOrder s.core)
      (_ : True) (step : journalSystem.exec op s = .ok s') : TurnOrder s'.core :=
    order.step inbox (JournalOperation.conversation_move step)
  exact System.ReachableIf.invariant_with (fun _ => inbox_valid) start kept reached

/-- In every run whose admitted preferences are valid the inbox is durable. -/
theorem durable_inbox {s : JournaledStore} (reached : s.ValidlyReachable) : DurableInbox s := by
  have inbox := inbox_valid reached.reachable
  have order := turn_order reached.reachable
  refine ⟨fun sessionId session found n => ⟨?_, ?_⟩, inbox.distinct, inbox.keyed, ?_, ?_, order.single, order.active⟩
  · rintro ⟨entryId, entry, stored, rfl, rfl⟩
    obtain ⟨session', found', positive, below⟩ := inbox.numbered entryId entry stored
    rw [found] at found'
    cases found'
    exact ⟨positive, below⟩
  · rintro ⟨positive, below⟩
    exact inbox.complete sessionId session n found positive below
  · intro before after commit receipt _ valid accepted later again sameSession sameOwner sameKey timed
    obtain ⟨acceptedAt, timed⟩ := timed
    obtain ⟨same, differs⟩ :=
      SessionPort.admitted_again valid accepted later inbox sameSession sameOwner sameKey timed
    refine ⟨same, fun other => ⟨differs other, ?_⟩⟩
    simp only [JournalOperation.perform, JournalOperation.exec, differs other, Except.map]
  · intro op s' step turnId turn absent found canonical
    exact (JournalOperation.conversation_move step).starts order absent found canonical

theorem durable_inbox_promoted :
    ∃ s : JournaledStore, s.ValidlyReachable ∧ (s.core.turns.get ⟨0⟩).isSome ∧ DurableInbox s := by
  obtain ⟨s, reached, carried⟩ : ∃ s : JournaledStore, s.ValidlyReachable ∧ (s.core.turns.get ⟨0⟩).isSome = true :=
    System.exists_reachableIf promotedInput (by decide +kernel)
  exact ⟨s, reached, carried, durable_inbox reached⟩

def blankSelection : SessionPort.InputAdmissionCommit :=
  ⟨⟨⟨0⟩, ⟨⟨0⟩, ⟨0⟩⟩, ⟨0⟩, "first", .queue, "hello", 10⟩, .exact ⟨" local", "model"⟩, ⟨1⟩, ⟨0⟩, ⟨0⟩, 0⟩

/-- The answer to a second delivery, once the first was accepted. -/
def secondAnswer (commit : SessionPort.InputAdmissionCommit) (s : JournaledStore) :
    Option (Except StoreError SessionPort.InputAdmissionOutcome) :=
  match SessionPort.admitInput commit s with
  | .ok (.accepted _, s') => some ((SessionPort.admitInput commit s').map Prod.fst)
  | _ => none

/-- The store accepts an exact selection that it does not validate, and then cannot read
the receipt back: the same delivery fails instead of returning it. -/
theorem invalid_selection_is_not_repeated :
    ∃ (s s' : JournaledStore) (receipt : SessionPort.InputAdmissionReceipt), s.Reachable ∧
      SessionPort.admitInput blankSelection s = .ok (.accepted receipt, s') ∧
      SessionPort.admitInput blankSelection s' =
        .error (.invariantViolation "stored provider selection is invalid") := by
  obtain ⟨s, reached, answer⟩ : ∃ s : JournaledStore, s.Reachable ∧ secondAnswer blankSelection s =
      some (.error (.invariantViolation "stored provider selection is invalid")) :=
    System.exists_reachableIf (promotedInput.take 1) (by decide +kernel)
  unfold secondAnswer at answer
  split at answer
  next receipt s' accepted =>
    refine ⟨s, s', receipt, reached, accepted, ?_⟩
    cases again : SessionPort.admitInput blankSelection s' with
    | error e => simpa [again, Except.map] using answer
    | ok _ => simp [again, Except.map] at answer
  next => cases answer

end Mealy
