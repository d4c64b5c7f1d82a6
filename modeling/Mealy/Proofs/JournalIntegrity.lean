import Mealy.Proofs.Conversation
import Mealy.Store.JournalSystem

/-! The journal over whole runs. Every operation appends some events to a valid log and
so leaves a valid log; the only reply that is built after journal events are ok
reads the number of an inbox entry, and no entry is numbered zero. -/

namespace Mealy
open Relational Transaction EventLog

variable {s s' : JournaledStore} {op : JournalOperation}

/-! ### One operation -/

theorem journaledBatch_ok {commit reserved delivery leases index}
    (ok : journaledBatch commit reserved delivery leases index s = .ok s') :
    SameTurns s.core s'.core ∧ s'.admissions = s.admissions ∧ s'.principals = s.principals ∧
      s'.bindings = s.bindings ∧ ∃ entries, s.journal.appendAll maximumI64 entries = .ok s'.journal := by
  induction leases generalizing index s with
  | nil => cases ok; exact ⟨.refl _, rfl, rfl, rfl, [], rfl⟩
  | cons leaseId rest ih =>
    obtain ⟨recovered, first, others⟩ := bind_eq_ok.mp ok
    obtain ⟨_, _, _, _, stepped, admitted, recorded, rfl⟩ := journaled_ok first
    obtain ⟨⟨sessions, turns, delegations, inputs, inbox⟩, admissions, principals, bindings, entries, appended⟩ :=
      ih others
    cases admitted
    obtain ⟨_, core⟩ := Operation.frame (daemon_ok stepped).1
    simp only [JournaledStore.core, core] at sessions turns delegations inputs inbox
    exact ⟨⟨sessions, turns, delegations, inputs, inbox⟩, admissions, principals, bindings, _,
      Log.appendAll_append recorded appended⟩

theorem journal_appends (ok : op.exec s = .ok s') :
    ∃ entries, s.journal.appendAll maximumI64 entries = .ok s'.journal := by
  cases op with
  | createSession commit =>
    obtain ⟨_, _, _, _, recorded, rfl⟩ := SessionPort.createSession_ok ok
    exact ⟨_, recorded⟩
  | admitInput commit =>
    obtain rfl | ⟨_, _, _, _, _, _, _, _, recorded, _, rfl⟩ := JournalOperation.admitInput_ok ok
    · exact ⟨[], rfl⟩
    · exact ⟨_, recorded⟩
  | store op _ reserved delivery =>
    obtain ⟨_, _, _, _, _, _, recorded, rfl⟩ := journaled_ok ok
    exact ⟨_, recorded⟩
  | recoverStartupBatch commit reserved delivery => exact (journaledBatch_ok ok).2.2.2.2
  | recordModelProgress commit =>
    obtain ⟨_, _, recorded, rfl⟩ := recordModelProgress_ok ok
    exact ⟨_, recorded⟩

theorem JournalOperation.conversation_move (ok : op.exec s = .ok s') : ConversationMove s.core s'.core := by
  cases op with
  | createSession commit =>
    obtain ⟨_, _, _, created, _, rfl⟩ := SessionPort.createSession_ok ok
    exact createSession_conversation created
  | admitInput commit =>
    obtain rfl | ⟨_, _, _, _, _, _, _, core, _, _, rfl⟩ := JournalOperation.admitInput_ok ok
    · exact .same rfl rfl rfl
    · exact admitInput_conversation core
  | store op _ reserved delivery =>
    obtain ⟨_, _, _, _, stepped, _, _, rfl⟩ := journaled_ok ok
    exact DelegationOperation.conversation_move stepped
  | recoverStartupBatch commit reserved delivery =>
    have same := (journaledBatch_ok ok).1
    exact .same same.inbox same.turns same.sessions
  | recordModelProgress commit =>
    obtain ⟨_, _, _, rfl⟩ := recordModelProgress_ok ok
    exact .same rfl rfl rfl

/-! ### Whole runs -/

theorem journal_valid (reached : s.Reachable) : s.journal.Valid := by
  have start : journalSystem.initial.journal.Valid := Log.Valid.empty
  have kept (op : JournalOperation) (s s' : JournaledStore) (valid : s.journal.Valid) (_ : True)
      (step : journalSystem.exec op s = .ok s') : s'.journal.Valid := by
    obtain ⟨_, appended⟩ := journal_appends step
    exact valid.appendAll appended
  exact reached.invariant start kept

theorem JournalOperation.inbox_step {op s s'}
    (step : journalSystem.exec op s = .ok s') (valid : InboxValid s.core) : InboxValid s'.core :=
  valid.step (JournalOperation.conversation_move step)

theorem inbox_valid {s : JournaledStore} (reached : s.Reachable) : InboxValid s.core := by
  have start : InboxValid journalSystem.initial.core := by
    constructor <;> simp [journalSystem]
  have kept (op : JournalOperation) (s s' : JournaledStore) (valid : InboxValid s.core) (_ : True)
      (step : journalSystem.exec op s = .ok s') : InboxValid s'.core :=
    JournalOperation.inbox_step step valid
  exact reached.invariant start kept

theorem JournalOperation.entries_kept
    (stepped : journalSystem.exec op s = .ok s') (entryId) (entry) (found : s.core.inbox.get entryId = some entry) :
    ∃ entry', s'.core.inbox.get entryId = some entry' ∧ entry'.sessionId = entry.sessionId ∧
      entry'.dedupeKey = entry.dedupeKey := by
  obtain ⟨entry', found', ⟨session, _, key⟩, _⟩ := (JournalOperation.conversation_move stepped).entry_kept found
  exact ⟨entry', found', session, key⟩

theorem failed_reply (valid : InboxValid s.core)
    (ok : op.exec s = .ok s') {error} (failed : op.reply s s' = .error error) :
    s'.journal = s.journal := by
  unfold JournalOperation.reply at failed
  split at failed
  next commit _ _ _ _ =>
    obtain ⟨_, _, _, _, _, _, recorded, rfl⟩ := journaled_ok ok
    exact (Except.ok.inj recorded).symm
  next commit _ _ _ _ =>
    split at failed
    next entryId entry head _ =>
      obtain ⟨_, _, positive, _⟩ := valid.numbered entryId entry (Store.loadPendingHead_some head).1
      have accepted : SessionPort.positive entry.sequence "inbox sequence" = .ok entry.sequence := by
        simp only [SessionPort.positive, eq_ok]
        exact ⟨⟨⟩, positive, trivial⟩
      rw [accepted] at failed
      cases failed
    next => cases failed
  next => cases failed

/-- In every run the events of an aggregate carry the numbers from zero to its counter
without gap or repeat, and every event has one row of the timeline, whose cursor is
larger than those of all events before it. An operation that returns an error leaves
journal, timeline and counters as they were. -/
theorem journal_integrity {s : JournaledStore} (reached : s.Reachable) :
    (∀ aggregate, (s.journal.counters.get aggregate = none → s.journal.sequencesOf aggregate = []) ∧
      ∀ n, s.journal.counters.get aggregate = some n → s.journal.sequencesOf aggregate = List.range (n + 1)) ∧
    (∀ before event after, s.journal.events = before ++ event :: after →
      ∃ row, s.journal.timeline.filter (fun other => other.eventId = event.eventId) = [row] ∧
        ∀ earlier ∈ before, ∀ other ∈ s.journal.timeline, other.eventId = earlier.eventId →
          other.cursor < row.cursor) ∧
    ∀ op error, (JournalOperation.perform op s).1 = .error error →
      (JournalOperation.perform op s).2.journal = s.journal := by
  have valid := journal_valid reached
  refine ⟨valid.sequences, fun _ _ _ split => valid.stamp split, fun op error failed => ?_⟩
  unfold JournalOperation.perform at failed ⊢
  split at failed
  next s' committed => exact failed_reply (inbox_valid reached) committed failed
  next => rfl

def samplePromotionIds : Reserved where
  event := fun field => match field with
    | .promotion => ⟨2⟩
    | .task => ⟨3⟩
    | _ => ⟨4⟩
  messageId := ⟨0⟩
  contextEpochId := none
  contextManifestId := ⟨0⟩
  artifactId := none

def promotedInput : List JournalOperation :=
  [.createSession ⟨⟨⟨0⟩, ⟨⟨0⟩, ⟨0⟩⟩⟩, none, ⟨0⟩, 0⟩,
   .admitInput ⟨⟨⟨0⟩, ⟨⟨0⟩, ⟨0⟩⟩, ⟨0⟩, "first", .queue, "hello", 10⟩, .inheritSession, ⟨1⟩, ⟨0⟩, ⟨0⟩, 0⟩,
   .store (.promote ⟨⟨0⟩, ⟨⟨0⟩, ⟨0⟩⟩, ⟨0⟩, ⟨0⟩, ⟨0⟩, .named "assistant", false, 10⟩ {}) rfl samplePromotionIds ⟨⟨1⟩, ⟨2⟩⟩]

theorem journal_integrity_promoted :
    ∃ s : JournaledStore, s.Reachable ∧ s.journal.events.length = 5 ∧
      s.journal.sequencesOf (.session ⟨0⟩) = [0, 1, 2] := by
  obtain ⟨s, reached, count, counter⟩ : ∃ s : JournaledStore, s.Reachable ∧ s.journal.events.length = 5 ∧
      s.journal.counters.get (.session ⟨0⟩) = some 2 :=
    System.exists_reachableIf promotedInput (by decide +kernel)
  exact ⟨s, reached, count, ((journal_integrity reached).1 _).2 2 counter⟩

end Mealy
