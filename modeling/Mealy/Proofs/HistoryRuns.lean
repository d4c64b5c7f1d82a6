import Mealy.Context.History
import Mealy.Proofs.DurableInbox
import Mealy.Proofs.LoopMoves

/-! Runs of the store that contexts are compiled from. Its core takes steps of the canonical
store, its journal only grows, and the rows beside them stay as they were written. -/

namespace Mealy.Memories
open Relational Transaction EventLog

/-! ### The events of a memory -/

def Records (memoryId : MemoryId) (s s' : MemoryStore) : Prop :=
  ∃ entries : List JournalEntry, (∀ entry ∈ entries, entry.aggregate = .memory memoryId) ∧
    s.journal.appendAll maximumI64 entries = .ok s'.journal

section
variable {memoryId : MemoryId} {s s' s'' : MemoryStore}

theorem Records.of_journal (same : s'.journal = s.journal) : Records memoryId s s' :=
  ⟨[], by simp, by rw [same]; rfl⟩

theorem Records.trans (first : Records memoryId s s') (last : Records memoryId s' s'') : Records memoryId s s'' := by
  obtain ⟨before, own, appended⟩ := first
  obtain ⟨after, own', appended'⟩ := last
  refine ⟨before ++ after, fun entry member => ?_, Log.appendAll_append appended appended'⟩
  rcases List.mem_append.mp member with earlier | later
  · exact own entry earlier
  · exact own' entry later

theorem appendMemoryEvent_records {eventId eventType}
    (appended : appendMemoryEvent eventId memoryId eventType s = .ok s') : Records memoryId s s' := by
  unfold appendMemoryEvent at appended
  split at appended
  next journal recorded =>
    cases appended
    exact ⟨_, by simp [appendNext], recorded⟩
  all_goals cases appended

theorem insertRevision_records {revisionId revision}
    (inserted : s.insertRevision revisionId revision = .ok s') : Records memoryId s s' := by
  simp only [MemoryStore.insertRevision, eq_ok] at inserted
  obtain ⟨_, _, _, _, _, _, _, _, rfl⟩ := inserted
  exact .of_journal rfl

theorem insertSources_records {revisionId sources}
    (inserted : s.insertSources revisionId sources = .ok s') : Records memoryId s s' := by
  simp only [MemoryStore.insertSources, eq_ok] at inserted
  obtain ⟨_, _, rfl⟩ := inserted
  exact .of_journal rfl

theorem updateRevisions_records {selects status eventId occurredAt changed}
    (updated : s.updateRevisions selects status eventId occurredAt = .ok (changed, s')) : Records memoryId s s' := by
  simp only [MemoryStore.updateRevisions, eq_ok, Prod.mk.injEq] at updated
  obtain ⟨_, _, _, _, _, rfl⟩ := updated
  exact .of_journal rfl

theorem updateRevision_records {revisionId ofMemory before status eventId occurredAt}
    (updated : s.updateRevision revisionId ofMemory before status eventId occurredAt = .ok s') : Records memoryId s s' := by
  simp only [MemoryStore.updateRevision, eq_ok] at updated
  obtain ⟨⟨changed, _⟩, updated, _, _, rfl⟩ := updated
  exact updateRevisions_records updated

theorem updateMemory_records {ofMemory selects change}
    (updated : s.updateMemory ofMemory selects change = .ok s') : Records memoryId s s' := by
  simp only [MemoryStore.updateMemory, eq_ok] at updated
  obtain ⟨_, _, _, _, rfl⟩ := updated
  exact .of_journal rfl

theorem recordOptionalAuthorization_records {ownership revisionId subjectDigest authorizedAt authorization eventId}
    (recorded : recordOptionalAuthorization ownership memoryId revisionId subjectDigest authorizedAt s authorization
      eventId = .ok s') : Records memoryId s s' := by
  unfold recordOptionalAuthorization at recorded
  split at recorded
  next =>
    simp only [MemoryStore.recordAuthorization, eq_ok] at recorded
    obtain ⟨_, _, _, appended, _, _, rfl⟩ := recorded
    exact (appendMemoryEvent_records appended).trans (.of_journal rfl)
  next =>
    cases recorded
    exact .of_journal rfl

theorem MemoryOperation.records {hash : DigestFunction} {op : MemoryOperation} (port : ∀ entries, op ≠ .journal entries)
    (ok : op.exec hash s = .ok s') : ∃ memoryId, Records memoryId s s' ∧ ∀ id ∈ op.memoryId, id = memoryId := by
  cases op with
  | propose authorities commit =>
    simp only [MemoryOperation.exec, proposeMemory, eq_ok] at ok
    obtain ⟨_, _, _, _, _, _, _, _, _, appended, _, _, _, inserted, sourced⟩ := ok
    refine ⟨commit.memoryId, ?_, by simp [MemoryOperation.memoryId]⟩
    have inserted : Records commit.memoryId _ _ := insertRevision_records inserted
    exact ((appendMemoryEvent_records appended).trans (.trans (.of_journal rfl) inserted)).trans
      (insertSources_records sourced)
  | promote authorities commit =>
    simp only [MemoryOperation.exec, promoteMemory, eq_ok] at ok
    obtain ⟨_, _, _, _, ⟨owner, revision⟩, _, _, _, _, _, _, authorized, _, appended, _, updated, ended⟩ := ok
    refine ⟨commit.memoryId, ?_, by simp [MemoryOperation.memoryId]⟩
    exact (((recordOptionalAuthorization_records authorized).trans (appendMemoryEvent_records appended)).trans
      (updateRevision_records updated)).trans (updateMemory_records ended)
  | correct authorities commit =>
    simp only [MemoryOperation.exec, correctMemory, eq_ok] at ok
    obtain ⟨_, _, _, _, _, _, ⟨owner, currentId, current⟩, _, _, _, _, appended, _, _, _, inserted, _, sourced, _,
      authorized, _, corrected, _, superseded, _, activated, ended⟩ := ok
    refine ⟨commit.memoryId, ?_, by simp [MemoryOperation.memoryId]⟩
    have proposed := ((appendMemoryEvent_records appended).trans (insertRevision_records inserted)).trans
      (insertSources_records sourced)
    have recorded := (proposed.trans (recordOptionalAuthorization_records authorized)).trans
      (appendMemoryEvent_records corrected)
    exact ((recorded.trans (updateRevision_records superseded)).trans (updateRevision_records activated)).trans
      (updateMemory_records ended)
  | setPin authorities commit =>
    simp only [MemoryOperation.exec, setMemoryPin, bind_eq_ok] at ok
    obtain ⟨_, _, _, _, _, appended, ended⟩ := ok
    exact ⟨commit.memoryId, (appendMemoryEvent_records appended).trans (updateMemory_records ended),
      by simp [MemoryOperation.memoryId]⟩
  | expire authorities commit =>
    refine ⟨commit.memoryId, ?_, by simp [MemoryOperation.memoryId]⟩
    simp only [MemoryOperation.exec, expireMemory, transitionOutOfRetrieval, eq_ok] at ok
    obtain ⟨_, _, _, _, _, _, _, _, _, appended, ⟨changed, _⟩, updated, _, _, ended⟩ := ok
    exact ((appendMemoryEvent_records appended).trans (updateRevisions_records updated)).trans (updateMemory_records ended)
  | reject authorities commit =>
    simp only [MemoryOperation.exec, rejectMemory, eq_ok] at ok
    obtain ⟨_, _, _, _, _, _, _, _, ⟨revisionId, _⟩, _, _, appended, _, updated, ended⟩ := ok
    refine ⟨commit.memoryId, ?_, by simp [MemoryOperation.memoryId]⟩
    exact ((appendMemoryEvent_records appended).trans (updateRevision_records updated)).trans (updateMemory_records ended)
  | delete authorities commit =>
    refine ⟨commit.memoryId, ?_, by simp [MemoryOperation.memoryId]⟩
    simp only [MemoryOperation.exec, deleteMemory, transitionOutOfRetrieval, eq_ok] at ok
    obtain ⟨_, _, _, _, _, _, _, _, _, appended, ⟨changed, _⟩, updated, _, _, ended⟩ := ok
    exact ((appendMemoryEvent_records appended).trans (updateRevisions_records updated)).trans (updateMemory_records ended)
  | rebuildIndex authorities ownership rebuiltAt =>
    simp only [MemoryOperation.exec, rebuildMemoryIndex, eq_ok] at ok
    obtain ⟨_, _, _, _, rfl⟩ := ok
    exact ⟨⟨0⟩, .of_journal rfl, by simp [MemoryOperation.memoryId]⟩
  | journal entries => exact absurd rfl (port entries)

end
end Mealy.Memories

namespace Mealy
open Relational Transaction EventLog

/-! ### The canonical store -/

theorem journaledBatch_later {commit reserved delivery leases index s s'}
    (ok : journaledBatch commit reserved delivery leases index s = .ok s') : storeSystem.Later s.core s'.core := by
  induction leases generalizing index s with
  | nil => cases ok; exact .refl
  | cons leaseId rest ih =>
    obtain ⟨recovered, first, others⟩ := bind_eq_ok.mp ok
    obtain ⟨_, _, _, _, stepped, _, _, rfl⟩ := journaled_ok first
    exact .head ⟨.recoverLease _, Operation.exec_eq_ok.mpr ⟨trivial, (daemon_ok stepped).1⟩⟩ (ih others)

theorem JournalOperation.core_later {op : JournalOperation} {s s' : JournaledStore} (issued : op.Issued s)
    (ok : op.exec s = .ok s') : storeSystem.Later s.core s'.core := by
  have one (step : Operation) (issued : step.Issued s.core) (stepped : step.transaction s.core = .ok s'.core) :
      storeSystem.Later s.core s'.core := .single ⟨step, Operation.exec_eq_ok.mpr ⟨issued, stepped⟩⟩
  cases op with
  | createSession commit =>
    obtain ⟨_, _, _, created, _, rfl⟩ := SessionPort.createSession_ok ok
    exact one (.createSession commit.toSessionCreationCommit) trivial created
  | admitInput commit =>
    obtain rfl | ⟨_, _, _, _, _, _, _, core, _, _, rfl⟩ := JournalOperation.admitInput_ok ok
    · exact .refl
    · exact one (.admitInput commit.toInputAdmissionCommit) trivial core
  | store op _ reserved delivery =>
    obtain ⟨_, _, _, _, stepped, _, _, rfl⟩ := journaled_ok ok
    cases op with
    | daemon op _ => exact one op issued (daemon_ok stepped).1
    | promote commit _ => exact one (.promoteNext commit) issued (promote_ok stepped).1
    | launch commit _ _ => exact one (.launchAgentDelegation commit) trivial (launch_ok stepped).1
    | prepareDelegation _ | startDelegation _ | acquireResourceClaim _ | recordDelegationResult _ => exact issued.elim
  | recoverStartupBatch commit reserved delivery => exact journaledBatch_later ok
  | recordModelProgress commit =>
    obtain ⟨_, _, _, rfl⟩ := recordModelProgress_ok ok
    exact .refl

/-! ### Finished runs -/

def Store.Answered (s : Store) (runId : RunId) (taskId : TaskId) : Prop :=
  (∃ run, s.runs.get runId = some run ∧ run.taskId = taskId ∧ run.status = .succeeded) ∧
    ∃ state, s.loops.get runId = some state

theorem Store.Answered.step {op : Operation} {s s' : Store} {runId : RunId} {taskId : TaskId}
    (answered : s.Answered runId taskId) (reached : s.Reachable) (stepped : op.exec s = .ok s') :
    s'.Answered runId taskId := by
  obtain ⟨⟨run, found, ofTask, succeeded⟩, state, position⟩ := answered
  obtain ⟨paired, turns, linked⟩ := workGraph reached
  refine ⟨?_, loops_kept stepped _ _ position⟩
  obtain ⟨task, taskFound, _⟩ := paired.task runId run found
  obtain ⟨run', _, found', _, edge⟩ := run_steps paired turns linked (Operation.exec_eq_ok.mp stepped).2 runId run task
    found taskFound
  have same := edge.terminal (by rw [succeeded]; rfl)
  exact ⟨run', found', by rw [same, ofTask], by rw [same, succeeded]⟩

theorem Store.Answered.later {s s' : Store} {runId : RunId} {taskId : TaskId} (answered : s.Answered runId taskId)
    (reached : s.Reachable) (later : storeSystem.Later s s') : s'.Answered runId taskId := by
  induction later with
  | refl => exact answered
  | tail before step ih =>
    obtain ⟨op, stepped⟩ := step
    exact ih.step (System.Reachable.later reached before) stepped

theorem Store.Answered.task {s : Store} {runId : RunId} {taskId : TaskId} (answered : s.Answered runId taskId)
    (reached : s.Reachable) : ∃ task, s.tasks.get taskId = some task ∧ task.status = .succeeded := by
  obtain ⟨⟨run, found, ofTask, succeeded⟩, _⟩ := answered
  obtain ⟨task, taskFound, fits, _⟩ := (workGraph reached).paired.task runId run found
  refine ⟨task, ofTask ▸ taskFound, ?_⟩
  rw [succeeded] at fits
  cases status : task.status <;> simp_all [RunStatus.pairs]

theorem completeRun_answers {commit s s'} (reached : s.Reachable)
    (ok : completeRun commit s = .ok s') {final} (present : commit.finalMessage = some final)
    {turnId turn} (carried : s.turnOfRun commit.fence.runId = some (turnId, turn)) :
    s'.Answered commit.fence.runId turn.taskId := by
  obtain ⟨paired, turns, linked⟩ := workGraph reached
  have stepped : (Operation.completeRun commit).exec s = .ok s' := Operation.exec_eq_ok.mpr ⟨trivial, ok⟩
  obtain ⟨owner, _, _, _, loaded, _, _, _⟩ := completeRun_ok ok
  obtain ⟨_, running, _, _, _, carried', _, ofTask, _⟩ := Store.loadFencedOwner_ok.mp (Store.loadCompletion_ok loaded).1
  rw [carried] at carried'
  cases carried'
  obtain ⟨found, _⟩ := Store.runningUnder_eq_some.mp running
  obtain ⟨task, taskFound, _⟩ := paired.task _ _ found
  simp only [completeRun, present, eq_ok] at ok
  obtain ⟨_, _, _, _, _, succeeded, _, inserted, _⟩ := ok
  obtain ⟨state, position, _⟩ := insertFinalMessage_ok inserted
  refine ⟨?_, loops_kept stepped _ _ position⟩
  obtain ⟨run', _, found', _, edge⟩ := run_steps paired turns linked (Operation.exec_eq_ok.mp stepped).2 _ _ task found
    taskFound
  obtain ⟨_, same, ended⟩ := completeRun_finishes linked (Operation.exec_eq_ok.mp stepped).2
  rw [found'] at same
  cases same
  exact ⟨run', found', edge.identity.1.trans ofTask.symm, by rw [ended, succeeded]; rfl⟩

/-! ### Completed turns -/

theorem completed_origin {op : Operation} {s s' : Store} (ok : op.transaction s = .ok s') {turnId : TurnId}
    {turn' : Turn} (stored : s'.turns.get turnId = some turn') (completed : turn'.status = .completed) :
    s.turns.get turnId = some turn' ∨ ∃ commit turn, op = .completeRun commit ∧ commit.status = .succeeded ∧
      s.turnOfRun commit.fence.runId = some (turnId, turn) ∧ turn' = { turn with status := .completed } := by
  have same (turns : s'.turns = s.turns) : s.turns.get turnId = some turn' := by rw [← turns, stored]
  have other {newId : TurnId} {turn : Turn} (turns : s'.turns = s.turns.put newId turn) (open_ : turn.status ≠ .completed) :
      s.turns.get turnId = some turn' := by
    rw [turns, Table.get_put] at stored
    split at stored
    next =>
      cases stored
      exact absurd completed open_
    next => exact stored
  cases op with
  | promoteNext commit =>
    obtain rfl | ⟨session, entryId, entry, found, head, ⟨idle, inserted⟩ | ⟨activeId, active, busy, loaded,
      steered | ⟨_, _, interrupted⟩⟩⟩ := promoteNext_ok ok
    · exact .inl (same rfl)
    · obtain ⟨_, _, _, _, rfl⟩ := insertWorkGraph_ok inserted
      exact .inl (other rfl (by simp))
    · obtain ⟨_, rfl⟩ := steerActive_ok steered
      exact .inl (same rfl)
    · obtain ⟨_, ⟨_, _, rfl⟩ | ⟨_, _, _, rfl⟩⟩ := interruptActive_ok interrupted
      · exact .inl (other rfl (by simp))
      · exact .inl (same rfl)
  | completeRun commit =>
    obtain ⟨owner, task, settled, finished, loaded, settles, finishes, delivers⟩ := completeRun_ok ok
    obtain ⟨_, _, _, _, _, carried, _⟩ := Store.loadFencedOwner_ok.mp (Store.loadCompletion_ok loaded).1
    have turns : s'.turns = s.turns.put owner.turnId { owner.turn with status := commit.status.turnStatus } := by
      obtain ⟨_, rfl⟩ := settles.writes
      obtain ⟨_, _, _, _, rfl⟩ := finishRun_ok finishes
      rcases delivers with ⟨_, delivered⟩ | ⟨_, rfl⟩
      · obtain ⟨_, rfl⟩ := settleDelegatedChild_writes delivered
        rfl
      · rfl
    rw [turns, Table.get_put] at stored
    split at stored
    next here =>
      cases stored
      subst here
      have succeeded : commit.status = .succeeded := by
        cases status : commit.status with
        | succeeded => rfl
        | _ => simp [status, RunCompletionStatus.turnStatus] at completed
      exact .inr ⟨commit, owner.turn, rfl, succeeded, carried, by rw [succeeded]; rfl⟩
    next => exact .inl stored
  | launchAgentDelegation commit =>
    obtain ⟨_, _, _, _, _, _, _, _, _, _, _, _, _, _, _, _, rfl⟩ := launchAgentDelegation_ok ok
    exact .inl (other rfl (by simp [LaunchAgentDelegationCommit.childTurn]))
  | _ =>
    obtain ⟨_, rfl⟩ := Operation.frame ok
    exact .inl (same rfl)

theorem JournalOperation.completed_before {op : JournalOperation} {s s' : JournaledStore} (issued : op.Issued s)
    (other : op.isContextual = false) (ok : op.exec s = .ok s') {turnId : TurnId} {turn : Turn}
    (stored : s'.core.turns.get turnId = some turn) (completed : turn.status = .completed) :
    s.core.turns.get turnId = some turn := by
  have before {step : Operation} (different : ∀ commit, step ≠ .completeRun commit)
      (stepped : step.transaction s.core = .ok s'.core) : s.core.turns.get turnId = some turn := by
    obtain same | ⟨commit, _, same, _⟩ := completed_origin stepped stored completed
    · exact same
    · exact absurd same (different commit)
  cases op with
  | createSession commit =>
    obtain ⟨_, _, _, created, _, rfl⟩ := SessionPort.createSession_ok ok
    exact before (by simp) (show (Operation.createSession _).transaction _ = _ from created)
  | admitInput commit =>
    obtain rfl | ⟨_, _, _, _, _, _, _, core, _, _, rfl⟩ := JournalOperation.admitInput_ok ok
    · exact stored
    · exact before (by simp) (show (Operation.admitInput _).transaction _ = _ from core)
  | store op _ reserved delivery =>
    obtain ⟨_, _, _, _, stepped, _, _, rfl⟩ := journaled_ok ok
    cases op with
    | daemon op _ =>
      refine before ?_ (daemon_ok stepped).1
      rintro commit rfl
      cases other
    | promote commit _ => exact before (by simp) (promote_ok stepped).1
    | launch commit _ _ => exact before (by simp) (launch_ok stepped).1
    | _ => cases issued
  | recoverStartupBatch commit reserved delivery => rwa [← (journaledBatch_ok ok).1.turns]
  | recordModelProgress commit =>
    obtain ⟨_, _, _, rfl⟩ := recordModelProgress_ok ok
    exact stored

/-! ### Admissions -/

theorem inbox_before {op : Operation} {s s' : Store} (ok : op.transaction s = .ok s')
    (admits : ∀ commit, op ≠ .admitInput commit) (launches : ∀ commit, op ≠ .launchAgentDelegation commit)
    {entryId : InboxEntryId} {entry' : InboxEntry} (stored : s'.inbox.get entryId = some entry') :
    ∃ entry, s.inbox.get entryId = some entry := by
  have same (inbox : s'.inbox = s.inbox) : ∃ entry, s.inbox.get entryId = some entry := ⟨entry', by rw [← inbox, stored]⟩
  have changed {sessionId : SessionId} {headId : InboxEntryId} {head row : InboxEntry}
      (pending : s.loadPendingHead sessionId = some (headId, head)) (inbox : s'.inbox = s.inbox.put headId row) :
      ∃ entry, s.inbox.get entryId = some entry := by
    rw [inbox, Table.get_put] at stored
    split at stored
    next here => exact ⟨head, here ▸ (Store.loadPendingHead_some pending).1⟩
    next => exact ⟨entry', stored⟩
  cases op with
  | admitInput commit => exact absurd rfl (admits commit)
  | promoteNext commit =>
    obtain rfl | ⟨session, headId, head, found, pending, ⟨_, inserted⟩ | ⟨_, _, _, _, steered | ⟨_, _, interrupted⟩⟩⟩ :=
      promoteNext_ok ok
    · exact same rfl
    · simp only [insertWorkGraph, eq_ok] at inserted
      obtain ⟨_, _, _, _, rfl⟩ := inserted
      exact changed pending rfl
    · obtain ⟨_, rfl⟩ := steerActive_ok steered
      exact changed pending rfl
    · unfold interruptActive at interrupted
      split at interrupted
      next =>
        simp only [eq_ok, nextToken_eq_ok] at interrupted
        obtain ⟨_, _, _, _, rfl⟩ := interrupted
        exact changed pending rfl
      next =>
        simp only [eq_ok] at interrupted
        obtain ⟨_, _, rfl⟩ := interrupted
        exact changed pending rfl
      next => cases interrupted
  | launchAgentDelegation commit => exact absurd rfl (launches commit)
  | _ =>
    obtain ⟨_, rfl⟩ := Operation.frame ok
    exact same rfl

/-- The entry was admitted by an event of the timeline. -/
def JournaledStore.Stamped (s : JournaledStore) (entryId : InboxEntryId) : Prop :=
  ∃ admission cursor, s.admissions.get entryId = some admission ∧
    s.journal.cursorOf admission.admissionEventId = some cursor

theorem JournalOperation.stamped_entry {op : JournalOperation} {s s' : JournaledStore} (issued : op.Issued s)
    (ok : op.exec s = .ok s') {entryId : InboxEntryId} {entry' : InboxEntry}
    (stored : s'.core.inbox.get entryId = some entry') :
    (∃ entry, s.core.inbox.get entryId = some entry) ∨ s'.Stamped entryId := by
  cases op with
  | createSession commit =>
    obtain ⟨_, _, _, created, _, rfl⟩ := SessionPort.createSession_ok ok
    exact .inl (inbox_before (show (Operation.createSession _).transaction _ = _ from created) (by simp) (by simp) stored)
  | admitInput commit =>
    obtain rfl | ⟨_, _, cursor, _, _, _, unused, inserted, _, stamped, rfl⟩ := JournalOperation.admitInput_ok ok
    · exact .inl ⟨entry', stored⟩
    · simp only [Mealy.admitInput, unused, eq_ok] at inserted
      obtain ⟨_, _, _, _, _, _, _, _, _, _, rfl⟩ := inserted
      by_cases here : entryId = commit.inboxEntryId
      · subst here
        exact .inr ⟨_, cursor, Table.get_put_self .., stamped⟩
      · exact .inl ⟨entry', by rw [← stored]; exact (Table.get_put_ne _ _ here).symm⟩
  | store op portless reserved delivery =>
    obtain ⟨_, _, _, _, stepped, admitted, recorded, rfl⟩ := journaled_ok ok
    cases op with
    | daemon op runless =>
      refine .inl (inbox_before (daemon_ok stepped).1 ?_ ?_ stored)
      · rintro commit rfl
        cases portless
      · rintro commit rfl
        cases runless
    | promote commit _ => exact .inl (inbox_before (promote_ok stepped).1 (by simp) (by simp) stored)
    | launch commit requested policy =>
      by_cases here : entryId = commit.childInboxEntryId
      · subst here
        simp only [DelegationOperation.admissions, LaunchAgentDelegationCommit.admissions, LaunchAgentDelegationCommit.admission, eq_ok] at admitted
        obtain ⟨_, ⟨_, _, _, _, rfl⟩, _, _, rfl⟩ := admitted
        obtain ⟨cursor, stamped⟩ := Log.appendAll_cursor recorded (List.mem_cons_self ..)
        exact .inr ⟨_, cursor, Table.get_put_self .., stamped⟩
      · obtain ⟨_, _, inbox⟩ := launchAgentDelegation_inbox (launch_ok stepped).1
        rw [inbox, Table.get_put_ne _ _ here] at stored
        exact .inl ⟨entry', stored⟩
    | _ => cases issued
  | recoverStartupBatch commit reserved delivery =>
    exact .inl ⟨entry', by rw [← (journaledBatch_ok ok).1.inbox, stored]⟩
  | recordModelProgress commit =>
    obtain ⟨_, _, _, rfl⟩ := recordModelProgress_ok ok
    exact .inl ⟨entry', stored⟩

theorem JournalOperation.stamped_kept {op : JournalOperation} {s s' : JournaledStore} (ok : op.exec s = .ok s')
    {entryId : InboxEntryId} {entry : InboxEntry} (found : s.core.inbox.get entryId = some entry)
    (stamped : s.Stamped entryId) : s'.Stamped entryId := by
  obtain ⟨admission, cursor, admitted, event⟩ := stamped
  refine ⟨admission, cursor, ?_, ?_⟩
  · rcases admissions_stored ok with same | ⟨newId, _, _, fresh, _, put⟩
    · rw [same, admitted]
    · rw [put, Table.get_put_ne _ _ (by rintro rfl; simp [found] at fresh), admitted]
  · obtain ⟨entries, appended⟩ := journal_appends ok
    exact Log.cursorOf_kept (Log.appendAll_timeline appended) event

end Mealy

namespace Mealy.Context
open Relational Transaction EventLog Memories

/-! ### The journaled store -/

inductive BaseStep (s s' : JournaledStore) : Prop where
  | operation {op : JournalOperation} (issued : op.Issued s) (ok : op.exec s = .ok s')
  | appended {entries : List JournalEntry} {journal : Journal}
      (recorded : s.journal.appendAll maximumI64 entries = .ok journal) (same : s' = { s with journal })

theorem BaseStep.later {s s' : JournaledStore} (step : BaseStep s s') : storeSystem.Later s.core s'.core := by
  cases step with
  | operation issued ok => exact JournalOperation.core_later issued ok
  | appended _ same =>
    subst same
    exact .refl

theorem BaseStep.journal_valid {s s'} (step : BaseStep s s') (valid : s.journal.Valid) :
    s'.journal.Valid := by
  cases step with
  | operation _ ok =>
    obtain ⟨entries, appended⟩ := journal_appends ok
    exact valid.appendAll appended
  | appended recorded same =>
    subst same
    exact valid.appendAll recorded

theorem BaseStep.stamped {s s' : JournaledStore} (step : BaseStep s s')
    (stamped : ∀ entryId entry, s.core.inbox.get entryId = some entry → s.Stamped entryId) :
    ∀ entryId entry, s'.core.inbox.get entryId = some entry → s'.Stamped entryId := by
  intro entryId entry' stored
  cases step with
  | operation issued ok =>
    obtain ⟨entry, found⟩ | new := JournalOperation.stamped_entry issued ok stored
    · exact JournalOperation.stamped_kept ok found (stamped entryId entry found)
    · exact new
  | appended recorded same =>
    subst same
    obtain ⟨admission, cursor, admitted, event⟩ := stamped entryId entry' stored
    exact ⟨admission, cursor, admitted, Log.cursorOf_kept (Log.appendAll_timeline recorded) event⟩

namespace HistoryStore
variable {hash : DigestFunction} {base : JournaledStore} {s s' : HistoryStore}

structure Annotates (s : HistoryStore) (base : JournaledStore) (s' : HistoryStore) : Prop where
  base : s'.base = base
  messages : ∀ messageId message, s.messages.get messageId = some message → s'.messages.get messageId = some message
  finals : s'.finalMessages = s.finalMessages

theorem keepArtifact_annotates {reserved runId}
    (kept : s.keepArtifact base reserved runId = .ok s') : Annotates s base s' := by
  unfold keepArtifact at kept
  split at kept
  next =>
    cases kept
    exact ⟨rfl, fun _ _ found => found, rfl⟩
  next =>
    simp only [eq_ok] at kept
    obtain ⟨_, _, _, _, rfl⟩ := kept
    exact ⟨rfl, fun _ _ found => found, rfl⟩

theorem keepMessage_ok {messageId runId role mediaType content}
    (kept : s.keepMessage base messageId runId role mediaType hash content = .ok s') :
    ∃ turnId turn session, s.core.turnOfRun runId = some (turnId, turn) ∧
      s.core.sessions.get turn.sessionId = some session ∧ s.messages.get messageId = none ∧
      s' = { s with
        base,
        messages := s.messages.put messageId
          { principalId := session.principalId, sessionId := turn.sessionId, turnId, taskId := turn.taskId, runId, role,
            mediaType, byteLength := content.utf8ByteSize, contentDigest := hash.digest content,
            contentInline := some content, contentArtifactId := none, sensitivity := "internal" } } := by
  simp only [keepMessage, sessionOfRun, eq_ok] at kept
  obtain ⟨_, ⟨⟨turnId, turn⟩, found, session, owned, rfl⟩, _, fresh, rfl⟩ := kept
  exact ⟨turnId, turn, session, found, owned, fresh, rfl⟩

theorem keepMessage_annotates {messageId runId role mediaType content}
    (kept : s.keepMessage base messageId runId role mediaType hash content = .ok s') : Annotates s base s' := by
  obtain ⟨_, _, _, _, _, fresh, rfl⟩ := keepMessage_ok kept
  refine ⟨rfl, ?_, rfl⟩
  intro otherId message found
  have other : otherId ≠ messageId := by
    intro same
    rw [same, fresh] at found
    cases found
  exact (Table.get_put_ne _ _ other).trans found

theorem keepRoot_annotates {parentId childId} (kept : s.keepRoot base parentId childId = .ok s') : Annotates s base s' := by
  simp only [keepRoot, eq_ok] at kept
  obtain ⟨_, _, rfl⟩ := kept
  exact ⟨rfl, fun _ _ found => found, rfl⟩

theorem annotate_annotates {op} (annotated : s.annotate hash op base = .ok s') :
    Annotates s base s' := by
  unfold annotate at annotated
  split at annotated
  next =>
    cases annotated
    exact ⟨rfl, fun _ _ found => found, rfl⟩
  next => exact keepRoot_annotates annotated
  next =>
    simp only [eq_ok] at annotated
    obtain ⟨kept, rooted, rfl⟩ := annotated
    obtain ⟨same, messages, finals⟩ := keepRoot_annotates rooted
    exact ⟨same, messages, finals⟩
  next => exact keepArtifact_annotates annotated
  next => exact keepArtifact_annotates annotated
  next =>
    simp only [eq_ok] at annotated
    obtain ⟨_, _, _, _, kept⟩ := annotated
    exact keepMessage_annotates kept
  next =>
    cases annotated
    exact ⟨rfl, fun _ _ found => found, rfl⟩

theorem completeRun_ok {commit reserved delivery} (ok : s.completeRun hash commit reserved delivery = .ok s') :
    journaled (.daemon (.completeRun commit) rfl) reserved delivery s.base = .ok s'.base ∧
      (commit.finalMessage = none ∧ s' = { s with base := s'.base } ∨
        ∃ final kept, commit.finalMessage = some final ∧
          s.keepMessage s'.base reserved.messageId commit.fence.runId .assistant "text/plain; charset=utf-8" hash
            final.content = .ok kept ∧
          s' = { kept with finalMessages := s.finalMessages.put commit.fence.runId reserved.messageId }) := by
  obtain ⟨base, journaled, written⟩ := bind_eq_ok.mp ok
  split at written
  next absent =>
    cases written
    exact ⟨journaled, .inl ⟨absent, rfl⟩⟩
  next final present =>
    obtain ⟨kept, stored, same⟩ := bind_eq_ok.mp written
    cases same
    have based := (keepMessage_annotates stored).base
    subst based
    exact ⟨journaled, .inr ⟨final, kept, present, stored, rfl⟩⟩

end HistoryStore

/-! ### What a step does -/

inductive HistoryMove (hash : DigestFunction) (s s' : HistoryStore) : Prop where
  | completed {commit : CompleteRunCommit} {reserved : Reserved} {delivery : Delivery}
      (answered : commit.status = .succeeded → commit.finalMessage.isSome)
      (ok : s.completeRun hash commit reserved delivery = .ok s')
  | other (base : BaseStep s.base s'.base)
      (turns : ∀ turnId turn, s'.core.turns.get turnId = some turn → turn.status = .completed →
        s.core.turns.get turnId = some turn)
      (messages : ∀ messageId message, s.messages.get messageId = some message →
        s'.messages.get messageId = some message)
      (finals : s'.finalMessages = s.finalMessages)

theorem HistoryOperation.move {functions : CompactionFunctions} {op : HistoryOperation} {s s' : HistoryStore}
    (stepped : op.exec functions s = .ok s') : HistoryMove functions.hash s s' := by
  simp only [exec, eq_ok] at stepped
  obtain ⟨_, issued, ok⟩ := stepped
  have appended {entries : List JournalEntry} {journal : Journal}
      (recorded : s.base.journal.appendAll maximumI64 entries = .ok journal)
      (base : s'.base = { s.base with journal }) (messages : s'.messages = s.messages)
      (finals : s'.finalMessages = s.finalMessages) : HistoryMove functions.hash s s' := by
    refine .other (.appended recorded base) ?_ (fun _ _ found => messages ▸ found) finals
    intro turnId turn stored _
    rwa [HistoryStore.core, base] at stored
  have same (base : s'.base = s.base) (messages : s'.messages = s.messages)
      (finals : s'.finalMessages = s.finalMessages) : HistoryMove functions.hash s s' :=
    appended (show s.base.journal.appendAll maximumI64 [] = .ok s.base.journal from rfl) base messages finals
  cases op with
  | journal op other =>
    obtain ⟨base, performed, annotated⟩ := bind_eq_ok.mp ok
    obtain ⟨based, messages, finals⟩ := HistoryStore.annotate_annotates annotated
    subst based
    exact .other (.operation issued performed) (fun _ _ => JournalOperation.completed_before issued other performed)
      messages finals
  | completeRun commit reserved delivery => exact .completed issued ok
  | loadAgentRun fence observedAt =>
    obtain ⟨loaded, _, written⟩ := bind_eq_ok.mp ok
    cases written
    exact same rfl rfl rfl
  | prepareNextModel commit compiled reserved delivery =>
    simp only [transaction, HistoryStore.prepareNextModel, eq_ok] at ok
    obtain ⟨snapshot, _, owner, _, entered, _, base, journaled, _, _, rfl⟩ := ok
    have performed : (JournalOperation.store (.daemon (.prepareModelAttempt commit) rfl) rfl _ delivery).exec s.base =
        .ok base := journaled
    refine .other (.operation (by exact issued) performed) ?_ (fun _ _ found => found) rfl
    intro turnId turn stored _
    obtain ⟨_, _, _, _, stepped, _, _, rfl⟩ := journaled_ok journaled
    rw [← (quiet_frame rfl (daemon_ok stepped).1).turns]
    exact stored
  | commitCompaction commit =>
    obtain ⟨_, journal, _, _, recorded, rfl⟩ := commitCompaction_ok (mapError_eq_ok.mp ok)
    exact appended recorded rfl rfl rfl
  | memory op =>
    simp only [transaction, eq_ok, mapError_eq_ok] at ok
    obtain ⟨memory, performed, rfl⟩ := ok
    have port (entries : List JournalEntry) : op ≠ .journal entries := by
      rintro rfl
      exact issued
    obtain ⟨_, ⟨entries, _, recorded⟩, _⟩ := MemoryOperation.records port performed
    exact appended recorded rfl rfl rfl
  | evidence tables =>
    cases ok
    exact same rfl rfl rfl

end Mealy.Context
