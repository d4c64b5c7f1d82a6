import Mealy.Proofs.HistoryRuns
import Mealy.Proofs.HistoryWindow
import Mealy.Proofs.Requeue

/-! Follow-ups to completed turns. In every run of the store a completed turn has its answer,
its entry and the event that admitted it, so its exchange is eligible for a later turn of its
epoch exactly when it was completed before the input of that turn was admitted. -/

namespace Mealy
open Relational Transaction EventLog

/-! ### Entries of turns -/

def Promotes (s : Store) : Prop :=
  ∀ turnId turn, s.turns.get turnId = some turn → turn.kind = .canonical → ∃ entry,
    s.inbox.get turn.inboxEntryId = some entry ∧ entry.state = .promoted ∧ entry.promotedTurnId = some turnId

theorem Promotes.same {s s'} (promotes : Promotes s)
    (turns : ∀ turnId turn', s'.turns.get turnId = some turn' → turn'.kind = .canonical →
      ∃ turn, s.turns.get turnId = some turn ∧ turn.kind = .canonical ∧ turn'.inboxEntryId = turn.inboxEntryId)
    (inbox : ∀ entryId entry, s.inbox.get entryId = some entry → entry.state = .promoted →
      s'.inbox.get entryId = some entry) : Promotes s' := by
  intro turnId turn' stored canonical
  obtain ⟨turn, found, kind, same⟩ := turns turnId turn' stored canonical
  obtain ⟨entry, consumed, promoted, named⟩ := promotes turnId turn found kind
  exact ⟨entry, same ▸ inbox _ entry consumed promoted, promoted, named⟩

theorem Promotes.step {s s'} (promotes : Promotes s) (move : ConversationMove s s') : Promotes s' := by
  have old {turnId : TurnId} {turn' : Turn} (turns : s'.turns = s.turns) (stored : s'.turns.get turnId = some turn')
      (canonical : turn'.kind = .canonical) :
      ∃ turn, s.turns.get turnId = some turn ∧ turn.kind = .canonical ∧ turn'.inboxEntryId = turn.inboxEntryId :=
    ⟨turn', turns ▸ stored, canonical, rfl⟩
  have ended {turnId newId : TurnId} {turn turn' : Turn} {status : TurnStatus}
      (turns : s'.turns = s.turns.put newId { turn with status }) (carried : s.turns.get newId = some turn)
      (stored : s'.turns.get turnId = some turn') (canonical : turn'.kind = .canonical) :
      ∃ turn, s.turns.get turnId = some turn ∧ turn.kind = .canonical ∧ turn'.inboxEntryId = turn.inboxEntryId := by
    rw [turns, Table.get_put] at stored
    split at stored
    next here =>
      cases stored
      exact ⟨turn, here ▸ carried, canonical, rfl⟩
    next => exact ⟨turn', stored, canonical, rfl⟩
  have waiting {sessionId : SessionId} {headId : InboxEntryId} {head row : InboxEntry}
      (pending : s.loadPendingHead sessionId = some (headId, head)) (inbox : s'.inbox = s.inbox.put headId row)
      {entryId : InboxEntryId} {entry : InboxEntry} (found : s.inbox.get entryId = some entry)
      (promoted : entry.state = .promoted) : s'.inbox.get entryId = some entry := by
    obtain ⟨stored, _, waits, _⟩ := Store.loadPendingHead_some pending
    rw [inbox, Table.get_put_ne _ _ ?_, found]
    rintro rfl
    cases found.symm.trans stored
    cases promoted.symm.trans waits
  cases move with
  | same inbox turns | created inbox turns =>
    exact promotes.same (fun _ _ => old turns) (fun _ _ found _ => inbox ▸ found)
  | admitted inbox turns _ _ fresh =>
    exact promotes.same (fun _ _ => old turns) (fun _ _ found _ => inbox ▸ Table.kept_put_fresh fresh _ _ found)
  | @started session entry newId new turns inbox _ _ _ head fresh =>
    intro turnId turn' stored canonical
    rw [turns, Table.get_put] at stored
    split at stored
    next here =>
      cases stored
      exact ⟨_, by rw [inbox, Table.get_put_self], rfl, by rw [here]⟩
    next =>
      obtain ⟨entry, consumed, promoted, named⟩ := promotes turnId turn' stored canonical
      exact ⟨entry, waiting head inbox consumed promoted, promoted, named⟩
  | steered inbox turns _ head | interrupting inbox turns _ head =>
    exact promotes.same (fun _ _ => old turns) (fun _ _ => waiting head inbox)
  | interrupted inbox turns _ _ _ carried head =>
    exact promotes.same (fun _ _ => ended turns carried) (fun _ _ => waiting head inbox)
  | finished turns inbox _ _ _ carried => exact promotes.same (fun _ _ => ended turns carried) (fun _ _ found _ => inbox ▸ found)
  | returned turns inbox _ carried => exact promotes.same (fun _ _ => ended turns carried) (fun _ _ found _ => inbox ▸ found)
  | @launched session entry newId new turns inbox _ _ _ freshEntry _ _ _ _ delegated =>
    refine promotes.same ?_ (fun _ _ found _ => inbox ▸ Table.kept_put_fresh freshEntry _ _ found)
    intro turnId turn' stored canonical
    rw [turns, Table.get_put] at stored
    split at stored
    next =>
      cases stored
      cases delegated.symm.trans canonical
    next => exact ⟨turn', stored, canonical, rfl⟩

theorem promotes {s} (reached : s.Reachable) : Promotes s := by
  have start : Promotes storeSystem.initial := by simp [Promotes, storeSystem]
  exact reached.invariant start fun _ _ _ promotes _ step =>
    promotes.step (conversation_move (Operation.exec_eq_ok.mp step).2)

theorem sessionsKept_later {s s'} (later : storeSystem.Later s s') : SessionsKept s s' := by
  induction later with
  | refl => exact .of_eq rfl
  | tail _ step ih =>
    obtain ⟨op, stepped⟩ := step
    intro sessionId session found
    obtain ⟨middle, stored, principal, channel⟩ := ih sessionId session found
    obtain ⟨last, stored', principal', channel'⟩ :=
      sessions_kept (Operation.exec_eq_ok.mp stepped).2 sessionId middle stored
    exact ⟨last, stored', principal'.trans principal, channel'.trans channel⟩

end Mealy

namespace Mealy.Context
open Relational Transaction EventLog Memories

/-! ### Answers of completed turns -/

/-- The message is the answer of the turn, as `load_conversation_context_sources` wants it. -/
structure Message.Answers (message : Message) (turnId : TurnId) (turn : Turn) (session : Session) : Prop where
  principal : message.principalId = session.principalId
  inSession : message.sessionId = turn.sessionId
  ofTurn : message.turnId = turnId
  ofTask : message.taskId = turn.taskId
  ofRun : message.runId = turn.runId
  role : message.role = .assistant
  mediaType : message.mediaType = "text/plain; charset=utf-8"
  sensitivity : message.sensitivity = "internal"
  inline : ∃ content, message.contentInline = some content
  unreferenced : message.contentArtifactId = none

structure TurnAnswered (s : HistoryStore) (turnId : TurnId) (turn : Turn) : Prop where
  answered : s.core.Answered turn.runId turn.taskId
  message : ∃ messageId message session, s.finalMessages.get turn.runId = some messageId ∧
    s.messages.get messageId = some message ∧ s.core.sessions.get turn.sessionId = some session ∧
    message.Answers turnId turn session

theorem TurnAnswered.kept {s s' turnId turn} (answered : TurnAnswered s turnId turn)
    (reached : s.core.Reachable) (later : storeSystem.Later s.core s'.core)
    (messages : ∀ messageId message, s.messages.get messageId = some message →
      s'.messages.get messageId = some message)
    (finals : s'.finalMessages.get turn.runId = s.finalMessages.get turn.runId) : TurnAnswered s' turnId turn := by
  obtain ⟨succeeded, messageId, message, session, final, stored, owned, answers⟩ := answered
  obtain ⟨session', owned', principal, _⟩ := sessionsKept_later later _ _ owned
  exact ⟨succeeded.later reached later, messageId, message, session', finals ▸ final, messages _ _ stored, owned',
    { answers with principal := answers.principal.trans principal.symm }⟩

/-- What the exchanges of a run rest on. -/
structure HistoryValid (s : HistoryStore) : Prop where
  core : s.core.Reachable
  journal : s.base.journal.Valid
  stamped : ∀ entryId entry, s.core.inbox.get entryId = some entry → s.base.Stamped entryId
  answered : ∀ turnId turn, s.core.turns.get turnId = some turn → turn.status = .completed → TurnAnswered s turnId turn

theorem HistoryValid.completed {hash commit reserved delivery s s'} (valid : HistoryValid s)
    (succeeds : commit.status = .succeeded → commit.finalMessage.isSome)
    (ok : s.completeRun hash commit reserved delivery = .ok s') : HistoryValid s' := by
  obtain ⟨journaled, written⟩ := HistoryStore.completeRun_ok ok
  have performed : (JournalOperation.store (.daemon (.completeRun commit) rfl) rfl reserved delivery).exec s.base =
      .ok s'.base := journaled
  have step : BaseStep s.base s'.base := .operation (by trivial) performed
  obtain ⟨_, _, _, _, stepped, _, _, base⟩ := journaled_ok journaled
  have completes : completeRun commit s.core = .ok s'.core := by
    show completeRun commit s.base.core = .ok s'.base.core
    rw [base]
    exact (daemon_ok stepped).1
  have running : s.core.isExecuting commit.fence.runId := by
    obtain ⟨_, _, _, _, loaded, _⟩ := Mealy.completeRun_ok completes
    obtain ⟨_, under, _⟩ := Store.loadFencedOwner_ok.mp (Store.loadCompletion_ok loaded).1
    exact Store.runningUnder_isExecuting under
  have messages : ∀ messageId message, s.messages.get messageId = some message →
      s'.messages.get messageId = some message := by
    rcases written with ⟨_, same⟩ | ⟨_, _, _, stored, same⟩
    · rw [same]
      exact fun _ _ found => found
    · rw [same]
      exact (HistoryStore.keepMessage_annotates stored).messages
  refine ⟨System.Reachable.later valid.core step.later, step.journal_valid valid.journal, step.stamped valid.stamped, ?_⟩
  intro turnId turn' found completed
  obtain before | ⟨_, turn, same, succeeded, carried, rfl⟩ :=
    completed_origin (show (Operation.completeRun commit).transaction s.core = .ok s'.core from completes) found completed
  · have answered := valid.answered turnId turn' before completed
    refine answered.kept valid.core step.later messages ?_
    rcases written with ⟨_, same⟩ | ⟨_, _, _, _, same⟩
    · rw [same]
    · rw [same]
      refine Table.get_put_ne _ _ ?_
      intro own
      obtain ⟨⟨run, stored, _, ended⟩, _⟩ := answered.answered
      obtain ⟨run', stored', executing⟩ := running
      rw [own, stored'] at stored
      cases stored
      cases ended.symm.trans executing
  · cases same
    rcases written with ⟨absent, _⟩ | ⟨final, kept, present, stored, same⟩
    · have final := succeeds succeeded
      rw [absent] at final
      cases final
    · obtain ⟨_, _, session, carried', owned, fresh, rfl⟩ := HistoryStore.keepMessage_ok stored
      rw [carried] at carried'
      cases carried'
      obtain ⟨_, ofRun⟩ := Store.turnOfRun_some carried
      obtain ⟨session', owned', principal, _⟩ := sessionsKept_later step.later _ _ owned
      refine ⟨?_, ?_⟩
      · have own := completeRun_answers valid.core completes present carried
        rwa [← ofRun] at own
      · rw [same]
        refine ⟨reserved.messageId, _, session', ?_, Table.get_put_self .., owned', ?_⟩
        · rw [ofRun]
          exact Table.get_put_self ..
        · exact ⟨principal.symm, rfl, rfl, rfl, ofRun.symm, rfl, rfl, rfl, ⟨_, rfl⟩, rfl⟩

theorem history_valid {functions s} (reached : (historySystem functions).Reachable s) : HistoryValid s := by
  have start : HistoryValid (historySystem functions).initial :=
    ⟨.initial, .empty, by simp [historySystem], by simp [historySystem]⟩
  have kept (op : HistoryOperation) (s s' : HistoryStore) (valid : HistoryValid s) (_ : True)
      (step : (historySystem functions).exec op s = .ok s') : HistoryValid s' := by
    cases HistoryOperation.move step with
    | completed answered ok => exact valid.completed answered ok
    | other base turns messages finals =>
      refine ⟨System.Reachable.later valid.core base.later, base.journal_valid valid.journal, base.stamped valid.stamped, ?_⟩
      intro turnId turn found completed
      exact (valid.answered turnId turn (turns turnId turn found completed) completed).kept valid.core base.later messages
        (by rw [finals])
  exact reached.invariant start kept

/-! ### Eligible exchanges -/

theorem TurnAnswered.answer {s turnId turn} (answered : TurnAnswered s turnId turn)
    (reached : s.core.Reachable) {session} (owned : s.core.sessions.get turn.sessionId = some session) :
    ∃ messageId message content, s.finalMessages.get turn.runId = some messageId ∧
      s.messages.get messageId = some message ∧ message.contentInline = some content ∧
      s.answer turnId turn session.principalId = some (messageId, message, content) := by
  obtain ⟨succeeded, messageId, message, session', final, stored, owned', answers⟩ := answered
  rw [owned] at owned'
  cases owned'
  obtain ⟨task, taskFound, taskStatus⟩ := succeeded.task reached
  obtain ⟨⟨run, runFound, ofTask, status⟩, state, position⟩ := succeeded
  obtain ⟨content, inline⟩ := answers.inline
  refine ⟨messageId, message, content, final, stored, inline, ?_⟩
  simp only [HistoryStore.answer, Option.bind_eq_bind, Option.bind_eq_some_iff, Option.filter_eq_some_iff,
    decide_eq_true_eq]
  exact ⟨task, ⟨taskFound, taskStatus⟩, run, ⟨runFound, ofTask, status⟩, state, position, messageId, final, message,
    ⟨stored, answers.principal, answers.inSession, answers.ofTurn, answers.ofTask, answers.ofRun, answers.role,
      answers.mediaType, answers.sensitivity, answers.unreferenced⟩, content, inline, rfl⟩

structure Exchange.Of (exchange : Exchange) (s : HistoryStore) (turn : Turn) : Prop where
  own : exchange.forked = false
  input : exchange.inboxEntryId = turn.inboxEntryId
  question : ∃ entry, s.core.inbox.get turn.inboxEntryId = some entry ∧ exchange.content = entry.content
  answer : ∃ message, s.finalMessages.get turn.runId = some exchange.messageId ∧
    s.messages.get exchange.messageId = some message ∧ exchange.assistant = message.contentInline ∧
    exchange.assistant.isSome

def HistoryStore.FollowUpSees (hash : DigestFunction) (s : HistoryStore) (currentId : TurnId) (current : Turn)
    (session : Session) (cutoff : Nat) (turn : Turn) : Prop :=
  ∃ exchange ∈ s.eligibleHistory hash currentId current.sessionId session.principalId cutoff, exchange.Of s turn

def HistoryStore.CompletedBefore (s : HistoryStore) (turnId : TurnId) (current : Turn) : Prop :=
  ∃ completed ∈ s.eventCursors (.turn turnId) "turn.completed", ∃ admitted,
    s.admissionCursor current.inboxEntryId = some admitted ∧ completed < admitted

/-- The current turn follows up on a completed one: both are canonical turns of one session and
one epoch, and the input of the completed turn comes first. -/
structure HistoryStore.FollowsUp (s : HistoryStore) (currentId turnId : TurnId) (current turn : Turn)
    (session : Session) : Prop where
  following : s.core.turns.get currentId = some current
  canonical : current.kind = .canonical
  found : s.core.turns.get turnId = some turn
  canonical' : turn.kind = .canonical
  own : turn.sessionId = current.sessionId
  owned : s.core.sessions.get current.sessionId = some session
  earlier : s.core.Precedes turn current
  completed : turn.status = .completed
  epoch : s.turnEpoch.get turnId = s.activeEpoch currentId current

/-- In every run: the exchange of a completed turn that no compaction covers is eligible for a
later turn of its session and epoch exactly when the turn was completed before the later input
was admitted. -/
theorem follow_up_sees_iff {functions : CompactionFunctions} {s : HistoryStore}
    (reached : (historySystem functions).Reachable s) {currentId turnId : TurnId} {current turn : Turn}
    {session : Session} (follows : s.FollowsUp currentId turnId current turn session) {cutoff : Nat}
    (uncovered : ∀ admitted ∈ s.admissionCursor turn.inboxEntryId, cutoff < admitted) :
    s.FollowUpSees functions.hash currentId current session cutoff turn ↔ s.CompletedBefore turnId current := by
  have valid := history_valid reached
  have order := conversation_valid valid.core
  obtain ⟨following, _, found, canonical, own, owned, ⟨entry, entry', asked, asked', before⟩, completed, epoch⟩ := follows
  constructor
  · rintro ⟨exchange, member, of⟩
    obtain ⟨input, otherId, other, currently, otherFound, eligible, stamp, listed, early⟩ :=
      HistoryStore.mem_eligibleHistory.mp member
    obtain ⟨_, _, _, after, following', _, _, _, _, admitted', rfl⟩ := HistoryStore.currentInput_eq_some.mp currently
    obtain ⟨_, _, _, _, _, _, _, _, _, _, _, _, _, _, _, _, rfl⟩ := HistoryStore.exchangeOf_eq_some.mp eligible
    rw [following] at following'
    cases following'
    have same : otherId = turnId := order.order.single otherId turnId other turn otherFound found of.input
    subst same
    exact ⟨stamp, listed, after, admitted', early⟩
  · rintro ⟨stamp, listed, after, admitted', early⟩
    obtain ⟨messageId, message, content, final, stored, inline, answered⟩ :=
      (valid.answered turnId turn found completed).answer valid.core (own ▸ owned)
    obtain ⟨entry'', asked'', promoted, named⟩ := promotes valid.core turnId turn found canonical
    rw [asked] at asked''
    cases asked''
    obtain ⟨admission, admitted, entered, event⟩ := valid.stamped _ entry asked
    have cursor : s.admissionCursor turn.inboxEntryId = some admitted := by
      simp [HistoryStore.admissionCursor, entered, event]
    have different : turnId ≠ currentId := by
      rintro rfl
      cases found.symm.trans following
      rw [asked] at asked'
      cases asked'
      exact absurd before (Nat.lt_irrefl _)
    have currently := HistoryStore.currentInput_eq_some.mpr
      ⟨current, session, entry', after, following, rfl, owned, rfl, asked', admitted', rfl⟩
    refine ⟨_, HistoryStore.mem_eligibleHistory.mpr ⟨_, turnId, turn, currently, found,
      HistoryStore.exchangeOf_eq_some.mpr ⟨entry, admitted, messageId, message, content, asked, promoted, named, before,
        cursor, uncovered admitted cursor, answered, own, different, epoch, completed, rfl⟩, stamp, listed, early⟩, ?_⟩
    exact ⟨rfl, rfl, ⟨entry, asked, rfl⟩, ⟨message, final, stored, inline.symm, rfl⟩⟩

/-! ### A follow-up -/

def sampleCompactions : CompactionFunctions := ⟨uniformHash, fun _ => uniformHash.digest "", fun _ => ""⟩

/-- The identities that the `n`th operation brings. -/
def reservedAt (n : Nat) : Reserved where
  event := fun field => ⟨100 * (n + 1) + field.ctorIdx⟩
  messageId := ⟨n⟩
  contextEpochId := none
  contextManifestId := ⟨n⟩
  artifactId := none

def deliveryAt (n : Nat) : Delivery := ⟨⟨2 * n + 10⟩, ⟨2 * n + 11⟩⟩

def admitAt (n : Nat) (content : String) : HistoryOperation :=
  .journal (.admitInput ⟨⟨⟨0⟩, sampleOwner, ⟨n⟩, content, .queue, content, 10⟩, .inheritSession, ⟨n + 1⟩, ⟨n⟩, ⟨n⟩, 0⟩)
    rfl

def promoteAt (n : Nat) : HistoryOperation :=
  .journal (.store (.promote ⟨⟨0⟩, sampleOwner, ⟨n⟩, ⟨n⟩, ⟨n⟩, .named "assistant", false, 10⟩ {}) rfl (reservedAt n)
    (deliveryAt n)) rfl

def assistantContext : Mealy.CompiledContext :=
  { identity := ⟨"assistant", uniformHash.digest "", uniformHash.digest "", uniformHash.digest "", "workspace"⟩,
    baselineText := "assistant", epochId := ⟨0⟩, createdAt := 20 }

/-- The first input is promoted, and the model of its run answers. -/
def answeredModel : List HistoryOperation :=
  [.journal (.createSession ⟨⟨⟨0⟩, sampleOwner⟩, none, ⟨0⟩, 0⟩) rfl,
   admitAt 0 "hello",
   promoteAt 0,
   .journal (.store (.daemon (.claimNext ⟨⟨0⟩, ⟨0⟩, 20, 100000, ⟨5, 5, 5⟩⟩) (Eq.refl false)) rfl (reservedAt 2)
     (deliveryAt 2)) rfl,
   .loadAgentRun sampleFence 20,
   .prepareNextModel ⟨sampleFence, ⟨0⟩, 1, [⟨0⟩], sampleLimits, 10, 10, 10, 100, 20, 20, 5000⟩ assistantContext
     (reservedAt 3) (deliveryAt 3),
   .journal (.store (.daemon (.dispatchModelAttempt ⟨sampleFence, ⟨0⟩, 100, 21⟩) (Eq.refl false)) rfl (reservedAt 4)
     (deliveryAt 4)) rfl,
   .journal (.store (.daemon (.recordModelResult ⟨sampleFence, ⟨0⟩, .final "done", ⟨1, 1, 1⟩, 10, 22⟩) rfl) rfl
     (reservedAt 5) (deliveryAt 5)) rfl]

def answerRun : HistoryOperation :=
  .completeRun ⟨sampleFence, .succeeded, "done", some ⟨⟨0⟩, "done"⟩, 40⟩ (reservedAt 6) (deliveryAt 6)

def turnAt (n : Nat) (status : TurnStatus) : Turn := ⟨⟨0⟩, ⟨n⟩, ⟨n⟩, ⟨n⟩, .canonical, status, 10⟩
def entryAt (n : Nat) (content : String) : InboxEntry :=
  ⟨⟨0⟩, n + 1, content, .queue, content, .promoted, some ⟨n⟩, none⟩

def followingUp (s : HistoryStore) : Prop :=
  s.core.turns.get ⟨0⟩ = some (turnAt 0 .completed) ∧ s.core.turns.get ⟨1⟩ = some (turnAt 1 .active) ∧
    s.core.inbox.get ⟨0⟩ = some (entryAt 0 "hello") ∧ s.core.inbox.get ⟨1⟩ = some (entryAt 1 "and now?") ∧
    s.core.sessions.get ⟨0⟩ = some ⟨⟨0⟩, ⟨0⟩, some ⟨1⟩, 3⟩ ∧ s.admissionCursor ⟨0⟩ = some 2 ∧
    s.turnEpoch.get ⟨0⟩ = s.activeEpoch ⟨1⟩ (turnAt 1 .active)

instance : DecidablePred followingUp := fun s => by unfold followingUp; infer_instance

theorem followingUp_follows {s} (follows : followingUp s) :
    s.FollowsUp ⟨1⟩ ⟨0⟩ (turnAt 1 .active) (turnAt 0 .completed) ⟨⟨0⟩, ⟨0⟩, some ⟨1⟩, 3⟩ ∧
      ∀ admitted ∈ s.admissionCursor (turnAt 0 .completed).inboxEntryId, 0 < admitted := by
  obtain ⟨first, second, asked, asked', session, cursor, epoch⟩ := follows
  refine ⟨⟨second, rfl, first, rfl, rfl, session, ⟨_, _, asked, asked', by decide⟩, rfl, epoch⟩, ?_⟩
  intro admitted found
  cases cursor.symm.trans found
  decide

theorem follow_up_sees_answer :
    ∃ (s : HistoryStore) (current turn : Turn) (session : Session), (historySystem sampleCompactions).Reachable s ∧
      s.FollowsUp ⟨1⟩ ⟨0⟩ current turn session ∧ s.CompletedBefore ⟨0⟩ current ∧
      s.FollowUpSees uniformHash ⟨1⟩ current session 0 turn := by
  obtain ⟨s, reached, follows, completed, cursor⟩ : ∃ s, (historySystem sampleCompactions).Reachable s ∧
      followingUp s ∧ s.eventCursors (.turn ⟨0⟩) "turn.completed" = [18] ∧ s.admissionCursor ⟨1⟩ = some 20 :=
    System.exists_reachableIf (answeredModel ++ [answerRun, admitAt 1 "and now?", promoteAt 1]) (by decide +kernel)
  obtain ⟨following, uncovered⟩ := followingUp_follows follows
  have before : s.CompletedBefore ⟨0⟩ (turnAt 1 .active) := ⟨18, by simp [completed], 20, cursor, by decide⟩
  exact ⟨s, _, _, _, reached, following, before, (follow_up_sees_iff reached following uncovered).mpr before⟩

/-- Queued while the first turn still ran, the follow-up is compiled without its exchange. -/
theorem queued_follow_up_is_blind :
    ∃ (s : HistoryStore) (current turn : Turn) (session : Session), (historySystem sampleCompactions).Reachable s ∧
      s.FollowsUp ⟨1⟩ ⟨0⟩ current turn session ∧
      (∀ admitted ∈ s.admissionCursor turn.inboxEntryId, 0 < admitted) ∧
      s.eligibleHistory uniformHash ⟨1⟩ current.sessionId session.principalId 0 = [] ∧
      ¬ s.FollowUpSees uniformHash ⟨1⟩ current session 0 turn := by
  obtain ⟨s, reached, follows, empty⟩ : ∃ s, (historySystem sampleCompactions).Reachable s ∧ followingUp s ∧
      s.eligibleHistory uniformHash ⟨1⟩ ⟨0⟩ ⟨0⟩ 0 = [] :=
    System.exists_reachableIf (answeredModel ++ [admitAt 1 "and now?", answerRun, promoteAt 1]) (by decide +kernel)
  obtain ⟨following, uncovered⟩ := followingUp_follows follows
  refine ⟨s, _, _, _, reached, following, uncovered, empty, ?_⟩
  rintro ⟨exchange, member, _⟩
  rw [show s.eligibleHistory uniformHash ⟨1⟩ (turnAt 1 .active).sessionId ⟨0⟩ 0 = [] from empty] at member
  cases member

end Mealy.Context
