import Mealy.Proofs.WorkGraph
import Mealy.Store.DelegationStore

/-! What the operations do to a conversation: its sessions, its inbox and its turns.
Every step makes one of nine moves, and the numbering of the inbox, the order of the
turns and the active turn of a session follow from the moves alone. -/

namespace Mealy
open Relational Transaction

variable {s s' : Store} {first second : Turn} {entryId : InboxEntryId}

inductive ConversationMove (s s' : Store) : Prop where
  | same (inbox : s'.inbox = s.inbox) (turns : s'.turns = s.turns) (sessions : s'.sessions = s.sessions)
  | created {sessionId session} (inbox : s'.inbox = s.inbox) (turns : s'.turns = s.turns)
      (sessions : s'.sessions = s.sessions.put sessionId session) (fresh : s.sessions.get sessionId = none)
      (idle : session.activeTurnId = none) (first : session.nextInboxSequence = 1)
  | admitted {session entryId entry} (inbox : s'.inbox = s.inbox.put entryId entry) (turns : s'.turns = s.turns)
      (sessions : s'.sessions = s.sessions.put entry.sessionId
        { session with nextInboxSequence := session.nextInboxSequence + 1 })
      (found : s.sessions.get entry.sessionId = some session) (fresh : s.inbox.get entryId = none)
      (unused : s.loadAdmission entry.sessionId entry.dedupeKey = none)
      (numbered : entry.sequence = session.nextInboxSequence) (pending : entry.state = .pending)
  | started {session entry turnId turn} (turns : s'.turns = s.turns.put turnId turn)
      (inbox : s'.inbox = s.inbox.put turn.inboxEntryId
        { entry with state := .promoted, promotedTurnId := some turnId })
      (sessions : s'.sessions = s.sessions.put turn.sessionId { session with activeTurnId := some turnId })
      (found : s.sessions.get turn.sessionId = some session) (idle : session.activeTurnId = none)
      (head : s.loadPendingHead turn.sessionId = some (turn.inboxEntryId, entry))
      (fresh : s.turnIsFresh turnId turn = true) (canonical : turn.kind = .canonical) (active : turn.status = .active)
  | steered {sessionId entryId entry turnId}
      (inbox : s'.inbox = s.inbox.put entryId { entry with state := .promoted, promotedTurnId := some turnId })
      (turns : s'.turns = s.turns) (sessions : s'.sessions = s.sessions)
      (head : s.loadPendingHead sessionId = some (entryId, entry))
  | interrupting {sessionId entryId entry at_}
      (inbox : s'.inbox = s.inbox.put entryId { entry with interruptRequestedAt := some at_ })
      (turns : s'.turns = s.turns) (sessions : s'.sessions = s.sessions)
      (head : s.loadPendingHead sessionId = some (entryId, entry))
  | interrupted {sessionId session entryId entry turnId turn at_}
      (inbox : s'.inbox = s.inbox.put entryId { entry with interruptRequestedAt := some at_ })
      (turns : s'.turns = s.turns.put turnId { turn with status := .cancelled })
      (sessions : s'.sessions = s.sessions.put sessionId { session with activeTurnId := none })
      (found : s.sessions.get sessionId = some session) (busy : session.activeTurnId = some turnId)
      (carried : s.turns.get turnId = some turn) (head : s.loadPendingHead sessionId = some (entryId, entry))
  | finished {session turnId turn status}
      (turns : s'.turns = s.turns.put turnId { turn with status }) (inbox : s'.inbox = s.inbox)
      (sessions : s'.sessions = s.sessions.put turn.sessionId { session with activeTurnId := none })
      (found : s.sessions.get turn.sessionId = some session) (busy : session.activeTurnId = some turnId)
      (carried : s.turns.get turnId = some turn) (canonical : turn.kind = .canonical) (ended : status ≠ .active)
  | returned {turnId turn status}
      (turns : s'.turns = s.turns.put turnId { turn with status }) (inbox : s'.inbox = s.inbox)
      (sessions : s'.sessions = s.sessions) (carried : s.turns.get turnId = some turn)
      (delegated : turn.kind = .delegated)
  | launched {session entry turnId turn}
      (turns : s'.turns = s.turns.put turnId turn) (inbox : s'.inbox = s.inbox.put turn.inboxEntryId entry)
      (sessions : s'.sessions = s.sessions.put turn.sessionId
        { session with nextInboxSequence := session.nextInboxSequence + 1 })
      (found : s.sessions.get turn.sessionId = some session) (own : entry.sessionId = turn.sessionId)
      (freshEntry : s.inbox.get turn.inboxEntryId = none)
      (unused : s.loadAdmission turn.sessionId entry.dedupeKey = none)
      (numbered : entry.sequence = session.nextInboxSequence) (promoted : entry.state = .promoted)
      (fresh : s.turnIsFresh turnId turn = true) (delegated : turn.kind = .delegated)

/-! ### Every operation makes a move -/

theorem createSession_conversation {commit} (ok : createSession commit s = .ok s') : ConversationMove s s' := by
  simp only [createSession, eq_ok] at ok
  obtain ⟨_, fresh, rfl⟩ := ok
  exact .created rfl rfl rfl fresh rfl rfl

theorem admitInput_conversation {commit} (ok : admitInput commit s = .ok s') : ConversationMove s s' := by
  simp only [admitInput, eq_ok] at ok
  obtain ⟨session, found, _, _, ok⟩ := ok
  split at ok
  next =>
    simp only [eq_ok] at ok
    obtain ⟨_, _, rfl⟩ := ok
    exact .same rfl rfl rfl
  next unused =>
    simp only [eq_ok] at ok
    obtain ⟨_, _, _, fresh, _, _, rfl⟩ := ok
    exact .admitted rfl rfl rfl found fresh unused rfl rfl

theorem promoteNext_conversation {commit} (ok : promoteNext commit s = .ok s') : ConversationMove s s' := by
  obtain rfl | ⟨session, entryId, entry, found, head, ⟨idle, inserted⟩ | ⟨turnId, active, busy, loaded,
    steered | ⟨_, _, interrupted⟩⟩⟩ := promoteNext_ok ok
  · exact .same rfl rfl rfl
  · simp only [insertWorkGraph, eq_ok] at inserted
    obtain ⟨_, _, _, fresh, rfl⟩ := inserted
    exact .started rfl rfl rfl found idle head fresh rfl rfl
  · obtain ⟨_, rfl⟩ := steerActive_ok steered
    exact .steered rfl rfl rfl head
  · obtain ⟨same, carried, _⟩ := Store.loadActive_ok loaded
    unfold interruptActive at interrupted
    split at interrupted
    next =>
      simp only [eq_ok, nextToken_eq_ok] at interrupted
      obtain ⟨_, _, _, _, rfl⟩ := interrupted
      rw [← same] at busy carried
      exact .interrupted rfl rfl rfl found busy carried head
    next =>
      simp only [eq_ok] at interrupted
      obtain ⟨_, _, rfl⟩ := interrupted
      exact .interrupting rfl rfl rfl head
    next => cases interrupted

theorem RunCompletionStatus.turnStatus_ended (status : RunCompletionStatus) : status.turnStatus ≠ .active := by
  cases status <;> simp [RunCompletionStatus.turnStatus]

theorem completeRun_conversation {commit} (ok : completeRun commit s = .ok s') : ConversationMove s s' := by
  obtain ⟨owner, task, settled, finished, loaded, settles, finishes, delivers⟩ := completeRun_ok ok
  obtain ⟨_, _, _, _, _, carried, found, _, _, bound⟩ :=
    Store.loadFencedOwner_ok.mp (Store.loadCompletion_ok loaded).1
  have stored := (Store.turnOfRun_some carried).1
  obtain ⟨sameTurns, sameInbox, sameSessions⟩ :
      settled.turns = s.turns ∧ settled.inbox = s.inbox ∧ settled.sessions = s.sessions := by
    obtain ⟨_, rfl⟩ := settles.writes
    exact ⟨rfl, rfl, rfl⟩
  have turns : settled.turns.put owner.turnId { owner.turn with status := commit.status.turnStatus } =
      s.turns.put owner.turnId { owner.turn with status := commit.status.turnStatus } := by rw [sameTurns]
  simp only [finishRun, eq_ok] at finishes
  obtain ⟨_, _, _, _, _, _, rfl⟩ := finishes
  rcases delivers with ⟨delegated, delivered⟩ | ⟨canonical, rfl⟩
  · obtain ⟨_, rfl⟩ := settleDelegatedChild_writes delivered
    refine .returned turns sameInbox ?_ stored delegated
    simp only [Store.overlay]
    simp [delegated, sameSessions]
  · have busy : owner.session.activeTurnId = some owner.turnId := by simpa [Store.turnBound, canonical] using bound
    refine .finished turns sameInbox ?_ found busy stored canonical commit.status.turnStatus_ended
    simp [canonical, sameSessions]

theorem launchAgentDelegation_conversation {commit}
    (ok : launchAgentDelegation commit s = .ok s') : ConversationMove s s' := by
  simp only [launchAgentDelegation, eq_ok] at ok
  obtain ⟨_, _, parent, loaded, tool, _, _, _, _, _, graph, inserted, child, turned, parked⟩ := ok
  obtain ⟨_, _, found, _⟩ := Store.loadParent_ok loaded
  obtain ⟨_, _, _, _, _, rfl⟩ := insertDelegationGraph_ok inserted
  simp only [insertDelegatedTurn, eq_ok] at turned
  obtain ⟨_, ⟨freshEntry, unused⟩, _, fresh, rfl⟩ := turned
  simp only [parkParentForChild, eq_ok, nextToken_eq_ok] at parked
  obtain ⟨_, _, _, _, parked⟩ := parked
  obtain ⟨_, _, _, _, _, rfl⟩ := parkRun_ok parked
  exact .launched rfl rfl rfl found rfl freshEntry unused rfl rfl fresh rfl

theorem conversation_move {op : Operation} (ok : op.transaction s = .ok s') :
    ConversationMove s s' := by
  cases op with
  | createSession commit => exact createSession_conversation ok
  | admitInput commit => exact admitInput_conversation ok
  | promoteNext commit => exact promoteNext_conversation ok
  | completeRun commit => exact completeRun_conversation ok
  | launchAgentDelegation commit => exact launchAgentDelegation_conversation ok
  | _ =>
    obtain ⟨_, rfl⟩ := Operation.frame ok
    exact .same rfl rfl rfl

theorem DelegationOperation.conversation_move {op : DelegationOperation} {s s' : DelegationStore}
    (ok : op.transaction s = .ok s') : ConversationMove s.core s'.core := by
  cases op with
  | daemon op _ => exact Mealy.conversation_move (daemon_ok ok).1
  | promote commit _ => exact Mealy.conversation_move (promote_ok ok).1
  | launch commit _ _ => exact Mealy.conversation_move (launch_ok ok).1
  | prepareDelegation commit =>
    obtain ⟨_, _, inserted, rfl⟩ := prepareDelegation_ok ok
    obtain ⟨_, _, _, _, _, rfl⟩ := insertDelegationGraph_ok inserted
    exact .same rfl rfl rfl
  | startDelegation commit =>
    obtain ⟨_, leased, same⟩ := bind_eq_ok.mp ok
    cases same
    obtain ⟨_, _, _, _, _, _, _, _, _, rfl⟩ := startDelegationLease_ok leased
    exact .same rfl rfl rfl
  | acquireResourceClaim commit =>
    obtain ⟨_, _, _, _, _, rfl⟩ := acquireResourceClaim_ok.mp ok
    exact .same rfl rfl rfl
  | recordDelegationResult commit =>
    obtain ⟨_, _, _, _, _, _, rfl⟩ := recordDelegationResult_ok ok
    exact .same rfl rfl rfl

/-! ### The numbering of the inbox -/

theorem Store.loadPendingHead_some {sessionId entry} (head : s.loadPendingHead sessionId = some (entryId, entry)) :
    s.inbox.get entryId = some entry ∧ entry.sessionId = sessionId ∧ entry.state = .pending ∧
      ∀ otherId other, s.inbox.get otherId = some other → other.sessionId = sessionId → other.state = .pending →
        entry.sequence ≤ other.sequence := by
  obtain ⟨stored, pending⟩ := (s.inbox.mem_select _ _ _).mp (Table.firstBy_mem head)
  obtain ⟨own, pending⟩ := of_decide_eq_true pending
  refine ⟨stored, own, pending, fun otherId other found ofSession waiting => ?_⟩
  have least := Table.firstBy_least (fun a b => by simp; omega) (fun a b c => by simp; omega) head (otherId, other)
    ((s.inbox.mem_select _ _ _).mpr ⟨found, decide_eq_true ⟨ofSession, waiting⟩⟩)
  exact of_decide_eq_true least

theorem Store.loadAdmission_none {s : Store} {sessionId : SessionId} {dedupeKey : String}
    (unused : s.loadAdmission sessionId dedupeKey = none) {entryId : InboxEntryId} {entry : InboxEntry}
    (found : s.inbox.get entryId = some entry) : ¬ (entry.sessionId = sessionId ∧ entry.dedupeKey = dedupeKey) :=
  of_decide_eq_false (Table.find_none_iff.mp unused entryId entry found)

/-- The entries of a session carry the numbers from one to its counter, each once, and
a dedupe key belongs to one entry. -/
structure InboxValid (s : Store) : Prop where
  counted : ∀ sessionId session, s.sessions.get sessionId = some session → 1 ≤ session.nextInboxSequence
  numbered : ∀ entryId entry, s.inbox.get entryId = some entry → ∃ session,
    s.sessions.get entry.sessionId = some session ∧ 1 ≤ entry.sequence ∧ entry.sequence < session.nextInboxSequence
  complete : ∀ sessionId session n, s.sessions.get sessionId = some session → 1 ≤ n →
    n < session.nextInboxSequence → ∃ entryId entry, s.inbox.get entryId = some entry ∧
      entry.sessionId = sessionId ∧ entry.sequence = n
  distinct : ∀ firstId secondId first second, s.inbox.get firstId = some first → s.inbox.get secondId = some second →
    first.sessionId = second.sessionId → first.sequence = second.sequence → firstId = secondId
  keyed : ∀ firstId secondId first second, s.inbox.get firstId = some first → s.inbox.get secondId = some second →
    first.sessionId = second.sessionId → first.dedupeKey = second.dedupeKey → firstId = secondId

def InboxEntry.SamePlace (entry entry' : InboxEntry) : Prop :=
  entry'.sessionId = entry.sessionId ∧ entry'.sequence = entry.sequence ∧ entry'.dedupeKey = entry.dedupeKey

structure SameEntries (s s' : Store) : Prop where
  before : ∀ entryId entry', s'.inbox.get entryId = some entry' → ∃ entry, s.inbox.get entryId = some entry ∧
    entry.SamePlace entry'
  after : ∀ entryId entry, s.inbox.get entryId = some entry → ∃ entry', s'.inbox.get entryId = some entry' ∧
    entry.SamePlace entry'

theorem SameEntries.of_eq {s s'} (inbox : s'.inbox = s.inbox) : SameEntries s s' :=
  ⟨fun _ entry stored => ⟨entry, by rw [← inbox, stored], rfl, rfl, rfl⟩,
    fun _ entry stored => ⟨entry, by rw [inbox, stored], rfl, rfl, rfl⟩⟩

theorem SameEntries.of_put {s s' entryId entry entry'}
    (inbox : s'.inbox = s.inbox.put entryId entry') (stored : s.inbox.get entryId = some entry)
    (place : entry.SamePlace entry') : SameEntries s s' := by
  unfold InboxEntry.SamePlace at place
  constructor <;> unfold InboxEntry.SamePlace <;> rw [inbox] <;> simp only [Table.get_put] <;> grind

structure SameCounters (s s' : Store) : Prop where
  before : ∀ sessionId session', s'.sessions.get sessionId = some session' → ∃ session,
    s.sessions.get sessionId = some session ∧ session'.nextInboxSequence = session.nextInboxSequence
  after : ∀ sessionId session, s.sessions.get sessionId = some session → ∃ session',
    s'.sessions.get sessionId = some session' ∧ session'.nextInboxSequence = session.nextInboxSequence

theorem SameCounters.of_eq {s s'} (sessions : s'.sessions = s.sessions) : SameCounters s s' :=
  ⟨fun _ session found => ⟨session, by rw [← sessions, found], rfl⟩,
    fun _ session found => ⟨session, by rw [sessions, found], rfl⟩⟩

theorem SameCounters.of_put {s s' sessionId session session'}
    (sessions : s'.sessions = s.sessions.put sessionId session') (found : s.sessions.get sessionId = some session)
    (same : session'.nextInboxSequence = session.nextInboxSequence) : SameCounters s s' := by
  constructor <;> rw [sessions] <;> simp only [Table.get_put] <;> grind

theorem InboxValid.same (valid : InboxValid s) (entries : SameEntries s s')
    (counters : SameCounters s s') : InboxValid s' := by
  obtain ⟨counted, numbered, complete, distinct, keyed⟩ := valid
  obtain ⟨entry, entry'⟩ := entries
  obtain ⟨session, session'⟩ := counters
  unfold InboxEntry.SamePlace at entry entry'
  constructor <;> grind

theorem InboxValid.inserted {session : Session} {entry : InboxEntry}
    (valid : InboxValid s) (inbox : s'.inbox = s.inbox.put entryId entry)
    (sessions : s'.sessions = s.sessions.put entry.sessionId
      { session with nextInboxSequence := session.nextInboxSequence + 1 })
    (found : s.sessions.get entry.sessionId = some session) (fresh : s.inbox.get entryId = none)
    (unused : s.loadAdmission entry.sessionId entry.dedupeKey = none)
    (numbered : entry.sequence = session.nextInboxSequence) : InboxValid s' := by
  have unused (otherId : InboxEntryId) (other : InboxEntry) (stored : s.inbox.get otherId = some other) :=
    Store.loadAdmission_none unused stored
  obtain ⟨counted, numbered', complete, distinct, keyed⟩ := valid
  constructor
  · intro sessionId session' found'
    rw [sessions, Table.get_put] at found'
    grind
  · intro otherId other stored
    rw [inbox, Table.get_put] at stored
    rw [sessions]
    simp only [Table.get_put]
    grind
  · intro sessionId session' n found' positive below
    rw [sessions, Table.get_put] at found'
    rw [inbox]
    simp only [Table.get_put]
    grind
  · intro firstId secondId first second stored stored'
    rw [inbox, Table.get_put] at stored stored'
    grind
  · intro firstId secondId first second stored stored'
    rw [inbox, Table.get_put] at stored stored'
    grind

theorem InboxValid.step (valid : InboxValid s) (move : ConversationMove s s') : InboxValid s' := by
  cases move with
  | same inbox turns sessions => exact valid.same (.of_eq inbox) (.of_eq sessions)
  | created inbox turns sessions fresh idle first =>
    obtain ⟨counted, numbered, complete, distinct, keyed⟩ := valid
    constructor <;> simp only [inbox, sessions, Table.get_put] <;> grind
  | admitted inbox turns sessions found fresh unused numbered pending =>
    exact valid.inserted inbox sessions found fresh unused numbered
  | started turns inbox sessions found idle head fresh canonical active =>
    obtain ⟨stored, _⟩ := Store.loadPendingHead_some head
    exact valid.same (.of_put inbox stored ⟨rfl, rfl, rfl⟩) (.of_put sessions found rfl)
  | steered inbox turns sessions head | interrupting inbox turns sessions head =>
    obtain ⟨stored, _⟩ := Store.loadPendingHead_some head
    exact valid.same (.of_put inbox stored ⟨rfl, rfl, rfl⟩) (.of_eq sessions)
  | interrupted inbox turns sessions found busy carried head =>
    obtain ⟨stored, _⟩ := Store.loadPendingHead_some head
    exact valid.same (.of_put inbox stored ⟨rfl, rfl, rfl⟩) (.of_put sessions found rfl)
  | finished turns inbox sessions found busy carried canonical ended =>
    exact valid.same (.of_eq inbox) (.of_put sessions found rfl)
  | returned turns inbox sessions carried delegated => exact valid.same (.of_eq inbox) (.of_eq sessions)
  | launched turns inbox sessions found own freshEntry unused numbered promoted fresh delegated =>
    rw [← own] at sessions found unused
    exact valid.inserted inbox sessions found freshEntry unused numbered

/-! ### The turns of a session -/

/-- A session names its active canonical turn exactly when there is one. Every canonical
turn consumes an entry of its own, which comes before everything that still waits. -/
structure TurnOrder (s : Store) : Prop where
  homed : ∀ turnId turn, s.turns.get turnId = some turn → ∃ session, s.sessions.get turn.sessionId = some session
  active : ∀ sessionId session turnId, s.sessions.get sessionId = some session →
    (session.activeTurnId = some turnId ↔ ∃ turn, s.turns.get turnId = some turn ∧ turn.sessionId = sessionId ∧
      turn.kind = .canonical ∧ turn.status = .active)
  consumes : ∀ turnId turn, s.turns.get turnId = some turn → turn.kind = .canonical → ∃ entry,
    s.inbox.get turn.inboxEntryId = some entry ∧ entry.sessionId = turn.sessionId ∧ entry.state = .promoted ∧
      ∀ otherId other, s.inbox.get otherId = some other → other.sessionId = turn.sessionId → other.state = .pending →
        entry.sequence < other.sequence
  single : ∀ firstId secondId first second, s.turns.get firstId = some first → s.turns.get secondId = some second →
    first.inboxEntryId = second.inboxEntryId → firstId = secondId

theorem TurnOrder.step (valid : InboxValid s) (order : TurnOrder s) (move : ConversationMove s s') :
    TurnOrder s' := by
  obtain ⟨homed, active, consumes, single⟩ := order
  cases move with
  | same inbox turns sessions => constructor <;> simpa only [inbox, turns, sessions]
  | created inbox turns sessions fresh idle first =>
    constructor <;> simp only [inbox, turns, sessions, Table.get_put] <;> grind
  | admitted inbox turns sessions found fresh unused numbered pending =>
    have below := valid.numbered
    constructor <;> simp only [inbox, turns, sessions, Table.get_put] <;> grind
  | started turns inbox sessions found idle head fresh canonical begun =>
    obtain ⟨stored, own, waiting, least⟩ := Store.loadPendingHead_some head
    obtain ⟨freshId, unshared, alone⟩ := Store.turnIsFresh_iff.mp fresh
    have distinct := valid.distinct
    constructor <;> simp only [inbox, turns, sessions, Table.get_put] <;> grind
  | steered inbox turns sessions head | interrupting inbox turns sessions head =>
    obtain ⟨stored, own, waiting, _⟩ := Store.loadPendingHead_some head
    constructor <;> simp only [inbox, turns, sessions, Table.get_put] <;> grind
  | interrupted inbox turns sessions found busy carried head =>
    obtain ⟨stored, own, waiting, _⟩ := Store.loadPendingHead_some head
    constructor <;> simp only [inbox, turns, sessions, Table.get_put] <;> grind
  | finished turns inbox sessions found busy carried canonical ended =>
    constructor <;> simp only [inbox, turns, sessions, Table.get_put] <;> grind
  | returned turns inbox sessions carried delegated =>
    constructor <;> simp only [inbox, turns, sessions, Table.get_put] <;> grind
  | launched turns inbox sessions found own freshEntry unused numbered promoted fresh delegated =>
    obtain ⟨freshId, unshared, _⟩ := Store.turnIsFresh_iff.mp fresh
    constructor <;> simp only [inbox, turns, sessions, Table.get_put] <;> grind

/-- A step adds one turn at most. A canonical one takes the head of its queue. -/
theorem ConversationMove.fresh (move : ConversationMove s s') {turnId turn} (absent : s.turns.get turnId = none)
    (found : s'.turns.get turnId = some turn) :
    s'.turns = s.turns.put turnId turn ∧ s.turnIsFresh turnId turn = true ∧
      (turn.kind = .canonical → ∃ entry, s.loadPendingHead turn.sessionId = some (turn.inboxEntryId, entry)) := by
  cases move with
  | same _ turns | created _ turns | admitted _ turns | steered _ turns | interrupting _ turns =>
    rw [turns, absent] at found
    cases found
  | started turns _ _ _ _ head fresh =>
    rcases Table.of_get_put (turns ▸ found) with ⟨rfl, rfl⟩ | ⟨_, found⟩
    · exact ⟨turns, fresh, fun _ => ⟨_, head⟩⟩
    · cases absent.symm.trans found
  | launched turns _ _ _ _ _ _ _ _ fresh delegated =>
    rcases Table.of_get_put (turns ▸ found) with ⟨rfl, rfl⟩ | ⟨_, found⟩
    · exact ⟨turns, fresh, fun canonical => nomatch delegated.symm.trans canonical⟩
    · cases absent.symm.trans found
  | interrupted _ turns _ _ _ carried | finished turns _ _ _ _ carried | returned turns _ _ carried =>
    rcases Table.of_get_put (turns ▸ found) with ⟨rfl, _⟩ | ⟨_, found⟩
    · cases absent.symm.trans carried
    · cases absent.symm.trans found

theorem ConversationMove.starts (move : ConversationMove s s') (order : TurnOrder s) {turnId turn}
    (absent : s.turns.get turnId = none) (found : s'.turns.get turnId = some turn)
    (canonical : turn.kind = .canonical) :
    ∃ entry, s.inbox.get turn.inboxEntryId = some entry ∧ entry.sessionId = turn.sessionId ∧ entry.state = .pending ∧
      ∀ earlierId earlier, s.turns.get earlierId = some earlier → earlier.sessionId = turn.sessionId →
        earlier.kind = .canonical → ∃ consumed, s.inbox.get earlier.inboxEntryId = some consumed ∧
          consumed.sequence < entry.sequence := by
  obtain ⟨entry, head⟩ := (move.fresh absent found).2.2 canonical
  obtain ⟨stored, own, waiting, _⟩ := Store.loadPendingHead_some head
  refine ⟨entry, stored, own, waiting, fun earlierId earlier carried ofSession kind => ?_⟩
  obtain ⟨consumed, kept, _, _, before⟩ := order.consumes earlierId earlier carried kind
  exact ⟨consumed, kept, before _ _ stored (own.trans ofSession.symm) waiting⟩

/-! ### What stays -/

theorem ConversationMove.entry_kept (move : ConversationMove s s')
    {entry} (stored : s.inbox.get entryId = some entry) :
    ∃ entry', s'.inbox.get entryId = some entry' ∧ entry.SamePlace entry' ∧
      entry'.deliveryMode = entry.deliveryMode ∧ entry'.content = entry.content := by
  unfold InboxEntry.SamePlace
  cases move with
  | same inbox | created inbox | finished _ inbox | returned _ inbox =>
    exact ⟨entry, by rw [inbox, stored], ⟨rfl, rfl, rfl⟩, rfl, rfl⟩
  | admitted inbox _ _ _ fresh | launched _ inbox _ _ _ fresh =>
    rw [inbox]
    simp only [Table.get_put]
    grind
  | started _ inbox _ _ _ head | steered inbox _ _ head | interrupting inbox _ _ head
  | interrupted inbox _ _ _ _ _ head =>
    obtain ⟨found, _⟩ := Store.loadPendingHead_some head
    rw [inbox]
    simp only [Table.get_put]
    grind

theorem ConversationMove.sessionsKept (move : ConversationMove s s') : SessionsKept s s' := by
  cases move with
  | same _ _ sessions | steered _ _ sessions | interrupting _ _ sessions | returned _ _ sessions =>
    exact .of_eq sessions
  | created _ _ sessions fresh =>
    refine fun otherId other found => ⟨other, ?_, rfl, rfl⟩
    rw [sessions, Table.kept_put_fresh fresh _ _ found]
  | admitted _ _ sessions found | started _ _ sessions found | interrupted _ _ sessions found
  | finished _ _ sessions found | launched _ _ sessions found => exact .of_put found sessions ⟨rfl, rfl⟩

/-! ### The order of the canonical turns -/

def Store.Precedes (s : Store) (first second : Turn) : Prop :=
  ∃ entry entry', s.inbox.get first.inboxEntryId = some entry ∧ s.inbox.get second.inboxEntryId = some entry' ∧
    entry.sequence < entry'.sequence

theorem Store.Precedes.asymm (before : s.Precedes first second) :
    ¬ s.Precedes second first := by
  unfold Store.Precedes at *
  grind

def Turn.SameWork (turn turn' : Turn) : Prop :=
  turn'.sessionId = turn.sessionId ∧ turn'.runId = turn.runId ∧ turn'.inboxEntryId = turn.inboxEntryId ∧
    turn'.kind = turn.kind

theorem ConversationMove.turn_kept (move : ConversationMove s s') {turnId turn}
    (stored : s.turns.get turnId = some turn) :
    ∃ turn', s'.turns.get turnId = some turn' ∧ turn.SameWork turn' ∧
      (turn.kind = .canonical → turn'.status = .active → turn.status = .active) := by
  unfold Turn.SameWork
  cases move with
  | same _ turns | created _ turns | admitted _ turns | steered _ turns | interrupting _ turns =>
    exact ⟨turn, by rw [turns, stored], ⟨rfl, rfl, rfl, rfl⟩, fun _ active => active⟩
  | started turns _ _ _ _ _ fresh | launched turns _ _ _ _ _ _ _ _ fresh =>
    obtain ⟨freshId, _⟩ := Store.turnIsFresh_iff.mp fresh
    rw [turns]
    simp only [Table.get_put]
    grind
  | interrupted _ turns _ _ _ carried | finished turns _ _ _ _ carried | returned turns _ _ carried =>
    rw [turns]
    simp only [Table.get_put]
    grind

theorem ConversationMove.turn_before (move : ConversationMove s s') {turnId turn'}
    (stored : s'.turns.get turnId = some turn') :
    (∃ turn, s.turns.get turnId = some turn) ∨
      s.turns.get turnId = none ∧ ∀ otherId other, s.turns.get otherId = some other → other.runId ≠ turn'.runId := by
  cases found : s.turns.get turnId with
  | some turn => exact .inl ⟨turn, rfl⟩
  | none =>
    obtain ⟨_, fresh, _⟩ := move.fresh found stored
    exact .inr ⟨rfl, fun otherId other known => ((Store.turnIsFresh_iff.mp fresh).2.1 otherId other known).2.2⟩

theorem ConversationMove.starts_alone (move : ConversationMove s s') {firstId secondId}
    (absent : s.turns.get firstId = none) (absent' : s.turns.get secondId = none)
    (stored : s'.turns.get firstId = some first) (stored' : s'.turns.get secondId = some second) :
    firstId = secondId := by
  obtain ⟨turns, _⟩ := move.fresh absent stored
  rcases Table.of_get_put (turns ▸ stored') with ⟨same, _⟩ | ⟨_, found⟩
  · exact same.symm
  · cases absent'.symm.trans found

theorem ConversationMove.starts_idle (move : ConversationMove s s') {firstId secondId}
    (absent : s.turns.get firstId = none) (stored : s'.turns.get firstId = some first)
    (canonical : first.kind = .canonical) (found : s.turns.get secondId = some second)
    (canonical' : second.kind = .canonical) (ofSession : second.sessionId = first.sessionId) :
    second.status ≠ .active := by
  obtain ⟨_, fresh, _⟩ := move.fresh absent stored
  obtain ⟨_, _, alone⟩ := Store.turnIsFresh_iff.mp fresh
  exact fun active => alone canonical secondId second found ofSession active canonical'

theorem ConversationMove.precedes_iff (move : ConversationMove s s') {first' second'}
    (firstInput : ∃ entry, s.inbox.get first.inboxEntryId = some entry)
    (secondInput : ∃ entry, s.inbox.get second.inboxEntryId = some entry)
    (sameFirst : first'.inboxEntryId = first.inboxEntryId) (sameSecond : second'.inboxEntryId = second.inboxEntryId) :
    s'.Precedes first' second' ↔ s.Precedes first second := by
  obtain ⟨entry, stored⟩ := firstInput
  obtain ⟨entry', stored'⟩ := secondInput
  obtain ⟨kept, found, ⟨_, number, _⟩, _⟩ := move.entry_kept stored
  obtain ⟨kept', found', ⟨_, number', _⟩, _⟩ := move.entry_kept stored'
  unfold Store.Precedes
  rw [sameFirst, sameSecond, found, found', stored, stored']
  grind

def ActiveTurnsLast (s : Store) : Prop :=
  ∀ firstId secondId first second, s.turns.get firstId = some first → s.turns.get secondId = some second →
    first.sessionId = second.sessionId → first.kind = .canonical → second.kind = .canonical →
    second.status = .active → firstId ≠ secondId → s.Precedes first second

theorem ActiveTurnsLast.step (last : ActiveTurnsLast s) (order : TurnOrder s)
    (move : ConversationMove s s') : ActiveTurnsLast s' := by
  intro firstId secondId first' second' stored stored' ofSession canonical canonical' active different
  cases found : s.turns.get secondId with
  | none =>
    -- the second turn starts now, behind every canonical turn of its session
    obtain ⟨entry, input, _, _, behind⟩ := move.starts order found stored' canonical'
    cases before : s.turns.get firstId with
    | none =>
      exact absurd (move.starts_alone before found stored stored') different
    | some first =>
      obtain ⟨_, same, work, _⟩ := move.turn_kept before
      cases stored.symm.trans same
      obtain ⟨consumed, input', smaller⟩ :=
        behind firstId first before (work.1.symm.trans ofSession) (work.2.2.2.symm.trans canonical)
      exact (move.precedes_iff ⟨consumed, input'⟩ ⟨entry, input⟩ work.2.2.1 rfl).mpr
        ⟨consumed, entry, input', input, smaller⟩
  | some second =>
    obtain ⟨_, same, ⟨session, _, input, kind⟩, began⟩ := move.turn_kept found
    rw [stored'] at same
    cases same
    rw [kind] at canonical'
    have running := began canonical' active
    cases before : s.turns.get firstId with
    | none =>
      exact absurd running (move.starts_idle before stored canonical found canonical' (ofSession.trans session).symm)
    | some first =>
      obtain ⟨_, same, work, _⟩ := move.turn_kept before
      cases stored.symm.trans same
      rw [work.2.2.2] at canonical
      have ofSession : first.sessionId = second.sessionId := by rw [← work.1, ofSession, session]
      obtain ⟨entry, consumed, _⟩ := order.consumes firstId first before canonical
      obtain ⟨entry', consumed', _⟩ := order.consumes secondId second found canonical'
      exact (move.precedes_iff ⟨entry, consumed⟩ ⟨entry', consumed'⟩ work.2.2.1 input).mpr
        (last _ _ _ _ before found ofSession canonical canonical' running different)

structure ConversationValid (s : Store) : Prop where
  inbox : InboxValid s
  order : TurnOrder s
  last : ActiveTurnsLast s

theorem ConversationValid.step {s s'} (valid : ConversationValid s) (move : ConversationMove s s') :
    ConversationValid s' :=
  ⟨valid.inbox.step move, valid.order.step valid.inbox move, valid.last.step valid.order move⟩

theorem conversation_valid {s : Store} (reached : s.Reachable) : ConversationValid s := by
  have start : ConversationValid storeSystem.initial := by
    refine ⟨?_, ?_, ?_⟩
    · constructor <;> simp [storeSystem]
    · constructor <;> simp [storeSystem]
    · simp [ActiveTurnsLast, storeSystem]
  exact reached.invariant start fun _ _ _ valid _ step =>
    valid.step (conversation_move (Operation.exec_eq_ok.mp step).2)

end Mealy
