import Mealy.Proofs.FollowUps
import Mealy.Store.Promotion

/-! Interrupting the active turn of a session. A promotion accepts an interrupt before the
first claim of a run and while it runs; in the other states that releases, recovery, parking
and task control leave behind it fails. -/

namespace Mealy
open Relational Transaction EventLog

/-- An interrupt waits at the head of the queue, behind an active turn that is live. -/
structure InterruptWaits (s : Store) (sessionId : SessionId) (session : Session) (entryId : InboxEntryId)
    (entry : InboxEntry) (turnId : TurnId) (turn : Turn) (task : Task) (run : Run) : Prop where
  owner : s.sessions.get sessionId = some session
  active : session.activeTurnId = some turnId
  carried : s.turns.get turnId = some turn
  ofTask : s.tasks.get turn.taskId = some task
  ofRun : s.runs.get turn.runId = some run
  unfinished : task.status.isTerminal = false
  live : run.status.isLive = true
  head : s.loadPendingHead sessionId = some (entryId, entry)
  mode : entry.deliveryMode = .interruptThenQueue
  unrequested : entry.interruptRequestedAt = none

/-- The run was never claimed, and the clock has not gone back before its creation; or it is running. -/
def InterruptTaken (commit : PromotionCommit) (turn : Turn) (task : Task) (run : Run) : Prop :=
  (run.status = .queued ∧ task.status = .queued ∧ run.currentFencingToken + 1 ≤ maximumI64 ∧
    run.createdAt ≤ commit.promotedAt ∧ turn.createdAt ≤ commit.promotedAt) ∨
  (run.status = .running ∧ task.status = .running)

/-- The identities of the commit are new, and the timeline has room for its events. -/
structure InterruptRecorded (s : JournaledStore) (reserved : Reserved) (delivery : Delivery) : Prop where
  distinct : [reserved.event .promotion, reserved.event .task, reserved.event .run].Nodup
  events : ∀ eventId ∈ [reserved.event .promotion, reserved.event .task, reserved.event .run],
    ∀ other ∈ s.journal.events, other.eventId ≠ eventId
  room : s.journal.lastCursor + 3 ≤ maximumI64
  outbox : s.outbox.get delivery.outboxId = none

section
variable {s : JournaledStore} {commit : PromotionCommit} {session : Session} {entryId : InboxEntryId} {entry : InboxEntry}
  {turnId : TurnId} {turn : Turn} {task : Task} {run : Run}

theorem InterruptWaits.loaded {s} (reached : s.Reachable)
    (waits : InterruptWaits s commit.sessionId session entryId entry turnId turn task run) :
    s.loadActive turnId = .ok { turnId, turn, task, run } := by
  obtain ⟨owner, active, found, taskFound, runFound, _, _, _, _, _⟩ := waits
  obtain ⟨turn', found', _, _, status⟩ := ((conversation_valid reached).order.active _ _ _ owner).mp active
  rw [found] at found'
  cases found'
  obtain ⟨run', runFound', ofTask, _⟩ := (workGraph reached).turns.run turnId turn found
  rw [runFound] at runFound'
  cases runFound'
  simp only [Store.loadActive, found, taskFound, runFound, ofTask, status, require, ok_bind]
  rfl

theorem InterruptWaits.unmarked {s} (reached : s.Reachable)
    (waits : InterruptWaits s commit.sessionId session entryId entry turnId turn task run)
    (running : task.status = .running) : run.cancellationRequestedAt = none := by
  obtain ⟨run', runFound', ofTask, _⟩ := (workGraph reached).turns.run turnId turn waits.carried
  rw [waits.ofRun] at runFound'
  cases runFound'
  obtain ⟨task', taskFound', _, marked⟩ := (workGraph reached).paired.task _ run waits.ofRun
  rw [ofTask, waits.ofTask] at taskFound'
  cases taskFound'
  have mark := marked waits.live
  rw [running] at mark
  simpa using mark

theorem InterruptWaits.promotes {s} (reached : s.Reachable)
    (waits : InterruptWaits s commit.sessionId session entryId entry turnId turn task run) :
    (∃ s', promoteNext commit s = .ok s') ↔ session.ownedBy commit.ownership = true ∧ InterruptTaken commit turn task run := by
  have loaded := waits.loaded reached
  have unmarked := waits.unmarked reached
  obtain ⟨owner, active, found, taskFound, runFound, _, _, head, mode, unrequested⟩ := waits
  have interrupts (s' : Store) : promoteNext commit s = .ok s' ↔ session.ownedBy commit.ownership = true ∧
      interruptActive commit entryId entry session { turnId, turn, task, run } s = .ok s' := by
    simp only [promoteNext, owner, head, active, mode, unrequested, loaded, require, ok_bind, eq_ok, Option.isSome_none, Bool.false_eq_true, if_false]
    exact exists_const _
  simp only [interrupts, exists_and_left]
  refine and_congr_right fun _ => ?_
  unfold interruptActive InterruptTaken
  constructor
  · rintro ⟨s', interrupted⟩
    split at interrupted
    next queued queued' =>
      simp only [eq_ok, nextToken_eq_ok] at interrupted
      obtain ⟨_, ⟨room, _⟩, _, timely, _⟩ := interrupted
      exact .inl ⟨queued, queued', room, timely⟩
    next running running' => exact .inr ⟨running, running'⟩
    next => cases interrupted
  · rintro (⟨queued, queued', room, timely⟩ | ⟨running, running'⟩)
    · simp only [queued, queued', eq_ok, nextToken_eq_ok]
      exact ⟨_, _, ⟨room, rfl⟩, (), timely, rfl⟩
    · simp only [running, running', eq_ok]
      exact ⟨_, (), unmarked running', rfl⟩

theorem InterruptWaits.outcome {s}
    (waits : InterruptWaits s commit.sessionId session entryId entry turnId turn task run) (cursor) :
    commit.outcome s cursor = .interruptRequested
      { sessionId := commit.sessionId, inboxEntryId := entryId, inboxSequence := entry.sequence, turnId,
        runId := turn.runId, cursor, cancelledBeforeClaim := run.status = .queued } := by
  obtain ⟨owner, active, found, _, runFound, _, _, head, mode, unrequested⟩ := waits
  simp [PromotionCommit.outcome, head, owner, active, mode, found, unrequested, runFound]

theorem InterruptWaits.recorded {reserved delivery} (valid : s.journal.Valid)
    (waits : InterruptWaits s.core commit.sessionId session entryId entry turnId turn task run) :
    ((∃ journal, s.journal.appendAll maximumI64 (commit.entries reserved s.core) = .ok journal) ∧
      ∃ outbox, JournaledStore.publish delivery.outboxId (commit.topic s.core) s.outbox = .ok outbox) ↔
      InterruptRecorded s reserved delivery := by
  obtain ⟨owner, active, found, _, _, _, _, head, mode, unrequested⟩ := waits
  have entries : ∃ taskType runType, commit.entries reserved s.core =
      [appendNext (reserved.event .promotion) (.session commit.sessionId) "input.interrupt_requested",
       appendNext (reserved.event .task) (.task turn.taskId) taskType,
       appendNext (reserved.event .run) (.run turn.runId) runType] := by
    simp only [PromotionCommit.entries, head, owner, active, mode, found, unrequested, Option.bind_some,
      Option.isSome_none, Bool.false_eq_true, if_false]
    exact ⟨_, _, rfl⟩
  have topic : commit.topic s.core = some "session.interrupt_requested" := by
    simp [PromotionCommit.topic, head, owner, active, mode, unrequested]
  obtain ⟨taskType, runType, listed⟩ := entries
  rw [listed, topic, Log.appendAll_next_iff valid (by simp [appendNext])]
  simp only [JournaledStore.publish, insertOutbox, eq_ok]
  constructor
  · rintro ⟨⟨distinct, fresh, room⟩, _, _, unused, _⟩
    exact ⟨distinct, by simpa [appendNext] using fresh, room (List.cons_ne_nil _ _), unused⟩
  · rintro ⟨distinct, fresh, room, unused⟩
    exact ⟨⟨distinct, by simpa [appendNext] using fresh, fun _ => room⟩, _, (), unused, rfl⟩

end

/-- In every run: an interrupt at the head of the queue of a session with a live active turn is
accepted exactly when the owner asks, the run was never claimed or is running, and the
identities of the commit are new. -/
theorem interrupt_accepted_iff {functions : Context.CompactionFunctions} {s : Context.HistoryStore}
    (reached : (Context.historySystem functions).Reachable s) {commit : PromotionCommit} {session : Session}
    {entryId : InboxEntryId} {entry : InboxEntry} {turnId : TurnId} {turn : Turn} {task : Task} {run : Run}
    (waits : InterruptWaits s.core commit.sessionId session entryId entry turnId turn task run)
    (ceiling : CapabilityGrant) (reserved : Reserved) (delivery : Delivery) :
    (∃ receipt s', s.base.promoteNext commit ceiling reserved delivery = .ok (.interruptRequested receipt, s')) ↔
      session.ownedBy commit.ownership = true ∧ InterruptTaken commit turn task run ∧
        InterruptRecorded s.base reserved delivery := by
  have valid := Context.history_valid reached
  rw [← and_assoc, ← waits.promotes valid.core, ← waits.recorded valid.journal]
  constructor
  · rintro ⟨receipt, s', promoted⟩
    obtain ⟨after, committed, _⟩ := bind_eq_ok.mp promoted
    simp only [journaled, bind_eq_ok, Journal.record_ok] at committed
    obtain ⟨store, stepped, _, _, journal, recorded, outbox, published, _⟩ := committed
    exact ⟨⟨store.core, (promote_ok stepped).1⟩, ⟨journal, recorded⟩, ⟨outbox, published⟩⟩
  · rintro ⟨⟨core, stepped⟩, ⟨journal, recorded⟩, outbox, published⟩
    obtain ⟨store, stored⟩ : ∃ store, DelegationOperation.transaction (.promote commit ceiling) s.base.store = .ok store := by
      simp only [DelegationOperation.transaction, eq_ok]
      exact ⟨_, core, stepped, rfl⟩
    have committed : journaled (.promote commit ceiling) reserved delivery s.base =
        .ok { s.base with store, journal, outbox } := by
      simp only [journaled, eq_ok, Journal.record_ok]
      exact ⟨store, stored, _, rfl, journal, recorded, outbox, published, rfl⟩
    have answered : s.base.promoteNext commit ceiling reserved delivery =
        .ok (commit.outcome s.core journal.lastCursor, { s.base with store, journal, outbox }) := by
      rw [JournaledStore.promoteNext, committed]
      rfl
    rw [waits.outcome] at answered
    exact ⟨_, _, answered⟩

/-! ### Running and released -/

/-- The first input is promoted and claimed; an interrupt is admitted behind it. -/
def runningInterrupt (between : List Context.HistoryOperation) : List Context.HistoryOperation :=
  Context.answeredModel.take 4 ++ between ++
  [.journal (.admitInput ⟨⟨⟨0⟩, sampleOwner, ⟨1⟩, "stop", .interruptThenQueue, "stop", 22⟩, .inheritSession, ⟨2⟩, ⟨1⟩, ⟨1⟩, 0⟩)
     rfl]

def releaseRun : Context.HistoryOperation :=
  .journal (.store (.daemon (.release ⟨sampleFence, 21⟩) rfl) rfl (Context.reservedAt 4) (Context.deliveryAt 4)) rfl

def interruptCommit : PromotionCommit := ⟨⟨0⟩, sampleOwner, ⟨1⟩, ⟨1⟩, ⟨1⟩, .named "assistant", false, 23⟩

abbrev busySession : Session := ⟨⟨0⟩, ⟨0⟩, some ⟨0⟩, 3⟩
abbrev stopEntry : InboxEntry := ⟨⟨0⟩, 2, "stop", .interruptThenQueue, "stop", .pending, none, none⟩
abbrev startedTask : Task := ⟨.running, 1, false, none⟩
abbrev startedRun (status : RunStatus) (token : Nat) : Run := ⟨⟨0⟩, .named "assistant", status, token, none, none, 10⟩

def waitsBehind (status : RunStatus) (token : Nat) (s : Store) : Prop :=
  s.sessions.get ⟨0⟩ = some busySession ∧ s.turns.get ⟨0⟩ = some (Context.turnAt 0 .active) ∧
    s.tasks.get ⟨0⟩ = some startedTask ∧ s.runs.get ⟨0⟩ = some (startedRun status token) ∧
    s.loadPendingHead ⟨0⟩ = some (⟨1⟩, stopEntry)

instance (status : RunStatus) (token : Nat) : DecidablePred (waitsBehind status token) := fun s => by
  unfold waitsBehind
  infer_instance

theorem waitsBehind_waits {status token s} (waits : waitsBehind status token s) (live : status.isLive = true) :
    InterruptWaits s interruptCommit.sessionId busySession ⟨1⟩ stopEntry ⟨0⟩ (Context.turnAt 0 .active) startedTask
      (startedRun status token) := by
  obtain ⟨session, turn, task, run, head⟩ := waits
  exact ⟨session, rfl, turn, task, run, rfl, live, head, rfl, rfl⟩

instance (s : JournaledStore) (reserved : Reserved) (delivery : Delivery) : Decidable (InterruptRecorded s reserved delivery) :=
  decidable_of_iff (_ ∧ _ ∧ _ ∧ _) ⟨fun ⟨distinct, events, room, outbox⟩ => ⟨distinct, events, room, outbox⟩,
    fun ⟨distinct, events, room, outbox⟩ => ⟨distinct, events, room, outbox⟩⟩

theorem interrupt_accepted_running :
    ∃ (s : Context.HistoryStore) (turn : Turn) (task : Task) (run : Run) (receipt : InterruptionReceipt) (s' : JournaledStore),
      (Context.historySystem Context.sampleCompactions).Reachable s ∧
      InterruptWaits s.core ⟨0⟩ busySession ⟨1⟩ stopEntry ⟨0⟩ turn task run ∧
      s.base.promoteNext interruptCommit {} (Context.reservedAt 9) (Context.deliveryAt 9) =
        .ok (.interruptRequested receipt, s') := by
  obtain ⟨s, reached, waits, recorded⟩ : ∃ s, (Context.historySystem Context.sampleCompactions).Reachable s ∧
      waitsBehind .running 1 s.core ∧ InterruptRecorded s.base (Context.reservedAt 9) (Context.deliveryAt 9) :=
    System.exists_reachableIf (runningInterrupt []) (by decide +kernel)
  have waiting := waitsBehind_waits waits rfl
  obtain ⟨receipt, s', promoted⟩ := (interrupt_accepted_iff reached waiting {} (Context.reservedAt 9)
    (Context.deliveryAt 9)).mpr ⟨rfl, .inr ⟨rfl, rfl⟩, recorded⟩
  exact ⟨s, _, _, _, receipt, s', reached, waiting, promoted⟩

/-- After its lease was released, the live run cannot be interrupted: the promotion fails. -/
theorem released_turn_is_not_interrupted :
    ∃ (s : Context.HistoryStore) (turn : Turn) (task : Task) (run : Run),
      (Context.historySystem Context.sampleCompactions).Reachable s ∧
      InterruptWaits s.core ⟨0⟩ busySession ⟨1⟩ stopEntry ⟨0⟩ turn task run ∧ run.status = .queued ∧
      task.status = .running ∧ busySession.ownedBy interruptCommit.ownership = true ∧
      InterruptRecorded s.base (Context.reservedAt 9) (Context.deliveryAt 9) ∧
      s.base.promoteNext interruptCommit {} (Context.reservedAt 9) (Context.deliveryAt 9) =
        .error (.invariantViolation "active turn cannot accept an interrupt in its current state") := by
  obtain ⟨s, reached, waits, recorded, failed⟩ : ∃ s, (Context.historySystem Context.sampleCompactions).Reachable s ∧
      waitsBehind .queued 2 s.core ∧ InterruptRecorded s.base (Context.reservedAt 9) (Context.deliveryAt 9) ∧
      (s.base.promoteNext interruptCommit {} (Context.reservedAt 9) (Context.deliveryAt 9)).map Prod.fst =
        .error (.invariantViolation "active turn cannot accept an interrupt in its current state") :=
    System.exists_reachableIf (runningInterrupt [releaseRun]) (by decide +kernel)
  refine ⟨s, _, _, _, reached, waitsBehind_waits waits rfl, rfl, rfl, rfl, recorded, ?_⟩
  cases promoted : s.base.promoteNext interruptCommit {} (Context.reservedAt 9) (Context.deliveryAt 9) with
  | error e => simpa [promoted, Except.map] using failed
  | ok _ => simp [promoted, Except.map] at failed

end Mealy
