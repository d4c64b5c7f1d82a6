import Mealy.Store.Schema

/-! Session creation, input admission and inbox promotion (`sessions.rs`,
`promotion.rs`). Promotion starts the work graph of a turn, attaches a steering
input to the active run, or interrupts the active run. -/

namespace Mealy
open Relational Transaction

variable {s s' : Store} {commit : PromotionCommit} {entryId : InboxEntryId}

structure SessionCreationCommit where
  sessionId : SessionId
  ownership : OwnershipContext

def createSession (commit : SessionCreationCommit) (s : Store) : Txn := do
  ensure (s.sessions.get commit.sessionId = none) .conflict
  pure { s with
    sessions := s.sessions.put commit.sessionId
      { principalId := commit.ownership.principalId,
        channelBindingId := commit.ownership.channelBindingId,
        activeTurnId := none, nextInboxSequence := 1 } }

def Session.ownedBy (session : Session) (ownership : OwnershipContext) : Bool :=
  session.principalId = ownership.principalId ∧ session.channelBindingId = ownership.channelBindingId

theorem Session.ownedBy_unique {session : Session} {first second : OwnershipContext}
    (byFirst : session.ownedBy first = true) (bySecond : session.ownedBy second = true) : first = second := by
  simp only [ownedBy, decide_eq_true_eq] at byFirst bySecond
  obtain ⟨principal, channel⟩ := byFirst
  cases first
  cases second
  simp_all

structure InputAdmissionCommit where
  sessionId : SessionId
  ownership : OwnershipContext
  inboxEntryId : InboxEntryId
  dedupeKey : String
  deliveryMode : DeliveryMode
  content : String
  maximumPendingInputs : Nat

def Store.loadAdmission (s : Store) (sessionId : SessionId) (dedupeKey : String) :
    Option (InboxEntryId × InboxEntry) :=
  s.inbox.find fun _ entry => entry.sessionId = sessionId ∧ entry.dedupeKey = dedupeKey

def Store.pendingInputs (s : Store) (sessionId : SessionId) : Nat :=
  s.inbox.count fun _ entry => entry.sessionId = sessionId ∧ entry.state = .pending

def admitInput (commit : InputAdmissionCommit) (s : Store) : Txn := do
  let session ← require (s.sessions.get commit.sessionId) .notFound
  ensure (session.ownedBy commit.ownership) .unauthorized
  match s.loadAdmission commit.sessionId commit.dedupeKey with
  | some (_, stored) =>
    -- An exact repeat returns the recorded admission and writes nothing.
    ensure (stored.deliveryMode = commit.deliveryMode ∧ stored.content = commit.content)
      .idempotencyConflict
    pure s
  | none =>
    ensure (s.pendingInputs commit.sessionId < commit.maximumPendingInputs) .backpressure
    ensure (s.inbox.get commit.inboxEntryId = none) .conflict
    ensure (commit.dedupeKey ≠ "" ∧ commit.content ≠ "") .conflict
    pure { s with
      inbox := s.inbox.put commit.inboxEntryId
        { sessionId := commit.sessionId, sequence := session.nextInboxSequence,
          dedupeKey := commit.dedupeKey, deliveryMode := commit.deliveryMode,
          content := commit.content, state := .pending, promotedTurnId := none,
          interruptRequestedAt := none },
      sessions := s.sessions.put commit.sessionId
        { session with nextInboxSequence := session.nextInboxSequence + 1 } }

structure PromotionCommit where
  sessionId : SessionId
  ownership : OwnershipContext
  turnId : TurnId
  taskId : TaskId
  runId : RunId
  initialAgentRole : AgentRole
  validationRequired : Bool
  promotedAt : Millis

def Store.loadPendingHead (s : Store) (sessionId : SessionId) : Option (InboxEntryId × InboxEntry) :=
  Table.firstBy (fun a b => a.2.sequence ≤ b.2.sequence)
    (s.inbox.select fun _ entry => entry.sessionId = sessionId ∧ entry.state = .pending)

/-- `ActiveRow`: the turn a session is busy with, its task and its run. -/
structure ActiveRow where
  turnId : TurnId
  turn : Turn
  task : Task
  run : Run

def Store.loadActive (s : Store) (turnId : TurnId) : Except StoreError ActiveRow := do
  let missing : StoreError := .invariantViolation "session active turn graph is missing or terminal"
  let turn ← require (s.turns.get turnId) missing
  let task ← require (s.tasks.get turn.taskId) missing
  let run ← require (s.runs.get turn.runId) missing
  ensure (run.taskId = turn.taskId ∧ turn.status = .active) missing
  pure { turnId, turn, task, run }

/-- The uniqueness constraints of the `turn` table. -/
def Store.turnIsFresh (s : Store) (turnId : TurnId) (turn : Turn) : Bool :=
  (s.turns.get turnId).isNone ∧
  !(s.turns.any fun _ other =>
    other.inboxEntryId = turn.inboxEntryId ∨ other.taskId = turn.taskId ∨ other.runId = turn.runId) ∧
  (turn.kind = .canonical →
    !(s.turns.any fun _ other =>
      other.sessionId = turn.sessionId ∧ other.status = .active ∧ other.kind = .canonical))

def steerActive (commit : PromotionCommit) (entryId : InboxEntryId) (entry : InboxEntry)
    (active : ActiveRow) (s : Store) : Txn := do
  ensure active.run.status.isLive (.invariantViolation "steering target run is terminal")
  ensure (s.runInputs.get entryId = none ∧
      !(s.runInputs.any fun _ row =>
        row.runId = active.turn.runId ∧ row.inboxSequence = entry.sequence)) .conflict
  pure { s with
    runInputs := s.runInputs.put entryId
      { runId := active.turn.runId, inboxSequence := entry.sequence, state := .pending,
        attachedAt := commit.promotedAt },
    inbox := s.inbox.put entryId
      { entry with state := .promoted, promotedTurnId := some active.turnId } }

def interruptActive (commit : PromotionCommit) (entryId : InboxEntryId) (entry : InboxEntry)
    (session : Session) (active : ActiveRow) (s : Store) : Txn := do
  let inbox := s.inbox.put entryId { entry with interruptRequestedAt := some commit.promotedAt }
  match active.run.status, active.task.status with
  | .queued, .queued =>
    let next ← nextToken active.run.currentFencingToken "interrupt fencing token overflow"
    -- `completed_at_ms >= created_at_ms` of the run and of the turn.
    ensure (active.run.createdAt ≤ commit.promotedAt ∧ active.turn.createdAt ≤ commit.promotedAt)
      .conflict
    pure { s with
      inbox,
      runs := s.runs.put active.turn.runId
        { active.run with
          status := .cancelled, currentFencingToken := next,
          cancellationRequestedAt := some commit.promotedAt },
      tasks := s.tasks.put active.turn.taskId
        { active.task with status := .cancelled, revision := active.task.revision + 1 },
      sessions := s.sessions.put commit.sessionId { session with activeTurnId := none },
      turns := s.turns.put active.turnId { active.turn with status := .cancelled } }
  | .running, .running =>
    ensure (active.run.cancellationRequestedAt = none) .conflict
    pure { s with
      inbox,
      runs := s.runs.put active.turn.runId
        { active.run with cancellationRequestedAt := some commit.promotedAt },
      tasks := s.tasks.put active.turn.taskId
        { active.task with status := .cancelling, revision := active.task.revision + 1 } }
  | _, _ =>
    .error (.invariantViolation "active turn cannot accept an interrupt in its current state")

def insertWorkGraph (commit : PromotionCommit) (entryId : InboxEntryId) (entry : InboxEntry)
    (session : Session) (s : Store) : Txn := do
  let turn : Turn :=
    { sessionId := commit.sessionId, inboxEntryId := entryId, taskId := commit.taskId,
      runId := commit.runId, kind := .canonical, status := .active, createdAt := commit.promotedAt }
  ensure (s.tasks.get commit.taskId = none ∧ s.runs.get commit.runId = none) .conflict
  ensure (s.turnIsFresh commit.turnId turn) .conflict
  pure { s with
    tasks := s.tasks.put commit.taskId
      { status := .queued, revision := 0, validationRequired := commit.validationRequired,
        validationId := none },
    runs := s.runs.put commit.runId
      { taskId := commit.taskId, agentRole := commit.initialAgentRole, status := .queued,
        currentFencingToken := 0, cancellationRequestedAt := none, nextAttemptAt := none,
        createdAt := commit.promotedAt },
    turns := s.turns.put commit.turnId turn,
    inbox := s.inbox.put entryId
      { entry with state := .promoted, promotedTurnId := some commit.turnId },
    sessions := s.sessions.put commit.sessionId { session with activeTurnId := some commit.turnId } }

def promoteNext (commit : PromotionCommit) (s : Store) : Txn := do
  let session ← require (s.sessions.get commit.sessionId) .notFound
  ensure (session.ownedBy commit.ownership) .unauthorized
  match s.loadPendingHead commit.sessionId with
  | none => pure s
  | some (entryId, entry) =>
    match session.activeTurnId with
    | none => insertWorkGraph commit entryId entry session s
    | some activeTurnId =>
      match entry.deliveryMode with
      | .queue => pure s
      | .steerAtBoundary =>
        let active ← s.loadActive activeTurnId
        steerActive commit entryId entry active s
      | .interruptThenQueue =>
        if entry.interruptRequestedAt.isSome then pure s
        else
          let active ← s.loadActive activeTurnId
          interruptActive commit entryId entry session active s

/-! ### Committed transactions -/

theorem createSession_ok {commit} (ok : createSession commit s = .ok s') :
    s.sessions.get commit.sessionId = none ∧
      ∃ session : Session, session.activeTurnId = none ∧
        s' = { s with sessions := s.sessions.put commit.sessionId session } := by
  simp only [createSession, eq_ok] at ok
  obtain ⟨_, fresh, rfl⟩ := ok
  exact ⟨fresh, _, rfl, rfl⟩

theorem admitInput_ok {commit} (ok : admitInput commit s = .ok s') :
    s' = s ∨ ∃ session entry, s.sessions.get commit.sessionId = some session ∧
      s.inbox.get commit.inboxEntryId = none ∧
      s' = { s with
        inbox := s.inbox.put commit.inboxEntryId entry,
        sessions := s.sessions.put commit.sessionId
          { session with nextInboxSequence := session.nextInboxSequence + 1 } } := by
  simp only [admitInput, eq_ok] at ok
  obtain ⟨session, found, _, _, ok⟩ := ok
  split at ok
  · simp only [eq_ok] at ok
    obtain ⟨_, _, rfl⟩ := ok
    exact .inl rfl
  · simp only [eq_ok] at ok
    obtain ⟨_, _, _, fresh, _, _, rfl⟩ := ok
    exact .inr ⟨session, _, found, fresh, rfl⟩

theorem Store.turnIsFresh_iff {turnId turn} :
    s.turnIsFresh turnId turn = true ↔ s.turns.get turnId = none ∧
      (∀ otherId other, s.turns.get otherId = some other →
        other.inboxEntryId ≠ turn.inboxEntryId ∧ other.taskId ≠ turn.taskId ∧ other.runId ≠ turn.runId) ∧
      (turn.kind = .canonical → ∀ otherId other, s.turns.get otherId = some other →
        other.sessionId = turn.sessionId → other.status = .active → other.kind ≠ .canonical) := by
  simp [turnIsFresh, Table.any_eq_false]
  exact fun _ _ => imp_iff_not_or.symm

theorem Store.loadActive_ok {turnId active} (loaded : s.loadActive turnId = .ok active) :
    active.turnId = turnId ∧ s.turns.get turnId = some active.turn ∧
      s.tasks.get active.turn.taskId = some active.task ∧ s.runs.get active.turn.runId = some active.run ∧
      active.run.taskId = active.turn.taskId := by
  simp only [loadActive, eq_ok] at loaded
  obtain ⟨turn, turnFound, task, taskFound, run, runFound, _, ⟨ofTask, _⟩, rfl⟩ := loaded
  exact ⟨rfl, turnFound, taskFound, runFound, ofTask⟩

theorem steerActive_ok {entry active} (ok : steerActive commit entryId entry active s = .ok s') :
    active.run.status.isLive ∧
      s' = { s with
        runInputs := s.runInputs.put entryId
          { runId := active.turn.runId, inboxSequence := entry.sequence, state := .pending,
            attachedAt := commit.promotedAt },
        inbox := s.inbox.put entryId
          { entry with state := .promoted, promotedTurnId := some active.turnId } } := by
  simp only [steerActive, eq_ok] at ok
  obtain ⟨_, live, _, _, rfl⟩ := ok
  exact ⟨live, rfl⟩

theorem interruptActive_ok {entry session active}
    (ok : interruptActive commit entryId entry session active s = .ok s') :
    ∃ inbox,
      (active.run.status = .queued ∧ active.task.status = .queued ∧
        s' = { s with
          inbox,
          runs := s.runs.put active.turn.runId
            { active.run with
              status := .cancelled, currentFencingToken := active.run.currentFencingToken + 1,
              cancellationRequestedAt := some commit.promotedAt },
          tasks := s.tasks.put active.turn.taskId
            { active.task with status := .cancelled, revision := active.task.revision + 1 },
          sessions := s.sessions.put commit.sessionId { session with activeTurnId := none },
          turns := s.turns.put active.turnId { active.turn with status := .cancelled } }) ∨
      (active.run.status = .running ∧ active.task.status = .running ∧
        active.run.cancellationRequestedAt = none ∧
        s' = { s with
          inbox,
          runs := s.runs.put active.turn.runId
            { active.run with cancellationRequestedAt := some commit.promotedAt },
          tasks := s.tasks.put active.turn.taskId
            { active.task with status := .cancelling, revision := active.task.revision + 1 } }) := by
  unfold interruptActive at ok
  split at ok
  next queued taskQueued =>
    simp only [eq_ok, nextToken_eq_ok] at ok
    obtain ⟨_, ⟨_, rfl⟩, _, _, rfl⟩ := ok
    exact ⟨_, .inl ⟨queued, taskQueued, rfl⟩⟩
  next running taskRunning =>
    simp only [eq_ok] at ok
    obtain ⟨_, unmarked, rfl⟩ := ok
    exact ⟨_, .inr ⟨running, taskRunning, unmarked, rfl⟩⟩
  next => cases ok

theorem insertWorkGraph_ok {entry session} (ok : insertWorkGraph commit entryId entry session s = .ok s') :
    let turn : Turn :=
      { sessionId := commit.sessionId, inboxEntryId := entryId, taskId := commit.taskId,
        runId := commit.runId, kind := .canonical, status := .active, createdAt := commit.promotedAt }
    s.tasks.get commit.taskId = none ∧ s.runs.get commit.runId = none ∧
      s.turnIsFresh commit.turnId turn = true ∧ ∃ inbox,
      s' = { s with
        tasks := s.tasks.put commit.taskId
          { status := .queued, revision := 0, validationRequired := commit.validationRequired,
            validationId := none },
        runs := s.runs.put commit.runId
          { taskId := commit.taskId, agentRole := commit.initialAgentRole, status := .queued,
            currentFencingToken := 0, cancellationRequestedAt := none, nextAttemptAt := none,
            createdAt := commit.promotedAt },
        turns := s.turns.put commit.turnId turn, inbox,
        sessions := s.sessions.put commit.sessionId { session with activeTurnId := some commit.turnId } } := by
  simp only [insertWorkGraph, eq_ok] at ok
  obtain ⟨_, ⟨taskFresh, runFresh⟩, _, turnFresh, rfl⟩ := ok
  exact ⟨taskFresh, runFresh, turnFresh, _, rfl⟩

theorem promoteNext_ok (ok : promoteNext commit s = .ok s') :
    s' = s ∨ ∃ session entryId entry, s.sessions.get commit.sessionId = some session ∧
      s.loadPendingHead commit.sessionId = some (entryId, entry) ∧
      ((session.activeTurnId = none ∧ insertWorkGraph commit entryId entry session s = .ok s') ∨
        ∃ turnId active, session.activeTurnId = some turnId ∧ s.loadActive turnId = .ok active ∧
          (steerActive commit entryId entry active s = .ok s' ∨
            entry.deliveryMode = .interruptThenQueue ∧ entry.interruptRequestedAt = none ∧
              interruptActive commit entryId entry session active s = .ok s')) := by
  simp only [promoteNext, eq_ok] at ok
  obtain ⟨session, found, _, _, ok⟩ := ok
  split at ok
  next => exact .inl (pure_eq_ok.mp ok).symm
  next entryId entry head =>
    split at ok
    next idle => exact .inr ⟨session, entryId, entry, found, head, .inl ⟨idle, ok⟩⟩
    next turnId busy =>
      split at ok
      next => exact .inl (pure_eq_ok.mp ok).symm
      next =>
        obtain ⟨active, loaded, steered⟩ := bind_eq_ok.mp ok
        exact .inr ⟨session, entryId, entry, found, head, .inr ⟨turnId, active, busy, loaded, .inl steered⟩⟩
      next mode =>
        split at ok
        next => exact .inl (pure_eq_ok.mp ok).symm
        next unrequested =>
          obtain ⟨active, loaded, interrupted⟩ := bind_eq_ok.mp ok
          exact .inr ⟨session, entryId, entry, found, head,
            .inr ⟨turnId, active, busy, loaded, .inr ⟨mode, by simpa using unrequested, interrupted⟩⟩⟩

end Mealy
