import Mealy.Store.Admission

/-! Recurring schedules: definitions and due plans (`schedule.rs` of the application),
the schedule store (`schedule.rs` of the infrastructure with the triggers of its
migration) and the daemon's driver (`drive_schedule_batch`). The cron and time-zone
libraries are a parameter. Times are epoch milliseconds and may be negative where the
code checks for it. -/

namespace Mealy.Schedules
open Relational Transaction

structure ScheduleId where
  id : Nat
deriving DecidableEq

structure ScheduleRunId where
  id : Nat
deriving DecidableEq

inductive MissedRunPolicy where
  | skip | latest
deriving DecidableEq

inductive ScheduleOverlapPolicy where
  | queue | skipIfRunning
deriving DecidableEq

inductive ScheduleStatus where
  | active | paused | cancelled
deriving DecidableEq

inductive ScheduleRunIntent where
  | fire | skipMisfire | skipOverlap
deriving DecidableEq

inductive ScheduleRunStatus where
  | claimed | admitted | skipped | failed
deriving DecidableEq

inductive ScheduleTransition where
  | pause | resume | cancel

/-- What the cron and time-zone libraries answer. -/
structure CronLibrary where
  (parsesExpression parsesTimezone : String → Bool)
  represents : Int → Bool
  next : String → String → Int → Option Int
  previous : String → String → Int → Option Int

/-! ### Definitions and plans -/

structure ScheduleDefinition where
  (name prompt cronExpression timezone : String)
  misfireGraceMs : Int
  approvalRequiredActionsAllowed : Bool
deriving DecidableEq

structure ScheduleView extends ScheduleDefinition where
  ownership : OwnershipContext
  sessionId : SessionId
  missedRunPolicy : MissedRunPolicy
  overlapPolicy : ScheduleOverlapPolicy
  status : ScheduleStatus
  nextDueAt : Option Int
  revision : Nat
  (createdAt updatedAt : Int)

inductive ScheduleContractError where
  | invalidName | invalidPrompt | actionOptInRequired | invalidCron | invalidTimezone | invalidMisfireGrace
  | invalidTime | noOccurrence | notDue | invalidView

def ScheduleContractError.text : ScheduleContractError → String
  | .invalidName => "schedule name is invalid"
  | .invalidPrompt => "schedule prompt is invalid"
  | .actionOptInRequired => "scheduled approval-required action needs explicit opt-in"
  | .invalidCron => "schedule cron expression is invalid"
  | .invalidTimezone => "schedule time zone is invalid"
  | .invalidMisfireGrace => "schedule misfire grace is invalid"
  | .invalidTime => "schedule time is invalid"
  | .noOccurrence => "schedule has no bounded future occurrence"
  | .notDue => "schedule is not due"
  | .invalidView => "stored schedule projection is invalid"

def approvalRequiredPrefix (prompt : String) : Bool :=
  ["/act ", "/run ", "/edit ", "/manage "].any fun start => start.toList.isPrefixOf prompt.toList

section
variable (cron : CronLibrary)

def parseSchedule (expression timezone : String) : Except ScheduleContractError Unit := do
  ensure (expression ≠ "" ∧ expression.utf8ByteSize ≤ 256 ∧ (words expression).length = 5 ∧
    " ".intercalate (words expression) = expression) .invalidCron
  ensure (cron.parsesExpression expression) .invalidCron
  ensure (timezone ≠ "" ∧ timezone.utf8ByteSize ≤ 128 ∧ isTrimmed timezone) .invalidTimezone
  ensure (cron.parsesTimezone timezone) .invalidTimezone

def validateScheduleDefinition (definition : ScheduleDefinition) : Except ScheduleContractError Unit := do
  ensure (definition.name ≠ "" ∧ definition.name.utf8ByteSize ≤ 128 ∧ isTrimmed definition.name ∧
    definition.name.toList.all fun c => !isControl c) .invalidName
  ensure (definition.prompt ≠ "" ∧ definition.prompt.utf8ByteSize ≤ 64 * 1024 ∧
    definition.prompt.toList.all fun c => c.toNat ≠ 0) .invalidPrompt
  ensure (approvalRequiredPrefix definition.prompt → definition.approvalRequiredActionsAllowed) .actionOptInRequired
  parseSchedule cron definition.cronExpression definition.timezone
  ensure (0 ≤ definition.misfireGraceMs ∧ definition.misfireGraceMs ≤ 24 * 60 * 60 * 1000) .invalidMisfireGrace

def maximumOccurrenceHorizonMs : Int := 10 * 366 * 24 * 60 * 60 * 1000

def nextScheduleOccurrence (expression timezone : String) (after : Int) : Except ScheduleContractError Int := do
  parseSchedule cron expression timezone
  ensure (cron.represents after) .invalidTime
  let next ← require (cron.next expression timezone after) .noOccurrence
  ensure (after < next ∧ next - after ≤ maximumOccurrenceHorizonMs) .noOccurrence
  pure next

def validateScheduleView (schedule : ScheduleView) : Except ScheduleContractError Unit := do
  validateScheduleDefinition cron schedule.toScheduleDefinition
  ensure (0 ≤ schedule.createdAt ∧ schedule.createdAt ≤ schedule.updatedAt ∧
    (schedule.status = .cancelled → schedule.nextDueAt = none) ∧
    (schedule.status ≠ .cancelled → schedule.nextDueAt.any fun due => 0 ≤ due)) .invalidView

/-- `ScheduleDueDecision`: what a due schedule does and its next cursor. -/
structure ScheduleDueDecision where
  intent : ScheduleRunIntent
  (scheduledFor nextDueAt : Int)
  coalesced : Bool

def planDueSchedule (schedule : ScheduleView) (now : Int) : Except ScheduleContractError ScheduleDueDecision := do
  validateScheduleView cron schedule
  let cursor ← require (schedule.nextDueAt.filter fun due => due ≤ now) .notDue
  ensure (schedule.status = .active) .notDue
  parseSchedule cron schedule.cronExpression schedule.timezone
  ensure (cron.represents now) .invalidTime
  let scheduledFor ← require (cron.previous schedule.cronExpression schedule.timezone now) .noOccurrence
  ensure (cursor ≤ scheduledFor ∧ scheduledFor ≤ now) .invalidView
  let nextDueAt ← require (cron.next schedule.cronExpression schedule.timezone now) .noOccurrence
  ensure (now < nextDueAt ∧ nextDueAt - now ≤ maximumOccurrenceHorizonMs) .noOccurrence
  let missed := schedule.missedRunPolicy = .skip ∧ schedule.misfireGraceMs < now - scheduledFor
  pure
    { intent := if missed then .skipMisfire else .fire, scheduledFor, nextDueAt,
      coalesced := scheduledFor ≠ cursor }

end

/-! ### The store -/

structure ScheduleRun where
  scheduleId : ScheduleId
  scheduledFor : Int
  coalesced : Bool
  intent : ScheduleRunIntent
  status : ScheduleRunStatus
  claimOwnerId : WorkerId
  claimExpiresAt : Int
  inboxEntryId : Option InboxEntryId
  reason : Option String
  createdAt : Int
  completedAt : Option Int

/-- What a driver has resolved a claimed run to. -/
structure Resolution where
  status : ScheduleRunStatus
  inboxEntryId : Option InboxEntryId
  reason : Option String

/-- Where the loop of `drive_schedule_batch` stands with one due schedule. -/
inductive DriverStage where
  | planned (schedule : ScheduleView) (decision : ScheduleDueDecision) (now : Int)
  | claimed (schedule : ScheduleView) (runId : ScheduleRunId) (run : ScheduleRun) (nextDueAt : Int)
  | resolved (runId : ScheduleRunId) (resolution : Resolution) (nextDueAt : Int)

/-- One worker's pass over one schedule of its batch. -/
structure DriverId where
  workerId : WorkerId
  scheduleId : ScheduleId
deriving DecidableEq

structure ScheduledStore where
  base : JournaledStore := {}
  schedules : Table ScheduleId ScheduleView := .empty
  runs : Table ScheduleRunId ScheduleRun := .empty
  drivers : Table DriverId DriverStage := .empty

inductive ScheduleStoreError where
  | unauthorized | notFound | conflict
  | invalidContract (reason : String)
  | invariantViolation (reason : String)
  | unavailable (reason : String)

def contract {α : Type} (wrap : String → ScheduleStoreError) (result : Except ScheduleContractError α) :
    Except ScheduleStoreError α :=
  result.mapError fun error => wrap error.text

def ScheduledStore.loadSchedule (cron : CronLibrary) (s : ScheduledStore) (scheduleId : ScheduleId)
    (principalId : Option PrincipalId) : Except ScheduleStoreError ScheduleView := do
  let schedule ← require (s.schedules.get scheduleId) .notFound
  ensure (principalId.all fun principal => principal = schedule.ownership.principalId) .notFound
  contract .invariantViolation (validateScheduleView cron schedule)
  pure schedule

structure CreateScheduleCommit extends ScheduleDefinition where
  scheduleId : ScheduleId
  ownership : OwnershipContext
  sessionId : SessionId
  missedRunPolicy : MissedRunPolicy
  overlapPolicy : ScheduleOverlapPolicy
  (nextDueAt createdAt : Int)

def validateCreateScheduleCommit (cron : CronLibrary) (commit : CreateScheduleCommit) :
    Except ScheduleStoreError Unit := do
  contract .invalidContract (validateScheduleDefinition cron commit.toScheduleDefinition)
  ensure (0 ≤ commit.createdAt) (.invalidContract "initial schedule cursor is invalid")
  let next ← contract .invalidContract
    (nextScheduleOccurrence cron commit.cronExpression commit.timezone commit.createdAt)
  ensure (next = commit.nextDueAt) (.invalidContract "initial schedule cursor is invalid")

def ScheduledStore.deliveryOwnership (s : ScheduledStore) (principalId : PrincipalId) (sessionId : SessionId) :
    Except ScheduleStoreError OwnershipContext := do
  let session ← require (s.base.core.sessions.get sessionId) .unauthorized
  let ownership : OwnershipContext := { principalId, channelBindingId := session.channelBindingId }
  ensure (session.principalId = principalId ∧ SessionPort.activeIdentity s.base ownership) .unauthorized
  pure ownership

def CreateScheduleCommit.view (commit : CreateScheduleCommit) (ownership : OwnershipContext) : ScheduleView where
  toScheduleDefinition := commit.toScheduleDefinition
  ownership := ownership
  sessionId := commit.sessionId
  missedRunPolicy := commit.missedRunPolicy
  overlapPolicy := commit.overlapPolicy
  status := .active
  nextDueAt := some commit.nextDueAt
  revision := 0
  createdAt := commit.createdAt
  updatedAt := commit.createdAt

def ScheduleView.matchesCreate (existing : ScheduleView) (commit : CreateScheduleCommit)
    (ownership : OwnershipContext) : Bool :=
  existing.ownership = ownership ∧ existing.sessionId = commit.sessionId ∧
    existing.toScheduleDefinition = commit.toScheduleDefinition ∧
    existing.missedRunPolicy = commit.missedRunPolicy ∧ existing.overlapPolicy = commit.overlapPolicy

def createSchedule (cron : CronLibrary) (commit : CreateScheduleCommit) (s : ScheduledStore) :
    Except ScheduleStoreError ScheduledStore := do
  validateCreateScheduleCommit cron commit
  ensure (SessionPort.activeIdentity s.base commit.ownership) .unauthorized
  let ownership ← s.deliveryOwnership commit.ownership.principalId commit.sessionId
  match s.loadSchedule cron commit.scheduleId (some commit.ownership.principalId) with
  | .ok existing =>
    ensure (existing.matchesCreate commit ownership) .conflict
    pure s
  | .error .notFound =>
    -- A schedule of another principal is not loaded, but its key is taken.
    ensure (s.schedules.get commit.scheduleId = none) .conflict
    pure { s with schedules := s.schedules.put commit.scheduleId (commit.view ownership) }
  | .error error => .error error

structure TransitionScheduleCommit where
  scheduleId : ScheduleId
  ownership : OwnershipContext
  expectedRevision : Nat
  transition : ScheduleTransition
  resumedNextDueAt : Option Int
  transitionedAt : Int

/-- The new status and cursor, from the lifecycle that the command expects. -/
def ScheduleView.transitioned (cron : CronLibrary) (current : ScheduleView) (commit : TransitionScheduleCommit) :
    Except ScheduleStoreError (ScheduleStatus × Option Int) :=
  match commit.transition with
  | .pause => do
    ensure (current.status = .active ∧ commit.resumedNextDueAt = none) .conflict
    pure (.paused, current.nextDueAt)
  | .resume => do
    ensure (current.status = .paused ∧ commit.resumedNextDueAt.isSome) .conflict
    let next ← contract .invalidContract
      (nextScheduleOccurrence cron current.cronExpression current.timezone commit.transitionedAt)
    ensure (commit.resumedNextDueAt = some next) (.invalidContract "resume cursor is invalid")
    pure (.active, some next)
  | .cancel => do
    ensure ((current.status = .active ∨ current.status = .paused) ∧ commit.resumedNextDueAt = none) .conflict
    pure (.cancelled, none)

def ScheduledStore.hasClaimedRun (s : ScheduledStore) (scheduleId : ScheduleId) : Bool :=
  s.runs.any fun _ run => run.scheduleId = scheduleId ∧ run.status = .claimed

def transitionSchedule (cron : CronLibrary) (commit : TransitionScheduleCommit) (s : ScheduledStore) :
    Except ScheduleStoreError ScheduledStore := do
  ensure (SessionPort.activeIdentity s.base commit.ownership) .unauthorized
  let current ← s.loadSchedule cron commit.scheduleId (some commit.ownership.principalId)
  ensure (current.updatedAt ≤ commit.transitionedAt ∧ current.revision = commit.expectedRevision) .conflict
  let (status, nextDueAt) ← current.transitioned cron commit
  ensure (s.hasClaimedRun commit.scheduleId = false) .conflict
  pure { s with
    schedules := s.schedules.put commit.scheduleId
      { current with status, nextDueAt, revision := current.revision + 1, updatedAt := commit.transitionedAt } }

structure ClaimScheduleRunCommit where
  scheduleId : ScheduleId
  expectedRevision : Nat
  expectedNextDueAt : Int
  proposedScheduleRunId : ScheduleRunId
  scheduledFor : Int
  coalesced : Bool
  intent : ScheduleRunIntent
  ownerId : WorkerId
  (claimedAt claimExpiresAt : Int)

inductive ScheduleClaimOutcome where
  | claimed (runId : ScheduleRunId) (run : ScheduleRun)
  | busy

def ClaimScheduleRunCommit.run (commit : ClaimScheduleRunCommit) : ScheduleRun where
  scheduleId := commit.scheduleId
  scheduledFor := commit.scheduledFor
  coalesced := commit.coalesced
  intent := commit.intent
  status := .claimed
  claimOwnerId := commit.ownerId
  claimExpiresAt := commit.claimExpiresAt
  inboxEntryId := none
  reason := none
  createdAt := commit.claimedAt
  completedAt := none

def insertRun (commit : ClaimScheduleRunCommit) (s : ScheduledStore) :
    Except ScheduleStoreError (ScheduleClaimOutcome × ScheduledStore) := do
  ensure (s.runs.get commit.proposedScheduleRunId = none ∧
    s.runs.any (fun _ run => run.scheduleId = commit.scheduleId ∧ run.scheduledFor = commit.scheduledFor) = false ∧
    0 ≤ commit.scheduledFor) .conflict
  pure (.claimed commit.proposedScheduleRunId commit.run,
    { s with runs := s.runs.put commit.proposedScheduleRunId commit.run })

/-- The `UPDATE` of an expired claim: a new owner and expiry for the same run. -/
def reclaimRun (commit : ClaimScheduleRunCommit) (runId : ScheduleRunId) (run : ScheduleRun) (s : ScheduledStore) :
    Except ScheduleStoreError (ScheduleClaimOutcome × ScheduledStore) := do
  let reclaimed :=
    { run with
      claimOwnerId := commit.ownerId, claimExpiresAt := commit.claimExpiresAt,
      coalesced := run.coalesced || commit.coalesced }
  ensure (run.createdAt < commit.claimExpiresAt)
    (.unavailable "CHECK constraint failed: claim_expires_at_ms > created_at_ms")
  pure (.claimed runId reclaimed, { s with runs := s.runs.put runId reclaimed })

def claimScheduleRun (commit : ClaimScheduleRunCommit) (s : ScheduledStore) :
    Except ScheduleStoreError (ScheduleClaimOutcome × ScheduledStore) := do
  ensure (0 ≤ commit.claimedAt ∧ commit.expectedNextDueAt ≤ commit.scheduledFor ∧
    commit.claimedAt < commit.claimExpiresAt ∧ commit.claimExpiresAt - commit.claimedAt ≤ 5 * 60 * 1000)
    (.invalidContract "schedule claim is invalid")
  let expected := (commit.expectedRevision, some commit.expectedNextDueAt, ScheduleStatus.active)
  let current := (s.schedules.get commit.scheduleId).map fun row => (row.revision, row.nextDueAt, row.status)
  if current ≠ some expected then pure (.busy, s)
  else
    match s.runs.find fun _ run => run.scheduleId = commit.scheduleId ∧ run.status = .claimed with
    | some (runId, run) =>
      if commit.claimedAt < run.claimExpiresAt then pure (.busy, s) else reclaimRun commit runId run s
    | none => insertRun commit s

structure CompleteScheduleRunCommit where
  scheduleId : ScheduleId
  scheduleRunId : ScheduleRunId
  ownerId : WorkerId
  resolution : Resolution
  (nextDueAt completedAt : Int)

/-- `valid_completion_shape`. -/
def Resolution.isValid (resolution : Resolution) : Bool :=
  match resolution.status with
  | .admitted => resolution.inboxEntryId.isSome ∧ resolution.reason = none
  | .skipped | .failed =>
    resolution.inboxEntryId = none ∧ resolution.reason.any fun reason =>
      reason ≠ "" ∧ reason.utf8ByteSize ≤ 4096 ∧ reason.toList.all fun c => !isControl c
  | .claimed => false

/-- The run that the first `UPDATE` of a completion matches. -/
def completableRun (commit : CompleteScheduleRunCommit) (s : ScheduledStore) : Option ScheduleRun :=
  (s.runs.get commit.scheduleRunId).filter fun run =>
    run.scheduleId = commit.scheduleId ∧ run.status = .claimed ∧ run.claimOwnerId = commit.ownerId ∧
      run.createdAt ≤ commit.completedAt

def advancingSchedule (commit : CompleteScheduleRunCommit) (s : ScheduledStore) : Option ScheduleView :=
  (s.schedules.get commit.scheduleId).filter fun schedule =>
    schedule.status = .active ∧ schedule.nextDueAt.any fun due => due ≤ commit.completedAt

def completeScheduleRun (commit : CompleteScheduleRunCommit) (s : ScheduledStore) :
    Except ScheduleStoreError ScheduledStore := do
  ensure (0 ≤ commit.completedAt ∧ 0 < commit.nextDueAt ∧ commit.resolution.isValid)
    (.invalidContract "schedule completion is invalid")
  let run ← require (completableRun commit s) .conflict
  ensure (commit.resolution.inboxEntryId.all fun entry => (s.base.core.inbox.get entry).isSome) .conflict
  let schedule ← require (advancingSchedule commit s) .conflict
  ensure (schedule.updatedAt ≤ commit.completedAt) (.unavailable "invalid schedule transition")
  pure { s with
    runs := s.runs.put commit.scheduleRunId
      { run with
        status := commit.resolution.status, inboxEntryId := commit.resolution.inboxEntryId,
        reason := commit.resolution.reason, completedAt := some commit.completedAt },
    schedules := s.schedules.put commit.scheduleId
      { schedule with
        nextDueAt := some commit.nextDueAt, revision := schedule.revision + 1, updatedAt := commit.completedAt } }

/-! ### The driver -/

def ScheduledStore.isDue (s : ScheduledStore) (scheduleId : ScheduleId) (schedule : ScheduleView) (now : Int) : Bool :=
  schedule.status = .active ∧ schedule.nextDueAt.any (fun due => due ≤ now) ∧
    s.runs.any (fun _ run => run.scheduleId = scheduleId ∧ run.status = .claimed ∧ now < run.claimExpiresAt) = false

def ScheduledStore.hasActiveRun (s : ScheduledStore) (scheduleId : ScheduleId) : Bool :=
  s.runs.any fun _ run => run.scheduleId = scheduleId ∧ run.status = .admitted ∧
    run.inboxEntryId.any fun entryId =>
      (s.base.core.inbox.get entryId).any fun entry =>
        entry.state = .pending ∨ s.base.core.turns.any fun _ turn => turn.inboxEntryId = entryId ∧ turn.status = .active

def scheduleDedupeKey (scheduleId : ScheduleId) (scheduledFor : Int) : String :=
  "schedule:" ++ Json.uuidText scheduleId.id ++ ":" ++ toString scheduledFor

def scheduleAdmissionFailure : SessionUseCaseError → String
  | .store .backpressure => "session_backpressure"
  | .store .notFound => "session_not_found"
  | .store .unauthorized => "session_unauthorized"
  | .store .idempotencyConflict => "schedule_idempotency_conflict"
  | .store .conflict => "session_admission_conflict"
  | .store (.unavailable _) => "session_store_unavailable"
  | .store _ => "session_invariant_violation"
  | .emptyDedupeKey | .dedupeKeyTooLarge _ _ | .emptyContent | .contentTooLarge _ _ | .invalidQueueCapacity
  | .invalidProviderSelection => "scheduled_input_invalid"

inductive ScheduleOperation where
  | base (op : JournalOperation)
  | create (commit : CreateScheduleCommit)
  | transition (commit : TransitionScheduleCommit)
  | plan (driver : DriverId) (now : Int)
  | claim (driver : DriverId) (proposedScheduleRunId : ScheduleRunId)
  | skip (driver : DriverId)
  | admitOccurrence (driver : DriverId) (maximumPendingInputs : Nat) (ids : AdmissionIds)
  | complete (driver : DriverId) (completedAt : Int)
  | crash (driver : DriverId)

inductive ScheduleDriverError where
  | outOfOrder
  | contract (message : String)
  | store (error : ScheduleStoreError)
  | base (error : StoreError)

def ScheduledStore.setDriver (s : ScheduledStore) (driver : DriverId) (stage : DriverStage) : ScheduledStore :=
  { s with drivers := s.drivers.put driver stage }

def ScheduledStore.dropDriver (s : ScheduledStore) (driver : DriverId) : ScheduledStore :=
  { s with drivers := s.drivers.erase driver }

def ScheduledStore.plan (cron : CronLibrary) (driver : DriverId) (now : Int) (s : ScheduledStore) :
    Except ScheduleDriverError ScheduledStore := do
  let schedule ← (s.loadSchedule cron driver.scheduleId none).mapError .store
  ensure (0 ≤ now ∧ s.isDue driver.scheduleId schedule now) .outOfOrder
  let decision ← (planDueSchedule cron schedule now).mapError fun error => .contract error.text
  pure (s.setDriver driver (.planned schedule decision now))

def claimCommit (driver : DriverId) (runId : ScheduleRunId) (schedule : ScheduleView) (cursor : Int)
    (decision : ScheduleDueDecision) (now : Int) (s : ScheduledStore) : ClaimScheduleRunCommit where
  scheduleId := driver.scheduleId
  expectedRevision := schedule.revision
  expectedNextDueAt := cursor
  proposedScheduleRunId := runId
  scheduledFor := decision.scheduledFor
  coalesced := decision.coalesced
  intent :=
    if decision.intent = .fire ∧ schedule.overlapPolicy = .skipIfRunning ∧ s.hasActiveRun driver.scheduleId then
      .skipOverlap
    else decision.intent
  ownerId := driver.workerId
  claimedAt := now
  claimExpiresAt := now + 30000

/-- A claim that is lost or fails leaves the schedule to a later batch. -/
def ScheduledStore.claim (driver : DriverId) (runId : ScheduleRunId) (s : ScheduledStore) :
    Except ScheduleDriverError ScheduledStore :=
  match s.drivers.get driver with
  | some (.planned schedule decision now) =>
    match schedule.nextDueAt with
    | none => .ok (s.dropDriver driver)
    | some cursor =>
      match claimScheduleRun (claimCommit driver runId schedule cursor decision now s) s with
      | .ok (.claimed claimedId run, claimed) =>
        .ok (claimed.setDriver driver (.claimed schedule claimedId run decision.nextDueAt))
      | .ok (.busy, _) | .error _ => .ok (s.dropDriver driver)
  | _ => .error .outOfOrder

/-- Why an intent admits nothing. -/
def ScheduleRunIntent.skipReason : ScheduleRunIntent → Option String
  | .fire => none
  | .skipMisfire => some "missed_run_outside_grace"
  | .skipOverlap => some "overlap_policy_skip_if_running"

def ScheduledStore.skip (driver : DriverId) (s : ScheduledStore) : Except ScheduleDriverError ScheduledStore :=
  match s.drivers.get driver with
  | some (.claimed _ runId run nextDueAt) => do
    let reason ← require run.intent.skipReason .outOfOrder
    pure (s.setDriver driver (.resolved runId ⟨.skipped, none, some reason⟩ nextDueAt))
  | _ => .error .outOfOrder

def scheduledInput (scheduleId : ScheduleId) (schedule : ScheduleView) (run : ScheduleRun) : AdmitInputCommand where
  sessionId := schedule.sessionId
  ownership := schedule.ownership
  dedupeKey := scheduleDedupeKey scheduleId run.scheduledFor
  deliveryMode := .queue
  content := schedule.prompt
  providerSelection := .inheritSession

def ScheduledStore.admitOccurrence (driver : DriverId) (maximumPendingInputs : Nat) (ids : AdmissionIds) (s : ScheduledStore) :
    Except ScheduleDriverError ScheduledStore :=
  match s.drivers.get driver with
  | some (.claimed schedule runId run nextDueAt) =>
    if run.intent = .fire then
      match admitInputCommand ⟨256, 64 * 1024, maximumPendingInputs⟩ (scheduledInput driver.scheduleId schedule run)
          ids s.base with
      | .ok (outcome, base) =>
        .ok (ScheduledStore.setDriver { s with base } driver
          (.resolved runId ⟨.admitted, some outcome.receipt.inboxEntryId, none⟩ nextDueAt))
      | .error (.store (.unavailable _)) => .ok (s.dropDriver driver)
      | .error error =>
        .ok (s.setDriver driver (.resolved runId ⟨.failed, none, some (scheduleAdmissionFailure error)⟩ nextDueAt))
    else .error .outOfOrder
  | _ => .error .outOfOrder

def completeCommit (driver : DriverId) (runId : ScheduleRunId) (resolution : Resolution) (nextDueAt completedAt : Int) :
    CompleteScheduleRunCommit where
  scheduleId := driver.scheduleId
  scheduleRunId := runId
  ownerId := driver.workerId
  resolution := resolution
  nextDueAt := nextDueAt
  completedAt := completedAt

def ScheduledStore.complete (driver : DriverId) (completedAt : Int) (s : ScheduledStore) :
    Except ScheduleDriverError ScheduledStore :=
  match s.drivers.get driver with
  | some (.resolved runId resolution nextDueAt) =>
    match completeScheduleRun (completeCommit driver runId resolution nextDueAt completedAt) s with
    | .ok completed => .ok (completed.dropDriver driver)
    | .error _ => .ok (s.dropDriver driver)
  | _ => .error .outOfOrder

def ScheduleOperation.exec (cron : CronLibrary) (op : ScheduleOperation) (s : ScheduledStore) :
    Except ScheduleDriverError ScheduledStore :=
  match op with
  | .base op => do
    let base ← (op.exec s.base).mapError .base
    pure { s with base }
  | .create commit => (createSchedule cron commit s).mapError .store
  | .transition commit => (transitionSchedule cron commit s).mapError .store
  | .plan driver now => s.plan cron driver now
  | .claim driver runId => s.claim driver runId
  | .skip driver => s.skip driver
  | .admitOccurrence driver maximumPendingInputs ids => s.admitOccurrence driver maximumPendingInputs ids
  | .complete driver completedAt => s.complete driver completedAt
  | .crash driver => .ok (s.dropDriver driver)

def scheduleSystem (cron : CronLibrary) : System ScheduleDriverError ScheduledStore ScheduleOperation where
  initial := {}
  exec := ScheduleOperation.exec cron

end Mealy.Schedules
