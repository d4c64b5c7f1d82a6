import Mealy.Proofs.JournalIntegrity
import Mealy.Store.Schedules

/-! Schedules fire at most once per occurrence. Each operation makes one of a few moves
on the schedules, the runs and the drivers' stages; a driver that still owns its run
knows a next instant ahead of the cursor, since nobody else may advance the schedule
while its run is claimed. -/

namespace Mealy.Schedules
open Relational Transaction

variable {s s' : ScheduledStore} {driver : DriverId} {cron : CronLibrary} {scheduleId : ScheduleId}
  {runId : ScheduleRunId}

/-! ### One operation -/

/-- The instant lies ahead of the schedule's cursor. -/
def Precedes (schedule : ScheduleView) (nextDueAt : Int) : Prop :=
  ∃ cursor, schedule.nextDueAt = some cursor ∧ cursor < nextDueAt

def ScheduleRun.occurrence (run : ScheduleRun) : ScheduleId × Int × ScheduleRunIntent :=
  (run.scheduleId, run.scheduledFor, run.intent)

/-- A run that may be claimed: the first of its occurrence, with no other claimed, or a
claimed one that keeps its occurrence. -/
def Claimable (s : ScheduledStore) (runId : ScheduleRunId) (run : ScheduleRun) : Prop :=
  (s.runs.get runId = none ∧ ∀ otherId other, s.runs.get otherId = some other → other.scheduleId = run.scheduleId →
    other.status ≠ .claimed ∧ other.scheduledFor ≠ run.scheduledFor) ∨
  ∃ old, s.runs.get runId = some old ∧ old.status = .claimed ∧ run.occurrence = old.occurrence

inductive ScheduleMove (s : ScheduledStore) : ScheduledStore → Prop where
  | base {op base} (stepped : journalSystem.exec op s.base = .ok base) :
      ScheduleMove s { s with base }
  | same : ScheduleMove s s
  | created {scheduleId schedule} (fresh : s.schedules.get scheduleId = none) :
      ScheduleMove s { s with schedules := s.schedules.put scheduleId schedule }
  | transitioned {scheduleId current status nextDueAt transitionedAt} (found : s.schedules.get scheduleId = some current)
      (unclaimed : s.hasClaimedRun scheduleId = false) (moves : ¬ (current.status = .active ∧ status = .active)) :
      ScheduleMove s { s with
        schedules := s.schedules.put scheduleId
          { current with status, nextDueAt, revision := current.revision + 1, updatedAt := transitionedAt } }
  | planned {driver schedule decision now}
      (found : s.schedules.get driver.scheduleId = some schedule) (ahead : Precedes schedule decision.nextDueAt) :
      ScheduleMove s (s.setDriver driver (.planned schedule decision now))
  | claimed {driver schedule current decision now runId run} (stage : s.drivers.get driver = some (.planned schedule decision now))
      (found : s.schedules.get driver.scheduleId = some current) (cursor : current.nextDueAt = schedule.nextDueAt)
      (claimable : Claimable s runId run) (own : run.scheduleId = driver.scheduleId) (claimed : run.status = .claimed)
      (owner : run.claimOwnerId = driver.workerId) :
      ScheduleMove s (ScheduledStore.setDriver { s with runs := s.runs.put runId run } driver
        (.claimed schedule runId run decision.nextDueAt))
  | resolved {driver schedule runId run nextDueAt resolution}
      (stage : s.drivers.get driver = some (.claimed schedule runId run nextDueAt))
      (empty : resolution.status ≠ .admitted) :
      ScheduleMove s (s.setDriver driver (.resolved runId resolution nextDueAt))
  | admitted {driver schedule runId run nextDueAt limits ids outcome base}
      (stage : s.drivers.get driver = some (.claimed schedule runId run nextDueAt)) (fires : run.intent = .fire)
      (admission : admitInputCommand limits (scheduledInput driver.scheduleId schedule run) ids s.base =
        .ok (outcome, base)) :
      ScheduleMove s (ScheduledStore.setDriver { s with base } driver
        (.resolved runId ⟨.admitted, some outcome.receipt.inboxEntryId, none⟩ nextDueAt))
  | completed {driver runId resolution nextDueAt completedAt run schedule}
      (stage : s.drivers.get driver = some (.resolved runId resolution nextDueAt))
      (held : s.runs.get runId = some run) (own : run.scheduleId = driver.scheduleId) (claimed : run.status = .claimed)
      (owner : run.claimOwnerId = driver.workerId) (found : s.schedules.get driver.scheduleId = some schedule)
      (active : schedule.status = .active) (ended : resolution.status ≠ .claimed) :
      ScheduleMove s (ScheduledStore.dropDriver
        { s with
          runs := s.runs.put runId
            { run with
              status := resolution.status, inboxEntryId := resolution.inboxEntryId, reason := resolution.reason,
              completedAt := some completedAt },
          schedules := s.schedules.put driver.scheduleId
            { schedule with nextDueAt := some nextDueAt, revision := schedule.revision + 1, updatedAt := completedAt } }
        driver)
  | dropped {driver : DriverId} : ScheduleMove s (s.dropDriver driver)

theorem loadSchedule_ok {principalId schedule}
    (loaded : s.loadSchedule cron scheduleId principalId = .ok schedule) : s.schedules.get scheduleId = some schedule := by
  simp only [ScheduledStore.loadSchedule, eq_ok] at loaded
  obtain ⟨_, found, _, _, _, _, rfl⟩ := loaded
  exact found

theorem createSchedule_move {commit}
    (ok : createSchedule cron commit s = .ok s') : ScheduleMove s s' := by
  simp only [createSchedule, eq_ok] at ok
  obtain ⟨_, _, _, _, ownership, _, ok⟩ := ok
  split at ok
  next =>
    obtain ⟨_, _, same⟩ := bind_eq_ok.mp ok
    cases same
    exact .same
  next =>
    simp only [eq_ok] at ok
    obtain ⟨_, fresh, rfl⟩ := ok
    exact .created fresh
  next => cases ok

theorem transitioned_moves {current : ScheduleView} {commit : TransitionScheduleCommit}
    {status : ScheduleStatus} {nextDueAt : Option Int}
    (moved : current.transitioned cron commit = .ok (status, nextDueAt)) :
    ¬ (current.status = .active ∧ status = .active) := by
  unfold ScheduleView.transitioned at moved
  split at moved <;> simp only [eq_ok, Prod.mk.injEq] at moved
  next =>
    obtain ⟨_, _, rfl, _⟩ := moved
    simp
  next =>
    obtain ⟨_, ⟨paused, _⟩, _⟩ := moved
    simp [paused]
  next =>
    obtain ⟨_, _, rfl, _⟩ := moved
    simp

theorem transitionSchedule_ok {commit : TransitionScheduleCommit}
    (ok : transitionSchedule cron commit s = .ok s') :
    s.hasClaimedRun commit.scheduleId = false ∧ ScheduleMove s s' := by
  simp only [transitionSchedule, eq_ok] at ok
  obtain ⟨_, _, current, loaded, _, _, ⟨status, nextDueAt⟩, moved, _, unclaimed, rfl⟩ := ok
  exact ⟨unclaimed, .transitioned (loadSchedule_ok loaded) unclaimed (transitioned_moves moved)⟩

theorem planDueSchedule_ok {schedule now decision}
    (planned : planDueSchedule cron schedule now = .ok decision) : Precedes schedule decision.nextDueAt := by
  simp only [planDueSchedule, eq_ok, Option.filter_eq_some_iff, decide_eq_true_eq] at planned
  obtain ⟨_, _, cursor, ⟨stored, due⟩, _, _, _, _, _, _, _, _, _, _, next, _, _, ⟨later, _⟩, rfl⟩ := planned
  exact ⟨cursor, stored, lt_of_le_of_lt due later⟩

theorem plan_move {now} (ok : s.plan cron driver now = .ok s') : ScheduleMove s s' := by
  simp only [ScheduledStore.plan, eq_ok, mapError_eq_ok] at ok
  obtain ⟨schedule, loaded, _, _, decision, planned, rfl⟩ := ok
  exact .planned (loadSchedule_ok loaded) (planDueSchedule_ok planned)

theorem claimScheduleRun_ok {commit run} (ok : claimScheduleRun commit s = .ok (.claimed runId run, s')) :
    (∃ current, s.schedules.get commit.scheduleId = some current ∧ current.nextDueAt = some commit.expectedNextDueAt) ∧
    s' = { s with runs := s.runs.put runId run } ∧ Claimable s runId run ∧ run.scheduleId = commit.scheduleId ∧
    run.status = .claimed ∧ run.claimOwnerId = commit.ownerId := by
  simp only [claimScheduleRun, eq_ok] at ok
  obtain ⟨_, _, ok⟩ := ok
  split at ok
  next => cases ok
  next expected =>
    simp only [ne_eq, not_not, Option.map_eq_some_iff, Prod.mk.injEq] at expected
    obtain ⟨current, stored, _, cursor, _⟩ := expected
    refine ⟨⟨current, stored, cursor⟩, ?_⟩
    split at ok
    next heldId held found =>
      split at ok
      next => cases ok
      next =>
        simp only [reclaimRun, eq_ok, Prod.mk.injEq, ScheduleClaimOutcome.claimed.injEq] at ok
        obtain ⟨_, _, ⟨rfl, rfl⟩, rfl⟩ := ok
        obtain ⟨found, matched⟩ := Table.find_some found
        obtain ⟨own, claimed⟩ := of_decide_eq_true matched
        exact ⟨rfl, .inr ⟨held, found, claimed, rfl⟩, own, claimed, rfl⟩
    next absent =>
      simp only [insertRun, eq_ok, Prod.mk.injEq, ScheduleClaimOutcome.claimed.injEq, Table.any_eq_false, decide_eq_false_iff_not] at ok
      obtain ⟨_, ⟨fresh, unused, _⟩, ⟨rfl, rfl⟩, rfl⟩ := ok
      have unclaimed := Table.find_none_iff.mp absent
      simp only [decide_eq_false_iff_not] at unclaimed
      refine ⟨rfl, .inl ⟨fresh, fun otherId other found own => ?_⟩, rfl, rfl, rfl⟩
      exact ⟨fun claimed => unclaimed otherId other found ⟨own, claimed⟩, fun same => unused otherId other found ⟨own, same⟩⟩

theorem claim_move {proposed} (ok : s.claim driver proposed = .ok s') : ScheduleMove s s' := by
  unfold ScheduledStore.claim at ok
  split at ok
  next schedule decision now stage =>
    split at ok
    next => cases ok; exact .dropped
    next cursor known =>
      split at ok
      next runId run claimed taken =>
        cases ok
        obtain ⟨⟨current, stored, cursor⟩, rfl, claimable, own, busy, owner⟩ := claimScheduleRun_ok taken
        exact .claimed stage stored (cursor.trans known.symm) claimable own busy owner
      all_goals
        cases ok
        exact .dropped
  next => cases ok

theorem skip_move (ok : s.skip driver = .ok s') :
    ScheduleMove s s' := by
  unfold ScheduledStore.skip at ok
  split at ok
  next schedule runId run nextDueAt stage =>
    simp only [eq_ok] at ok
    obtain ⟨reason, _, rfl⟩ := ok
    exact .resolved stage nofun
  next => cases ok

theorem admit_move {maximumPendingInputs ids}
    (ok : s.admitOccurrence driver maximumPendingInputs ids = .ok s') : ScheduleMove s s' := by
  unfold ScheduledStore.admitOccurrence at ok
  split at ok
  next schedule runId run nextDueAt stage =>
    split at ok
    next fires =>
      split at ok
      next outcome base admission =>
        cases ok
        exact .admitted stage fires admission
      next => cases ok; exact .dropped
      next =>
        cases ok
        exact .resolved stage nofun
    next => cases ok
  next => cases ok

theorem completeScheduleRun_ok {commit} (ok : completeScheduleRun commit s = .ok s') :
    ∃ run schedule, s.runs.get commit.scheduleRunId = some run ∧ run.scheduleId = commit.scheduleId ∧
      run.status = .claimed ∧ run.claimOwnerId = commit.ownerId ∧
      s.schedules.get commit.scheduleId = some schedule ∧ schedule.status = .active ∧
      commit.resolution.status ≠ .claimed ∧
      s' = { s with
        runs := s.runs.put commit.scheduleRunId
          { run with
            status := commit.resolution.status, inboxEntryId := commit.resolution.inboxEntryId,
            reason := commit.resolution.reason, completedAt := some commit.completedAt },
        schedules := s.schedules.put commit.scheduleId
          { schedule with
            nextDueAt := some commit.nextDueAt, revision := schedule.revision + 1, updatedAt := commit.completedAt } } := by
  simp only [completeScheduleRun, completableRun, advancingSchedule, eq_ok, Option.filter_eq_some_iff, decide_eq_true_eq] at ok
  obtain ⟨_, ⟨_, _, valid⟩, run, ⟨held, own, claimed, owner, _⟩, _, _, schedule, ⟨found, active, _⟩, _, _, rfl⟩ := ok
  refine ⟨run, schedule, held, own, claimed, owner, found, active, fun same => ?_, rfl⟩
  simp [Resolution.isValid, same] at valid

theorem complete_move {completedAt} (ok : s.complete driver completedAt = .ok s') : ScheduleMove s s' := by
  unfold ScheduledStore.complete at ok
  split at ok
  next runId resolution nextDueAt stage =>
    split at ok
    next completed found =>
      cases ok
      obtain ⟨run, schedule, held, own, claimed, owner, stored, active, ended, rfl⟩ := completeScheduleRun_ok found
      exact .completed stage held own claimed owner stored active ended
    next => cases ok; exact .dropped
  next => cases ok

theorem schedule_move {op}
    (ok : (scheduleSystem cron).exec op s = .ok s') : ScheduleMove s s' := by
  simp only [scheduleSystem, ScheduleOperation.exec] at ok
  split at ok
  next op =>
    simp only [eq_ok, mapError_eq_ok] at ok
    obtain ⟨base, stepped, rfl⟩ := ok
    exact .base stepped
  next commit => exact createSchedule_move (mapError_eq_ok.mp ok)
  next commit => exact (transitionSchedule_ok (mapError_eq_ok.mp ok)).2
  next => exact plan_move ok
  next => exact claim_move ok
  next => exact skip_move ok
  next => exact admit_move ok
  next => exact complete_move ok
  next => cases ok; exact .dropped

/-! ### What no step takes back -/

def OccurrenceEntry (s : ScheduledStore) (scheduleId : ScheduleId) (scheduledFor : Int) (entryId : InboxEntryId) : Prop :=
  ∃ schedule entry, s.schedules.get scheduleId = some schedule ∧ s.base.core.inbox.get entryId = some entry ∧
    entry.sessionId = schedule.sessionId ∧ entry.dedupeKey = scheduleDedupeKey scheduleId scheduledFor

/-- Schedules keep their session, runs their occurrence and intent, inbox entries their
session and key. -/
structure Grows (s s' : ScheduledStore) : Prop where
  schedules : ∀ scheduleId schedule, s.schedules.get scheduleId = some schedule →
    ∃ schedule', s'.schedules.get scheduleId = some schedule' ∧ schedule'.sessionId = schedule.sessionId
  runs : ∀ runId run, s.runs.get runId = some run →
    ∃ run', s'.runs.get runId = some run' ∧ run'.occurrence = run.occurrence
  entries : ∀ entryId entry, s.base.core.inbox.get entryId = some entry →
    ∃ entry', s'.base.core.inbox.get entryId = some entry' ∧ entry'.sessionId = entry.sessionId ∧
      entry'.dedupeKey = entry.dedupeKey

theorem Grows.refl (s) : Grows s s :=
  ⟨fun _ schedule found => ⟨schedule, found, rfl⟩, fun _ run found => ⟨run, found, rfl⟩,
    fun _ entry found => ⟨entry, found, rfl, rfl⟩⟩

theorem Grows.trans {a b c} (first : Grows a b) (last : Grows b c) : Grows a c := by
  refine ⟨fun scheduleId schedule found => ?_, fun runId run found => ?_, fun entryId entry found => ?_⟩
  · obtain ⟨middle, found, same⟩ := first.schedules scheduleId schedule found
    obtain ⟨final, found, same'⟩ := last.schedules scheduleId middle found
    exact ⟨final, found, same'.trans same⟩
  · obtain ⟨middle, found, same⟩ := first.runs runId run found
    obtain ⟨final, found, same'⟩ := last.runs runId middle found
    exact ⟨final, found, same'.trans same⟩
  · obtain ⟨middle, found, session, key⟩ := first.entries entryId entry found
    obtain ⟨final, found, session', key'⟩ := last.entries entryId middle found
    exact ⟨final, found, session'.trans session, key'.trans key⟩

theorem ScheduleMove.grows (move : ScheduleMove s s') : Grows s s' := by
  have same := Grows.refl s
  cases move with
  | base stepped => exact ⟨same.schedules, same.runs, JournalOperation.entries_kept stepped⟩
  | same | planned | resolved | dropped => exact ⟨same.schedules, same.runs, same.entries⟩
  | created fresh =>
    exact ⟨fun id row found => ⟨row, Table.kept_put_fresh fresh id row found, rfl⟩, same.runs, same.entries⟩
  | transitioned found => exact ⟨Table.kept_put ScheduleView.sessionId found rfl, same.runs, same.entries⟩
  | claimed _ _ _ claimable =>
    rcases claimable with ⟨fresh, _⟩ | ⟨_, held, _, kept⟩
    · exact ⟨same.schedules, fun id row found => ⟨row, Table.kept_put_fresh fresh id row found, rfl⟩, same.entries⟩
    · exact ⟨same.schedules, Table.kept_put ScheduleRun.occurrence held kept, same.entries⟩
  | admitted _ _ admission => exact ⟨same.schedules, same.runs, JournalOperation.entries_kept (admitInputCommand_exec admission)⟩
  | completed _ held _ _ _ found =>
    exact ⟨Table.kept_put ScheduleView.sessionId found rfl, Table.kept_put ScheduleRun.occurrence held rfl, same.entries⟩

theorem OccurrenceEntry.grow (grows : Grows s s') {scheduledFor entryId} (entry : OccurrenceEntry s scheduleId scheduledFor entryId) :
    OccurrenceEntry s' scheduleId scheduledFor entryId := by
  obtain ⟨schedule, entry, found, stored, session, key⟩ := entry
  obtain ⟨schedule', found', same⟩ := grows.schedules _ _ found
  obtain ⟨entry', stored', session', key'⟩ := grows.entries _ _ stored
  exact ⟨schedule', entry', found', stored', session'.trans (session.trans same.symm), key'.trans key⟩

/-! ### Stages and runs -/

def Ahead (s : ScheduledStore) (driver : DriverId) (runId : ScheduleRunId) (nextDueAt : Int) : Prop :=
  ∀ run, s.runs.get runId = some run → run.status = .claimed → run.claimOwnerId = driver.workerId →
    run.scheduleId = driver.scheduleId →
    ∃ schedule, s.schedules.get driver.scheduleId = some schedule ∧ Precedes schedule nextDueAt

def SameSession (s : ScheduledStore) (scheduleId : ScheduleId) (view : ScheduleView) : Prop :=
  ∃ schedule, s.schedules.get scheduleId = some schedule ∧ schedule.sessionId = view.sessionId

def StageValid (s : ScheduledStore) (driver : DriverId) : DriverStage → Prop
  | .planned view decision _ => Precedes view decision.nextDueAt ∧ SameSession s driver.scheduleId view
  | .claimed view runId run nextDueAt =>
    SameSession s driver.scheduleId view ∧ run.scheduleId = driver.scheduleId ∧
      (∃ row, s.runs.get runId = some row ∧ row.occurrence = run.occurrence) ∧ Ahead s driver runId nextDueAt
  | .resolved runId resolution nextDueAt =>
    Ahead s driver runId nextDueAt ∧ (resolution.status = .admitted →
      ∃ row entryId, s.runs.get runId = some row ∧ resolution.inboxEntryId = some entryId ∧
        OccurrenceEntry s row.scheduleId row.scheduledFor entryId)

structure SchedulesValid (s : ScheduledStore) : Prop where
  base : s.base.Reachable
  single : ∀ firstId secondId first second, s.runs.get firstId = some first → s.runs.get secondId = some second →
    first.status = .claimed → second.status = .claimed → first.scheduleId = second.scheduleId → firstId = secondId
  once : ∀ firstId secondId first second, s.runs.get firstId = some first → s.runs.get secondId = some second →
    first.scheduleId = second.scheduleId → first.scheduledFor = second.scheduledFor → firstId = secondId
  stages : ∀ driver stage, s.drivers.get driver = some stage → StageValid s driver stage
  admitted : ∀ runId run, s.runs.get runId = some run → run.status = .admitted →
    ∃ entryId, run.inboxEntryId = some entryId ∧ OccurrenceEntry s run.scheduleId run.scheduledFor entryId

theorem SameSession.grow (grows : Grows s s') {view}
    (same : SameSession s scheduleId view) : SameSession s' scheduleId view := by
  obtain ⟨schedule, found, same⟩ := same
  obtain ⟨schedule', found', kept⟩ := grows.schedules _ _ found
  exact ⟨schedule', found', kept.trans same⟩

theorem occurrence_eq {first second : ScheduleRun} (same : first.occurrence = second.occurrence) :
    first.scheduleId = second.scheduleId ∧ first.scheduledFor = second.scheduledFor ∧ first.intent = second.intent := by
  simpa only [ScheduleRun.occurrence, Prod.mk.injEq] using same

theorem StageValid.grow (grows : Grows s s') {stage : DriverStage}
    (ahead : ∀ runId nextDueAt, Ahead s driver runId nextDueAt → Ahead s' driver runId nextDueAt)
    (valid : StageValid s driver stage) : StageValid s' driver stage := by
  cases stage with
  | planned => exact ⟨valid.1, valid.2.grow grows⟩
  | claimed view runId run nextDueAt =>
    obtain ⟨session, own, ⟨row, found, same⟩, before⟩ := valid
    obtain ⟨row', found', kept⟩ := grows.runs _ _ found
    exact ⟨session.grow grows, own, ⟨row', found', kept.trans same⟩, ahead _ _ before⟩
  | resolved runId resolution nextDueAt =>
    obtain ⟨before, entry⟩ := valid
    refine ⟨ahead _ _ before, fun admitted => ?_⟩
    obtain ⟨row, entryId, found, named, entry⟩ := entry admitted
    obtain ⟨row', found', kept⟩ := grows.runs _ _ found
    obtain ⟨own, time, _⟩ := occurrence_eq kept
    exact ⟨row', entryId, found', named, by rw [own, time]; exact entry.grow grows⟩

theorem driver_eq {first second : DriverId} (worker : first.workerId = second.workerId)
    (schedule : first.scheduleId = second.scheduleId) : first = second := by
  cases first
  cases second
  simp_all

theorem acting_ne {actor stage before after}
    (held : s.drivers.get driver = some stage) (still : s'.drivers.get driver = some stage)
    (acted : s.drivers.get actor = some before) (moved : s'.drivers.get actor = some after) (differs : before ≠ after) :
    driver ≠ actor := by
  rintro rfl
  cases held.symm.trans acted
  exact differs (Option.some.inj (still.symm.trans moved))

theorem Ahead.put_run {newId new nextDueAt drivers} (ahead : Ahead s driver runId nextDueAt)
    (others : new.claimOwnerId = driver.workerId → new.scheduleId ≠ driver.scheduleId) :
    Ahead { s with runs := s.runs.put newId new, drivers } driver runId nextDueAt := by
  intro run found claimed owner own
  rcases Table.of_get_put found with ⟨_, rfl⟩ | ⟨_, found⟩
  · exact absurd own (others owner)
  · exact ahead run found claimed owner own

theorem Ahead.step (valid : SchedulesValid s) (move : ScheduleMove s s')
    {stage : DriverStage} (held : s.drivers.get driver = some stage) (still : s'.drivers.get driver = some stage)
    {nextDueAt : Int} (ahead : Ahead s driver runId nextDueAt) :
    Ahead s' driver runId nextDueAt := by
  cases move with
  | base | same | planned | resolved | admitted | dropped => exact ahead
  | created fresh =>
    intro run found claimed owner own
    obtain ⟨schedule, stored, before⟩ := ahead run found claimed owner own
    exact ⟨schedule, Table.kept_put_fresh fresh _ _ stored, before⟩
  | @transitioned scheduleId _ _ _ _ _ unclaimed =>
    intro run found claimed owner own
    obtain ⟨schedule, stored, before⟩ := ahead run found claimed owner own
    have other : driver.scheduleId ≠ scheduleId := by
      rintro rfl
      have := (Table.any_eq_false _ _).mp unclaimed runId run found
      simp [own, claimed] at this
    exact ⟨schedule, by rw [Table.get_put_ne _ _ other, stored], before⟩
  | @claimed actor _ _ _ _ newId new stage' _ _ _ mine _ mineOwner =>
    have other : driver ≠ actor := acting_ne held still stage' (Table.get_put_self ..) nofun
    exact ahead.put_run fun owner own => other (driver_eq (owner.symm.trans mineOwner) (own.symm.trans mine))
  | @completed actor doneId _ _ _ done _ _ before mine busy _ found _ ended =>
    intro run found' claimed owner own
    rcases Table.of_get_put found' with ⟨_, rfl⟩ | ⟨different, found'⟩
    · exact absurd claimed ended
    · obtain ⟨schedule, stored, behind⟩ := ahead run found' claimed owner own
      have other : driver.scheduleId ≠ actor.scheduleId := fun same =>
        different (valid.single _ _ _ _ found' before claimed busy (own.trans (same.trans mine.symm)))
      exact ⟨schedule, by rw [← stored]; exact Table.get_put_ne _ _ other, behind⟩

theorem ScheduleMove.runs (move : ScheduleMove s s') :
    s'.runs = s.runs ∨ ∃ runId run, s'.runs = s.runs.put runId run ∧ Claimable s runId run := by
  cases move with
  | base | same | created | transitioned | planned | resolved | admitted | dropped => exact .inl rfl
  | claimed _ _ _ claimable => exact .inr ⟨_, _, rfl, claimable⟩
  | completed _ held _ claimed => exact .inr ⟨_, _, rfl, .inr ⟨_, held, claimed, rfl⟩⟩

theorem SchedulesValid.stages_step (valid : SchedulesValid s) (move : ScheduleMove s s')
    (driver : DriverId) (stage : DriverStage) (found : s'.drivers.get driver = some stage) :
    StageValid s' driver stage := by
  have grows := move.grows
  -- A stage that was there before is carried over.
  have old (held : s.drivers.get driver = some stage) : StageValid s' driver stage :=
    (valid.stages driver stage held).grow grows fun _ _ ahead => ahead.step valid move held found
  -- The step writes the stage of one driver.
  have written {actor : DriverId} {new : DriverStage} (drivers : s'.drivers = s.drivers.put actor new)
      (own : StageValid s' actor new) : StageValid s' driver stage := by
    have entry := found
    rw [drivers] at entry
    rcases Table.of_get_put entry with ⟨rfl, rfl⟩ | ⟨_, held⟩
    · exact own
    · exact old held
  cases move with
  | base | same | created | transitioned => exact old found
  | dropped | completed => exact old (Table.get_of_get_erase found)
  | planned stored ahead => exact written rfl ⟨ahead, _, stored, rfl⟩
  | resolved held empty => exact written rfl ⟨(valid.stages _ _ held).2.2.2, fun admitted => absurd admitted empty⟩
  | admitted held _ admission =>
    obtain ⟨⟨schedule, stored, session⟩, own, ⟨row, held, same⟩, ahead⟩ := valid.stages _ _ held
    obtain ⟨entry, added, entrySession, key⟩ := admitInputCommand_entry admission
    obtain ⟨rowOwn, rowTime, _⟩ := occurrence_eq same
    refine written rfl ⟨ahead, fun _ => ⟨row, _, held, rfl, ?_⟩⟩
    rw [rowOwn, rowTime, own]
    exact ⟨schedule, entry, stored, added, entrySession.trans session.symm, key⟩
  | claimed held stored cursor _ mine =>
    obtain ⟨⟨instant, due, behind⟩, session⟩ := valid.stages _ _ held
    exact written rfl ⟨session.grow grows, mine, ⟨_, Table.get_put_self .., rfl⟩,
      fun _ _ _ _ _ => ⟨_, stored, instant, cursor.trans due, behind⟩⟩

theorem SchedulesValid.admitted_step (valid : SchedulesValid s) (move : ScheduleMove s s')
    (runId) (run) (found : s'.runs.get runId = some run) (admitted : run.status = .admitted) :
    ∃ entryId, run.inboxEntryId = some entryId ∧ OccurrenceEntry s' run.scheduleId run.scheduledFor entryId := by
  have grows := move.grows
  have old (held : s.runs.get runId = some run) :
      ∃ entryId, run.inboxEntryId = some entryId ∧ OccurrenceEntry s' run.scheduleId run.scheduledFor entryId := by
    obtain ⟨entryId, named, entry⟩ := valid.admitted runId run held admitted
    exact ⟨entryId, named, entry.grow grows⟩
  cases move with
  | base | same | created | transitioned | planned | resolved | admitted | dropped => exact old found
  | claimed _ _ _ _ _ claimed =>
    rcases Table.of_get_put found with ⟨_, rfl⟩ | ⟨_, found⟩
    · cases claimed.symm.trans admitted
    · exact old found
  | completed stage held =>
    rcases Table.of_get_put found with ⟨_, rfl⟩ | ⟨_, found⟩
    · obtain ⟨row, entryId, held', named, entry⟩ := (valid.stages _ _ stage).2 admitted
      cases held.symm.trans held'
      exact ⟨entryId, named, entry.grow grows⟩
    · exact old found

theorem SchedulesValid.step (valid : SchedulesValid s) (move : ScheduleMove s s') :
    SchedulesValid s' where
  base := by
    cases move with
    | base stepped => exact .step valid.base trivial stepped
    | admitted _ _ admission => exact .step valid.base trivial (admitInputCommand_exec admission)
    | same | created | transitioned | planned | resolved | claimed | completed | dropped => exact valid.base
  single firstId secondId first second foundFirst foundSecond claimedFirst claimedSecond same := by
    have single := valid.single
    obtain unchanged | ⟨runId, run, put, ⟨_, new⟩ | ⟨old, held, claimed, kept⟩⟩ := move.runs
    · rw [unchanged] at foundFirst foundSecond
      exact single _ _ _ _ foundFirst foundSecond claimedFirst claimedSecond same
    all_goals rw [put, Table.get_put] at foundFirst foundSecond
    · grind
    · obtain ⟨own, _⟩ := occurrence_eq kept
      grind
  once firstId secondId first second foundFirst foundSecond same time := by
    have once := valid.once
    obtain unchanged | ⟨runId, run, put, ⟨_, new⟩ | ⟨old, held, _, kept⟩⟩ := move.runs
    · rw [unchanged] at foundFirst foundSecond
      exact once _ _ _ _ foundFirst foundSecond same time
    all_goals rw [put, Table.get_put] at foundFirst foundSecond
    · grind
    · obtain ⟨own, moment, _⟩ := occurrence_eq kept
      grind
  stages := valid.stages_step move
  admitted := valid.admitted_step move

theorem schedules_valid (reached : (scheduleSystem cron).Reachable s) :
    SchedulesValid s := by
  have start : SchedulesValid (scheduleSystem cron).initial := by
    refine ⟨.initial, ?_, ?_, ?_, ?_⟩ <;> simp [scheduleSystem]
  exact reached.invariant start fun _ _ _ valid _ step => valid.step (schedule_move step)

/-! ### The cursor -/

def ScheduledStore.isActive (s : ScheduledStore) (scheduleId : ScheduleId) : Bool :=
  (s.schedules.get scheduleId).any fun schedule => schedule.status = .active

def CursorAdvances (scheduleId : ScheduleId) (s s' : ScheduledStore) : Prop :=
  ∀ schedule cursor, s.schedules.get scheduleId = some schedule → schedule.nextDueAt = some cursor →
    ∃ schedule' cursor', s'.schedules.get scheduleId = some schedule' ∧ schedule'.nextDueAt = some cursor' ∧
      cursor ≤ cursor'

theorem CursorAdvances.trans {a b c} (first : CursorAdvances scheduleId a b)
    (last : CursorAdvances scheduleId b c) : CursorAdvances scheduleId a c := by
  intro schedule cursor found due
  obtain ⟨middle, next, found, due, before⟩ := first schedule cursor found due
  obtain ⟨final, later, found, due, before'⟩ := last middle next found due
  exact ⟨final, later, found, due, before.trans before'⟩

theorem ScheduleMove.cursor (valid : SchedulesValid s) (move : ScheduleMove s s')
    (active : s.isActive scheduleId = true) (still : s'.isActive scheduleId = true) :
    CursorAdvances scheduleId s s' := by
  intro schedule cursor found due
  -- A schedule that the step does not write keeps its cursor.
  have unwritten (same : s'.schedules.get scheduleId = s.schedules.get scheduleId) :
      ∃ schedule' cursor', s'.schedules.get scheduleId = some schedule' ∧ schedule'.nextDueAt = some cursor' ∧
        cursor ≤ cursor' := ⟨schedule, cursor, same.trans found, due, le_refl _⟩
  cases move with
  | base | same | planned | claimed | resolved | admitted | dropped => exact unwritten rfl
  | created fresh => exact unwritten ((Table.kept_put_fresh fresh _ _ found).trans found.symm)
  | @transitioned movedId current _ _ _ stored _ moves =>
    by_cases own : scheduleId = movedId
    · subst own
      simp only [ScheduledStore.isActive, stored, Table.get_put_self, Option.any_some, decide_eq_true_eq] at active still
      exact absurd ⟨active, still⟩ moves
    · exact unwritten (Table.get_put_ne _ _ own)
  | @completed driver runId resolution next completedAt _ _ stage held own claimed owner stored =>
    by_cases same : scheduleId = driver.scheduleId
    · subst same
      obtain ⟨_, stored', instant, due', behind⟩ := (valid.stages _ _ stage).1 _ held claimed owner own
      cases found.symm.trans stored'
      cases due.symm.trans due'
      exact ⟨_, next, Table.get_put_self .., rfl, behind.le⟩
    · exact unwritten (Table.get_put_ne _ _ same)

abbrev WhileActive (cron : CronLibrary) (scheduleId : ScheduleId) : ScheduledStore → ScheduledStore → Prop :=
  Relation.ReflTransGen fun s s' =>
    (scheduleSystem cron).Step s s' ∧ s.isActive scheduleId = true ∧ s'.isActive scheduleId = true

theorem WhileActive.cursor (reached : (scheduleSystem cron).Reachable s) (active : WhileActive cron scheduleId s s') :
    (scheduleSystem cron).Reachable s' ∧ CursorAdvances scheduleId s s' := by
  induction active with
  | refl => exact ⟨reached, fun schedule cursor found due => ⟨schedule, cursor, found, due, le_refl _⟩⟩
  | tail _ last ih =>
    obtain ⟨middle, before⟩ := ih
    obtain ⟨⟨op, step⟩, active, still⟩ := last
    exact ⟨.step middle trivial step, before.trans ((schedule_move step).cursor (schedules_valid middle) active still)⟩

/-! ### At most once -/

structure FiresOnce (cron : CronLibrary) (s : ScheduledStore) : Prop where
  /-- An occurrence has at most one run. -/
  once : ∀ firstId secondId first second, s.runs.get firstId = some first → s.runs.get secondId = some second →
    first.scheduleId = second.scheduleId → first.scheduledFor = second.scheduledFor → firstId = secondId
  /-- Whatever comes later, a run keeps its occurrence and its intent. -/
  kept : ∀ s', (scheduleSystem cron).Later s s' → ∀ runId run, s.runs.get runId = some run →
    ∃ run', s'.runs.get runId = some run' ∧ run'.scheduleId = run.scheduleId ∧
      run'.scheduledFor = run.scheduledFor ∧ run'.intent = run.intent
  /-- Whoever does not hold the claim cannot complete the run. -/
  fenced : ∀ commit run, s.runs.get commit.scheduleRunId = some run → run.claimOwnerId ≠ commit.ownerId →
    ∃ error, completeScheduleRun commit s = .error error
  /-- No lifecycle command commits while a run is claimed. -/
  guarded : ∀ commit s', transitionSchedule cron commit s = .ok s' → ∀ runId run, s.runs.get runId = some run →
    run.scheduleId = commit.scheduleId → run.status ≠ .claimed
  /-- The cursor never moves back while the schedule stays active. -/
  forward : ∀ scheduleId s', WhileActive cron scheduleId s s' → CursorAdvances scheduleId s s'
  /-- At most one inbox entry stands under the occurrence's key in the schedule's session. -/
  single : ∀ scheduleId scheduledFor firstId secondId, OccurrenceEntry s scheduleId scheduledFor firstId →
    OccurrenceEntry s scheduleId scheduledFor secondId → firstId = secondId
  /-- It is the only entry that an admission for a claimed run can add, -/
  adds : ∀ driver maximumPendingInputs ids s', s.admitOccurrence driver maximumPendingInputs ids = .ok s' →
    ∀ entryId entry, s'.base.core.inbox.get entryId = some entry → s.base.core.inbox.get entryId = none →
      ∃ runId run, s.runs.get runId = some run ∧ run.scheduleId = driver.scheduleId ∧ run.intent = .fire ∧
        OccurrenceEntry s' driver.scheduleId run.scheduledFor entryId
  /-- and the entry that an admitted run names. -/
  admitted : ∀ runId run, s.runs.get runId = some run → run.status = .admitted →
    ∃ entryId, run.inboxEntryId = some entryId ∧ OccurrenceEntry s run.scheduleId run.scheduledFor entryId

theorem completion_fenced {commit run}
    (found : s.runs.get commit.scheduleRunId = some run) (other : run.claimOwnerId ≠ commit.ownerId) :
    ∃ error, completeScheduleRun commit s = .error error := by
  cases completed : completeScheduleRun commit s with
  | error error => exact ⟨error, rfl⟩
  | ok s' =>
    obtain ⟨_, _, found', _, _, owner, _⟩ := completeScheduleRun_ok completed
    cases found.symm.trans found'
    exact absurd owner other

theorem admission_adds (valid : SchedulesValid s) {maximumPendingInputs : Nat}
    {ids : AdmissionIds} (ok : s.admitOccurrence driver maximumPendingInputs ids = .ok s') {entryId : InboxEntryId}
    {entry : InboxEntry} (stored : s'.base.core.inbox.get entryId = some entry)
    (absent : s.base.core.inbox.get entryId = none) :
    ∃ runId run, s.runs.get runId = some run ∧ run.scheduleId = driver.scheduleId ∧ run.intent = .fire ∧
      OccurrenceEntry s' driver.scheduleId run.scheduledFor entryId := by
  have unchanged (same : s'.base = s.base) : False := by
    rw [same, absent] at stored
    cases stored
  unfold ScheduledStore.admitOccurrence at ok
  split at ok
  next view runId run nextDueAt stage =>
    split at ok
    next fires =>
      split at ok
      next outcome base admission =>
        cases ok
        obtain ⟨⟨schedule, found, session⟩, own, ⟨row, held, same⟩, _⟩ := valid.stages _ _ stage
        obtain ⟨rowOwn, rowTime, rowIntent⟩ := occurrence_eq same
        obtain ⟨added, addedStored, addedSession, key⟩ := admitInputCommand_entry admission
        have named : entryId = outcome.receipt.inboxEntryId := by
          by_contra other
          have kept := admitInputCommand_adds admission other
          cases (kept.trans absent).symm.trans stored
        subst named
        refine ⟨runId, row, held, rowOwn.trans own, rowIntent.trans fires, ?_⟩
        rw [rowTime]
        exact ⟨schedule, added, found, addedStored, addedSession.trans session.symm, key⟩
      all_goals
        cases ok
        exact (unchanged rfl).elim
    next => cases ok
  next => cases ok

theorem schedules_fire_once {cron : CronLibrary} {s : ScheduledStore} (reached : (scheduleSystem cron).Reachable s) :
    FiresOnce cron s := by
  have valid := schedules_valid reached
  refine ⟨valid.once, ?_, fun _ _ => completion_fenced, ?_, ?_, ?_, ?_, valid.admitted⟩
  · intro s' later runId run found
    have grows : Grows s s' := System.Later.preserves Grows Grows.refl Grows.trans
      (fun _ _ _ step => (schedule_move step).grows) later
    obtain ⟨run', found', same⟩ := grows.runs runId run found
    exact ⟨run', found', occurrence_eq same⟩
  · intro commit s' committed runId run found own claimed
    have unclaimed := (Table.any_eq_false _ _).mp (transitionSchedule_ok committed).1 runId run found
    simp [own, claimed] at unclaimed
  · intro scheduleId s' active
    exact (WhileActive.cursor reached active).2
  · rintro scheduleId scheduledFor firstId secondId ⟨schedule, first, found, storedFirst, session, key⟩
      ⟨_, second, found', storedSecond, session', key'⟩
    cases found.symm.trans found'
    exact (inbox_valid valid.base).keyed _ _ _ _ storedFirst storedSecond (session.trans session'.symm)
      (key.trans key'.symm)
  · intro driver maximumPendingInputs ids s' committed entryId entry stored absent
    exact admission_adds valid committed stored absent

def minutes : CronLibrary where
  parsesExpression := fun _ => true
  parsesTimezone := fun _ => true
  represents := fun _ => true
  next := fun _ _ after => some ((after / 60000 + 1) * 60000)
  previous := fun _ _ now => some (now / 60000 * 60000)

def sampleSchedule : CreateScheduleCommit where
  name := "brief"
  prompt := "Prepare a concise brief."
  cronExpression := "* * * * *"
  timezone := "UTC"
  misfireGraceMs := 0
  approvalRequiredActionsAllowed := false
  scheduleId := ⟨0⟩
  ownership := ⟨⟨0⟩, ⟨0⟩⟩
  sessionId := ⟨0⟩
  missedRunPolicy := .latest
  overlapPolicy := .queue
  nextDueAt := 120000
  createdAt := 60000

def admittedTwice : List ScheduleOperation :=
  [.base (.createSession ⟨⟨⟨0⟩, ⟨⟨0⟩, ⟨0⟩⟩⟩, none, ⟨0⟩, 0⟩), .create sampleSchedule,
   .plan ⟨⟨1⟩, ⟨0⟩⟩ 130000, .claim ⟨⟨1⟩, ⟨0⟩⟩ ⟨0⟩, .admitOccurrence ⟨⟨1⟩, ⟨0⟩⟩ 10 ⟨⟨0⟩, ⟨1⟩, ⟨0⟩, ⟨0⟩, 0⟩, .crash ⟨⟨1⟩, ⟨0⟩⟩,
   .plan ⟨⟨2⟩, ⟨0⟩⟩ 200000, .claim ⟨⟨2⟩, ⟨0⟩⟩ ⟨1⟩, .admitOccurrence ⟨⟨2⟩, ⟨0⟩⟩ 10 ⟨⟨1⟩, ⟨2⟩, ⟨1⟩, ⟨1⟩, 0⟩,
   .complete ⟨⟨2⟩, ⟨0⟩⟩ 200001]

theorem schedules_fire_once_after_takeover :
    ∃ s : ScheduledStore, (scheduleSystem minutes).Reachable s ∧
      (s.runs.get ⟨0⟩).map ScheduleRun.status = some .admitted ∧ s.base.core.inbox.entries.length = 1 ∧
      FiresOnce minutes s := by
  obtain ⟨s, reached, admitted, inbox⟩ : ∃ s : ScheduledStore, (scheduleSystem minutes).Reachable s ∧
      (s.runs.get ⟨0⟩).map ScheduleRun.status = some .admitted ∧ s.base.core.inbox.entries.length = 1 :=
    System.exists_reachableIf admittedTwice (by decide +kernel)
  exact ⟨s, reached, admitted, inbox, schedules_fire_once reached⟩

end Mealy.Schedules
