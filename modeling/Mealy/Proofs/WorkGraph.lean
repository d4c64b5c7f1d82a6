import Mealy.Proofs.RunEdges

/-! The work graph: every run has its own task, every live run an active turn of a
session, and every delegation its two runs. The graph is kept by every operation. -/

namespace Mealy
open Relational Transaction

variable {s s' : Store} {op : Operation}

structure Graph (s : Store) : Prop where
  paired : Paired s
  turns : TurnsValid s
  linked : Linked s

/-! ### Frames -/

def Operation.isQuiet : Operation → Bool
  | createSession _ | admitInput _ | promoteNext _ | claimNext _ | completeRun _ | launchAgentDelegation _
  | recordValidation _ => false
  | _ => true

/-- No run is added. -/
def NoNewRun (s s' : Store) : Prop := ∀ runId, s.runs.get runId = none → s'.runs.get runId = none

/-- The conversation is unchanged and no run is added. -/
structure QuietFrame (s s' : Store) : Prop extends SameTurns s s' where
  runs : NoNewRun s s'

theorem put_none {runs : Table RunId Run} {runId otherId run run'} (found : runs.get runId = some run)
    (absent : runs.get otherId = none) : (runs.put runId run').get otherId = none := by
  rw [Table.get_put_ne _ _ (by rintro rfl; simp [found] at absent), absent]

theorem recoverLease_quiet {commit : RecoverLeaseCommit} (ok : recoverLease commit s = .ok s') :
    QuietFrame s s' := by
  have same : SameTurns s s' := by
    obtain ⟨_, rfl⟩ := recoverLease_writes ok
    exact ⟨rfl, rfl, rfl, rfl, rfl⟩
  obtain ⟨_, _, _, _, _, _, _, _, _, _, _, _, _, found, _, _, _, rfl⟩ := recoverLease_ok ok
  exact ⟨same, fun _ => put_none found⟩

theorem requestTaskCancellation_quiet {commit : RequestTaskCancellationCommit}
    (ok : requestTaskCancellation commit s = .ok s') : QuietFrame s s' := by
  have same : SameTurns s s' := by
    obtain ⟨_, rfl⟩ := requestTaskCancellation_writes ok
    exact ⟨rfl, rfl, rfl, rfl, rfl⟩
  refine ⟨same, fun runId absent => ?_⟩
  rcases requestTaskCancellation_ok ok with ⟨rfl, _⟩ | ⟨row, _, _, propagated, _, _, _, loaded, _, _, _, _, child,
    cancelled, requeued, rfl⟩
  · exact absent
  obtain ⟨_, joined⟩ := Store.loadControlledTask_ok loaded
  obtain ⟨_, rfl⟩ := cancelUndispatchedAgentEffect_writes cancelled
  have marked : (s.runs.put row.runId
      { row.run with cancellationRequestedAt := some commit.requestedAt }).get runId = none :=
    put_none (Store.runOfTask_some joined).1 absent
  have propagatedNone : propagated.runs.get runId = none := by
    rcases cancelActiveChild_ok child with ⟨_, rfl⟩ | ⟨_, _, _, child, _⟩
    · exact marked
    · obtain ⟨_, _, _, _, found, _, _, _, rfl⟩ := cancelChild_ok child
      exact put_none found marked
  rcases requeued with ⟨_, _, requeued⟩ | ⟨_, rfl⟩
  · obtain ⟨_, found, _, rfl⟩ := requeueCancelled_ok requeued
    exact put_none found propagatedNone
  · exact propagatedNone

theorem controlTask_quiet {commit} (ok : controlTask commit s = .ok s') :
    QuietFrame s s' := by
  obtain ⟨_, fenced, _, ⟨_, paused, stopped⟩ | ⟨_, _, _, rfl, resumed⟩⟩ := controlTask_ok ok
  · obtain ⟨_, _, rfl⟩ := controlledTo_ok paused
    rcases stopped with ⟨_, rfl⟩ | ⟨_, _, _, _, _, recovered⟩
    · exact ⟨⟨rfl, rfl, rfl, rfl, rfl⟩, fun _ absent => absent⟩
    · obtain ⟨⟨sessions, turns, delegations, inputs, inbox⟩, runs⟩ := recoverLease_quiet recovered
      exact ⟨⟨sessions, turns, delegations, inputs, inbox⟩, runs⟩
  · obtain ⟨_, _, rfl⟩ := controlledTo_ok resumed
    exact ⟨⟨rfl, rfl, rfl, rfl, rfl⟩, fun _ absent => absent⟩

theorem quiet_frame (quiet : op.isQuiet = true) (ok : op.transaction s = .ok s') : QuietFrame s s' := by
  cases op with
  | createSession _ | admitInput _ | promoteNext _ | claimNext _ | completeRun _ | launchAgentDelegation _
  | recordValidation _ => cases quiet
  | release commit =>
    obtain ⟨_, _, _, under, _, rfl⟩ := release_ok ok
    exact ⟨⟨rfl, rfl, rfl, rfl, rfl⟩, fun _ => put_none (Store.runningUnder_eq_some.mp under).1⟩
  | recordModelFailure commit =>
    obtain ⟨_, _, _, _, moves, ended⟩ := recordModelFailure_ok ok
    obtain ⟨_, rfl⟩ := moves.writes
    rcases ended with ⟨_, rfl⟩ | ⟨_, requeued⟩
    · exact ⟨⟨rfl, rfl, rfl, rfl, rfl⟩, fun _ absent => absent⟩
    · obtain ⟨_, _, _, under, rfl⟩ := requeueProviderRetry_ok requeued
      exact ⟨⟨rfl, rfl, rfl, rfl, rfl⟩, fun _ => put_none (Store.runningUnder_eq_some.mp under).1⟩
  | recordAgentEffectProposal commit =>
    obtain ⟨_, _, _, _, _, _, _, under, _, _, _, _, _, _, _, _, _, _, _, rfl⟩ := recordAgentEffectProposal_ok ok
    exact ⟨⟨rfl, rfl, rfl, rfl, rfl⟩, fun _ => put_none (Store.runningUnder_eq_some.mp under).1⟩
  | resumeAgentEffectRun commit =>
    obtain rfl | ⟨_, _, _, _, _, found, _, _, _, rfl⟩ := resumeAgentEffectRun_ok ok
    · exact ⟨⟨rfl, rfl, rfl, rfl, rfl⟩, fun _ absent => absent⟩
    · exact ⟨⟨rfl, rfl, rfl, rfl, rfl⟩, fun _ => put_none found⟩
  | parkAgentEffectRun commit =>
    obtain ⟨_, under, parked⟩ := parkAgentEffectRun_ok ok
    obtain ⟨_, _, _, _, _, rfl⟩ := parkRun_ok parked
    exact ⟨⟨rfl, rfl, rfl, rfl, rfl⟩, fun _ => put_none (Store.runningUnder_eq_some.mp under).1⟩
  | recoverLease commit => exact recoverLease_quiet ok
  | requestTaskCancellation commit => exact requestTaskCancellation_quiet ok
  | controlTask commit => exact controlTask_quiet ok
  | _ =>
    obtain ⟨_, rfl⟩ := Operation.frame ok
    exact ⟨⟨rfl, rfl, rfl, rfl, rfl⟩, fun _ absent => absent⟩

/-! ### Runs that a step adds -/

theorem RunSteps.origin (steps : RunSteps op s s') (paired : Paired s)
    {runId run'} (found' : s'.runs.get runId = some run') :
    s.runs.get runId = none ∨ ∃ run task task', s.runs.get runId = some run ∧ s.tasks.get run.taskId = some task ∧
      s'.tasks.get run.taskId = some task' ∧ Pairs run task.status ∧
      RunEdge op s s' runId run task.status run' task'.status := by
  cases found : s.runs.get runId with
  | none => exact .inl rfl
  | some run =>
    obtain ⟨task, taskFound, pairs⟩ := paired.task _ _ found
    obtain ⟨_, task', stored, taskFound', edge⟩ := steps _ _ _ found taskFound
    rw [found'] at stored
    cases stored
    exact .inr ⟨run, task, task', rfl, taskFound, taskFound', pairs, edge⟩

theorem RunSteps.kept (steps : RunSteps op s s') (paired : Paired s)
    {runId run} (found : s.runs.get runId = some run) :
    ∃ run', s'.runs.get runId = some run' ∧ run'.taskId = run.taskId ∧ run'.agentRole = run.agentRole ∧
      (run'.status.isLive = true → run.status.isLive = true) := by
  obtain ⟨task, taskFound, _⟩ := paired.task _ _ found
  obtain ⟨run', _, found', _, edge⟩ := steps _ _ _ found taskFound
  obtain ⟨ofTask, role, _⟩ := edge.identity
  refine ⟨run', found', ofTask, role, fun live => ?_⟩
  cases ended : run.status.isTerminal with
  | false => simp [ended]
  | true =>
    rw [edge.terminal ended] at live
    exact live

/-- The one run that a step adds has its own task and, while it is live, a turn. -/
structure AddedRun (s s' : Store) (runId : RunId) (run : Run) : Prop where
  fresh : s.tasks.get run.taskId = none
  task : ∃ task, s'.tasks.get run.taskId = some task ∧ Pairs run task.status
  turn : run.status.isLive = true →
    ∃ turnId turn, s'.turns.get turnId = some turn ∧ turn.runId = runId ∧ turn.status = .active
  alone : ∀ otherId, s.runs.get otherId = none → (s'.runs.get otherId).isSome = true → otherId = runId

def AddedRuns (s s' : Store) : Prop :=
  ∀ runId run, s.runs.get runId = none → s'.runs.get runId = some run → AddedRun s s' runId run

theorem NoNewRun.added (runs : NoNewRun s s') : AddedRuns s s' := by
  intro runId run absent found
  simp [runs runId absent] at found

theorem AddedRuns.one {newId new task} (stored : s'.runs.get newId = some new)
    (others : ∀ runId, runId ≠ newId → s.runs.get runId = none → s'.runs.get runId = none)
    (fresh : s.tasks.get new.taskId = none) (taskStored : s'.tasks.get new.taskId = some task)
    (pairs : Pairs new task.status)
    (turn : new.status.isLive = true →
      ∃ turnId turn, s'.turns.get turnId = some turn ∧ turn.runId = newId ∧ turn.status = .active) : AddedRuns s s' := by
  have isNew (runId : RunId) (absent : s.runs.get runId = none) (found : (s'.runs.get runId).isSome = true) :
      runId = newId := by
    by_contra apart
    simp [others runId apart absent] at found
  intro runId run absent found
  obtain rfl := isNew runId absent (by simp [found])
  cases stored.symm.trans found
  exact ⟨fresh, ⟨task, taskStored, pairs⟩, turn, isNew⟩

theorem Paired.step (paired : Paired s) (steps : RunSteps op s s') (added : AddedRuns s s') : Paired s' := by
  constructor
  · intro runId run' found'
    rcases steps.origin paired found' with absent | ⟨run, task, task', _, _, taskFound', pairs, edge⟩
    · exact (added runId run' absent found').task
    · refine ⟨task', ?_, edge.pairs pairs⟩
      rw [edge.identity.1, taskFound']
  · intro firstId secondId first second firstFound secondFound shared
    have apart {oldId newId : RunId} {old new : Run} (oldFound : s'.runs.get oldId = some old)
        (newFound : s'.runs.get newId = some new) (shared : old.taskId = new.taskId) (absent : s.runs.get newId = none) :
        s.runs.get oldId = none := by
      rcases steps.origin paired oldFound with missing | ⟨run, task, _, found, taskFound, _, _, edge⟩
      · exact missing
      · have fresh := (added _ _ absent newFound).fresh
        rw [← shared, edge.identity.1, taskFound] at fresh
        cases fresh
    rcases steps.origin paired firstFound with firstNone | ⟨run, _, _, found, _, _, _, edge⟩
    · have secondNone := apart secondFound firstFound shared.symm firstNone
      exact (added _ _ secondNone secondFound).alone firstId firstNone (by simp [firstFound])
    · rcases steps.origin paired secondFound with secondNone | ⟨other, _, _, otherFound, _, _, _, otherEdge⟩
      · have := apart firstFound secondFound shared secondNone
        cases found.symm.trans this
      · refine paired.distinct _ _ run other found otherFound ?_
        rw [← edge.identity.1, ← otherEdge.identity.1, shared]

/-! ### Turns -/

/-- The turn is where it was; only its status may differ. -/
def Turn.SamePlace (turn turn' : Turn) : Prop :=
  turn'.runId = turn.runId ∧ turn'.taskId = turn.taskId ∧ turn'.kind = turn.kind ∧ turn'.sessionId = turn.sessionId

/-- The one turn that a step adds carries a run that had none. -/
structure AddedTurn (s s' : Store) (turnId : TurnId) (turn : Turn) : Prop where
  run : ∃ run, s'.runs.get turn.runId = some run ∧ run.taskId = turn.taskId ∧
    (turn.kind = .delegated ↔ run.agentRole = .delegate)
  session : ∃ session, s'.sessions.get turn.sessionId = some session
  alone : ∀ otherId other, s'.turns.get otherId = some other → other.runId = turn.runId → otherId = turnId

/-- No session turns to another turn. -/
def ActiveKept (s s' : Store) : Prop :=
  ∀ sessionId session turnId, s'.sessions.get sessionId = some session → session.activeTurnId = some turnId →
    ∃ before, s.sessions.get sessionId = some before ∧ before.activeTurnId = some turnId

structure TurnSteps (s s' : Store) : Prop where
  rows : ∀ turnId turn', s'.turns.get turnId = some turn' →
    (∃ turn, s.turns.get turnId = some turn ∧ turn.SamePlace turn') ∨ AddedTurn s s' turnId turn'
  kept : ∀ turnId turn, s.turns.get turnId = some turn → ∃ turn', s'.turns.get turnId = some turn' ∧
    turn.SamePlace turn' ∧ (turn'.status = turn.status ∨ ∃ run, s'.runs.get turn.runId = some run ∧
      run.status.isTerminal = true)
  active : ∀ sessionId session turnId, s'.sessions.get sessionId = some session → session.activeTurnId = some turnId →
    (∃ before, s.sessions.get sessionId = some before ∧ before.activeTurnId = some turnId) ∨
      ∃ turn, s'.turns.get turnId = some turn ∧ turn.kind = .canonical

theorem TurnsValid.step (turns : TurnsValid s) (paired : Paired s)
    (steps : RunSteps op s s') (sessions : SessionsKept s s') (added : AddedRuns s s') (changes : TurnSteps s s') :
    TurnsValid s' := by
  constructor
  · intro turnId turn' found'
    rcases changes.rows _ _ found' with ⟨turn, found, sameRun, sameTask, sameKind, _⟩ | added
    · obtain ⟨run, runFound, ofTask, kind⟩ := turns.run _ _ found
      obtain ⟨run', runFound', sameOf, sameRole, _⟩ := steps.kept paired runFound
      exact ⟨run', by rw [sameRun, runFound'], by rw [sameOf, ofTask, sameTask], by rw [sameKind, sameRole, kind]⟩
    · exact added.run
  · intro turnId turn' found'
    rcases changes.rows _ _ found' with ⟨turn, found, _, _, _, sameSession⟩ | added
    · obtain ⟨session, sessionFound⟩ := turns.session _ _ found
      obtain ⟨session', sessionFound', _⟩ := sessions _ _ sessionFound
      exact ⟨session', by rw [sameSession, sessionFound']⟩
    · exact added.session
  · intro firstId secondId first second firstFound secondFound shared
    rcases changes.rows _ _ firstFound with ⟨before, found, sameRun, _⟩ | added
    · rcases changes.rows _ _ secondFound with ⟨other, otherFound, otherRun, _⟩ | added
      · exact turns.unique _ _ _ _ found otherFound (by rw [← sameRun, ← otherRun, shared])
      · exact added.alone _ _ firstFound shared
    · exact (added.alone _ _ secondFound shared.symm).symm
  · intro runId run' found' live'
    rcases steps.origin paired found' with absent | ⟨run, _, _, found, _⟩
    · exact (added _ _ absent found').turn live'
    · obtain ⟨_, stored, _, _, stays⟩ := steps.kept paired found
      rw [found'] at stored
      cases stored
      obtain ⟨turnId, turn, turnFound, ofRun, active⟩ := turns.live _ _ found (stays live')
      obtain ⟨turn', turnFound', ⟨sameRun, _⟩, sameStatus | ⟨ended, endedFound, terminal⟩⟩ :=
        changes.kept _ _ turnFound
      · exact ⟨turnId, turn', turnFound', sameRun.trans ofRun, sameStatus.trans active⟩
      · rw [ofRun, found'] at endedFound
        cases endedFound
        simp [terminal] at live'
  · intro sessionId session turnId found isActive
    rcases changes.active _ _ _ found isActive with ⟨before, beforeFound, wasActive⟩ | canonical
    · obtain ⟨turn, turnFound, canonical⟩ := turns.active _ _ _ beforeFound wasActive
      obtain ⟨turn', turnFound', ⟨_, _, sameKind, _⟩, _⟩ := changes.kept _ _ turnFound
      exact ⟨turn', turnFound', sameKind.trans canonical⟩
    · exact canonical

theorem TurnSteps.same (turns : s'.turns = s.turns) (active : ActiveKept s s') : TurnSteps s s' where
  rows turnId turn' found' := .inl ⟨turn', by rw [← turns, found'], rfl, rfl, rfl, rfl⟩
  kept turnId turn found := ⟨turn, by rw [turns, found], ⟨rfl, rfl, rfl, rfl⟩, .inl rfl⟩
  active sessionId session turnId found isActive := .inl (active _ _ _ found isActive)

theorem TurnSteps.ended {turnId turn status}
    (stored : s.turns.get turnId = some turn) (turns : s'.turns = s.turns.put turnId { turn with status })
    (ended : ∃ run, s'.runs.get turn.runId = some run ∧ run.status.isTerminal = true) (active : ActiveKept s s') :
    TurnSteps s s' where
  rows otherId other found := by
    rw [turns] at found
    rcases Table.of_get_put found with ⟨rfl, rfl⟩ | ⟨_, found⟩
    · exact .inl ⟨turn, stored, rfl, rfl, rfl, rfl⟩
    · exact .inl ⟨other, found, rfl, rfl, rfl, rfl⟩
  kept otherId other found := by
    by_cases same : otherId = turnId
    · subst same
      cases stored.symm.trans found
      exact ⟨{ turn with status }, by rw [turns, Table.get_put_self], ⟨rfl, rfl, rfl, rfl⟩, .inr ended⟩
    · exact ⟨other, by rw [turns, Table.get_put_ne _ _ same, found], ⟨rfl, rfl, rfl, rfl⟩, .inl rfl⟩
  active sessionId session turnId found isActive := .inl (active _ _ _ found isActive)

theorem TurnSteps.started {turnId turn run session}
    (fresh : s.turnIsFresh turnId turn = true) (turns : s'.turns = s.turns.put turnId turn)
    (runFound : s'.runs.get turn.runId = some run) (ofTask : run.taskId = turn.taskId)
    (kind : turn.kind = .delegated ↔ run.agentRole = .delegate)
    (sessionFound : s'.sessions.get turn.sessionId = some session)
    (sessions : ∀ sessionId session otherId, s'.sessions.get sessionId = some session →
      session.activeTurnId = some otherId →
      (∃ before, s.sessions.get sessionId = some before ∧ before.activeTurnId = some otherId) ∨
        (otherId = turnId ∧ turn.kind = .canonical)) : TurnSteps s s' := by
  obtain ⟨freshTurn, unique, _⟩ := Store.turnIsFresh_iff.mp fresh
  refine ⟨fun otherId other found => ?_, fun otherId other found => ?_,
    fun sessionId session otherId found isActive => ?_⟩
  · rw [turns] at found
    rcases Table.of_get_put found with ⟨rfl, rfl⟩ | ⟨_, found⟩
    · refine .inr ⟨⟨run, runFound, ofTask, kind⟩, ⟨session, sessionFound⟩, fun thirdId third thirdFound shared => ?_⟩
      rw [turns] at thirdFound
      rcases Table.of_get_put thirdFound with ⟨same, _⟩ | ⟨_, thirdFound⟩
      · exact same
      · exact absurd shared (unique thirdId third thirdFound).2.2
    · exact .inl ⟨other, found, rfl, rfl, rfl, rfl⟩
  · refine ⟨other, ?_, ⟨rfl, rfl, rfl, rfl⟩, .inl rfl⟩
    rw [turns, Table.kept_put_fresh freshTurn _ _ found]
  · rcases sessions _ _ _ found isActive with before | ⟨rfl, canonical⟩
    · exact .inl before
    · exact .inr ⟨turn, by rw [turns, Table.get_put_self], canonical⟩

/-! ### Delegations -/

def DelegationSteps (s s' : Store) : Prop :=
  ∀ delegationId delegation, s'.delegations.get delegationId = some delegation →
    (∃ before, s.delegations.get delegationId = some before ∧ delegation = { before with state := delegation.state }) ∨
      ((∃ parent, s'.runs.get delegation.parentRunId = some parent ∧ parent.agentRole ≠ .delegate) ∧
        (∃ child, s'.runs.get delegation.childRunId = some child ∧ child.taskId = delegation.childTaskId ∧
          child.agentRole = .delegate) ∧
        ∀ otherId other, s'.delegations.get otherId = some other → other.childRunId = delegation.childRunId →
          otherId = delegationId)

theorem Linked.step (linked : Linked s) (paired : Paired s) (steps : RunSteps op s s')
    (changes : DelegationSteps s s') : Linked s' := by
  constructor
  · intro delegationId delegation found
    rcases changes _ _ found with ⟨before, beforeFound, same⟩ | added
    · obtain ⟨parent, parentFound, leads⟩ := linked.parent _ _ beforeFound
      obtain ⟨parent', parentFound', _, role, _⟩ := steps.kept paired parentFound
      exact ⟨parent', by rw [same, parentFound'], by rw [role]; exact leads⟩
    · exact added.1
  · intro delegationId delegation found
    rcases changes _ _ found with ⟨before, beforeFound, same⟩ | added
    · obtain ⟨child, childFound, ofTask, delegate⟩ := linked.child _ _ beforeFound
      obtain ⟨child', childFound', sameTask, role, _⟩ := steps.kept paired childFound
      exact ⟨child', by rw [same, childFound'], by rw [same, sameTask, ofTask], by rw [role, delegate]⟩
    · exact added.2.1
  · intro firstId secondId first second firstFound secondFound shared
    rcases changes _ _ firstFound with ⟨before, beforeFound, same⟩ | added
    · rcases changes _ _ secondFound with ⟨other, otherFound, sameOther⟩ | added
      · exact linked.unique _ _ _ _ beforeFound otherFound (by rw [same, sameOther] at shared; exact shared)
      · exact added.2.2 _ _ firstFound shared
    · exact (added.2.2 _ _ secondFound shared.symm).symm

theorem DelegationSteps.same (delegations : s'.delegations = s.delegations) : DelegationSteps s s' :=
  fun _ delegation found => .inl ⟨delegation, by rw [← delegations, found], rfl⟩

theorem DelegationSteps.moved {delegationId delegation state} (stored : s.delegations.get delegationId = some delegation)
    (delegations : s'.delegations = s.delegations.put delegationId { delegation with state }) : DelegationSteps s s' := by
  intro otherId other found
  rw [delegations] at found
  rcases Table.of_get_put found with ⟨rfl, rfl⟩ | ⟨_, found⟩
  · exact .inl ⟨delegation, stored, rfl⟩
  · exact .inl ⟨other, found, rfl⟩

/-! ### Every operation keeps the graph -/

theorem Graph.of_steps (graph : Graph s) (ok : op.transaction s = .ok s') (added : AddedRuns s s')
    (turnSteps : TurnSteps s s') (delegationSteps : DelegationSteps s s') : Graph s' := by
  obtain ⟨paired, turns, linked⟩ := graph
  have steps := run_steps paired turns linked ok
  exact ⟨paired.step steps added, turns.step paired steps (sessions_kept ok) added turnSteps,
    linked.step paired steps delegationSteps⟩

theorem Graph.untouched (graph : Graph s) (ok : op.transaction s = .ok s') (turns : s'.turns = s.turns)
    (delegations : s'.delegations = s.delegations) (runs : NoNewRun s s') (active : ActiveKept s s') : Graph s' :=
  graph.of_steps ok runs.added (.same turns active) (.same delegations)

theorem ActiveKept.same (sessions : s'.sessions = s.sessions) : ActiveKept s s' :=
  fun _ session _ found isActive => ⟨session, by rw [← sessions, found], isActive⟩

theorem Graph.quiet (graph : Graph s) (quiet : op.isQuiet = true) (ok : op.transaction s = .ok s') : Graph s' := by
  have frame := quiet_frame quiet ok
  exact graph.untouched ok frame.turns frame.delegations frame.runs (.same frame.sessions)

theorem ActiveKept.put {sessionId session session'}
    (stored : s.sessions.get sessionId = some session) (sessions : s'.sessions = s.sessions.put sessionId session')
    (stays : session'.activeTurnId = session.activeTurnId ∨ session'.activeTurnId = none) : ActiveKept s s' := by
  intro otherId other turnId found isActive
  rw [sessions] at found
  rcases Table.of_get_put found with ⟨rfl, rfl⟩ | ⟨_, found⟩
  · refine ⟨session, stored, ?_⟩
    rcases stays with stays | cleared
    · rw [← stays, isActive]
    · simp [cleared] at isActive
  · exact ⟨other, found, isActive⟩

theorem promoteNext_graph {commit : PromotionCommit} (graph : Graph s)
    (issued : (Operation.promoteNext commit).Issued s) (ok : promoteNext commit s = .ok s') : Graph s' := by
  have step : (Operation.promoteNext commit).transaction s = .ok s' := ok
  rcases promoteNext_ok ok with rfl | ⟨session, _, _, sessionFound, _, ⟨_, inserted⟩ | ⟨turnId, active, _,
    loaded, steered | ⟨_, _, interrupted⟩⟩⟩
  · exact graph
  · obtain ⟨freshTask, _, freshTurn, _, rfl⟩ := insertWorkGraph_ok inserted
    have leads : commit.initialAgentRole ≠ .delegate := by
      rw [show commit.initialAgentRole = .named "assistant" from issued]
      simp
    refine graph.of_steps step ?_ ?_ (.same rfl)
    · exact .one (Table.get_put_self ..) (fun _ apart absent => (Table.get_put_ne _ _ apart).trans absent) freshTask
        (Table.get_put_self ..) ⟨rfl, by simp⟩ fun _ => ⟨_, _, Table.get_put_self .., rfl, rfl⟩
    · refine .started freshTurn rfl (Table.get_put_self ..) rfl ?_ (Table.get_put_self ..)
        fun sessionId other otherId found isActive => ?_
      · exact ⟨by simp, fun delegate => absurd delegate leads⟩
      · rcases Table.of_get_put found with ⟨_, rfl⟩ | ⟨_, found⟩
        · exact .inr ⟨(Option.some.inj isActive).symm, rfl⟩
        · exact .inl ⟨other, found, isActive⟩
  · obtain ⟨_, rfl⟩ := steerActive_ok steered
    exact graph.untouched step rfl rfl (fun _ absent => absent) (.same rfl)
  · obtain ⟨same, turnFound, _, found, _⟩ := Store.loadActive_ok loaded
    obtain ⟨_, ⟨_, _, rfl⟩ | ⟨_, _, _, rfl⟩⟩ := interruptActive_ok interrupted
    · rw [← same] at turnFound
      exact graph.of_steps step (NoNewRun.added fun _ => put_none found)
        (.ended turnFound rfl ⟨_, Table.get_put_self .., rfl⟩ (.put sessionFound rfl (.inr rfl))) (.same rfl)
    · exact graph.untouched step rfl rfl (fun _ => put_none found) (.same rfl)

theorem claimNext_graph {commit : LeaseClaimCommit} (graph : Graph s)
    (ok : claimNext commit s = .ok s') : Graph s' := by
  have step : (Operation.claimNext commit).transaction s = .ok s' := ok
  rcases claimNext_ok ok with rfl | ⟨runId, run, _, _, found, _, _, _, delegated, rfl⟩
  · exact graph
  rcases delegated with ⟨_, rfl⟩ | ⟨delegationId, delegation, _, ofChild, _, rfl⟩
  · exact graph.untouched step rfl rfl (fun _ => put_none found) (.same rfl)
  · exact graph.of_steps step (NoNewRun.added fun _ => put_none found) (.same rfl (.same rfl))
      (.moved (Table.find_some ofChild).1 rfl)

theorem completeRun_graph {commit : CompleteRunCommit} (graph : Graph s)
    (ok : completeRun commit s = .ok s') : Graph s' := by
  have step : (Operation.completeRun commit).transaction s = .ok s' := ok
  obtain ⟨owner, task, settled, finished, loaded, settles, finishes, delivers⟩ := completeRun_ok ok
  obtain ⟨_, under, _, _, _, carried, sessionFound, _⟩ :=
    Store.loadFencedOwner_ok.mp (Store.loadCompletion_ok loaded).1
  obtain ⟨found, _⟩ := Store.runningUnder_eq_some.mp under
  obtain ⟨turnFound, ofRun⟩ := Store.turnOfRun_some carried
  obtain ⟨sameSessions, sameTurns, sameRuns, sameDelegations⟩ : settled.sessions = s.sessions ∧
      settled.turns = s.turns ∧ settled.runs = s.runs ∧ settled.delegations = s.delegations := by
    obtain ⟨_, rfl⟩ := settles.writes
    exact ⟨rfl, rfl, rfl, rfl⟩
  have terminal := commit.status.runStatus_isTerminal
  obtain ⟨_, sessions, _, ended, rfl⟩ := finishRun_ok finishes
  have finishedRuns (otherId : RunId) (missing : s.runs.get otherId = none) :
      (settled.runs.put commit.fence.runId { owner.run with
        status := commit.status.runStatus,
        currentFencingToken := commit.fence.fencingToken + 1 }).get otherId = none :=
    put_none (by rw [sameRuns, found]) (by rw [sameRuns, missing])
  have active (store : Store) (same : store.sessions = sessions) : ActiveKept s store := by
    rcases ended with rfl | rfl
    · exact .same (by rw [same, sameSessions])
    · exact .put sessionFound (by rw [same, sameSessions]) (.inr rfl)
  rcases delivers with ⟨_, delivered⟩ | ⟨_, rfl⟩
  · obtain ⟨delegationId, delegation, parent, _, _, _, _, _, stored, ofChild, _, _, parentFound, _, _, _, rfl⟩ :=
      settleDelegatedChild_ok delivered
    have storedBefore : s.delegations.get delegationId = some delegation := by rw [← sameDelegations, stored]
    have apart : delegation.childRunId ≠ delegation.parentRunId := (graph.linked.apart storedBefore).symm
    refine graph.of_steps step (NoNewRun.added fun runId missing => put_none parentFound (finishedRuns runId missing))
      (.ended turnFound (by rw [sameTurns]) ?_ (active _ rfl)) (.moved storedBefore (by rw [sameDelegations]))
    rw [ofRun]
    exact ⟨_, (Table.get_put_ne _ _ (ofChild ▸ apart)).trans (Table.get_put_self ..), terminal⟩
  · refine graph.of_steps step (NoNewRun.added finishedRuns) (.ended turnFound (by rw [sameTurns]) ?_ (active _ rfl))
      (.same sameDelegations)
    rw [ofRun]
    exact ⟨_, Table.get_put_self .., terminal⟩

theorem launchAgentDelegation_graph {commit} (graph : Graph s)
    (ok : launchAgentDelegation commit s = .ok s') : Graph s' := by
  have step : (Operation.launchAgentDelegation commit).transaction s = .ok s' := ok
  obtain ⟨parent, _, task, _, _, _, different, loaded, _, taskFound, _, freshTask, _, _, unique, freshTurn, rfl⟩ :=
    launchAgentDelegation_ok ok
  obtain ⟨under, carried, sessionFound, canonical⟩ := Store.loadParent_ok loaded
  obtain ⟨found, _⟩ := Store.runningUnder_eq_some.mp under
  have leads : parent.run.agentRole ≠ .delegate := by
    obtain ⟨turnFound, ofRun⟩ := Store.turnOfRun_some carried
    obtain ⟨run, stored, _, kind⟩ := graph.turns.run _ _ turnFound
    rw [ofRun, found] at stored
    cases stored
    intro delegate
    rw [kind.mpr delegate] at canonical
    cases canonical
  have childFound : ((s.runs.put commit.childRunId commit.childRun).put commit.parentFence.runId
      { parent.run with
        status := .waiting,
        currentFencingToken := commit.parentFence.fencingToken + 1 }).get commit.childRunId =
      some commit.childRun := (Table.get_put_ne _ _ different).trans (Table.get_put_self ..)
  have taskApart : commit.childTaskId ≠ parent.run.taskId := by
    intro same
    simp [← same, freshTask] at taskFound
  refine graph.of_steps step ?_ ?_ fun delegationId delegation stored => ?_
  · refine .one childFound (fun runId apart absent => ?_) freshTask
      ((Table.get_put_ne _ _ taskApart).trans (Table.get_put_self ..))
      ⟨rfl, by simp [LaunchAgentDelegationCommit.childTask, LaunchAgentDelegationCommit.childRun]⟩
      fun _ => ⟨_, _, Table.get_put_self .., rfl, rfl⟩
    exact put_none ((Table.get_put_ne _ _ different.symm).trans found) ((Table.get_put_ne _ _ apart).trans absent)
  · refine .started freshTurn rfl childFound rfl ⟨fun _ => rfl, fun _ => rfl⟩ (Table.get_put_self ..)
      fun sessionId session otherId stored isActive => .inl ?_
    refine ActiveKept.put sessionFound rfl ?_ sessionId session otherId stored isActive
    exact .inl rfl
  · rcases Table.of_get_put stored with ⟨rfl, rfl⟩ | ⟨_, stored⟩
    · refine .inr ⟨⟨_, Table.get_put_self .., leads⟩, ⟨commit.childRun, childFound, rfl, rfl⟩,
        fun otherId other otherStored shared => ?_⟩
      rcases Table.of_get_put otherStored with ⟨same, _⟩ | ⟨_, otherStored⟩
      · exact same
      · exact absurd shared (unique otherId other otherStored)
    · exact .inl ⟨delegation, stored, rfl⟩

theorem recordValidation_graph {commit} (graph : Graph s) (ok : recordValidation commit s = .ok s') : Graph s' := by
  have step : (Operation.recordValidation commit).transaction s = .ok s' := ok
  obtain ⟨_, task, tasks, runs, _, _, _, taskFound, _, _, stage, rfl⟩ := recordValidation_ok ok
  rcases stage with ⟨rfl, rfl⟩ | ⟨validatorTaskId, validatorRunId, validatorTask, validatorRun, freshTask, _, rfl, rfl,
    taskDone, runDone, ofTask⟩
  · exact graph.untouched step rfl rfl (fun _ absent => absent) (.same rfl)
  have taskApart : validatorTaskId ≠ commit.taskId := by
    rintro rfl
    simp [freshTask] at taskFound
  refine graph.of_steps step ?_ (.same rfl (.same rfl)) (.same rfl)
  refine .one (Table.get_put_self ..) (fun _ apart absent => (Table.get_put_ne _ _ apart).trans absent)
    (ofTask ▸ freshTask) ?_ ⟨by rw [runDone, taskDone]; rfl, by simp [runDone, RunStatus.isTerminal]⟩
    (by simp [runDone, RunStatus.isTerminal])
  rw [ofTask]
  exact (Table.get_put_ne _ _ taskApart).trans (Table.get_put_self ..)

theorem Graph.step (graph : Graph s) (stepped : op.exec s = .ok s') : Graph s' := by
  obtain ⟨issued, ok⟩ := Operation.exec_eq_ok.mp stepped
  cases quiet : op.isQuiet with
  | true => exact graph.quiet quiet ok
  | false =>
    cases op with
    | createSession commit =>
      have step : (Operation.createSession commit).transaction s = .ok s' := ok
      obtain ⟨fresh, session, inactive, rfl⟩ := createSession_ok ok
      refine graph.untouched step rfl rfl (fun _ absent => absent) fun sessionId other turnId found isActive => ?_
      rcases Table.of_get_put found with ⟨_, rfl⟩ | ⟨_, found⟩
      · simp [inactive] at isActive
      · exact ⟨other, found, isActive⟩
    | admitInput commit =>
      have step : (Operation.admitInput commit).transaction s = .ok s' := ok
      obtain rfl | ⟨session, _, found, _, rfl⟩ := admitInput_ok ok
      · exact graph
      · exact graph.untouched step rfl rfl (fun _ absent => absent) (.put found rfl (.inl rfl))
    | promoteNext commit => exact promoteNext_graph graph issued ok
    | claimNext commit => exact claimNext_graph graph ok
    | completeRun commit => exact completeRun_graph graph ok
    | launchAgentDelegation commit => exact launchAgentDelegation_graph graph ok
    | recordValidation commit => exact recordValidation_graph graph ok
    | _ => cases quiet

theorem workGraph (reached : s.Reachable) : Graph s := by
  have start : Graph {} :=
    ⟨⟨by simp, by simp⟩, ⟨by simp, by simp, by simp, by simp, by simp⟩, ⟨by simp, by simp, by simp⟩⟩
  have kept (op : Operation) (s s' : Store) (graph : Graph s) (_ : True) (step : op.exec s = .ok s') : Graph s' :=
    graph.step step
  exact System.ReachableIf.invariant start kept reached

/-! ### The lifecycle of a delegation -/

inductive DelegationEdge (op : Operation) (s s' : Store) (delegationId : DelegationId) : Delegation → Prop where
  | keep {delegation} (stored : s.delegations.get delegationId = some delegation) :
      DelegationEdge op s s' delegationId delegation
  | start {delegation} (stored : s.delegations.get delegationId = some delegation)
      (queued : delegation.state = .queued)
      (claimed : ∃ run, s'.runs.get delegation.childRunId = some run ∧ run.status = .running) :
      DelegationEdge op s s' delegationId { delegation with state := .running }
  | settle {delegation state}
      (stored : s.delegations.get delegationId = some delegation) (running : delegation.state = .running)
      (ended : state.isActive = false) : DelegationEdge op s s' delegationId { delegation with state }
  | launch {commit} (by_ : op = .launchAgentDelegation commit)
      (same : delegationId = commit.delegationId) : DelegationEdge op s s' delegationId commit.delegation

theorem delegation_edge (ok : op.transaction s = .ok s') {delegationId delegation}
    (found : s'.delegations.get delegationId = some delegation) : DelegationEdge op s s' delegationId delegation := by
  have unchanged (same : s'.delegations = s.delegations) : DelegationEdge op s s' delegationId delegation :=
    .keep (by rw [← same, found])
  cases op with
  | claimNext commit =>
    rcases claimNext_ok ok with rfl | ⟨runId, run, _, _, _, _, _, _, ⟨_, rfl⟩ | ⟨startedId, started, _, ofChild,
      queued, rfl⟩, rfl⟩
    · exact unchanged rfl
    · exact unchanged rfl
    · obtain ⟨stored, same⟩ := Table.find_some ofChild
      dsimp only at found
      rw [Table.get_put] at found
      split at found
      next isSame =>
        cases found
        refine .start (by rw [isSame, stored]) queued ⟨{ run with
          status := .running, currentFencingToken := run.currentFencingToken + 1, nextAttemptAt := none }, ?_, rfl⟩
        rw [of_decide_eq_true same]
        exact Table.get_put_self ..
      next => exact .keep found
  | completeRun commit =>
    obtain ⟨_, _, settled, _, _, settles, finishes, delivers⟩ := completeRun_ok ok
    have sameDelegations : settled.delegations = s.delegations := by
      obtain ⟨_, rfl⟩ := settles.writes
      rfl
    obtain ⟨_, _, _, _, rfl⟩ := finishRun_ok finishes
    rcases delivers with ⟨_, delivered⟩ | ⟨_, rfl⟩
    · obtain ⟨endedId, ended, _, _, _, _, _, _, stored, _, _, running, _, _, _, _, rfl⟩ :=
        settleDelegatedChild_ok delivered
      dsimp only at found stored
      rw [sameDelegations] at found stored
      rw [Table.get_put] at found
      split at found
      next isSame =>
        cases found
        exact .settle (by rw [isSame, stored]) running commit.status.delegationState_isActive
      next => exact .keep found
    · exact unchanged sameDelegations
  | launchAgentDelegation commit =>
    obtain ⟨_, _, _, _, _, _, _, _, _, _, _, _, _, _, _, _, rfl⟩ := launchAgentDelegation_ok ok
    dsimp only at found
    rw [Table.get_put] at found
    split at found
    next isSame => cases found; exact .launch rfl isSame
    next => exact .keep found
  | _ =>
    obtain ⟨_, rfl⟩ := Operation.frame ok
    exact unchanged rfl

end Mealy
