import Mealy.Proofs.Leases
import Mealy.Proofs.WorkGraph

/-! Work that is given up and queued again. A requeued run is selectable again exactly when
it does not execute a delegation: the claim of a delegate moved its delegation to
`running`, and no requeue path moves it back. -/

namespace Mealy
open Relational Transaction

variable {s : Store} {runId : RunId} {run : Run}

/-! ### A queued delegation has a queued child -/

def QueuedChildren (s : Store) : Prop :=
  ∀ delegationId delegation child, s.delegations.get delegationId = some delegation → delegation.state = .queued →
    s.runs.get delegation.childRunId = some child → child.status = .queued

theorem Store.delegationOfChild_eq_some (linked : Linked s) {delegationId delegation} :
    s.delegationOfChild runId = some (delegationId, delegation) ↔
      s.delegations.get delegationId = some delegation ∧ delegation.childRunId = runId := by
  constructor
  · intro found
    obtain ⟨stored, ofChild⟩ := Table.find_some found
    exact ⟨stored, of_decide_eq_true ofChild⟩
  · rintro ⟨stored, ofChild⟩
    refine Table.find_eq_some_of_unique stored (by simp [ofChild]) fun otherId other otherStored same => ?_
    exact linked.unique _ _ _ _ otherStored stored ((of_decide_eq_true same).trans ofChild.symm)

theorem RunEdge.stays_queued {op s' run' status status'} (edge : RunEdge op s s' runId run status run' status') (queued : run.status = .queued)
    (delegate : run.agentRole = .delegate) :
    run'.status = .queued ∨ ∃ delegationId delegation, s.delegationOfChild runId = some (delegationId, delegation) ∧
      s'.delegations = s.delegations.put delegationId { delegation with state := .running } := by
  cases edge with
  | keep | mark | pause | unpause => exact .inl queued
  | claim _ _ started => exact .inr (started delegate)
  | abandon _ leads _ => exact absurd delegate leads
  | yield running | park running | strand running | resume waiting | deliver waiting | finish running
  | interrupt running | drain waiting | fence running => simp_all

theorem queuedChildren_step {op : Operation} {s' : Store} (graph : Graph s) (queued : QueuedChildren s)
    (ok : op.transaction s = .ok s') : QueuedChildren s' := by
  intro delegationId delegation child' found isQueued childFound'
  have steps := run_steps graph.paired graph.turns graph.linked ok
  cases delegation_edge ok found with
  | keep stored =>
    obtain ⟨child, childFound, _, delegate⟩ := graph.linked.child _ _ stored
    obtain ⟨task, taskFound, _⟩ := graph.paired.task _ _ childFound
    obtain ⟨_, _, childStored, _, edge⟩ := steps _ _ _ childFound taskFound
    rw [childFound'] at childStored
    cases childStored
    rcases edge.stays_queued (queued _ _ _ stored isQueued childFound) delegate with stays | ⟨id, started, ofChild, changed⟩
    · exact stays
    · -- The claim that starts the child also starts its delegation.
      obtain ⟨startedStored, shared⟩ := (Store.delegationOfChild_eq_some graph.linked).mp ofChild
      obtain rfl := graph.linked.unique _ _ _ _ startedStored stored shared
      rw [changed, Table.get_put_self] at found
      cases found
      cases isQueued
  | start => cases isQueued
  | settle _ _ ended => cases isQueued; cases ended
  | launch by_ _ =>
    subst by_
    obtain ⟨_, _, _, _, _, _, different, _, _, _, _, _, _, _, _, _, rfl⟩ := launchAgentDelegation_ok ok
    have stored := (Table.get_put_ne _ _ different).trans (Table.get_put_self ..) |>.symm.trans childFound'
    cases stored
    rfl

theorem queuedChildren (reached : s.Reachable) : QueuedChildren s := by
  have start : QueuedChildren {} := fun _ _ _ stored => by simp at stored
  have kept (op : Operation) (s s' : Store) (graph : Graph s) (queued : QueuedChildren s) (_ : True)
      (step : op.exec s = .ok s') : QueuedChildren s' :=
    queuedChildren_step graph queued (Operation.exec_eq_ok.mp step).2
  exact System.ReachableIf.invariant_with (fun _ => workGraph) start kept reached

/-! ### Selection -/

theorem Graph.sessionOfRun (graph : Graph s)
    (found : s.runs.get runId = some run) (live : run.status.isLive = true) :
    (s.sessionOfRun runId).isSome = true := by
  obtain ⟨turnId, turn, turnFound, carries, _⟩ := graph.turns.live _ _ found live
  obtain ⟨session, sessionFound⟩ := graph.turns.session _ _ turnFound
  have carried : s.turnOfRun runId = some (turnId, turn) :=
    Table.find_eq_some_of_unique turnFound (by simp [carries]) fun otherId other otherFound same =>
      graph.turns.unique _ _ _ _ otherFound turnFound ((of_decide_eq_true same).trans carries.symm)
  simp [Store.sessionOfRun, carried, sessionFound]

theorem selectable_iff_delegation (reached : s.Reachable) {task}
    (found : s.runs.get runId = some run) (queued : run.status = .queued)
    (taskFound : s.tasks.get run.taskId = some task) (stage : task.status.admitsClaim = true) :
    s.selectable runId run = true ↔ s.delegationAdmitsClaim runId run = true := by
  have carried := (workGraph reached).sessionOfRun found (by simp [queued, RunStatus.isTerminal])
  have unleased := idle_unleased (leaseView_valid reached) found (by simp [queued])
  simp [Store.selectable, queued, taskFound, stage, carried, unleased]

theorem exists_withinLimits {now}
    (bound : (s.sessionOfRun runId).isSome = true) : ∃ limits, s.withinLimits now limits runId run = true := by
  obtain ⟨⟨sessionId, session⟩, found⟩ := Option.isSome_iff_exists.mp bound
  let leases := s.leases.entries.length
  refine ⟨⟨leases + 1, leases + 1, leases + 1⟩, ?_⟩
  simp only [Store.withinLimits, found, Option.any_some, Bool.decide_and, Bool.and_eq_true, decide_eq_true_eq]
  exact ⟨Nat.lt_succ_of_le (Table.count_le ..), Nat.lt_succ_of_le (Table.count_le ..),
    Nat.lt_succ_of_le (Table.count_le ..)⟩

theorem Run.retryDue_getD (run : Run) : run.retryDue (run.nextAttemptAt.getD 0) = true := by
  unfold retryDue
  cases run.nextAttemptAt <;> simp

theorem delegationAdmitsClaim_iff {s' : Store} (graph : Graph s) (queued : QueuedChildren s)
    {run' : Run} (found : s.runs.get runId = some run) (running : run.status = .running)
    (role : run'.agentRole = run.agentRole) (same : s'.delegations = s.delegations) :
    s'.delegationAdmitsClaim runId run' = true ↔ run.agentRole ≠ .delegate := by
  have children : s'.delegationOfChild runId = s.delegationOfChild runId := by
    rw [Store.delegationOfChild, same, Store.delegationOfChild]
  rw [Store.delegationAdmitsClaim, children]
  cases ofChild : s.delegationOfChild runId with
  | none => simp [role]
  | some row =>
    obtain ⟨delegationId, delegation⟩ := row
    obtain ⟨stored, rfl⟩ := (Store.delegationOfChild_eq_some graph.linked).mp ofChild
    obtain ⟨child, childFound, _, delegate⟩ := graph.linked.child _ _ stored
    cases found.symm.trans childFound
    have started : delegation.state ≠ .queued := fun waits => by
      simp [queued _ _ _ stored waits found] at running
    simp [delegate, started]

theorem Operation.yields_quiet {op : Operation} (yields : op.yields s runId) :
    op.isQuiet = true := by
  cases op <;> first | rfl | cases yields

/-- A run that a release, a provider retry or a recovery queues again is selectable, once
its retry is due and the limits leave room, exactly when it is not a delegate. -/
theorem requeued_runnable_iff {op : Operation} {s s' : Store} {runId : RunId} {run run' : Run} {task' : Task}
    (reached : s.Reachable) (step : storeSystem.exec op s = .ok s') (yields : op.yields s runId)
    (found : s.runs.get runId = some run) (running : run.status = .running)
    (found' : s'.runs.get runId = some run') (queued : run'.status = .queued)
    (taskFound : s'.tasks.get run'.taskId = some task') (stage : task'.status.admitsClaim = true) :
    (∀ now limits, run'.retryDue now = true → s'.withinLimits now limits runId run' = true →
      s'.runnable now limits runId run' = true) ↔ run.agentRole ≠ .delegate := by
  have reached' : s'.Reachable := .step reached trivial step
  have graph := workGraph reached
  have committed := (Operation.exec_eq_ok.mp step).2
  obtain ⟨task, ownTask, _⟩ := graph.paired.task _ _ found
  obtain ⟨_, _, stored, _, edge⟩ := run_steps graph.paired graph.turns graph.linked committed _ _ _ found ownTask
  rw [found'] at stored
  cases stored
  have admits := delegationAdmitsClaim_iff graph (queuedChildren reached) found running edge.identity.2.1
    (quiet_frame (Operation.yields_quiet yields) committed).delegations
  rw [← admits, ← selectable_iff_delegation reached' found' queued taskFound stage]
  constructor
  · intro selects
    have carried := (workGraph reached').sessionOfRun found' (by simp [queued, RunStatus.isTerminal])
    obtain ⟨limits, within⟩ := exists_withinLimits carried
    have runnable := selects _ limits run'.retryDue_getD within
    simp only [Store.runnable, Bool.decide_and, Bool.and_eq_true, decide_eq_true_eq] at runnable
    exact runnable.1
  · intro selectable now limits due within
    simp [Store.runnable, selectable, due, within]

def sampleLimits : AgentLoopLimits := ⟨⟨10, 10, 1000, 1000, 1000, 1000, 10⟩, 3, 10000000⟩

def sampleFence : LeaseFence := ⟨⟨0⟩, ⟨0⟩, ⟨0⟩, 1⟩
def sampleChildFence : LeaseFence := ⟨⟨1⟩, ⟨1⟩, ⟨0⟩, 1⟩

def askedRun (tool : ToolId) : List Operation :=
  claimedRun ++
  [.prepareModelAttempt ⟨sampleFence, ⟨0⟩, 1, [⟨0⟩], sampleLimits, 10, 10, 10, 100, 20, 20, 5000⟩,
   .dispatchModelAttempt ⟨sampleFence, ⟨0⟩, 100, 21⟩,
   .recordModelResult ⟨sampleFence, ⟨0⟩, .toolCall tool "\x7b\x7d", ⟨1, 1, 1⟩, 10, 22⟩]

def launchedChild : List Operation :=
  askedRun .agentDelegate ++
  [.prepareReadTool ⟨sampleFence, ⟨0⟩, ⟨0⟩, ⟨.agentDelegate, 300000, 65536⟩, "\x7b\x7d", 23⟩,
   .launchAgentDelegation ⟨sampleFence, ⟨0⟩, ⟨0⟩, ⟨1⟩, ⟨1⟩, ⟨1⟩, ⟨1⟩, "work package", false, 24⟩]

def claimedChild : List Operation := launchedChild ++ [.claimNext ⟨⟨1⟩, ⟨0⟩, 25, 200000, ⟨5, 5, 5⟩⟩]

/-- A released delegate is never selected again. -/
theorem released_delegate_lost :
    ∃ (s s' : Store) (run' : Run) (task' : Task), s.Reachable ∧
      storeSystem.exec (.release ⟨sampleChildFence, 30⟩) s = .ok s' ∧ s'.runs.get ⟨1⟩ = some run' ∧
      run'.status = .queued ∧ s'.tasks.get run'.taskId = some task' ∧ task'.status = .running ∧
      ∀ now limits, s'.runnable now limits ⟨1⟩ run' = false := by
  obtain ⟨s, s', reached, step, released⟩ : ∃ s s' : Store, s.Reachable ∧
      storeSystem.exec (.release ⟨sampleChildFence, 30⟩) s = .ok s' ∧
      (s'.runs.get ⟨1⟩).any (fun run' => run'.status = .queued ∧ s'.selectable ⟨1⟩ run' = false ∧
        (s'.tasks.get run'.taskId).any fun task' => task'.status = .running) = true :=
    System.exists_step claimedChild (by decide +kernel)
  simp only [Option.any_eq_true, decide_eq_true_eq] at released
  obtain ⟨run', found, queued, lost, task', taskFound, stage⟩ := released
  exact ⟨s, s', run', task', reached, step, found, queued, taskFound, stage, fun now limits => by
    simp [Store.runnable, lost]⟩

theorem released_assistant_runnable :
    ∃ (s s' : Store) (run' : Run), s.Reachable ∧ storeSystem.exec (.release ⟨sampleFence, 30⟩) s = .ok s' ∧
      s'.runs.get ⟨0⟩ = some run' ∧ ∀ now limits, run'.retryDue now = true →
        s'.withinLimits now limits ⟨0⟩ run' = true → s'.runnable now limits ⟨0⟩ run' = true := by
  obtain ⟨s, s', reached, step, released, assists⟩ : ∃ s s' : Store, s.Reachable ∧
      storeSystem.exec (.release ⟨sampleFence, 30⟩) s = .ok s' ∧
      (s'.runs.get ⟨0⟩).any (fun run' => run'.status = .queued ∧
        (s'.tasks.get run'.taskId).any fun task' => task'.status.admitsClaim) = true ∧
      (s.runs.get ⟨0⟩).any (fun run => run.status = .running ∧ run.agentRole ≠ .delegate) = true :=
    System.exists_step claimedRun (by decide +kernel)
  simp only [Option.any_eq_true, decide_eq_true_eq] at released assists
  obtain ⟨run', found', queued, task', taskFound, stage⟩ := released
  obtain ⟨run, found, running, leads⟩ := assists
  exact ⟨s, s', run', reached, step, found',
    (requeued_runnable_iff reached step rfl found running found' queued taskFound stage).mpr leads⟩

end Mealy
