import Mealy.Proofs.Requeue

/-! Delegations over whole runs. The child of an active delegation is live: the completion
that ends it settles its delegation in the same transaction. -/

namespace Mealy
open Relational Transaction

variable {s s' : Store} {op : Operation} {runId : RunId} {run : Run}

def ChildrenLive (s : Store) : Prop :=
  ∀ delegationId delegation child, s.delegations.get delegationId = some delegation → delegation.state.isActive = true →
    s.runs.get delegation.childRunId = some child → child.status.isLive = true

theorem RunEdge.stays_live {run' status status'} (edge : RunEdge op s s' runId run status run' status')
    (live : run.status.isLive = true) (delegate : run.agentRole = .delegate) :
    run'.status.isLive = true ∨ ∃ delegationId delegation state, s.delegations.get delegationId = some delegation ∧
      delegation.childRunId = runId ∧ delegation.state = .running ∧ state.isActive = false ∧
      s'.delegations = s.delegations.put delegationId { delegation with state } := by
  cases edge with
  | finish _ _ _ _ delivered => exact .inr (delivered delegate)
  | abandon _ leads => exact absurd delegate leads
  | keep | mark | pause | unpause | interrupt => exact .inl live
  | fence _ _ idle => rcases idle with rfl | rfl <;> exact .inl rfl
  | _ => exact .inl rfl

theorem childrenLive_step (graph : Graph s) (live : ChildrenLive s) (ok : op.transaction s = .ok s') : ChildrenLive s' := by
  intro delegationId delegation child' found active childFound'
  cases delegation_edge ok found with
  | keep stored =>
    obtain ⟨child, childFound, _, delegate⟩ := graph.linked.child _ _ stored
    obtain ⟨task, taskFound, _⟩ := graph.paired.task _ _ childFound
    obtain ⟨_, _, childStored, _, edge⟩ := run_steps graph.paired graph.turns graph.linked ok _ _ _ childFound taskFound
    cases childStored.symm.trans childFound'
    rcases edge.stays_live (live _ _ _ stored active childFound) delegate with stays | ⟨_, _, _, same, shared, _, ended, changed⟩
    · exact stays
    · obtain rfl := graph.linked.unique _ _ _ _ same stored shared
      rw [changed, Table.get_put_self] at found
      cases found
      simp [ended] at active
  | start _ _ claimed =>
    obtain ⟨_, same, running⟩ := claimed
    cases same.symm.trans childFound'
    simp [running, RunStatus.isTerminal]
  | settle _ _ ended => simp [ended] at active
  | launch by_ _ =>
    subst by_
    obtain ⟨_, _, _, _, _, _, different, _, _, _, _, _, _, _, _, _, rfl⟩ := launchAgentDelegation_ok ok
    cases ((Table.get_put_ne _ _ different).trans (Table.get_put_self ..)).symm.trans childFound'
    rfl

/-- Every stored delegation joins two runs, of which only the child is a delegate. The child is
queued until its delegation is claimed, and live until it is settled. -/
theorem delegation_outlives_child {s : Store} {delegationId : DelegationId} {delegation : Delegation}
    (reached : s.Reachable) (stored : s.delegations.get delegationId = some delegation) :
    ∃ parent child, s.runs.get delegation.parentRunId = some parent ∧ s.runs.get delegation.childRunId = some child ∧
      parent.agentRole ≠ .delegate ∧ child.agentRole = .delegate ∧ child.taskId = delegation.childTaskId ∧
      (delegation.state = .queued → child.status = .queued) ∧
      (delegation.state.isActive = true → child.status.isLive = true) := by
  have start : ChildrenLive {} := fun _ _ _ stored => by simp at stored
  have kept (op : Operation) (s s' : Store) (graph : Graph s) (live : ChildrenLive s) (_ : True)
      (step : op.exec s = .ok s') : ChildrenLive s' := childrenLive_step graph live (Operation.exec_eq_ok.mp step).2
  have live := System.ReachableIf.invariant_with (fun _ => workGraph) start kept reached
  have linked := (workGraph reached).linked
  obtain ⟨parent, parentFound, leads⟩ := linked.parent _ _ stored
  obtain ⟨child, childFound, ofTask, delegate⟩ := linked.child _ _ stored
  exact ⟨parent, child, parentFound, childFound, leads, delegate, ofTask,
    fun queued => queuedChildren reached _ _ _ stored queued childFound,
    fun active => live _ _ _ stored active childFound⟩

theorem claimed_child_live :
    ∃ (s : Store) (child : Run), s.Reachable ∧ s.runs.get ⟨1⟩ = some child ∧ child.status.isLive = true := by
  obtain ⟨s, reached, started⟩ : ∃ s : Store, s.Reachable ∧ (s.delegations.get ⟨0⟩).any (fun delegation =>
      delegation.childRunId = ⟨1⟩ ∧ delegation.state.isActive = true) = true :=
    System.exists_reachableIf claimedChild (by decide +kernel)
  simp only [Option.any_eq_true, decide_eq_true_eq] at started
  obtain ⟨delegation, stored, ofChild, active⟩ := started
  obtain ⟨_, child, _, found, _, _, _, _, live⟩ := delegation_outlives_child reached stored
  exact ⟨s, child, reached, ofChild ▸ found, live active⟩

end Mealy
