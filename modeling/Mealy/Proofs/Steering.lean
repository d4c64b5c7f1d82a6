import Mealy.Proofs.Requeue

/-! Steering inputs. An input that is attached to an active run stays pending: no operation
reads its row, so a run that succeeds with an attached input has dropped it. -/

namespace Mealy
open Relational Transaction

/-- The steering of every succeeded run was consumed by a model attempt prepared after
the attachment. -/
def SteeringHeard (s : Store) : Prop :=
  ∀ entryId input run, s.runInputs.get entryId = some input → s.runs.get input.runId = some run →
    run.status = .succeeded → input.state ≠ .pending ∧
      ∃ attemptId attempt, s.modelAttempts.get attemptId = some attempt ∧ attempt.runId = input.runId ∧
        input.attachedAt ≤ attempt.preparedAt ∧ entryId ∈ attempt.inputSources

def Operation.dropsSteering (op : Operation) (s : Store) : Bool :=
  match op with
  | completeRun commit =>
    commit.status = .succeeded ∧ s.runInputs.any fun _ input => input.runId = commit.fence.runId
  | _ => false

theorem completeRun_inputs {commit s s'} (ok : completeRun commit s = .ok s') :
    s'.runInputs = s.runInputs := by
  obtain ⟨_, rfl⟩ := completeRun_writes ok
  rfl

theorem input_origin {op : Operation} {s s' : Store} (ok : op.transaction s = .ok s') {entryId : InboxEntryId}
    {input : RunInput} (found : s'.runInputs.get entryId = some input) :
    s.runInputs.get entryId = some input ∨
      (input.state = .pending ∧ s'.runs = s.runs ∧
        ∃ run, s.runs.get input.runId = some run ∧ run.status.isLive = true) := by
  cases op with
  | promoteNext commit =>
    rcases promoteNext_ok ok with rfl | ⟨_, _, _, _, _, ⟨_, inserted⟩ | ⟨_, _, _, loaded, steered |
      ⟨_, _, interrupted⟩⟩⟩
    · exact .inl found
    · obtain ⟨_, _, _, _, rfl⟩ := insertWorkGraph_ok inserted
      exact .inl found
    · obtain ⟨live, rfl⟩ := steerActive_ok steered
      obtain ⟨_, _, _, runFound, _⟩ := Store.loadActive_ok loaded
      dsimp only at found
      rw [Table.get_put] at found
      split at found
      next =>
        cases found
        exact .inr ⟨rfl, rfl, _, runFound, live⟩
      next => exact .inl found
    · obtain ⟨_, ⟨_, _, rfl⟩ | ⟨_, _, _, rfl⟩⟩ := interruptActive_ok interrupted <;> exact .inl found
  | _ =>
    obtain ⟨_, rfl⟩ := Operation.frame ok
    exact .inl found

def InputsPending (s : Store) : Prop :=
  ∀ entryId input, s.runInputs.get entryId = some input →
    input.state = .pending ∧ ∃ run, s.runs.get input.runId = some run

theorem inputsPending {s : Store} (reached : s.Reachable) : InputsPending s := by
  have start : InputsPending {} := fun _ _ stored => by simp at stored
  have kept (op : Operation) (s s' : Store) (graph : Graph s) (valid : InputsPending s) (_ : True)
      (step : op.exec s = .ok s') : InputsPending s' := by
    intro entryId input found
    have ok := (Operation.exec_eq_ok.mp step).2
    have steps := run_steps graph.paired graph.turns graph.linked ok
    rcases input_origin ok found with stored | ⟨pending, runs, run, runFound, _⟩
    · obtain ⟨pending, run, runFound⟩ := valid _ _ stored
      obtain ⟨task, taskFound, _⟩ := graph.paired.task _ _ runFound
      obtain ⟨run', _, runFound', _⟩ := steps _ _ _ runFound taskFound
      exact ⟨pending, run', runFound'⟩
    · exact ⟨pending, run, by rw [runs, runFound]⟩
  exact System.ReachableIf.invariant_with (fun _ => workGraph) start kept reached

theorem RunEdge.succeeded {op s s' runId run run' status status'} (edge : RunEdge op s s' runId run status run' status')
    (ended : run'.status = .succeeded) :
    run.status = .succeeded ∨
      ∃ commit, op = .completeRun commit ∧ commit.fence.runId = runId ∧ commit.status = .succeeded := by
  cases edge with
  | keep | pause | unpause | mark | interrupt => exact .inl ended
  | @finish _ _ commit _ _ by_ of _ =>
    refine .inr ⟨commit, by_, of, ?_⟩
    cases status : commit.status <;> simp_all [RunCompletionStatus.runStatus]
  | fence _ _ idle => rcases idle with rfl | rfl <;> cases ended
  | _ => cases ended

theorem dropsSteering_iff {commit s} :
    Operation.dropsSteering (.completeRun commit) s = true ↔ commit.status = .succeeded ∧
      ∃ entryId input, s.runInputs.get entryId = some input ∧ input.runId = commit.fence.runId := by
  simp [Operation.dropsSteering, Table.any_iff]

def Unsteered (s : Store) : Prop :=
  ∀ entryId input run, s.runInputs.get entryId = some input → s.runs.get input.runId = some run →
    run.status ≠ .succeeded

theorem unsteered_step {op : Operation} {s s' : Store} (reached : s.Reachable) (valid : Unsteered s)
    (meets : op.dropsSteering s = false) (step : op.exec s = .ok s') : Unsteered s' := by
  intro entryId input run' found runFound' succeeded
  have graph := workGraph reached
  have ok := (Operation.exec_eq_ok.mp step).2
  rcases input_origin ok found with stored | ⟨_, runs, run, runFound, live⟩
  · obtain ⟨_, run, runFound⟩ := inputsPending reached _ _ stored
    obtain ⟨task, taskFound, _⟩ := graph.paired.task _ _ runFound
    obtain ⟨_, _, same, _, edge⟩ := run_steps graph.paired graph.turns graph.linked ok _ _ _ runFound taskFound
    rw [runFound'] at same
    cases same
    rcases edge.succeeded succeeded with before | ⟨commit, rfl, ofRun, ended⟩
    · exact valid _ _ _ stored runFound before
    · rw [dropsSteering_iff.mpr ⟨ended, entryId, input, stored, ofRun.symm⟩] at meets
      cases meets
  · rw [runs, runFound] at runFound'
    cases runFound'
    simp [succeeded, RunStatus.isTerminal] at live

theorem unsteered {s : Store} (reached : storeSystem.ReachableIf (fun op s => op.dropsSteering s = false) s) :
    Unsteered s := by
  have start : Unsteered {} := fun _ _ _ stored => by simp at stored
  exact System.ReachableIf.invariant_with (fun _ reached => reached) start
    (fun _ _ _ reached valid meets step => unsteered_step reached valid meets step) reached

/-- Steering is heard in every run whose successful completions find no attached input,
and a completion that finds one leaves it pending on a succeeded run. -/
theorem steering_heard {s : Store} :
    (storeSystem.ReachableIf (fun op s => op.dropsSteering s = false) s → SteeringHeard s) ∧
    ∀ op s', s.Reachable → storeSystem.exec op s = .ok s' → op.dropsSteering s = true →
      ∃ entryId input run', s'.runInputs.get entryId = some input ∧ input.state = .pending ∧
        s'.runs.get input.runId = some run' ∧ run'.status = .succeeded := by
  constructor
  · intro reached entryId input run found runFound succeeded
    exact absurd succeeded (unsteered reached _ _ _ found runFound)
  · intro op s' reached step drops
    cases op with
    | completeRun commit =>
      obtain ⟨succeeds, entryId, input, stored, ofRun⟩ := dropsSteering_iff.mp drops
      have committed := (Operation.exec_eq_ok.mp step).2
      obtain ⟨run', found', ended⟩ := completeRun_finishes (workGraph reached).linked committed
      refine ⟨entryId, input, run', ?_, (inputsPending reached _ _ stored).1, ofRun ▸ found', ?_⟩
      · rw [completeRun_inputs committed, stored]
      · rw [ended, succeeds, RunCompletionStatus.runStatus]
    | _ => cases drops

def steeredRun : List Operation :=
  claimedRun ++
  [.prepareModelAttempt ⟨sampleFence, ⟨0⟩, 1, [⟨0⟩], sampleLimits, 10, 10, 10, 100, 20, 20, 5000⟩,
   .dispatchModelAttempt ⟨sampleFence, ⟨0⟩, 100, 21⟩,
   .recordModelResult ⟨sampleFence, ⟨0⟩, .final "done", ⟨1, 1, 1⟩, 10, 22⟩,
   .admitInput ⟨⟨0⟩, sampleOwner, ⟨1⟩, "second", .steerAtBoundary, "look again", 23⟩,
   .promoteNext ⟨⟨0⟩, sampleOwner, ⟨1⟩, ⟨1⟩, ⟨1⟩, .named "assistant", false, 24⟩]

def sampleCompletion : CompleteRunCommit := ⟨sampleFence, .succeeded, "done", some ⟨⟨0⟩, "done"⟩, 30⟩

theorem steering_heard_attached :
    ∃ (s s' : Store) (input : RunInput), s.Reachable ∧ s.runInputs.get ⟨1⟩ = some input ∧ SteeringHeard s ∧
      storeSystem.exec (.completeRun sampleCompletion) s = .ok s' ∧
      ∃ entryId input run', s'.runInputs.get entryId = some input ∧ input.state = .pending ∧
        s'.runs.get input.runId = some run' ∧ run'.status = .succeeded := by
  obtain ⟨s, s', reached, step, attached, drops⟩ : ∃ s s' : Store,
      storeSystem.ReachableIf (fun op s => op.dropsSteering s = false) s ∧
      storeSystem.exec (.completeRun sampleCompletion) s = .ok s' ∧ (s.runInputs.get ⟨1⟩).isSome = true ∧
      Operation.dropsSteering (.completeRun sampleCompletion) s = true :=
    System.exists_step steeredRun (by decide +kernel)
  obtain ⟨input, found⟩ := Option.isSome_iff_exists.mp attached
  exact ⟨s, s', input, reached.reachable, found, steering_heard.1 reached, step,
    steering_heard.2 _ _ reached.reachable step drops⟩

/-- A steering input attached before the final response is committed is lost: its run
succeeds, the row stays pending, and no model attempt had the input among its sources. -/
theorem steering_dropped :
    ∃ (s : Store) (input : RunInput) (run : Run), s.Reachable ∧ s.runInputs.get ⟨1⟩ = some input ∧
      input.state = .pending ∧ s.runs.get input.runId = some run ∧ run.status = .succeeded ∧
      ∀ attemptId attempt, s.modelAttempts.get attemptId = some attempt → ⟨1⟩ ∉ attempt.inputSources := by
  obtain ⟨s, reached, attached, unheard⟩ : ∃ s : Store, s.Reachable ∧
      ((s.runInputs.get ⟨1⟩).any fun input => input.state = .pending ∧
        (s.runs.get input.runId).any fun run => run.status = .succeeded) = true ∧
      (s.modelAttempts.any fun _ attempt => ⟨1⟩ ∈ attempt.inputSources) = false :=
    System.exists_reachableIf (steeredRun ++ [.completeRun sampleCompletion]) (by decide +kernel)
  simp only [Option.any_eq_true, decide_eq_true_eq] at attached
  obtain ⟨input, found, pending, run, runFound, succeeded⟩ := attached
  refine ⟨s, input, run, reached, found, pending, runFound, succeeded, fun attemptId attempt stored heard => ?_⟩
  simpa [heard] using (Table.any_eq_false ..).mp unheard _ _ stored

end Mealy
