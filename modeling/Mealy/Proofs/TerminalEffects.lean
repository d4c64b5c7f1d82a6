import Mealy.Proofs.LedgerSafety
import Mealy.Proofs.Steering

/-! Effects of terminal runs. A completion settles the model and tool work of its run but
not its effects, so a run that ends while an effect of it is open leaves it open. -/

namespace Mealy
open Relational Transaction

variable {s s' : Store} {runId : RunId} {op : Operation}

def Store.hasOpenEffect (s : Store) (runId : RunId) : Bool :=
  (s.effects.any fun _ effect => effect.runId = runId ∧ effect.status = .dispatching) ||
  s.attempts.any fun _ attempt => (attempt.state = .prepared ∨ attempt.state = .running) ∧
    (s.effects.get attempt.effectId).any fun effect => effect.runId = runId

def Operation.abandonsEffect (op : Operation) (s : Store) : Bool := (op.ends s).any s.hasOpenEffect

theorem Store.hasOpenEffect_iff :
    s.hasOpenEffect runId = true ↔
      (∃ effectId effect, s.effects.get effectId = some effect ∧ effect.runId = runId ∧ effect.status = .dispatching) ∨
      ∃ attemptId attempt effect, s.attempts.get attemptId = some attempt ∧
        (attempt.state = .prepared ∨ attempt.state = .running) ∧ s.effects.get attempt.effectId = some effect ∧
        effect.runId = runId := by
  simp only [hasOpenEffect, Bool.or_eq_true, Table.any_iff, decide_eq_true_eq, Option.any_eq_true]
  grind

theorem hasOpenEffect_sameLedger (same : SameLedger s s') (runId) :
    s'.hasOpenEffect runId = s.hasOpenEffect runId := by
  simp [Store.hasOpenEffect, same.effects, same.attempts]

theorem openEffect_origin (valid : AttemptsValid s) (ok : op.transaction s = .ok s')
    (opened : s'.hasOpenEffect runId = true) :
    s.hasOpenEffect runId = true ∨ (s.isExecuting runId ∧ s'.runs = s.runs) := by
  have effectOpen (effectId : EffectId) (effect : Effect) (found : s.effects.get effectId = some effect)
      (dispatching : effect.status = .dispatching) : s.hasOpenEffect effect.runId = true :=
    Store.hasOpenEffect_iff.mpr (.inl ⟨effectId, effect, found, rfl, dispatching⟩)
  have attemptOpen (attemptId : AttemptId) (attempt : EffectAttempt) (effect : Effect)
      (stored : s.attempts.get attemptId = some attempt)
      (state : attempt.state = .prepared ∨ attempt.state = .running)
      (found : s.effects.get attempt.effectId = some effect) : s.hasOpenEffect effect.runId = true :=
    Store.hasOpenEffect_iff.mpr (.inr ⟨attemptId, attempt, effect, stored, state, found, rfl⟩)
  have opened := Store.hasOpenEffect_iff.mp opened
  cases ledger_move ok with
  | same unchanged =>
    obtain ⟨e, _, a, _⟩ := unchanged
    grind
  | proposed fresh initial _ _ _ _ effects _ attempts _ =>
    have present := valid.effect
    grind [Table.get_put, PolicyDecision.effectStatus_cases]
  | resolved _ _ found _ _ decided effects _ attempts _ => grind [Table.get_put]
  | @prepared _ effect run _ _ _ _ found authorized ofRun running _ _ _ _ effects _ attempts _ runs =>
    have executing : s.isExecuting effect.runId := ⟨run, ofRun, running⟩
    grind [Table.get_put]
  | @dispatched _ effect run _ _ _ _ _ found authorized ofRun running _ _ _ effects _ attempts _ runs =>
    have executing : s.isExecuting effect.runId := ⟨run, ofRun, running⟩
    grind [Table.get_put]
  | settled found _ stored of _ settlement _ effects _ attempts _ => cases settlement <;> grind [Table.get_put]
  | undispatched found authorized stored of _ effects _ attempts _ => grind [Table.get_put]
  | @reconciled commit _ _ _ _ _ _ found _ _ _ _ effects _ attempts _ =>
    have ended := commit.outcome.effectStatus_isTerminal
    grind [Table.get_put, EffectStatus.isTerminal]

theorem RunEdge.ended {run run' status status'} (edge : RunEdge op s s' runId run status run' status')
    (ended : run'.status.isTerminal = true) : run.status.isTerminal = true ∨ op.ends s = some runId := by
  cases edge with
  | keep | pause | unpause | mark | interrupt => exact .inl ended
  | finish _ _ by_ of _ => exact .inr (by rw [by_, Operation.ends, of])
  | abandon _ _ by_ => exact .inr by_
  | fence _ _ idle => rcases idle with rfl | rfl <;> cases ended
  | _ => cases ended

theorem ends_sameLedger (ends : op.ends s = some runId) (ok : op.transaction s = .ok s') : SameLedger s s' := by
  cases op with
  | completeRun commit | promoteNext commit =>
    obtain ⟨_, rfl⟩ := Operation.frame ok
    exact ⟨rfl, rfl, rfl, rfl⟩
  | _ => cases ends

theorem ends_terminal (linked : Linked s) (ends : op.ends s = some runId) (ok : op.transaction s = .ok s') :
    ∃ run', s'.runs.get runId = some run' ∧ run'.status.isTerminal = true := by
  cases op with
  | completeRun commit =>
    cases ends
    obtain ⟨run', found', status⟩ := completeRun_finishes linked ok
    exact ⟨run', found', by rw [status, RunCompletionStatus.runStatus_isTerminal]⟩
  | promoteNext commit =>
    simp only [Operation.ends, Option.bind_eq_bind, Option.bind_eq_some_iff, Option.pure_def, guard,
      Option.some.injEq] at ends
    obtain ⟨⟨entryId, entry⟩, head, session, sessionFound, turnId, busy, turn, turnFound, run, found, _, stage, rfl⟩ := ends
    obtain ⟨mode, unrequested, queued⟩ := (Option.ite_none_right_eq_some.mp stage).1
    dsimp only at mode unrequested
    change promoteNext commit s = .ok s' at ok
    simp only [promoteNext, head, eq_ok] at ok
    obtain ⟨_, stored, _, _, ok⟩ := ok
    cases sessionFound.symm.trans stored
    simp only [busy, mode, unrequested, Option.isSome_none, Bool.false_eq_true, if_false, bind_eq_ok] at ok
    obtain ⟨active, loaded, interrupted⟩ := ok
    obtain ⟨_, turnStored, _, runStored, _⟩ := Store.loadActive_ok loaded
    cases turnFound.symm.trans turnStored
    cases found.symm.trans runStored
    obtain ⟨_, ⟨_, _, rfl⟩ | ⟨running, _⟩⟩ := interruptActive_ok interrupted
    · exact ⟨_, Table.get_put_self .., rfl⟩
    · simp [queued] at running
  | _ => cases ends

/-! ### Runs of effects -/

def EffectsRun (s : Store) : Prop :=
  ∀ effectId effect, s.effects.get effectId = some effect → ∃ run, s.runs.get effect.runId = some run

theorem effectsRun (reached : s.Reachable) : EffectsRun s := by
  have start : EffectsRun {} := fun _ _ stored => by simp at stored
  have kept (op : Operation) (s s' : Store) (graph : Graph s) (valid : EffectsRun s) (_ : True)
      (step : op.exec s = .ok s') : EffectsRun s' := by
    intro effectId effect found'
    have ok := (Operation.exec_eq_ok.mp step).2
    have kept {runId : RunId} (stored : ∃ run, s.runs.get runId = some run) :
        ∃ run, s'.runs.get runId = some run := by
      obtain ⟨run, found⟩ := stored
      obtain ⟨run', found', _⟩ := (run_steps graph.paired graph.turns graph.linked ok).kept graph.paired found
      exact ⟨run', found'⟩
    cases found : s.effects.get effectId with
    | none =>
      obtain ⟨_, run, _, runFound, _⟩ := effect_added ok found found'
      exact kept ⟨run, runFound⟩
    | some before =>
      obtain ⟨_, stored, ⟨sameRun, _⟩, _⟩ := effect_edge ok found
      rw [found'] at stored
      cases stored
      exact kept (sameRun ▸ valid _ _ found)
  exact System.ReachableIf.invariant_with (fun _ => workGraph) start kept reached

theorem openEffect_run (valid : EffectsRun s) (opened : s.hasOpenEffect runId = true) :
    ∃ run, s.runs.get runId = some run := by
  rcases Store.hasOpenEffect_iff.mp opened with ⟨_, _, found, rfl, _⟩ | ⟨_, _, _, _, _, found, rfl⟩ <;>
    exact valid _ _ found

/-! ### Terminal runs -/

def TerminalSettled (s : Store) : Prop :=
  ∀ runId run, s.runs.get runId = some run → run.status.isTerminal = true → s.hasOpenEffect runId = false

theorem terminalSettled_step (reached : s.Reachable) (valid : TerminalSettled s)
    (meets : op.abandonsEffect s = false) (step : op.exec s = .ok s') : TerminalSettled s' := by
  intro runId run' found' ended
  have graph := workGraph reached
  have ok := (Operation.exec_eq_ok.mp step).2
  have steps := run_steps graph.paired graph.turns graph.linked ok
  refine Bool.eq_false_iff.mpr fun opened => ?_
  have before : s.hasOpenEffect runId = true := by
    rcases openEffect_origin (ledgerValid reached).attempts ok opened with before | ⟨⟨run, found, running⟩, runs⟩
    · exact before
    · rw [runs, found] at found'
      cases found'
      simp [running, RunStatus.isTerminal] at ended
  obtain ⟨run, found⟩ := openEffect_run (effectsRun reached) before
  rcases steps.origin graph.paired found' with absent | ⟨_, _, _, stored, _, _, _, edge⟩
  · simp [found] at absent
  rcases edge.ended ended with earlier | ends
  · simp [valid _ _ stored earlier] at before
  · simp [Operation.abandonsEffect, ends, before] at meets

/-- Terminal runs own no open effect in every run of the store that ends no run while an
effect of it is open, and an operation that does leaves the effect open. -/
theorem terminal_runs_settled {s : Store} :
    (storeSystem.ReachableIf (fun op s => op.abandonsEffect s = false) s → TerminalSettled s) ∧
    ∀ op s', s.Reachable → storeSystem.exec op s = .ok s' → op.abandonsEffect s = true → ¬ TerminalSettled s' := by
  constructor
  · intro reached
    have start : TerminalSettled {} := fun _ _ stored => by simp at stored
    exact System.ReachableIf.invariant_with (fun _ reached => reached) start
      (fun _ _ _ reached valid meets step => terminalSettled_step reached valid meets step) reached
  · intro op s' reached step abandons settled
    have committed := (Operation.exec_eq_ok.mp step).2
    obtain ⟨runId, ends, opened⟩ := (Option.any_eq_true ..).mp abandons
    obtain ⟨run', found', ended⟩ := ends_terminal (workGraph reached).linked ends committed
    have closed := settled _ _ found' ended
    rw [hasOpenEffect_sameLedger (ends_sameLedger ends committed), opened] at closed
    cases closed

def proposedRun : List Operation :=
  askedRun .workspaceCreateFile ++ [.recordAgentEffectProposal ⟨sampleFence, ⟨0⟩, ⟨0⟩, sampleProposal, 30⟩]

def approvedRun : List Operation := proposedRun ++ [.resolveApproval sampleApproval]

def resumedFence : LeaseFence := ⟨⟨1⟩, ⟨0⟩, ⟨0⟩, 3⟩

def dispatchedRun : List Operation :=
  approvedRun ++
  [.resumeAgentEffectRun ⟨⟨0⟩, 50⟩, .claimNext ⟨⟨1⟩, ⟨0⟩, 60, 100000, ⟨5, 5, 5⟩⟩,
   .prepareEffectAttempt ⟨⟨0⟩, ⟨0⟩, 2, resumedFence, 70⟩,
   .markEffectAttemptRunning ⟨⟨0⟩, ⟨0⟩, 3, resumedFence, 71⟩]

def sampleFailure : CompleteRunCommit := ⟨resumedFence, .failed, "agent loop failed", none, 80⟩

theorem terminal_runs_settled_dispatched :
    ∃ s s' : Store, s.Reachable ∧ s.hasOpenEffect ⟨0⟩ = true ∧ TerminalSettled s ∧
      storeSystem.exec (.completeRun sampleFailure) s = .ok s' ∧ ¬ TerminalSettled s' := by
  obtain ⟨s, s', reached, step, opened, abandons⟩ : ∃ s s' : Store,
      storeSystem.ReachableIf (fun op s => op.abandonsEffect s = false) s ∧
      storeSystem.exec (.completeRun sampleFailure) s = .ok s' ∧ s.hasOpenEffect ⟨0⟩ = true ∧
      Operation.abandonsEffect (.completeRun sampleFailure) s = true :=
    System.exists_step dispatchedRun (by decide +kernel)
  exact ⟨s, s', reached.reachable, opened, terminal_runs_settled.1 reached, step,
    terminal_runs_settled.2 _ _ reached.reachable step abandons⟩

/-- A run that fails after its write was dispatched leaves the effect dispatching and the
attempt running. -/
theorem dispatched_effect_abandoned :
    ∃ (s : Store) (run : Run) (effect : Effect) (attempt : EffectAttempt), s.Reachable ∧
      s.runs.get ⟨0⟩ = some run ∧ run.status = .failed ∧ s.effects.get ⟨0⟩ = some effect ∧ effect.runId = ⟨0⟩ ∧
      effect.status = .dispatching ∧ s.attempts.get ⟨0⟩ = some attempt ∧ attempt.effectId = ⟨0⟩ ∧
      attempt.state = .running := by
  obtain ⟨s, reached, ended, left, running⟩ : ∃ s : Store, s.Reachable ∧
      (s.runs.get ⟨0⟩).any (fun run => run.status = .failed) = true ∧
      (s.effects.get ⟨0⟩).any (fun effect => effect.runId = ⟨0⟩ ∧ effect.status = .dispatching) = true ∧
      (s.attempts.get ⟨0⟩).any (fun attempt => attempt.effectId = ⟨0⟩ ∧ attempt.state = .running) = true :=
    System.exists_reachableIf (dispatchedRun ++ [.completeRun sampleFailure]) (by decide +kernel)
  simp only [Option.any_eq_true, decide_eq_true_eq] at ended left running
  obtain ⟨run, found, failed⟩ := ended
  obtain ⟨effect, effectFound, ofRun, dispatching⟩ := left
  obtain ⟨attempt, attemptFound, ofEffect, executing⟩ := running
  exact ⟨s, run, effect, attempt, reached, found, failed, effectFound, ofRun, dispatching, attemptFound, ofEffect,
    executing⟩

end Mealy
