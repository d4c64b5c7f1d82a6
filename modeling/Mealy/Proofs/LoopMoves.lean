import Mealy.Proofs.WorkGraph

/-! The positions of the agent loops. An operation moves the position of the run that
executes, or of the parent it delivers to; it never takes one away. -/

namespace Mealy
open Relational Transaction

def LoopsKept (s s' : Store) : Prop :=
  ∀ runId state, s.loops.get runId = some state → ∃ state', s'.loops.get runId = some state'

theorem LoopsKept.of_eq {s s'} (same : s'.loops = s.loops) : LoopsKept s s' :=
  fun _ state found => ⟨state, by rw [same, found]⟩

theorem LoopsKept.trans {a b c} (first : LoopsKept a b) (last : LoopsKept b c) : LoopsKept a c := by
  intro runId state found
  obtain ⟨state', found'⟩ := first runId state found
  exact last runId state' found'

theorem LoopsKept.of_put {s s' moved position} (put : s'.loops = s.loops.put moved position) : LoopsKept s s' := by
  intro runId state found
  rw [put, Table.get_put]
  split
  next => exact ⟨position, rfl⟩
  next => exact ⟨state, found⟩

theorem MovesLoop.loopsKept {s s' runId} (moves : MovesLoop s runId s') : LoopsKept s s' := by
  obtain ⟨_, _, _, _, _, rfl⟩ := moves
  exact .of_put rfl

theorem recoverIncompleteAgentBoundary_loopsKept {runId now s s'}
    (ok : recoverIncompleteAgentBoundary runId now s = .ok s') : LoopsKept s s' := by
  rcases recoverIncompleteAgentBoundary_ok ok with rfl | moves
  · exact .of_eq rfl
  · exact moves.loopsKept

theorem recoverLease_loopsKept {commit s s'} (ok : recoverLease commit s = .ok s') :
    LoopsKept s s' := by
  obtain ⟨_, _, _, _, _, _, _, _, _, boundary, _, _, recovers, _, _, _, _, rfl⟩ := recoverLease_ok ok
  obtain ⟨_, rfl⟩ := recovers.writes
  exact (recoverIncompleteAgentBoundary_loopsKept boundary).trans (.of_eq rfl)

theorem completeRun_loopsKept {commit s s'} (ok : completeRun commit s = .ok s') :
    LoopsKept s s' := by
  obtain ⟨_, _, settled, _, _, settles, finishes, delivers⟩ := completeRun_ok ok
  have before : LoopsKept s settled := by
    rcases settles.work with ⟨_, inserted⟩ | ⟨_, _, _, _, rfl⟩
    · obtain ⟨_, _, _, rfl⟩ := insertFinalMessage_ok inserted
      exact .of_put rfl
    · exact .of_eq rfl
  obtain ⟨_, _, _, _, rfl⟩ := finishRun_ok finishes
  rcases delivers with ⟨_, delivered⟩ | ⟨_, rfl⟩
  · obtain ⟨_, _, _, _, _, _, _, _, _, _, _, _, _, _, _, _, rfl⟩ := settleDelegatedChild_ok delivered
    exact before.trans (.of_put rfl)
  · exact before.trans (.of_eq rfl)

theorem controlTask_loopsKept {commit s s'} (ok : controlTask commit s = .ok s') :
    LoopsKept s s' := by
  obtain ⟨_, _, _, ⟨_, paused, stopped⟩ | ⟨_, _, _, rfl, resumed⟩⟩ := controlTask_ok ok
  · obtain ⟨_, _, rfl⟩ := controlledTo_ok paused
    rcases stopped with ⟨_, rfl⟩ | ⟨_, _, _, _, _, recovered⟩
    · exact .of_eq rfl
    · exact (recoverLease_loopsKept recovered).trans (.of_eq rfl)
  · obtain ⟨_, _, rfl⟩ := controlledTo_ok resumed
    exact .of_eq rfl

theorem loops_kept {op : Operation} {s s' : Store} (step : op.exec s = .ok s') : LoopsKept s s' := by
  obtain ⟨_, ok⟩ := Operation.exec_eq_ok.mp step
  cases op with
  | completeRun commit => exact completeRun_loopsKept ok
  | prepareModelAttempt commit =>
    obtain ⟨_, _, moves⟩ := prepareModelAttempt_ok ok
    exact moves.loopsKept
  | dispatchModelAttempt commit =>
    obtain ⟨_, _, ⟨_, rfl⟩ | retired⟩ := dispatchModelAttempt_ok ok
    · exact .of_eq rfl
    · exact (retireUnviableModelDispatch_ok retired).loopsKept
  | recordModelResult commit =>
    obtain ⟨_, _, moves⟩ := recordModelResult_ok ok
    exact moves.loopsKept
  | prepareReadTool commit =>
    obtain ⟨_, _, moves⟩ := prepareReadTool_ok ok
    exact moves.loopsKept
  | recordReadToolResult commit =>
    obtain ⟨_, _, moves⟩ := recordReadToolResult_ok ok
    exact moves.loopsKept
  | recordAgentEffectObservation commit =>
    obtain ⟨_, _, _, _, _, rfl⟩ := recordAgentEffectObservation_ok ok
    exact .of_put rfl
  | recordModelFailure commit =>
    obtain ⟨_, _, _, _, moves, ⟨_, rfl⟩ | ⟨_, requeued⟩⟩ := recordModelFailure_ok ok
    · exact moves.loopsKept
    · obtain ⟨_, _, _, _, rfl⟩ := requeueProviderRetry_ok requeued
      exact moves.loopsKept.trans (.of_eq rfl)
  | recoverLease commit => exact recoverLease_loopsKept ok
  | controlTask commit => exact controlTask_loopsKept ok
  | _ =>
    obtain ⟨_, rfl⟩ := Operation.frame ok
    exact .of_eq rfl

end Mealy
