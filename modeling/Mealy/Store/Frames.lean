import Mealy.Store.ControlCommits

/-! Which operations write which tables. The list is read off the operation, so that an
invariant of a table has only the operations to consider that write it. -/

namespace Mealy
open Relational Transaction

variable {s s' : Store}

theorem recoverLease_writes {commit} (ok : recoverLease commit s = .ok s') :
    Writes ([.leases, .runs, .tasks, .effects, .attempts, .outcomes] ++ loopTables) s s' := by
  obtain ⟨_, _, _, _, _, _, _, _, _, boundary, _, _, recovers, _, _, _, _, rfl⟩ := recoverLease_ok ok
  obtain ⟨_, rfl⟩ := recovers.writes
  obtain ⟨_, rfl⟩ := recoverIncompleteAgentBoundary_writes boundary
  exact .of_eq rfl

theorem promoteNext_writes {commit} (ok : promoteNext commit s = .ok s') :
    Writes [.sessions, .inbox, .turns, .tasks, .runs, .runInputs] s s' := by
  rcases promoteNext_ok ok with rfl | ⟨_, _, _, _, _, ⟨_, inserted⟩ | ⟨_, _, _, _, steered | ⟨_, _, interrupted⟩⟩⟩
  · exact .of_eq rfl
  · obtain ⟨_, _, _, _, rfl⟩ := insertWorkGraph_ok inserted
    exact .of_eq rfl
  · obtain ⟨_, rfl⟩ := steerActive_ok steered
    exact .of_eq rfl
  · obtain ⟨_, ⟨_, _, rfl⟩ | ⟨_, _, _, rfl⟩⟩ := interruptActive_ok interrupted <;> exact .of_eq rfl

theorem settleDelegatedChild_writes {commit childTaskId} (ok : settleDelegatedChild commit childTaskId s = .ok s') :
    Writes [.budgets, .delegations, .toolCalls, .loops, .runs, .tasks] s s' := by
  obtain ⟨_, _, _, _, _, _, _, _, _, _, _, _, _, _, _, _, rfl⟩ := settleDelegatedChild_ok ok
  exact .of_eq rfl

theorem completeRun_writes {commit} (ok : completeRun commit s = .ok s') :
    Writes ([.sessions, .turns, .tasks, .runs, .leases, .delegations] ++ loopTables) s s' := by
  obtain ⟨_, _, _, _, _, settles, finishes, delivers⟩ := completeRun_ok ok
  obtain ⟨_, rfl⟩ := settles.writes
  obtain ⟨_, _, _, _, rfl⟩ := finishRun_ok finishes
  rcases delivers with ⟨_, delivered⟩ | ⟨_, rfl⟩
  · obtain ⟨_, rfl⟩ := settleDelegatedChild_writes delivered
    exact .of_eq rfl
  · exact .of_eq rfl

theorem recordModelFailure_writes {commit} (ok : recordModelFailure commit s = .ok s') :
    Writes ([.leases, .runs] ++ loopTables) s s' := by
  obtain ⟨_, _, _, _, moves, ended⟩ := recordModelFailure_ok ok
  obtain ⟨_, rfl⟩ := moves.writes
  rcases ended with ⟨_, rfl⟩ | ⟨_, requeued⟩
  · exact .of_eq rfl
  · obtain ⟨_, _, _, _, rfl⟩ := requeueProviderRetry_ok requeued
    exact .of_eq rfl

theorem cancelUndispatchedAgentEffect_writes {taskId actor at_}
    (ok : cancelUndispatchedAgentEffect taskId actor at_ s = .ok s') : Writes [.effects, .approvals] s s' := by
  rcases cancelUndispatchedAgentEffect_ok ok with rfl | ⟨_, _, _, resolves⟩
  · exact .of_eq rfl
  · exact resolves.writes

theorem cancelActiveChild_writes {commit active} (ok : cancelActiveChild commit active s = .ok s') :
    Writes [.runs, .tasks, .budgets] s s' := by
  rcases cancelActiveChild_ok ok with ⟨_, rfl⟩ | ⟨_, _, _, child, _⟩
  · exact .of_eq rfl
  · obtain ⟨_, _, _, _, _, _, _, _, rfl⟩ := cancelChild_ok child
    exact .of_eq rfl

theorem requestTaskCancellation_writes {commit} (ok : requestTaskCancellation commit s = .ok s') :
    Writes [.tasks, .runs, .budgets, .effects, .approvals, .cancellations] s s' := by
  rcases requestTaskCancellation_ok ok with ⟨rfl, _⟩ | ⟨_, _, _, _, _, _, _, _, _, _, _, _, child, cancelled,
    requeued, rfl⟩
  · exact .of_eq rfl
  · obtain ⟨_, rfl⟩ := cancelActiveChild_writes child
    obtain ⟨_, rfl⟩ := cancelUndispatchedAgentEffect_writes cancelled
    rcases requeued with ⟨_, _, requeued⟩ | ⟨_, rfl⟩
    · obtain ⟨_, _, _, rfl⟩ := requeueCancelled_ok requeued
      exact .of_eq rfl
    · exact .of_eq rfl

theorem controlTask_writes {commit} (ok : controlTask commit s = .ok s') :
    Writes ([.leases, .runs, .tasks, .effects, .attempts, .outcomes] ++ loopTables) s s' := by
  obtain ⟨_, _, _, ⟨_, paused, stopped⟩ | ⟨_, _, _, rfl, resumed⟩⟩ := controlTask_ok ok
  · obtain ⟨_, _, rfl⟩ := controlledTo_ok paused
    rcases stopped with ⟨_, rfl⟩ | ⟨_, _, _, _, _, recovered⟩
    · exact .of_eq rfl
    · obtain ⟨_, rfl⟩ := recoverLease_writes recovered
      exact .of_eq rfl
  · obtain ⟨_, _, rfl⟩ := controlledTo_ok resumed
    exact .of_eq rfl

theorem dispatchModelAttempt_writes {commit} (ok : dispatchModelAttempt commit s = .ok s') :
    Writes loopTables s s' := by
  obtain ⟨_, _, ⟨_, rfl⟩ | retired⟩ := dispatchModelAttempt_ok ok
  · exact .of_eq rfl
  · exact (retireUnviableModelDispatch_ok retired).writes

theorem recordAgentEffectObservation_writes {commit} (ok : recordAgentEffectObservation commit s = .ok s') :
    Writes [.budgets, .observations, .loops] s s' := by
  obtain ⟨_, _, _, _, _, rfl⟩ := recordAgentEffectObservation_ok ok
  exact .of_eq rfl

theorem recordAgentEffectProposal_writes {commit} (ok : recordAgentEffectProposal commit s = .ok s') :
    Writes [.budgets, .effects, .approvals, .invocations, .leases, .runs, .tasks] s s' := by
  obtain ⟨_, _, _, _, _, _, _, _, _, _, _, _, _, _, _, _, _, _, _, rfl⟩ := recordAgentEffectProposal_ok ok
  exact .of_eq rfl

theorem resolveApproval_writes {commit} (ok : resolveApproval commit s = .ok s') :
    Writes [.effects, .approvals, .effectReceipts] s s' := by
  rcases resolveApproval_ok ok with rfl | ⟨_, _, _, _, _, _, _, _, _, resolves, rfl⟩
  · exact .of_eq rfl
  · obtain ⟨_, rfl⟩ := resolves.writes
    exact .of_eq rfl

theorem prepareEffectAttempt_writes {commit} (ok : prepareEffectAttempt commit s = .ok s') :
    Writes [.effects, .attempts, .outcomes] s s' := by
  simp only [prepareEffectAttempt, eq_ok] at ok
  obtain ⟨_, _, _, _, _, _, _, _, last⟩ := ok
  obtain ⟨_, _, _, rfl⟩ := updateEffect_ok last
  exact .of_eq rfl

theorem markEffectAttemptRunning_writes {commit} (ok : markEffectAttemptRunning commit s = .ok s') :
    Writes [.effects, .attempts, .outcomes] s s' := by
  simp only [markEffectAttemptRunning, eq_ok] at ok
  obtain ⟨_, _, _, _, _, first, last⟩ := ok
  obtain ⟨_, _, _, rfl⟩ := updateEffect_ok first
  obtain ⟨_, _, _, rfl⟩ := updateAttempt_ok last
  exact .of_eq rfl

theorem recoverInterruptedEffect_writes {commit} (ok : recoverInterruptedEffect commit s = .ok s') :
    Writes [.effects, .attempts, .outcomes] s s' := by
  obtain rfl | recovered := recoverInterruptedEffect_ok ok
  · exact .of_eq rfl
  · exact (RecoversEffect.interrupted recovered).writes

theorem parkAgentEffectRun_writes {commit} (ok : parkAgentEffectRun commit s = .ok s') :
    Writes [.leases, .runs, .tasks] s s' := by
  obtain ⟨_, _, parked⟩ := parkAgentEffectRun_ok ok
  obtain ⟨_, _, _, _, _, rfl⟩ := parkRun_ok parked
  exact .of_eq rfl

theorem launchAgentDelegation_writes {commit} (ok : launchAgentDelegation commit s = .ok s') :
    Writes [.budgets, .tasks, .runs, .delegations, .inbox, .sessions, .turns, .toolCalls, .leases] s s' := by
  obtain ⟨_, _, _, _, _, _, _, _, _, _, _, _, _, _, _, _, rfl⟩ := launchAgentDelegation_ok ok
  exact .of_eq rfl

theorem recordValidation_writes {commit} (ok : recordValidation commit s = .ok s') :
    Writes [.validations, .runs, .tasks] s s' := by
  obtain ⟨_, _, _, _, _, _, _, _, _, _, _, rfl⟩ := recordValidation_ok ok
  exact .of_eq rfl

namespace Operation

def writes : Operation → List StoreTable
  | createSession _ => [.sessions]
  | admitInput _ => [.sessions, .inbox]
  | promoteNext _ => [.sessions, .inbox, .turns, .tasks, .runs, .runInputs]
  | claimNext _ => [.leases, .runs, .tasks, .delegations]
  | heartbeat _ => [.leases]
  | release _ => [.leases, .runs]
  | completeRun _ => [.sessions, .turns, .tasks, .runs, .leases, .delegations] ++ loopTables
  | prepareModelAttempt _ | recordModelResult _ | prepareReadTool _ | recordReadToolResult _
  | dispatchModelAttempt _ => loopTables
  | dispatchReadTool _ => [.toolCalls]
  | recordAgentEffectObservation _ => [.budgets, .observations, .loops]
  | recordModelFailure _ => [.leases, .runs] ++ loopTables
  | recordEffectProposal _ | expireApproval _ | cancelUndispatchedAgentEffect .. => [.effects, .approvals]
  | recordAgentEffectProposal _ => [.budgets, .effects, .approvals, .invocations, .leases, .runs, .tasks]
  | resolveApproval _ => [.effects, .approvals, .effectReceipts]
  | prepareEffectAttempt _ | markEffectAttemptRunning _ | recordEffectAttemptOutcome _ | recoverInterruptedEffect _
  | recoverUndispatchedEffect _ | recoverRetryableEffect _ => [.effects, .attempts, .outcomes]
  | reconcileEffectOutcome _ => [.effects, .attempts, .outcomes, .effectReceipts]
  | resumeAgentEffectRun _ => [.runs, .tasks]
  | parkAgentEffectRun _ => [.leases, .runs, .tasks]
  | launchAgentDelegation _ =>
    [.budgets, .tasks, .runs, .delegations, .inbox, .sessions, .turns, .toolCalls, .leases]
  | recoverLease _ | controlTask _ => [.leases, .runs, .tasks, .effects, .attempts, .outcomes] ++ loopTables
  | recordValidation _ => [.validations, .runs, .tasks]
  | requestTaskCancellation _ => [.tasks, .runs, .budgets, .effects, .approvals, .cancellations]

theorem frame {op : Operation} (ok : op.transaction s = .ok s') : Writes op.writes s s' := by
  cases op with
  | createSession commit =>
    obtain ⟨_, _, _, rfl⟩ := createSession_ok ok
    exact .of_eq rfl
  | admitInput commit => obtain rfl | ⟨_, _, _, _, rfl⟩ := admitInput_ok ok <;> exact .of_eq rfl
  | promoteNext commit => exact promoteNext_writes ok
  | claimNext commit => obtain rfl | ⟨_, _, _, _, _, _, _, _, _, rfl⟩ := claimNext_ok ok <;> exact .of_eq rfl
  | heartbeat commit =>
    obtain ⟨_, _, _, rfl⟩ := heartbeat_ok ok
    exact .of_eq rfl
  | release commit =>
    obtain ⟨_, _, _, _, _, rfl⟩ := release_ok ok
    exact .of_eq rfl
  | completeRun commit => exact completeRun_writes ok
  | prepareModelAttempt commit =>
    obtain ⟨_, _, moves⟩ := prepareModelAttempt_ok ok
    exact moves.writes
  | dispatchModelAttempt commit => exact dispatchModelAttempt_writes ok
  | recordModelResult commit =>
    obtain ⟨_, _, moves⟩ := recordModelResult_ok ok
    exact moves.writes
  | recordModelFailure commit => exact recordModelFailure_writes ok
  | prepareReadTool commit =>
    obtain ⟨_, _, moves⟩ := prepareReadTool_ok ok
    exact moves.writes
  | dispatchReadTool commit =>
    obtain ⟨_, _, _, rfl⟩ := dispatchReadTool_ok ok
    exact .of_eq rfl
  | recordReadToolResult commit =>
    obtain ⟨_, _, moves⟩ := recordReadToolResult_ok ok
    exact moves.writes
  | recordAgentEffectObservation commit => exact recordAgentEffectObservation_writes ok
  | recordEffectProposal commit =>
    obtain ⟨_, _, _, _, _, _, _, _, ⟨_, rfl⟩ | ⟨_, _, _, _, rfl⟩⟩ := recordEffectProposal_ok ok <;> exact .of_eq rfl
  | recordAgentEffectProposal commit => exact recordAgentEffectProposal_writes ok
  | resolveApproval commit => exact resolveApproval_writes ok
  | expireApproval commit =>
    obtain ⟨_, _, resolves⟩ := expireApproval_ok ok
    exact resolves.writes
  | prepareEffectAttempt commit => exact prepareEffectAttempt_writes ok
  | markEffectAttemptRunning commit => exact markEffectAttemptRunning_writes ok
  | recordEffectAttemptOutcome commit =>
    obtain ⟨_, _, _, _, ends⟩ := recordEffectAttemptOutcome_ok ok
    exact ends.writes
  | recoverInterruptedEffect commit => exact recoverInterruptedEffect_writes ok
  | reconcileEffectOutcome commit =>
    obtain rfl | ⟨_, _, _, _, _, _, _, _, _, _, _, rfl⟩ := reconcileEffectOutcome_ok ok <;> exact .of_eq rfl
  | recoverUndispatchedEffect commit => exact (RecoversEffect.undispatched ok).writes
  | recoverRetryableEffect commit => exact (RecoversEffect.retryable ok).writes
  | cancelUndispatchedAgentEffect taskId actor at_ => exact cancelUndispatchedAgentEffect_writes ok
  | resumeAgentEffectRun commit =>
    obtain rfl | ⟨_, _, _, _, _, _, _, _, _, rfl⟩ := resumeAgentEffectRun_ok ok <;> exact .of_eq rfl
  | parkAgentEffectRun commit => exact parkAgentEffectRun_writes ok
  | launchAgentDelegation commit => exact launchAgentDelegation_writes ok
  | recoverLease commit => exact recoverLease_writes ok
  | recordValidation commit => exact recordValidation_writes ok
  | requestTaskCancellation commit => exact requestTaskCancellation_writes ok
  | controlTask commit => exact controlTask_writes ok

end Operation

/-- The conversation is unchanged: sessions with their inbox, turns, delegations and attached inputs. -/
structure SameTurns (s s' : Store) : Prop where
  sessions : s'.sessions = s.sessions
  turns : s'.turns = s.turns
  delegations : s'.delegations = s.delegations
  runInputs : s'.runInputs = s.runInputs
  inbox : s'.inbox = s.inbox

theorem SameTurns.refl (s) : SameTurns s s := ⟨rfl, rfl, rfl, rfl, rfl⟩

/-! ### Sessions -/

def Session.SameOwner (session session' : Session) : Prop :=
  session'.principalId = session.principalId ∧ session'.channelBindingId = session.channelBindingId

def SessionsKept (s s' : Store) : Prop :=
  ∀ sessionId session, s.sessions.get sessionId = some session →
    ∃ session', s'.sessions.get sessionId = some session' ∧ session.SameOwner session'

theorem SessionsKept.of_eq {s s'} (same : s'.sessions = s.sessions) : SessionsKept s s' :=
  fun _ session found => ⟨session, by rw [same, found], rfl, rfl⟩

theorem SessionsKept.of_put {s s' sessionId session session'}
    (found : s.sessions.get sessionId = some session) (sessions : s'.sessions = s.sessions.put sessionId session')
    (owner : session.SameOwner session') : SessionsKept s s' := by
  intro otherId other otherFound
  by_cases same : otherId = sessionId
  · subst same
    cases found.symm.trans otherFound
    exact ⟨session', by rw [sessions, Table.get_put_self], owner⟩
  · exact ⟨other, by rw [sessions, Table.get_put_ne _ _ same, otherFound], rfl, rfl⟩

theorem promoteNext_sessionsKept {commit s s'} (ok : promoteNext commit s = .ok s') : SessionsKept s s' := by
  rcases promoteNext_ok ok with rfl | ⟨session, _, _, found, _, ⟨_, inserted⟩ | ⟨_, _, _, _,
    steered | ⟨_, _, interrupted⟩⟩⟩
  · exact .of_eq rfl
  · obtain ⟨_, _, _, _, rfl⟩ := insertWorkGraph_ok inserted
    exact .of_put found rfl ⟨rfl, rfl⟩
  · obtain ⟨_, rfl⟩ := steerActive_ok steered
    exact .of_eq rfl
  · obtain ⟨_, ⟨_, _, rfl⟩ | ⟨_, _, _, rfl⟩⟩ := interruptActive_ok interrupted
    · exact .of_put found rfl ⟨rfl, rfl⟩
    · exact .of_eq rfl

theorem completeRun_sessionsKept {commit s s'} (ok : completeRun commit s = .ok s') : SessionsKept s s' := by
  obtain ⟨owner, _, settled, finished, loaded, settles, finishes, delivers⟩ := completeRun_ok ok
  obtain ⟨_, _, _, _, _, _, found, _⟩ := Store.loadFencedOwner_ok.mp (Store.loadCompletion_ok loaded).1
  obtain ⟨_, rfl⟩ := settles.writes
  obtain ⟨_, sessions, _, ended, rfl⟩ := finishRun_ok finishes
  have last : s'.sessions = sessions := by
    rcases delivers with ⟨_, delivered⟩ | ⟨_, rfl⟩
    · obtain ⟨_, rfl⟩ := settleDelegatedChild_writes delivered
      rfl
    · rfl
  rcases ended with rfl | rfl
  · exact .of_eq last
  · exact .of_put found last ⟨rfl, rfl⟩

theorem sessions_kept {op : Operation} {s s' : Store} (ok : op.transaction s = .ok s') : SessionsKept s s' := by
  cases op with
  | createSession commit =>
    obtain ⟨fresh, _, _, rfl⟩ := createSession_ok ok
    exact fun sessionId session found => ⟨session, Table.kept_put_fresh fresh _ _ found, rfl, rfl⟩
  | admitInput commit =>
    obtain rfl | ⟨_, _, found, _, rfl⟩ := admitInput_ok ok
    · exact .of_eq rfl
    · exact .of_put found rfl ⟨rfl, rfl⟩
  | promoteNext commit => exact promoteNext_sessionsKept ok
  | completeRun commit => exact completeRun_sessionsKept ok
  | launchAgentDelegation commit =>
    obtain ⟨_, _, _, _, _, _, _, loaded, _, _, _, _, _, _, _, _, rfl⟩ := launchAgentDelegation_ok ok
    exact .of_put (Store.loadParent_ok loaded).2.2.1 rfl ⟨rfl, rfl⟩
  | _ =>
    obtain ⟨_, rfl⟩ := Operation.frame ok
    exact .of_eq rfl

end Mealy
