import Mealy.Lib.Transaction
import Mealy.Lib.Utf8Text
import Mealy.Store.JournalSystem

/-! The durable preview of a streamed answer (`DurableProviderProgressSink` of the daemon's
`agent.rs` over `record_model_progress`). Deltas wait in a buffer and are recorded in parts
cut at character boundaries, within a bound of bytes and one of events. -/

namespace Mealy.Provider
open Relational Transaction Utf8Text

/-! ### The journal of one attempt -/

structure ModelOutputDelta where
  progressSequence : Nat
  delta : List Char
  cumulativeBytes : Nat

/-- The largest recorded byte count, zero without events. -/
def priorCumulative (recorded : List ModelOutputDelta) : Nat :=
  recorded.foldl (fun prior event => max prior event.cumulativeBytes) 0

def recordDelta (event : ModelOutputDelta) (refused : Option StoreError) (recorded : List ModelOutputDelta) :
    Except StoreError (List ModelOutputDelta) := do
  let deltaBytes := size event.delta
  ensure (event.delta ≠ [] ∧ deltaBytes ≤ maximumModelProgressDeltaBytes ∧
    event.progressSequence < maximumModelProgressEvents ∧
    event.cumulativeBytes ≤ maximumModelProgressBytes ∧ deltaBytes ≤ event.cumulativeBytes)
    (.invariantViolation "model progress evidence exceeds its bound")
  match refused with
  | some error => throw error
  | none =>
    ensure (recorded.length = event.progressSequence ∧ priorCumulative recorded + deltaBytes = event.cumulativeBytes)
      (.invariantViolation "model progress sequence or cumulative byte evidence is invalid")
    pure (recorded ++ [event])

theorem recordDelta_ok {event refused recorded recorded'}
    (ok : recordDelta event refused recorded = .ok recorded') :
    event.delta ≠ [] ∧ size event.delta ≤ maximumModelProgressDeltaBytes ∧
      event.progressSequence < maximumModelProgressEvents ∧ event.cumulativeBytes ≤ maximumModelProgressBytes ∧
      recorded.length = event.progressSequence ∧ priorCumulative recorded + size event.delta = event.cumulativeBytes ∧
      recorded' = recorded ++ [event] := by
  cases refused with
  | some error => simp [recordDelta, bind_eq_ok, throw, throwThe, MonadExceptOf.throw] at ok
  | none =>
    simp only [recordDelta, eq_ok, exists_const] at ok
    obtain ⟨⟨nonempty, bounded, events, bytes, _⟩, ⟨next, sum⟩, rfl⟩ := ok
    exact ⟨nonempty, bounded, events, bytes, next, sum, rfl⟩

/-- The store's journal and byte counts say of an attempt what its recorded deltas say. -/
structure Records (s : JournaledStore) (attemptId : AttemptId) (recorded : List ModelOutputDelta) : Prop where
  counted : (s.journal.events.countP fun event =>
    event.aggregate = .modelAttempt attemptId ∧ event.eventType = "model.output.delta") = recorded.length
  prior : (s.progress.get attemptId).getD 0 = priorCumulative recorded

def deltaOf (commit : RecordModelProgressCommit) : ModelOutputDelta :=
  { progressSequence := commit.progressSequence, delta := commit.delta.toList, cumulativeBytes := commit.cumulativeBytes }

theorem Records.append {commit : RecordModelProgressCommit} {s : JournaledStore} {recorded journal}
    (same : Records s commit.attemptId recorded) (larger : priorCumulative recorded ≤ commit.cumulativeBytes)
    (appended : s.journal.appendAll maximumI64
      [appendNext commit.eventId (.modelAttempt commit.attemptId) "model.output.delta"] = .ok journal) :
    Records { s with journal, progress := s.progress.put commit.attemptId commit.cumulativeBytes }
      commit.attemptId (recorded ++ [deltaOf commit]) := by
  simp only [EventLog.Log.appendAll, EventLog.Log.append, eq_ok] at appended
  obtain ⟨_, ⟨_, _, _, inserted, _, _, rfl⟩, appended⟩ := appended
  cases appended
  obtain ⟨_, rfl⟩ := EventLog.Log.insert_ok inserted
  constructor
  · have before := same.counted
    simp only [appendNext] at before ⊢
    rw [List.countP_append, before]
    simp
  · simp only [Table.get_put_self, Option.getD_some, priorCumulative, List.foldl_append, List.foldl_cons, List.foldl_nil]
    exact (Nat.max_eq_right larger).symm

theorem recordModelProgress_records {commit : RecordModelProgressCommit} {s : JournaledStore} {recorded}
    (same : Records s commit.attemptId recorded) :
    (∀ s', recordModelProgress commit s = .ok s' → ∃ recorded',
      recordDelta (deltaOf commit) none recorded = .ok recorded' ∧ Records s' commit.attemptId recorded') ∧
    ∀ error, recordModelProgress commit s = .error error →
      ∃ refused, recordDelta (deltaOf commit) refused recorded = .error error := by
  have bytes : commit.delta.utf8ByteSize = size commit.delta.toList := by rw [← length_bytes_eq, length_bytes]
  have empty : commit.delta = "" ↔ commit.delta.toList = [] := by simp
  refine ⟨fun s' ok => ?_, fun error failed => ?_⟩
  · simp only [recordModelProgress, eq_ok, Journal.record_ok, same.counted, same.prior, bytes, ne_eq, empty] at ok
    obtain ⟨_, bounded, _, _, _, _, _, _, _, numbered, journal, appended, rfl⟩ := ok
    refine ⟨recorded ++ [deltaOf commit], ?_, same.append (by omega) appended⟩
    simp only [recordDelta, eq_ok]
    exact ⟨(), bounded, (), numbered, trivial⟩
  · by_cases bounded : commit.delta.toList ≠ [] ∧ size commit.delta.toList ≤ maximumModelProgressDeltaBytes ∧
        commit.progressSequence < maximumModelProgressEvents ∧ commit.cumulativeBytes ≤ maximumModelProgressBytes ∧
        size commit.delta.toList ≤ commit.cumulativeBytes
    · refine ⟨some error, ?_⟩
      rw [recordDelta, ensure_holds]
      exacts [rfl, bounded]
    · simp only [recordModelProgress, bytes, ne_eq, empty, ensure_fails bounded, error_bind] at failed
      refine ⟨none, ?_⟩
      rw [recordDelta, ensure_fails, error_bind]
      exacts [congrArg _ (Except.error.inj failed), bounded]

/-! ### The sink -/

def providerProgressFlushBytes : Nat := 256

/-- The sink, the events recorded through it, and all that was emitted to it. -/
structure ProgressStream where
  pending : List Char := []
  progressSequence : Nat := 0
  cumulativeBytes : Nat := 0
  disabled : Bool := false
  cancelled : Bool := false
  recorded : List ModelOutputDelta := []
  emitted : List Char := []

/-- What one turn of the flush loop meets: whether the flush interval has passed, and what
may refuse the recording. -/
structure Observation where
  elapsed : Bool := false
  refused : Option StoreError := none

namespace ProgressStream

def close (stream : ProgressStream) : ProgressStream := { stream with pending := [], disabled := true }

def recordedText (stream : ProgressStream) : List Char := stream.recorded.flatMap (·.delta)

/-- The bytes that `emit` still retains. -/
def remaining (stream : ProgressStream) : Nat :=
  maximumModelProgressBytes - (stream.cumulativeBytes + size stream.pending)

/-- One turn of the loop in `flush`, with whether it goes on. -/
def flushTurn (force : Bool) (observed : Observation) (stream : ProgressStream) : ProgressStream × Bool :=
  if stream.disabled ∨ stream.pending = [] then (stream, false)
  else if force = false ∧ size stream.pending < providerProgressFlushBytes ∧ observed.elapsed = false then (stream, false)
  else if maximumModelProgressEvents ≤ stream.progressSequence ∨ maximumModelProgressBytes ≤ stream.cumulativeBytes then
    (stream.close, false)
  else
    let maximum := min (maximumModelProgressBytes - stream.cumulativeBytes) maximumModelProgressDeltaBytes
    let cut := prefixLength stream.pending maximum
    if cut = 0 then (stream.close, false)
    else
      let delta := takeBytes cut stream.pending
      let cumulativeBytes := stream.cumulativeBytes + size delta
      match recordDelta { progressSequence := stream.progressSequence, delta, cumulativeBytes } observed.refused
          stream.recorded with
      | .error _ => (stream.close, false)
      | .ok recorded =>
        let rest := dropBytes cut stream.pending
        ({ stream with
            pending := rest, progressSequence := stream.progressSequence + 1, cumulativeBytes, recorded },
          force || providerProgressFlushBytes ≤ size rest)

theorem flushTurn_cases (force) (observed) (stream) :
    flushTurn force observed stream = (stream, false) ∨ flushTurn force observed stream = (stream.close, false) ∨
    ∃ event rest recorded, stream.disabled = false ∧ event.delta ++ rest = stream.pending ∧
      event.cumulativeBytes = stream.cumulativeBytes + size event.delta ∧
      recordDelta event observed.refused stream.recorded = .ok recorded ∧
      flushTurn force observed stream = ({ stream with
        pending := rest, progressSequence := stream.progressSequence + 1, cumulativeBytes := event.cumulativeBytes
        recorded }, force || providerProgressFlushBytes ≤ size rest) := by
  unfold flushTurn
  split
  next => exact .inl rfl
  next live =>
    split
    next => exact .inl rfl
    next =>
      split
      next => exact .inr (.inl rfl)
      next =>
        extract_lets maximum cut delta cumulativeBytes rest
        split
        next => exact .inr (.inl rfl)
        next =>
          rcases ok : recordDelta { progressSequence := stream.progressSequence, delta, cumulativeBytes }
              observed.refused stream.recorded with error | recorded
          · exact .inr (.inl rfl)
          · refine .inr (.inr ⟨_, rest, recorded, by simpa using (not_or.mp live).1, ?_, rfl, ok, rfl⟩)
            exact takeBytes_append_dropBytes ..

theorem flushTurn_shrinks {force observed stream after}
    (turned : flushTurn force observed stream = (after, true)) : after.pending.length < stream.pending.length := by
  rcases flushTurn_cases force observed stream with same | closed | ⟨event, rest, recorded, _, split, _, ok, shape⟩
  · simp [same] at turned
  · simp [closed] at turned
  · obtain ⟨rfl, _⟩ := Prod.mk.inj (shape.symm.trans turned)
    have nonempty := List.length_pos_of_ne_nil (recordDelta_ok ok).1
    rw [← split, List.length_append]
    simp only
    omega

def flushLoop (force : Bool) (observed : Nat → Observation) (turn : Nat) (stream : ProgressStream) : ProgressStream :=
  match turned : flushTurn force (observed turn) stream with
  | (after, false) => after
  | (after, true) => flushLoop force observed (turn + 1) after
termination_by stream.pending.length
decreasing_by exact flushTurn_shrinks turned

def flush (force : Bool) (observed : Nat → Observation) (stream : ProgressStream) : ProgressStream :=
  if stream.cancelled then stream.close else flushLoop force observed 0 stream

def retain (delta : List Char) (stream : ProgressStream) : ProgressStream :=
  let stream := { stream with emitted := stream.emitted ++ delta }
  if delta = [] ∨ stream.cancelled ∨ stream.disabled then stream
  else { stream with pending := stream.pending ++ takeBytes (prefixLength delta stream.remaining) delta }

def emit (delta : List Char) (observed : Nat → Observation) (stream : ProgressStream) : ProgressStream :=
  if delta = [] ∨ stream.cancelled ∨ stream.disabled then stream.retain delta
  else (stream.retain delta).flush false observed

end ProgressStream

/-- The calls, as they take the lock of the sink. Between the two parts of an `emit` others may
come. -/
inductive ProgressOperation where
  | retain (delta : List Char)
  | flush (force : Bool) (observed : Nat → Observation)
  | cancel

def progressSystem : System Empty ProgressStream ProgressOperation where
  initial := {}
  exec
    | .retain delta, stream => .ok (stream.retain delta)
    | .flush force observed, stream => .ok (stream.flush force observed)
    | .cancel, stream => .ok { stream with cancelled := true }

theorem reachable_emit {stream} (reached : progressSystem.Reachable stream) (delta)
    (observed : Nat → Observation) : progressSystem.Reachable (stream.emit delta observed) := by
  have retained : progressSystem.exec (.retain delta) stream = .ok (stream.retain delta) := rfl
  have first : progressSystem.Reachable (stream.retain delta) := .step reached trivial retained
  rw [ProgressStream.emit]
  split
  next => exact first
  next => exact .step first trivial (show progressSystem.exec (.flush false observed) _ = _ from rfl)

end Mealy.Provider
