import Mealy.Provider.Progress

/-! What the recorded deltas say about the streamed text. Their numbers, byte counts and
bounds hold in every run. That their text is a prefix of the emitted text holds as long as
no character straddles the byte bound: then every cut either keeps the whole delta or fills
the bound, and nothing is retained behind a gap. -/

namespace Mealy.Provider
open Transaction Utf8Text

structure RecordedInOrder (recorded : List ModelOutputDelta) : Prop where
  events : recorded.length ≤ maximumModelProgressEvents
  bytes : size (recorded.flatMap (·.delta)) ≤ maximumModelProgressBytes
  counted : ∀ i event, recorded[i]? = some event → event.progressSequence = i ∧
    event.cumulativeBytes = size ((recorded.take (i + 1)).flatMap (·.delta)) ∧
    event.delta ≠ [] ∧ size event.delta ≤ maximumModelProgressDeltaBytes
  peak : priorCumulative recorded = size (recorded.flatMap (·.delta))

theorem RecordedInOrder.record {event refused recorded recorded'} (valid : RecordedInOrder recorded)
    (ok : recordDelta event refused recorded = .ok recorded') : RecordedInOrder recorded' := by
  obtain ⟨nonempty, bounded, events, bytes, next, sum, rfl⟩ := recordDelta_ok ok
  rw [valid.peak] at sum
  have total : size ((recorded ++ [event]).flatMap (·.delta)) = event.cumulativeBytes := by
    simpa using sum
  refine ⟨?_, by omega, ?_, ?_⟩
  · simp only [List.length_append, List.length_singleton]
    omega
  · intro i found listed
    by_cases before : i < recorded.length
    · rw [List.getElem?_append_left before] at listed
      rw [List.take_append_of_le_length (by omega)]
      exact valid.counted i found listed
    · obtain rfl : i = recorded.length := by
        have inside := (List.getElem?_eq_some_iff.mp listed).1
        simp only [List.length_append, List.length_singleton] at inside
        omega
      obtain rfl : event = found := by simpa using listed
      rw [List.take_of_length_le (by simp), total]
      exact ⟨next.symm, rfl, nonempty, bounded⟩
  · rw [priorCumulative, List.foldl_append]
    have earlier := valid.peak
    simp only [priorCumulative] at earlier
    rw [earlier, total]
    simp only [List.foldl_cons, List.foldl_nil]
    omega

namespace ProgressStream

theorem flushLoop_keeps (holds : ProgressStream → Prop) {force observed}
    (kept : ∀ turn stream, holds stream → holds (flushTurn force (observed turn) stream).1) (turn)
    (stream) (before : holds stream) : holds (flushLoop force observed turn stream) := by
  fun_induction flushLoop force observed turn stream with
  | case1 turn stream after turned =>
    have step := kept turn stream before
    rwa [turned] at step
  | case2 turn stream after turned ih =>
    have step := kept turn stream before
    rw [turned] at step
    exact ih step

/-- Nothing is recorded that was not emitted; while the sink is open, what was emitted after
the retained text is missing only if the bytes are used up. -/
structure PrefixKept (stream : ProgressStream) : Prop where
  recorded : stream.recordedText <+: stream.emitted
  retained : stream.disabled = false → stream.cancelled = false →
    ∃ rest, stream.recordedText ++ stream.pending ++ rest = stream.emitted ∧
      (rest = [] ∨ maximumModelProgressBytes ≤ stream.cumulativeBytes + size stream.pending)

theorem PrefixKept.close {stream : ProgressStream} (valid : stream.PrefixKept) : stream.close.PrefixKept :=
  ⟨valid.recorded, fun enabled => absurd enabled (by simp [ProgressStream.close])⟩

theorem PrefixKept.turn {stream : ProgressStream} (valid : stream.PrefixKept) (running : stream.cancelled = false)
    (force : Bool) (observed : Observation) : (flushTurn force observed stream).1.PrefixKept := by
  rcases flushTurn_cases force observed stream with
    same | closed | ⟨event, after, recorded, enabled, cut, counted, ok, shape⟩
  · rw [same]
    exact valid
  · rw [closed]
    exact valid.close
  · obtain ⟨rest, whole, filled⟩ := valid.retained enabled running
    obtain ⟨_, _, _, _, _, _, rfl⟩ := recordDelta_ok ok
    have text : stream.recordedText ++ event.delta ++ after ++ rest = stream.emitted := by
      rw [← whole, ← cut, List.append_assoc stream.recordedText]
    have used : stream.cumulativeBytes + size stream.pending = event.cumulativeBytes + size after := by
      rw [counted, ← cut, size_append]
      omega
    rw [shape]
    refine ⟨?_, fun _ _ => ⟨rest, ?_, ?_⟩⟩
    · refine ⟨after ++ rest, ?_⟩
      simpa [recordedText] using text
    · simpa [recordedText] using text
    · rwa [used] at filled

theorem PrefixKept.flush {stream : ProgressStream} (valid : stream.PrefixKept) (force : Bool)
    (observed : Nat → Observation) : (stream.flush force observed).PrefixKept := by
  rw [ProgressStream.flush]
  split
  next => exact valid.close
  next running =>
    apply (flushLoop_keeps (fun stream => stream.cancelled = false ∧ stream.PrefixKept) _ 0 stream
      ⟨by simpa using running, valid⟩).2
    intro turn stream ⟨running, valid⟩
    refine ⟨?_, valid.turn running force _⟩
    rcases flushTurn_cases force (observed turn) stream with same | closed | ⟨_, _, _, _, _, _, _, shape⟩
    · rw [same]; exact running
    · rw [closed]; exact running
    · rw [shape]; exact running

end ProgressStream

/-- No character of a delta straddles the byte bound of an open sink. -/
def ProgressOperation.CutsCleanly (op : ProgressOperation) (stream : ProgressStream) : Prop :=
  match op with
  | retain delta => stream.disabled = true ∨ stream.cancelled = true ∨
      isCharBoundary delta (min (size delta) stream.remaining) = true
  | _ => True

namespace ProgressStream

theorem PrefixKept.retain {stream} (valid : stream.PrefixKept) {delta}
    (clean : (ProgressOperation.retain delta).CutsCleanly stream) : (stream.retain delta).PrefixKept := by
  have longer : stream.recordedText <+: stream.emitted ++ delta := valid.recorded.trans (List.prefix_append ..)
  rw [ProgressStream.retain]
  split
  next skipped =>
    refine ⟨longer, fun enabled running => ?_⟩
    have empty : delta = [] := by
      rcases skipped with empty | cancelled | disabled
      · exact empty
      · exact absurd (running.symm.trans cancelled) (by decide)
      · exact absurd (enabled.symm.trans disabled) (by decide)
    obtain ⟨rest, whole, filled⟩ := valid.retained enabled running
    refine ⟨rest, ?_, filled⟩
    rw [empty, List.append_nil]
    exact whole
  next taken =>
    refine ⟨longer, fun enabled running => ?_⟩
    obtain ⟨rest, whole, filled⟩ := valid.retained enabled running
    replace clean : isCharBoundary delta (min (size delta) stream.remaining) = true :=
      (clean.resolve_left (by simp [show stream.disabled = false from enabled])).resolve_left
        (by simp [show stream.cancelled = false from running])
    have cut := size_takeBytes_prefixLength delta stream.remaining
    have split := takeBytes_append_dropBytes (prefixLength delta stream.remaining) delta
    have length : prefixLength delta stream.remaining = min (size delta) stream.remaining :=
      boundaryBelow_of_boundary clean
    have room : stream.remaining = maximumModelProgressBytes - (stream.cumulativeBytes + size stream.pending) := rfl
    change ∃ more, stream.recordedText ++ (stream.pending ++ takeBytes (prefixLength delta stream.remaining) delta) ++ more =
      stream.emitted ++ delta ∧ (more = [] ∨ maximumModelProgressBytes ≤ stream.cumulativeBytes +
        size (stream.pending ++ takeBytes (prefixLength delta stream.remaining) delta))
    rw [size_append, cut]
    rcases filled with rfl | filled
    · refine ⟨dropBytes (prefixLength delta stream.remaining) delta, ?_, ?_⟩
      · rw [← whole, ← List.append_assoc, List.append_assoc _ (takeBytes _ _), split, List.append_nil]
      · by_cases fits : size delta ≤ stream.remaining
        · left
          rw [prefixLength_of_fits fits, dropBytes_size]
        · right
          omega
    · -- the bytes are used up, so nothing of the delta is retained
      have nothing : takeBytes (prefixLength delta stream.remaining) delta = [] := by
        by_contra some_
        have positive := size_pos some_
        omega
      refine ⟨rest ++ delta, ?_, .inr (by omega)⟩
      rw [nothing, List.append_nil, ← whole, List.append_assoc _ rest]

end ProgressStream

theorem recorded_in_order {stream} (reached : progressSystem.Reachable stream) :
    RecordedInOrder stream.recorded := by
  have start : RecordedInOrder progressSystem.initial.recorded := ⟨by decide, by decide, by simp [progressSystem], rfl⟩
  refine @System.ReachableIf.invariant _ _ _ _ _ (fun stream => RecordedInOrder stream.recorded) start ?_ _ reached
  intro op stream after valid _ executed
  cases op with
  | retain delta =>
    cases executed
    simp only [ProgressStream.retain]
    split <;> exact valid
  | cancel =>
    cases executed
    exact valid
  | flush force observed =>
    cases executed
    rw [ProgressStream.flush]
    split
    next => exact valid
    next =>
      apply ProgressStream.flushLoop_keeps (fun stream => RecordedInOrder stream.recorded) _ 0 stream valid
      intro turn stream valid
      rcases ProgressStream.flushTurn_cases force (observed turn) stream with
        same | closed | ⟨_, _, _, _, _, _, ok, shape⟩
      · rw [same]; exact valid
      · rw [closed]; exact valid
      · rw [shape]; exact valid.record ok

/-- In every run the recorded events are numbered, counted and bounded. In a run in which no
character straddles the byte bound, their text is a prefix of what was emitted. -/
theorem durable_progress (stream : ProgressStream) (reached : progressSystem.Reachable stream) :
    RecordedInOrder stream.recorded ∧
    (progressSystem.ReachableIf ProgressOperation.CutsCleanly stream → stream.recordedText <+: stream.emitted) := by
  refine ⟨recorded_in_order reached, fun clean => ?_⟩
  have start : progressSystem.initial.PrefixKept := ⟨List.prefix_rfl, fun _ _ => ⟨[], rfl, .inl rfl⟩⟩
  refine (System.ReachableIf.invariant start ?_ clean).recorded
  intro op stream after valid meets executed
  cases op with
  | retain delta =>
    cases executed
    exact valid.retain meets
  | flush force observed =>
    cases executed
    exact valid.flush force observed
  | cancel =>
    cases executed
    exact ⟨valid.recorded, fun _ running => absurd running (by simp)⟩

/-- The flush interval has passed and nothing refuses the recording. -/
def promptly : Nat → Observation := fun _ => { elapsed := true }

/-! ### Streams at the bound -/

/-- A sink that waits with an empty buffer, having recorded `text`. -/
structure Settled (allowed : ProgressOperation → ProgressStream → Prop) (stream : ProgressStream) (count : Nat)
    (text emitted : List Char) : Prop where
  reached : progressSystem.ReachableIf allowed stream
  running : stream.disabled = false ∧ stream.cancelled = false
  idle : stream.pending = []
  counted : stream.progressSequence = count ∧ stream.recorded.length = count
  total : stream.cumulativeBytes = size text
  recorded : stream.recordedText = text
  emitted : stream.emitted = emitted

theorem flush_of_turn {stream after observed} (running : stream.cancelled = false)
    (turned : ProgressStream.flushTurn false (observed 0) stream = (after, false)) :
    stream.flush false observed = after := by
  rw [ProgressStream.flush, if_neg (by simp [running]), ProgressStream.flushLoop]
  split
  next other same => exact (Prod.mk.inj (same.symm.trans turned)).1
  next other same => simp [turned] at same

section Settled
variable {allowed : ProgressOperation → ProgressStream → Prop} {stream : ProgressStream} {count : Nat} {text emitted : List Char}
  (settled : Settled allowed stream count text emitted)
include settled

theorem Settled.extend (clean : ∀ op stream, op.CutsCleanly stream → allowed op stream) {delta}
    (nonempty : delta ≠ []) (small : size delta ≤ maximumModelProgressDeltaBytes)
    (room : size text + size delta ≤ maximumModelProgressBytes) (events : count < maximumModelProgressEvents) :
    ∃ after, Settled allowed after (count + 1) (text ++ delta) (emitted ++ delta) := by
  obtain ⟨reached, ⟨enabled, running⟩, idle, ⟨rfl, length⟩, total, rfl, rfl⟩ := settled
  have positive := size_pos nonempty
  have peak := (recorded_in_order reached.reachable).peak
  have left : stream.remaining = maximumModelProgressBytes - stream.cumulativeBytes := by
    simp [ProgressStream.remaining, idle]
  have retained : stream.retain delta = { stream with pending := delta, emitted := stream.emitted ++ delta } := by
    simp only [ProgressStream.retain, nonempty, enabled, running, idle, Bool.false_eq_true, or_self, if_false, List.nil_append]
    rw [prefixLength_of_fits (by simp only [ProgressStream.remaining, size_nil]; omega), takeBytes_size]
  let event : ModelOutputDelta :=
    { progressSequence := stream.progressSequence, delta, cumulativeBytes := stream.cumulativeBytes + size delta }
  have ok : recordDelta event none stream.recorded = .ok (stream.recorded ++ [event]) := by
    have sum : priorCumulative stream.recorded = stream.cumulativeBytes := peak.trans total.symm
    simp only [recordDelta, event]
    simp [ensure, nonempty, length, sum, small, events, show stream.cumulativeBytes + size delta ≤ maximumModelProgressBytes by omega,
      bind, Except.bind, pure, Except.pure]
  let after : ProgressStream := { stream with
    pending := [], progressSequence := stream.progressSequence + 1
    cumulativeBytes := stream.cumulativeBytes + size delta, recorded := stream.recorded ++ [event]
    emitted := stream.emitted ++ delta }
  have turned : ProgressStream.flushTurn false (promptly 0) (stream.retain delta) = (after, false) := by
    have fits : size delta ≤ min (maximumModelProgressBytes - stream.cumulativeBytes) maximumModelProgressDeltaBytes := by omega
    rw [retained]
    simp only [ProgressStream.flushTurn, enabled, nonempty, promptly, prefixLength_of_fits fits, takeBytes_size, dropBytes_size]
    rw [if_neg (by simp), if_neg (by simp), if_neg (by omega), if_neg (by omega), ok]
    simp [after, providerProgressFlushBytes, enabled]
  have first : progressSystem.exec (.retain delta) stream = .ok (stream.retain delta) := rfl
  have second : progressSystem.exec (.flush false promptly) (stream.retain delta) = .ok after :=
    congrArg Except.ok (flush_of_turn (by rw [retained]; exact running) turned)
  have whole : (ProgressOperation.retain delta).CutsCleanly stream := by
    refine .inr (.inr ?_)
    rw [Nat.min_eq_left (by omega)]
    exact isCharBoundary_size delta
  refine ⟨after, .step (.step reached (clean _ _ whole) first) (clean (.flush false promptly) _ trivial) second,
    ⟨enabled, running⟩, rfl, ⟨rfl, ?_⟩, ?_, ?_, rfl⟩
  · simp [after, length]
  · simp [after, total]
  · simp [after, ProgressStream.recordedText, event]

theorem Settled.skip {c} (short : maximumModelProgressBytes < size text + c.utf8Size)
    (within_ : size text ≤ maximumModelProgressBytes) (meets : allowed (.retain [c]) stream) :
    ∃ after, Settled allowed after count text (emitted ++ [c]) := by
  obtain ⟨reached, ⟨enabled, running⟩, idle, counted, total, recorded, rfl⟩ := settled
  have nothing : takeBytes (prefixLength [c] stream.remaining) [c] = [] := by
    have bound := prefixLength_le [c] stream.remaining
    have left : stream.remaining = maximumModelProgressBytes - (stream.cumulativeBytes + size stream.pending) := rfl
    simp only [idle, size_nil] at left
    simp [takeBytes, show ¬c.utf8Size ≤ prefixLength [c] stream.remaining by omega]
  refine ⟨{ stream with emitted := stream.emitted ++ [c] }, ?_, ⟨enabled, running⟩, idle, counted, total, recorded, rfl⟩
  have kept : stream.retain [c] = { stream with emitted := stream.emitted ++ [c] } := by
    rw [ProgressStream.retain, if_neg (by simp [enabled, running])]
    change { stream with
      pending := stream.pending ++ takeBytes (prefixLength [c] stream.remaining) [c], emitted := stream.emitted ++ [c] } = _
    rw [nothing, List.append_nil]
  exact .step reached meets (show progressSystem.exec (.retain [c]) stream = _ from congrArg Except.ok kept)

end Settled

theorem settled_initial {allowed} : Settled allowed progressSystem.initial 0 [] [] :=
  ⟨.initial, ⟨rfl, rfl⟩, rfl, ⟨rfl, rfl⟩, rfl, rfl, rfl⟩

def filler (n : Nat) : List Char := List.replicate n 'a'

theorem size_filler (n) : size (filler n) = n := by
  simp [filler, size, show 'a'.utf8Size = 1 from rfl]

theorem filler_ne_nil {n} (positive : n ≠ 0) : filler n ≠ [] := by
  simp [filler, positive]

section
variable {allowed : ProgressOperation → ProgressStream → Prop} (clean : ∀ op stream, op.CutsCleanly stream → allowed op stream)
include clean

theorem settled_full (n) (within_ : n ≤ 16) : ∃ stream text, Settled allowed stream n text text ∧ size text = 4096 * n := by
  induction n with
  | zero => exact ⟨_, [], settled_initial, rfl⟩
  | succ n ih =>
    obtain ⟨stream, text, settled, total⟩ := ih (by omega)
    have chunk := size_filler 4096
    obtain ⟨after, extended⟩ := settled.extend clean (filler_ne_nil (show 4096 ≠ 0 by decide)) (by rw [chunk]; decide)
      (by rw [chunk, total]; simp only [maximumModelProgressBytes]; omega) (by simp only [maximumModelProgressEvents]; omega)
    exact ⟨after, _, extended, by rw [size_append, chunk, total]; omega⟩

end

/-- Sixteen deltas fill the bound exactly; what comes then is not recorded. -/
theorem durable_progress_full : ∃ stream, progressSystem.ReachableIf ProgressOperation.CutsCleanly stream ∧
    size stream.recordedText = maximumModelProgressBytes ∧ size stream.emitted = maximumModelProgressBytes + 2 ∧
    RecordedInOrder stream.recorded ∧ stream.recordedText <+: stream.emitted := by
  obtain ⟨before, text, settled, total⟩ := settled_full (fun _ _ meets => meets) 16 (by omega)
  have full : before.remaining = 0 := by simp [ProgressStream.remaining, settled.idle, settled.total, total, maximumModelProgressBytes]
  obtain ⟨stream, last⟩ := settled.skip (c := 'é') (by rw [total]; decide) (by rw [total]; decide)
    (.inr (.inr (by rw [full]; exact isCharBoundary_zero _)))
  have shown := durable_progress stream last.reached.reachable
  refine ⟨stream, last.reached, by rw [last.recorded, total]; rfl, ?_, shown.1, shown.2 last.reached⟩
  rw [last.emitted, size_append, total]
  rfl

/-- With one byte left a character of two bytes is dropped and the next one of one byte is
recorded, so that the recorded text skips a character of the emitted one. -/
theorem straddled_progress :
    ∃ stream, progressSystem.Reachable stream ∧ ¬stream.recordedText <+: stream.emitted := by
  obtain ⟨_, text, settled, total⟩ := settled_full (fun _ _ _ => trivial) 15 (by omega)
  have chunk := size_filler 4095
  have bytes : maximumModelProgressBytes = 65536 := rfl
  obtain ⟨_, short⟩ := settled.extend (fun _ _ _ => trivial) (filler_ne_nil (show 4095 ≠ 0 by decide)) (by rw [chunk]; decide)
    (by omega) (by decide)
  have left : size (text ++ filler 4095) = 65535 := by
    rw [size_append, chunk, total]
  obtain ⟨_, skipped⟩ := short.skip (c := 'é') (by rw [left]; decide) (by omega) trivial
  obtain ⟨stream, recorded⟩ := skipped.extend (fun _ _ _ => trivial) (show ['a'] ≠ [] by simp) (by decide)
    (by rw [left]; decide) (by decide)
  refine ⟨stream, recorded.reached, ?_⟩
  rw [recorded.recorded, recorded.emitted, List.append_assoc _ ['é'], List.prefix_append_right_inj]
  decide

end Mealy.Provider
