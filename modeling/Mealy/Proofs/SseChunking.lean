import Mealy.Lib.LineReader
import Mealy.Provider.Sse

/-! The decoder does not see how a response is cut into chunks. Its buffer and cursor are
one way to keep the unfinished line of a line reader; a compaction of the buffer drops
what the cursor has passed and nothing else. -/

namespace Mealy.Provider.SseDecoder
open Transaction LineReader

def unread (decoder : SseDecoder) : Bytes := decoder.buffer.drop decoder.cursor

abbrev feedLines := feed lineFeed consumeLine

theorem split_at_lineFeed {bytes position} (found : bytes.findIdx? (· = lineFeed) = some position) :
    lineFeed ∉ bytes.take position ∧ bytes = bytes.take position ++ lineFeed :: bytes.drop (position + 1) := by
  obtain ⟨inside, here, before⟩ := List.findIdx?_eq_some_iff_getElem.mp found
  constructor
  · intro member
    obtain ⟨index, bound, same⟩ := List.mem_take_iff_getElem.mp member
    exact before index (by omega) (by simpa using same)
  · have same : bytes[position] = lineFeed := by simpa using here
    rw [← same, ← List.drop_eq_getElem_cons inside, List.take_append_drop]

theorem consumeLines_feed (buffer) (cursor) (state : String × List String) :
    (consumeLines buffer cursor state).map (fun result => (buffer.drop result.1, result.2)) =
      feedLines ([], state) (buffer.drop cursor) := by
  fun_induction consumeLines buffer cursor state with
  | case1 cursor state none =>
    have unbroken : lineFeed ∉ buffer.drop cursor := by
      intro member
      exact absurd (List.findIdx?_eq_none_iff.mp none _ member) (by simp)
    rw [feedLines, feed_piece unbroken, List.nil_append]
    rfl
  | case2 cursor state relative found e rejected =>
    obtain ⟨unbroken, split⟩ := split_at_lineFeed found
    rw [split, feedLines, feed_line unbroken, List.nil_append, rejected, error_bind]
    rfl
  | case3 cursor state relative found state' consumed ih =>
    obtain ⟨unbroken, split⟩ := split_at_lineFeed found
    rw [ih, split, feedLines, feed_line unbroken, List.nil_append, consumed, ok_bind, List.drop_drop, Nat.add_assoc]

theorem consumeLines_inside {buffer cursor state result} (inside : cursor ≤ buffer.length)
    (looped : consumeLines buffer cursor state = .ok result) : result.1 ≤ buffer.length := by
  fun_induction consumeLines buffer cursor state with
  | case1 =>
    cases looped
    exact inside
  | case2 => cases looped
  | case3 cursor state relative found state' consumed ih =>
    apply ih _ looped
    have bound := (List.findIdx?_eq_some_iff_getElem.mp found).1
    rw [List.length_drop] at bound
    omega

theorem consumeLine_events (line) (data) (before events) :
    consumeLine line (data, before ++ events) =
      (consumeLine line (data, events)).map fun state => (state.1, before ++ state.2) := by
  unfold consumeLine
  dsimp only
  split
  · split <;> simp [Except.map]
  · split
    · cases fromUtf8 _ <;> rfl
    · rfl

theorem feedLines_events (line) (data) (before) (bytes) :
    feedLines (line, data, before) bytes =
      (feedLines (line, data, []) bytes).map fun reader => (reader.1, reader.2.1, before ++ reader.2.2) := by
  have commutes (line : Bytes) (state : String × List String) :
      consumeLine line (state.1, before ++ state.2) =
        (consumeLine line state).map fun state => (state.1, before ++ state.2) :=
    consumeLine_events line state.1 before state.2
  have fed : feedLines (line, data, before ++ []) bytes = _ := feed_map commutes line (data, []) bytes
  rwa [List.append_nil] at fed

/-! ### Calls -/

/-- Between two calls the cursor stands inside the buffer, behind its last line break. -/
structure Valid (decoder : SseDecoder) : Prop where
  inside : decoder.cursor ≤ decoder.buffer.length
  unbroken : lineFeed ∉ decoder.unread

theorem observed_fits (adapter : StreamingAdapter) (observed length : Nat) :
    min (observed + min length maximumU64) maximumU64 ≤ adapter.maximumResponseBytes ↔
      observed + length ≤ adapter.maximumResponseBytes := by
  have below : adapter.maximumResponseBytes < maximumU64 := by cases adapter <;> decide
  omega

theorem Valid.push_feed {decoder} (valid : Valid decoder) (chunk) :
    (consumeLines (decoder.buffer ++ chunk) decoder.cursor (decoder.data, [])).map
        (fun result => ((decoder.buffer ++ chunk).drop result.1, result.2)) =
      feedLines (decoder.unread, decoder.data, []) chunk := by
  rw [consumeLines_feed, List.drop_append_of_le_length valid.inside, feedLines, feed_append]
  rw [show decoder.buffer.drop decoder.cursor = decoder.unread from rfl, feed_piece valid.unbroken, ok_bind,
    List.nil_append]

theorem push_ok {adapter decoder decoder' chunk events}
    (valid : Valid decoder) (pushed : decoder.push adapter chunk = .ok (events, decoder')) :
    Valid decoder' ∧ decoder'.observedBytes = decoder.observedBytes + chunk.length ∧
    decoder'.observedBytes ≤ adapter.maximumResponseBytes ∧
    feedLines (decoder.unread, decoder.data, []) chunk = .ok (decoder'.unread, decoder'.data, events) := by
  simp only [push, eq_ok, observed_fits, Prod.mk.injEq] at pushed
  obtain ⟨_, fits, ⟨cursor, data, completed⟩, looped, rfl, rfl⟩ := pushed
  have fed := valid.push_feed chunk
  rw [looped] at fed
  have inside : cursor ≤ (decoder.buffer ++ chunk).length :=
    consumeLines_inside (by have := valid.inside; simp; omega) looped
  have unbroken : lineFeed ∉ (decoder.buffer ++ chunk).drop cursor := feed_unbroken valid.unbroken fed.symm
  have counted : min (decoder.observedBytes + min chunk.length maximumU64) maximumU64 =
      decoder.observedBytes + chunk.length := by
    have below : adapter.maximumResponseBytes < maximumU64 := by cases adapter <;> decide
    omega
  rw [counted, ← fed]
  split
  · exact ⟨⟨Nat.zero_le _, unbroken⟩, rfl, fits, rfl⟩
  · exact ⟨⟨inside, unbroken⟩, rfl, fits, rfl⟩

theorem push_error {adapter decoder chunk e}
    (valid : Valid decoder) (failed : decoder.push adapter chunk = .error e) :
    adapter.maximumResponseBytes < decoder.observedBytes + chunk.length ∨
      ∃ e, feedLines (decoder.unread, decoder.data, []) chunk = .error e := by
  by_cases fits : decoder.observedBytes + chunk.length ≤ adapter.maximumResponseBytes
  · right
    have fed := valid.push_feed chunk
    simp only [push, ensure_holds ((observed_fits _ _ _).mpr fits), ok_bind] at failed
    cases looped : consumeLines (decoder.buffer ++ chunk) decoder.cursor (decoder.data, []) with
    | error e' =>
      rw [looped] at fed
      exact ⟨e', fed.symm⟩
    | ok result =>
      rw [looped, ok_bind] at failed
      cases failed
  · exact .inl (Nat.lt_of_not_le fits)

def finishReader (reader : Reader UInt8 (String × List String)) : Except ProviderError (List String) := do
  let (data, events) ← if reader.1 = [] then .ok reader.2 else consumeLine reader.1 reader.2
  pure (if data = "" then events else events ++ [data])

theorem finish_eq (decoder : SseDecoder) : decoder.finish = finishReader (decoder.unread, decoder.data, []) := by
  have empty : decoder.unread = [] ↔ ¬ decoder.cursor < decoder.buffer.length := by
    rw [unread, List.drop_eq_nil_iff, Nat.not_lt]
  unfold finish finishReader
  by_cases more : decoder.cursor < decoder.buffer.length
  · rw [if_pos more, if_neg (fun none => empty.mp none more)]
    rfl
  · rw [if_neg more, if_pos (empty.mpr more)]

theorem finishReader_events (line) (data) (before events) :
    finishReader (line, data, before ++ events) = (finishReader (line, data, events)).map (before ++ ·) := by
  unfold finishReader
  dsimp only
  split
  · simp only [ok_bind, pure, Except.pure, Except.map]
    split <;> simp
  · rw [consumeLine_events]
    cases consumeLine line (data, events) with
    | error => rfl
    | ok state =>
      simp only [Except.map, ok_bind, pure, Except.pure]
      split <;> simp

theorem decode_spec (adapter : StreamingAdapter) (chunks : List Bytes) (decoder : SseDecoder) (valid : Valid decoder)
    (within : decoder.observedBytes ≤ adapter.maximumResponseBytes) :
    (decoder.decode adapter chunks).toOption =
      if decoder.observedBytes + chunks.flatten.length ≤ adapter.maximumResponseBytes then
        (feedLines (decoder.unread, decoder.data, []) chunks.flatten >>= finishReader).toOption
      else none := by
  induction chunks generalizing decoder with
  | nil =>
    simp only [decode, finish_eq, List.flatten_nil, List.length_nil, Nat.add_zero, within, if_true]
    rfl
  | cons chunk rest ih =>
    have appended : feedLines (decoder.unread, decoder.data, []) (chunk ++ rest.flatten) =
        feedLines (decoder.unread, decoder.data, []) chunk >>= fun middle => feedLines middle rest.flatten :=
      feed_append ..
    rw [decode, List.flatten_cons, List.length_append, appended]
    cases pushed : decoder.push adapter chunk with
    | error e =>
      rw [error_bind]
      rcases push_error valid pushed with long | ⟨e', rejected⟩
      · rw [if_neg (by omega)]
        rfl
      · rw [rejected]
        split <;> rfl
    | ok result =>
      obtain ⟨events, decoder'⟩ := result
      obtain ⟨valid', counted, fits, fed⟩ := push_ok valid pushed
      have later := ih decoder' valid' fits
      have behind : (feedLines (decoder'.unread, decoder'.data, events) rest.flatten >>= finishReader).toOption =
          (feedLines (decoder'.unread, decoder'.data, []) rest.flatten >>= finishReader).toOption.map (events ++ ·) := by
        rw [feedLines_events]
        cases feedLines (decoder'.unread, decoder'.data, []) rest.flatten with
        | error => rfl
        | ok reader =>
          rw [ok_bind, ← toOption_map, ← finishReader_events]
          rfl
      have joined : (decoder'.decode adapter rest >>= fun later => pure (events ++ later)).toOption =
          (decoder'.decode adapter rest).toOption.map (events ++ ·) := by
        cases decoder'.decode adapter rest <;> rfl
      rw [fed, ok_bind, ok_bind, behind, ← Nat.add_assoc, ← counted]
      refine joined.trans ?_
      rw [later]
      split <;> rfl

/-- However the bytes of a response are cut, the decoder returns the same events or
fails in both cases. -/
theorem sse_decoding_ignores_chunks (adapter : StreamingAdapter) (chunks : List Bytes) :
    (decode adapter {} chunks).toOption = (decode adapter {} [chunks.flatten]).toOption := by
  have valid : Valid {} := ⟨Nat.le_refl _, List.not_mem_nil⟩
  rw [decode_spec adapter chunks {} valid (Nat.zero_le _), decode_spec adapter [chunks.flatten] {} valid (Nat.zero_le _),
    List.flatten_singleton]

end Mealy.Provider.SseDecoder
