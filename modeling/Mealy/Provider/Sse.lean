import Mealy.Lib.Transaction

/-! The decoder of server-sent events that the responses adapter and the Anthropic adapter
each carry (`responses_provider.rs`, `anthropic_provider.rs`). The two are the same code
with the same bound; a failed call ends the response, so its state is not kept. -/

namespace Mealy.Provider
open Transaction

inductive ProviderErrorClass where
  | invalidRequest | unavailable | rateLimited | timeout | cancelled | invalidResponse

inductive ProviderFailureDisposition where
  | known | outcomeUnknown

structure ProviderError where
  errorClass : ProviderErrorClass
  message : String
  retryable : Bool
  disposition : ProviderFailureDisposition

def providerError (errorClass : ProviderErrorClass) (message : String) (retryable : Bool) : ProviderError :=
  { errorClass, message, retryable, disposition := .known }

inductive StreamingAdapter where
  | responses | anthropic

def StreamingAdapter.maximumResponseBytes : StreamingAdapter → Nat
  | responses => 8 * 1024 * 1024
  | anthropic => 8 * 1024 * 1024

def maximumU64 : Nat := 2 ^ 64 - 1

abbrev Bytes := List UInt8

def fromUtf8 (bytes : Bytes) : Option String := String.fromUTF8? ⟨bytes.toArray⟩

structure SseDecoder where
  buffer : Bytes := []
  cursor : Nat := 0
  data : String := ""
  observedBytes : Nat := 0

namespace SseDecoder

def lineFeed : UInt8 := 10

def stripCarriageReturn (line : Bytes) : Bytes :=
  if line.getLast? = some 13 then line.dropLast else line

def dataField : Bytes := [100, 97, 116, 97, 58]

def consumeLine (line : Bytes) (state : String × List String) : Except ProviderError (String × List String) :=
  let line := stripCarriageReturn line
  let (data, events) := state
  if line = [] then
    if data = "" then .ok (data, events) else .ok ("", events ++ [data])
  else if dataField.isPrefixOf line then do
    let value := line.drop dataField.length
    let value := if value.head? = some 32 then value.drop 1 else value
    let value ← require (fromUtf8 value)
      (providerError .invalidResponse "provider stream contained non-UTF-8 event data" false)
    pure (if data = "" then value else data ++ "\n" ++ value, events)
  else .ok (data, events)

/-- The loop of `push`: every complete line behind the cursor is consumed. -/
def consumeLines (buffer : Bytes) (cursor : Nat) (state : String × List String) :
    Except ProviderError (Nat × String × List String) :=
  match _ : (buffer.drop cursor).findIdx? (· = lineFeed) with
  | none => .ok (cursor, state)
  | some relative =>
    match consumeLine ((buffer.drop cursor).take relative) state with
    | .error e => .error e
    | .ok state => consumeLines buffer (cursor + relative + 1) state
termination_by buffer.length - cursor
decreasing_by
  have inside := (List.findIdx?_eq_some_iff_getElem.mp ‹_›).1
  rw [List.length_drop] at inside
  omega

/-- `push`, with the events that this chunk completed. -/
def push (adapter : StreamingAdapter) (decoder : SseDecoder) (chunk : Bytes) :
    Except ProviderError (List String × SseDecoder) := do
  let observedBytes := min (decoder.observedBytes + min chunk.length maximumU64) maximumU64
  ensure (observedBytes ≤ adapter.maximumResponseBytes)
    (providerError .invalidResponse "provider stream exceeds its byte bound" false)
  let buffer := decoder.buffer ++ chunk
  let (cursor, data, events) ← consumeLines buffer decoder.cursor (decoder.data, [])
  pure (events,
    if 64 * 1024 ≤ cursor then { buffer := buffer.drop cursor, cursor := 0, data, observedBytes }
    else { buffer, cursor, data, observedBytes })

def finish (decoder : SseDecoder) : Except ProviderError (List String) := do
  let (data, events) ←
    if decoder.cursor < decoder.buffer.length then consumeLine (decoder.buffer.drop decoder.cursor) (decoder.data, [])
    else .ok (decoder.data, [])
  pure (if data = "" then events else events ++ [data])

def decode (adapter : StreamingAdapter) (decoder : SseDecoder) : List Bytes → Except ProviderError (List String)
  | [] => decoder.finish
  | chunk :: rest => do
    let (events, decoder) ← decoder.push adapter chunk
    let later ← decoder.decode adapter rest
    pure (events ++ later)

end SseDecoder

end Mealy.Provider
