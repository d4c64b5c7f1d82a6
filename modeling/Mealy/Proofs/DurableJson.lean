import Mealy.Lib.JsonReader
import Mealy.Lib.Transaction
import Mealy.Lib.Utf8Text

/-! The stored form of large JSON texts (`sqlite/agent.rs`): the text itself, or an envelope of its
compressed bytes when that is shorter. A text without the envelope's marker comes back unchanged. -/

namespace Mealy
open Json Transaction Utf8Text

def durableJsonCompressionThresholdBytes : Nat := 4 * 1024

def durableJsonEncoding : String := "deflate-zlib-base64url-v1"

def durableEnvelope (data : String) (uncompressedBytes : Nat) : Value :=
  .object [("_mealyEncoding", .string durableJsonEncoding), ("data", .string data), ("uncompressedBytes", .nat uncompressedBytes)]

/-- The codecs the encoder rests on. Compression and base64 decode what they encode; inflating reads
at most as many bytes as asked for. Of the JSON parser only the reading of envelopes is needed. -/
structure DurableCodec where
  parse : String → Option Value
  parse_envelope : ∀ data n, n < 2 ^ 64 → parse (durableEnvelope data n).render = some (durableEnvelope data n)
  parse_empty : parse "" = none
  deflate : List UInt8 → List UInt8
  inflate : List UInt8 → Nat → Option (List UInt8)
  inflate_deflate : ∀ bytes limit, inflate (deflate bytes) limit = some (bytes.take limit)
  deflate_ne_nil : ∀ bytes, deflate bytes ≠ []
  encode : List UInt8 → String
  decode : String → Option (List UInt8)
  decode_encode : ∀ bytes, decode (encode bytes) = some bytes
  encode_nil : encode [] = ""

variable (codec : DurableCodec)

def DurableCodec.envelope (canonicalJson : String) : Value :=
  durableEnvelope (codec.encode (codec.deflate (bytes canonicalJson))) canonicalJson.utf8ByteSize

def encodeDurableJson (canonicalJson : String) (maximumBytes : Nat) : Except Unit String := do
  ensure (canonicalJson.utf8ByteSize ≤ maximumBytes) ()
  let value ← require (codec.parse canonicalJson) ()
  ensure (value.isObject = true) ()
  if canonicalJson.utf8ByteSize < durableJsonCompressionThresholdBytes then pure canonicalJson
  else
    let envelope := (codec.envelope canonicalJson).render
    pure (if envelope.utf8ByteSize < canonicalJson.utf8ByteSize then envelope else canonicalJson)

def decodeDurableJson (storedJson : String) (maximumBytes : Nat) : Except Unit String := do
  ensure (storedJson ≠ "" ∧ storedJson.utf8ByteSize ≤ maximumBytes) ()
  let value ← require (codec.parse storedJson) ()
  let object ← require value.asObject ()
  if object.lookup "_mealyEncoding" = none then
    ensure (storedJson.utf8ByteSize ≤ maximumBytes) ()
    pure storedJson
  else
    ensure (object.length = 3 ∧ (object.lookup "_mealyEncoding").bind Value.asString = some durableJsonEncoding) ()
    let uncompressedBytes ← require (((object.lookup "uncompressedBytes").bind Value.asU64).filter fun value =>
      durableJsonCompressionThresholdBytes ≤ value ∧ value ≤ maximumBytes) ()
    let encoded ← require ((object.lookup "data").bind Value.asString) ()
    ensure (encoded ≠ "" ∧ encoded.utf8ByteSize ≤ maximumBytes) ()
    let compressed ← require (codec.decode encoded) ()
    let decoded ← require (codec.inflate compressed (min (maximumBytes + 1) (2 ^ 64 - 1))) ()
    ensure (decoded.length = uncompressedBytes ∧ decoded.length ≤ maximumBytes) ()
    let canonicalJson ← require (ofBytes decoded) ()
    let decodedValue ← require (codec.parse canonicalJson) ()
    ensure (decodedValue.isObject = true) ()
    pure canonicalJson

variable {codec} {text : String} {maximumBytes : Nat} {fields : List (String × Value)}

section
variable (within_ : text.utf8ByteSize ≤ maximumBytes) (isJson : codec.parse text = some (.object fields))
include within_ isJson

theorem encodeDurableJson_eq : encodeDurableJson codec text maximumBytes = .ok
    (if text.utf8ByteSize < durableJsonCompressionThresholdBytes then text
    else if (codec.envelope text).render.utf8ByteSize < text.utf8ByteSize then (codec.envelope text).render else text) := by
  simp only [encodeDurableJson, eq_ok]
  refine ⟨(), within_, _, isJson, (), rfl, ?_⟩
  split_ifs <;> rfl

theorem decodeDurableJson_plain (unmarked : fields.lookup "_mealyEncoding" = none) :
    decodeDurableJson codec text maximumBytes = .ok text := by
  have some_ : text ≠ "" := by
    rintro rfl
    cases codec.parse_empty.symm.trans isJson
  simp only [decodeDurableJson, eq_ok]
  exact ⟨(), ⟨some_, within_⟩, _, isJson, fields, rfl, by simp [unmarked, within_, ensure, pure, Except.pure, bind, Except.bind]⟩

theorem decodeDurableJson_envelope (usize : maximumBytes < 2 ^ 64)
    (large : durableJsonCompressionThresholdBytes ≤ text.utf8ByteSize)
    (shorter : (codec.envelope text).render.utf8ByteSize < text.utf8ByteSize) :
    decodeDurableJson codec (codec.envelope text).render maximumBytes = .ok text := by
  have read : codec.parse (codec.envelope text).render = some (codec.envelope text) :=
    codec.parse_envelope _ _ (Nat.lt_of_le_of_lt within_ usize)
  have some_ : (codec.envelope text).render ≠ "" := by
    intro empty
    rw [empty, codec.parse_empty] at read
    cases read
  have data : codec.encode (codec.deflate (bytes text)) ≠ "" := by
    intro empty
    have decoded := codec.decode_encode (codec.deflate (bytes text))
    rw [empty, ← codec.encode_nil, codec.decode_encode] at decoded
    exact codec.deflate_ne_nil _ (Option.some.inj decoded).symm
  have bounded : (codec.encode (codec.deflate (bytes text))).utf8ByteSize ≤ maximumBytes := by
    have quoted := utf8ByteSize_le_quotedSize (codec.encode (codec.deflate (bytes text)))
    have size : (codec.envelope text).render.utf8ByteSize = _ := size_object nofun
    simp only [List.map_cons, List.sum_cons, size_string] at size
    omega
  have all : (bytes text).take (min (maximumBytes + 1) (2 ^ 64 - 1)) = bytes text :=
    List.take_of_length_le (by rw [length_bytes_eq]; omega)
  simp only [decodeDurableJson, eq_ok]
  refine ⟨(), ⟨some_, by omega⟩, _, read, _, rfl, ?_⟩
  rw [if_neg (by simp)]
  simp only [eq_ok]
  refine ⟨(), ⟨rfl, rfl⟩, text.utf8ByteSize, ?_, _, rfl, (), ⟨data, bounded⟩, _, codec.decode_encode _,
    bytes text, (codec.inflate_deflate ..).trans (congrArg some all), (), ⟨length_bytes_eq text, (length_bytes_eq text).trans_le within_⟩, text,
    ofBytes_eq_some.mpr rfl, _, isJson, (), rfl, rfl⟩
  show Option.filter _ (Value.nat text.utf8ByteSize).asU64 = _
  rw [asU64_nat (by omega)]
  exact Option.filter_some_pos (decide_eq_true ⟨large, within_⟩)

end

/-- A JSON object without the envelope's marker is stored within its own size and read back exactly. -/
theorem durable_json_round_trip (codec : DurableCodec) (usize : maximumBytes < 2 ^ 64)
    (within_ : text.utf8ByteSize ≤ maximumBytes) (isJson : codec.parse text = some (.object fields))
    (unmarked : fields.lookup "_mealyEncoding" = none) :
    ∃ stored, encodeDurableJson codec text maximumBytes = .ok stored ∧ stored.utf8ByteSize ≤ text.utf8ByteSize ∧
      stored.utf8ByteSize ≤ maximumBytes ∧ decodeDurableJson codec stored maximumBytes = .ok text := by
  have plain := decodeDurableJson_plain within_ isJson unmarked
  refine ⟨_, encodeDurableJson_eq within_ isJson, ?_⟩
  split_ifs with small shorter
  · exact ⟨Nat.le_refl _, within_, plain⟩
  · exact ⟨shorter.le, by omega, decodeDurableJson_envelope within_ isJson usize (Nat.not_lt.mp small) shorter⟩
  · exact ⟨Nat.le_refl _, within_, plain⟩

def letters (n : Nat) : String := String.ofList (List.replicate n 'a')

/-- A text of more than 4 KiB. -/
def longText : String := (Value.object [("text", .string (letters 5000))]).render

def tableCodec : DurableCodec where
  parse := read
  parse_envelope data n _ := read_render ⟨by simp, trivial, trivial, isNumber_nat n, trivial⟩
  parse_empty := rfl
  deflate content := if content = bytes longText then [1] else 0 :: content
  inflate stream limit := some ((if stream = [1] then bytes longText else stream.tail).take limit)
  inflate_deflate content limit := by
    by_cases long : content = bytes longText <;> simp [long]
  deflate_ne_nil content := by split <;> simp
  encode bytes := String.ofList (bytes.map fun byte => Char.ofNat byte.toNat)
  decode text := some (text.toList.map fun c => UInt8.ofNat c.toNat)
  decode_encode bytes := by
    have same : ∀ byte : UInt8, UInt8.ofNat (Char.ofNat byte.toNat).toNat = byte := by
      intro byte
      have every : ∀ n < 256, UInt8.ofNat (Char.ofNat n).toNat = UInt8.ofNat n := by decide +kernel
      rw [every _ byte.toNat_lt, UInt8.ofNat_toNat]
    simp [List.map_map, Function.comp_def, same]
  encode_nil := rfl

theorem longText_size : longText.utf8ByteSize = 5011 := by
  have size : longText.utf8ByteSize = _ := size_object nofun
  have key : quotedSize "text" = 6 := by decide +kernel
  have content : quotedSize (letters 5000) = 5002 := by
    rw [letters, quotedSize_replicate, show escapedSize 'a' = 1 by decide +kernel]
  simpa [key, content] using size

theorem longText_envelope : (tableCodec.envelope longText).render.utf8ByteSize = 87 := by
  have data : tableCodec.encode (tableCodec.deflate (bytes longText)) = "\x01" := by simp [tableCodec]
  rw [DurableCodec.envelope, longText_size, data]
  decide +kernel

/-- The long text is stored as its envelope and read back. -/
theorem durable_json_round_trip_compressed :
    encodeDurableJson tableCodec longText 8192 = .ok (tableCodec.envelope longText).render ∧
      decodeDurableJson tableCodec (tableCodec.envelope longText).render 8192 = .ok longText := by
  have isJson : tableCodec.parse longText = some (.object [("text", .string (letters 5000))]) := by
    rw [show tableCodec.parse = read from rfl, longText]
    exact read_render ⟨by simp, trivial, trivial⟩
  have small : longText.utf8ByteSize ≤ 8192 := by rw [longText_size]; decide
  have encoded := encodeDurableJson_eq small isJson
  rw [longText_envelope, longText_size, if_neg (by decide), if_pos (by decide)] at encoded
  obtain ⟨stored, stores, _, _, decoded⟩ := durable_json_round_trip tableCodec (by decide) small isJson rfl
  rw [Except.ok.inj (stores.symm.trans encoded)] at decoded
  exact ⟨encoded, decoded⟩

end Mealy
