import Mealy.Lib.Json
import Mealy.Lib.Separated
import Mealy.Lib.Utf8Text
import Mealy.Store.DelegationStore

/-! The signatures of the webhook channel (`channel.rs`). The signed material joins the
fields of a delivery with zero bytes, which no field but the body can hold, so that it
determines the delivery; a signature is the lower-case hexadecimal text of the tag. -/

namespace Mealy.Channels
open Transaction Utf8Text

def webhookSignatureVersion : String := "mealy.webhook.signature.v1"

/-- What one signature covers; the binding is identified by a UUID. -/
structure WebhookDelivery where
  bindingId : BitVec 128
  timestampMs : Int
  nonce : String
  body : List UInt8

inductive WebhookSignatureError where
  | invalidSecret | invalidField | mismatch

def validField (value : String) (maximum : Nat) : Bool :=
  value ≠ "" ∧ value.utf8ByteSize ≤ maximum ∧ isTrimmed value ∧ value.toList.all fun c => !isControl c

def webhookSignatureMaterial (delivery : WebhookDelivery) : Except WebhookSignatureError (List UInt8) := do
  ensure (0 ≤ delivery.timestampMs ∧ validField delivery.nonce 128 ∧ delivery.body ≠ [] ∧
    delivery.body.length ≤ 1024 * 1024) .invalidField
  let fields := [webhookSignatureVersion, Json.uuidText delivery.bindingId.toNat, toString delivery.timestampMs, delivery.nonce]
  pure (fields.flatMap (fun field => bytes field ++ [0]) ++ delivery.body)

def lowercaseHex (tag : List UInt8) : String :=
  String.ofList (tag.flatMap fun byte => [Json.hexDigit (byte.toNat >>> 4), Json.hexDigit (byte.toNat &&& 0x0f)])

def hexNibble (value : UInt8) : Option Nat :=
  if 48 ≤ value ∧ value ≤ 57 then some (value.toNat - 48)
  else if 97 ≤ value ∧ value ≤ 102 then some (value.toNat - 97 + 10)
  else none

def decodePairs : List UInt8 → Except WebhookSignatureError (List UInt8)
  | first :: second :: rest => do
    let high ← require (hexNibble first) .invalidField
    let low ← require (hexNibble second) .invalidField
    let others ← decodePairs rest
    pure (UInt8.ofNat (high <<< 4 ||| low) :: others)
  | _ => pure []

def decodeLowercaseHex (value : String) : Except WebhookSignatureError (List UInt8) := do
  ensure ((bytes value).length = 64) .invalidField
  decodePairs (bytes value)

section
variable (hmac : List UInt8 → List UInt8 → List UInt8)

def signWebhook (secret : List UInt8) (delivery : WebhookDelivery) : Except WebhookSignatureError String := do
  ensure (secret.length = 32) .invalidSecret
  let material ← webhookSignatureMaterial delivery
  pure (lowercaseHex (hmac secret material))

def verifyWebhookSignature (secret : List UInt8) (delivery : WebhookDelivery) (signature : String) :
    Except WebhookSignatureError Unit := do
  ensure (secret.length = 32) .invalidSecret
  let material ← webhookSignatureMaterial delivery
  let tag ← decodeLowercaseHex signature
  ensure (hmac secret material = tag) .mismatch

end

/-! ### The material -/

theorem clean_of_plain {text} (plain : ∀ c ∈ text.toList, Json.Plain c) : 0 ∉ bytes text := by
  intro zero
  obtain ⟨c, member, same⟩ := zero_mem_bytes zero
  have above := (plain c member).1
  omega

theorem clean_uuidText (n) : 0 ∉ bytes (Json.uuidText n) := by
  exact clean_of_plain (Json.forall_mem_uuidText (by decide) (by decide) _)

theorem clean_timestamp {n : Int} (positive : 0 ≤ n) : 0 ∉ bytes (toString n) := by
  intro zero
  obtain ⟨c, member, same⟩ := zero_mem_bytes zero
  obtain ⟨m, rfl⟩ := Int.eq_ofNat_of_zero_le positive
  have listed : c ∈ Nat.toDigits 10 m := by
    rw [← Nat.toList_repr]
    exact member
  have digit := Nat.isDigit_of_mem_toDigits (by decide) (by decide) listed
  simp only [Char.isDigit, Bool.and_eq_true, decide_eq_true_eq, ge_iff_le, UInt32.le_iff_toNat_le] at digit
  change c.val.toNat = 0 at same
  rw [same] at digit
  exact absurd digit.1 (by decide)

theorem timestamp_inj {a b : Int} (positive : 0 ≤ a) (positive' : 0 ≤ b) (same : toString a = toString b) : a = b := by
  obtain ⟨m, rfl⟩ := Int.eq_ofNat_of_zero_le positive
  obtain ⟨n, rfl⟩ := Int.eq_ofNat_of_zero_le positive'
  have digits := congrArg (fun text => Nat.ofDigitChars 10 text.toList 0) (show Nat.repr m = Nat.repr n from same)
  simpa [Nat.repr_eq_ofList_toDigits] using digits

theorem clean_nonce {nonce maximum} (valid : validField nonce maximum = true) : 0 ∉ bytes nonce := by
  intro zero
  obtain ⟨c, member, same⟩ := zero_mem_bytes zero
  simp only [validField, decide_eq_true_eq, List.all_eq_true] at valid
  simpa [isControl, same] using valid.2.2.2 c member

theorem material_injective {first second : WebhookDelivery} {material : List UInt8}
    (ok : webhookSignatureMaterial first = .ok material) (ok' : webhookSignatureMaterial second = .ok material) :
    first = second := by
  simp only [webhookSignatureMaterial, eq_ok] at ok ok'
  obtain ⟨_, ⟨positive, valid, _⟩, rfl⟩ := ok
  obtain ⟨_, ⟨positive', valid', _⟩, same⟩ := ok'
  simp only [List.flatMap_cons, List.flatMap_nil, List.append_nil, List.append_assoc, List.cons_append, List.nil_append,
    List.append_cancel_left_eq, List.cons.injEq, true_and] at same
  -- Each zero byte ends the field in front of it.
  obtain ⟨binding, same⟩ := Separated.append_cons_inj (clean_uuidText _) (clean_uuidText _) same
  obtain ⟨timestamp, same⟩ := Separated.append_cons_inj (clean_timestamp positive') (clean_timestamp positive) same
  obtain ⟨nonce, body⟩ := Separated.append_cons_inj (clean_nonce valid') (clean_nonce valid) same
  have binding := Json.uuidText_inj (bytes_injective binding) second.bindingId.isLt first.bindingId.isLt
  have timestamp := timestamp_inj positive' positive (bytes_injective timestamp)
  cases first
  cases second
  simp only [WebhookDelivery.mk.injEq]
  exact ⟨BitVec.eq_of_toNat_eq binding.symm, timestamp.symm, (bytes_injective nonce).symm, body.symm⟩

/-! ### The hexadecimal text -/

/-- The byte that a digit is sent as. -/
def digitCode (n : Nat) : UInt8 := UInt8.ofNat (Json.hexDigit n).toNat

theorem hexNibble_digitCode : ∀ n < 16, hexNibble (digitCode n) = some n := by decide

theorem digitCode_of_hexNibble {value n} (read : hexNibble value = some n) : n < 16 ∧ digitCode n = value := by
  have every : ∀ code < 256, ∀ n ∈ hexNibble (UInt8.ofNat code), n < 16 ∧ digitCode n = UInt8.ofNat code := by
    decide +kernel
  have here := every value.toNat value.toNat_lt n
  rw [UInt8.ofNat_toNat] at here
  exact here read

theorem nibbles : ∀ code < 256, code >>> 4 < 16 ∧ code &&& 0x0f < 16 ∧ code >>> 4 <<< 4 ||| code &&& 0x0f = code := by
  decide +kernel

theorem nibbles_of_digits : ∀ high < 16, ∀ low < 16, high <<< 4 ||| low < 256 ∧
    (high <<< 4 ||| low) >>> 4 = high ∧ (high <<< 4 ||| low) &&& 0x0f = low := by decide +kernel

theorem bytes_lowercaseHex (tag) :
    bytes (lowercaseHex tag) = tag.flatMap fun byte => [digitCode (byte.toNat >>> 4), digitCode (byte.toNat &&& 0x0f)] := by
  have ascii : ∀ n < 16, (Json.hexDigit n).toNat < 128 := by decide
  rw [lowercaseHex, bytes_ascii, List.map_flatMap]
  · rfl
  · intro c member
    obtain ⟨byte, _, digit⟩ := List.mem_flatMap.mp member
    obtain ⟨high, low, _⟩ := nibbles byte.toNat byte.toNat_lt
    simp only [List.mem_cons, List.not_mem_nil, or_false] at digit
    rcases digit with rfl | rfl
    · exact ascii _ high
    · exact ascii _ low

theorem decodePairs_digits (tag) :
    decodePairs (tag.flatMap fun byte => [digitCode (byte.toNat >>> 4), digitCode (byte.toNat &&& 0x0f)]) = .ok tag := by
  induction tag with
  | nil => rfl
  | cons byte tag ih =>
    obtain ⟨high, low, whole⟩ := nibbles byte.toNat byte.toNat_lt
    simp only [List.flatMap_cons, List.cons_append, List.nil_append, decodePairs, hexNibble_digitCode _ high,
      hexNibble_digitCode _ low, ih, eq_ok, Option.some.injEq, exists_eq_left', whole]
    exact ⟨tag, rfl, by rw [UInt8.ofNat_toNat]⟩

theorem digits_of_decodePairs {codes tag} (even : codes.length % 2 = 0) (ok : decodePairs codes = .ok tag) :
    tag.flatMap (fun byte => [digitCode (byte.toNat >>> 4), digitCode (byte.toNat &&& 0x0f)]) = codes := by
  fun_induction decodePairs codes generalizing tag with
  | case1 first second rest ih =>
    simp only [eq_ok] at ok
    obtain ⟨high, read, low, read', others, decoded, rfl⟩ := ok
    obtain ⟨small, rfl⟩ := digitCode_of_hexNibble read
    obtain ⟨small', rfl⟩ := digitCode_of_hexNibble read'
    obtain ⟨fits, front, back⟩ := nibbles_of_digits high small low small'
    simp only [List.length_cons] at even
    rw [List.flatMap_cons, ih (by omega) decoded, UInt8.toNat_ofNat_of_lt' fits, front, back]
    rfl
  | case2 codes short =>
    obtain rfl := pure_eq_ok.mp ok
    match codes with
    | [] => rfl
    | [_] => cases even
    | first :: second :: rest => exact absurd rfl (short first second rest)

theorem lowercaseHex_decode {signature tag} (ok : decodeLowercaseHex signature = .ok tag) :
    lowercaseHex tag = signature := by
  simp only [decodeLowercaseHex, eq_ok] at ok
  obtain ⟨_, size, decoded⟩ := ok
  apply bytes_injective
  rw [bytes_lowercaseHex]
  exact digits_of_decodePairs (by rw [size]) decoded

theorem decode_lowercaseHex {tag} (size : tag.length = 32) : decodeLowercaseHex (lowercaseHex tag) = .ok tag := by
  have length : (bytes (lowercaseHex tag)).length = 64 := by
    rw [bytes_lowercaseHex, List.length_flatMap]
    simp [size]
  rw [decodeLowercaseHex, ensure_holds length, ok_bind, bytes_lowercaseHex, decodePairs_digits]

/-! ### Signatures -/

section
variable {hmac : List UInt8 → List UInt8 → List UInt8} {secret : List UInt8} {delivery : WebhookDelivery} {signature : String}

theorem verify_iff (size : ∀ secret material, (hmac secret material).length = 32) :
    verifyWebhookSignature hmac secret delivery signature = .ok () ↔ signWebhook hmac secret delivery = .ok signature := by
  simp only [verifyWebhookSignature, signWebhook, eq_ok]
  constructor
  · rintro ⟨_, sized, material, built, tag, decoded, rfl⟩
    exact ⟨⟨⟩, sized, material, built, lowercaseHex_decode decoded⟩
  · rintro ⟨_, sized, material, built, rfl⟩
    exact ⟨⟨⟩, sized, material, built, _, decode_lowercaseHex (size secret material), rfl⟩

/-- The key and the material of a delivery are among the pairs. -/
def Covers (pairs : Set (List UInt8 × List UInt8)) (secret : List UInt8) (delivery : WebhookDelivery) : Prop :=
  ∀ material, webhookSignatureMaterial delivery = .ok material → (secret, material) ∈ pairs

theorem sign_injective {pairs : Set (List UInt8 × List UInt8)} (size : ∀ secret material, (hmac secret material).length = 32)
    (injective : Set.InjOn (fun pair => hmac pair.1 pair.2) pairs) {secret' : List UInt8} {delivery' : WebhookDelivery}
    (covered : Covers pairs secret delivery) (covered' : Covers pairs secret' delivery')
    (signed : signWebhook hmac secret delivery = .ok signature)
    (signed' : signWebhook hmac secret' delivery' = .ok signature) : secret = secret' ∧ delivery = delivery' := by
  simp only [signWebhook, eq_ok] at signed signed'
  obtain ⟨_, _, material, built, rfl⟩ := signed
  obtain ⟨_, _, material', built', same⟩ := signed'
  have tags : hmac secret' material' = hmac secret material := by
    have decoded := decode_lowercaseHex (size secret' material')
    rw [same, decode_lowercaseHex (size secret material)] at decoded
    exact (Except.ok.inj decoded).symm
  obtain ⟨rfl, rfl⟩ := Prod.mk.inj (injective (covered' _ built') (covered _ built) tags)
  exact ⟨rfl, material_injective built built'⟩

end

/-- The material determines the delivery, a delivery is accepted exactly with the signature
that its own key and fields give, and an accepted signature is the text of its tag. A tag of
32 bytes cannot tell all materials apart, so that it has to be injective on the `pairs` of
keys and materials in use only. -/
theorem webhook_signature_binds {hmac : List UInt8 → List UInt8 → List UInt8}
    {pairs : Set (List UInt8 × List UInt8)} (size : ∀ secret material, (hmac secret material).length = 32)
    (injective : Set.InjOn (fun pair => hmac pair.1 pair.2) pairs) :
    (∀ first second material, webhookSignatureMaterial first = .ok material →
      webhookSignatureMaterial second = .ok material → first = second) ∧
    (∀ secret delivery signature, verifyWebhookSignature hmac secret delivery signature = .ok () ↔
      signWebhook hmac secret delivery = .ok signature) ∧
    (∀ secret delivery secret' delivery' signature, Covers pairs secret delivery → Covers pairs secret' delivery' →
      signWebhook hmac secret' delivery' = .ok signature →
      (verifyWebhookSignature hmac secret delivery signature = .ok () ↔ secret = secret' ∧ delivery = delivery')) ∧
    ∀ signature tag, decodeLowercaseHex signature = .ok tag → lowercaseHex tag = signature := by
  refine ⟨fun _ _ _ => material_injective, fun _ _ _ => verify_iff size, ?_, fun _ _ => lowercaseHex_decode⟩
  intro secret delivery secret' delivery' signature covered covered' signed
  rw [verify_iff size]
  constructor
  · exact fun signed' => sign_injective size injective covered covered' signed' signed
  · rintro ⟨rfl, rfl⟩
    exact signed

/-- A stand-in for the tag: the last bytes of the material. -/
def lastBytes (_ material : List UInt8) : List UInt8 := (material.reverse ++ List.replicate 32 0).take 32

def sampleDelivery (body : List UInt8) : WebhookDelivery := ⟨1, 1000, "n-1", body⟩

theorem webhook_signature_binds_body :
    ∃ signature, signWebhook lastBytes (List.replicate 32 7) (sampleDelivery [1]) = .ok signature ∧
      verifyWebhookSignature lastBytes (List.replicate 32 7) (sampleDelivery [1]) signature = .ok () ∧
      verifyWebhookSignature lastBytes (List.replicate 32 7) (sampleDelivery [2]) signature ≠ .ok () := by
  have size (secret material : List UInt8) : (lastBytes secret material).length = 32 := by simp [lastBytes]
  have last {byte : UInt8} {material : List UInt8} (built : webhookSignatureMaterial (sampleDelivery [byte]) = .ok material)
      (secret : List UInt8) : (lastBytes secret material).head? = some byte := by
    simp only [webhookSignatureMaterial, eq_ok] at built
    obtain ⟨_, _, rfl⟩ := built
    simp [lastBytes, sampleDelivery]
  have injective : Set.InjOn (fun pair : List UInt8 × List UInt8 => lastBytes pair.1 pair.2)
      {pair | pair.1 = List.replicate 32 7 ∧ ∃ byte, webhookSignatureMaterial (sampleDelivery [byte]) = .ok pair.2} := by
    rintro ⟨_, first⟩ ⟨rfl, byte, built⟩ ⟨_, second⟩ ⟨rfl, byte', built'⟩ same
    obtain rfl : byte = byte' := Option.some.inj ((last built _).symm.trans ((congrArg _ same).trans (last built' _)))
    obtain rfl : first = second := Except.ok.inj (built.symm.trans built')
    rfl
  have binds := webhook_signature_binds size injective
  have valid : validField "n-1" 128 = true := by decide +kernel
  have signed : ∃ signature, signWebhook lastBytes (List.replicate 32 7) (sampleDelivery [1]) = .ok signature := by
    simp only [signWebhook, webhookSignatureMaterial, eq_ok]
    exact ⟨_, ⟨⟩, by simp, _, ⟨⟨⟩, ⟨by decide, valid, by simp [sampleDelivery], by simp [sampleDelivery]⟩, rfl⟩, rfl⟩
  obtain ⟨signature, signed⟩ := signed
  refine ⟨signature, signed, (binds.2.1 _ _ _).mpr signed, ?_⟩
  intro accepted
  have same := (binds.2.2.1 _ _ _ _ signature (fun _ built => ⟨rfl, 2, built⟩) (fun _ built => ⟨rfl, 1, built⟩) signed).mp
    accepted
  simp [sampleDelivery] at same

end Mealy.Channels
