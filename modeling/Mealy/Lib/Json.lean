import Mathlib

/-! JSON values and their compact text. A number is kept as the literal the
serializer prints for it, so that the text of a value is a function of the value;
sizes are counted in UTF-8 bytes of that text. -/

namespace Json

inductive Value where
  | null
  | bool (b : Bool)
  | number (literal : String)
  | string (text : String)
  | array (elements : List Value)
  | object (fields : List (String × Value))
deriving Inhabited

def Value.nat (n : Nat) : Value := .number (toString n)

/-- Lower-case hexadecimal digit of a value below sixteen. -/
def hexDigit (n : Nat) : Char :=
  if n < 10 then Char.ofNat (48 + n) else Char.ofNat (87 + n)

def escape (c : Char) : String :=
  if c = '"' then "\\\""
  else if c = '\\' then "\\\\"
  else if c.toNat = 8 then "\\b"
  else if c.toNat = 9 then "\\t"
  else if c.toNat = 10 then "\\n"
  else if c.toNat = 12 then "\\f"
  else if c.toNat = 13 then "\\r"
  else if c.toNat < 32 then
    "\\u00" ++ String.singleton (hexDigit (c.toNat / 16)) ++ String.singleton (hexDigit (c.toNat % 16))
  else String.singleton c

def escapeAll : List Char → String
  | [] => ""
  | c :: rest => escape c ++ escapeAll rest

def quote (text : String) : String := "\"" ++ escapeAll text.toList ++ "\""

mutual

/-- The compact text of a value, without blanks. -/
def Value.render : Value → String
  | .null => "null"
  | .bool true => "true"
  | .bool false => "false"
  | .number literal => literal
  | .string text => quote text
  | .array elements => "[" ++ renderElements elements ++ "]"
  | .object fields => "\x7b" ++ renderFields fields ++ "\x7d"

def renderElements : List Value → String
  | [] => ""
  | [element] => element.render
  | element :: next :: rest => element.render ++ "," ++ renderElements (next :: rest)

def renderFields : List (String × Value) → String
  | [] => ""
  | [(key, value)] => quote key ++ ":" ++ value.render
  | (key, value) :: next :: rest =>
    quote key ++ ":" ++ value.render ++ "," ++ renderFields (next :: rest)

end

def Value.size (v : Value) : Nat := v.render.utf8ByteSize

def quotedSize (text : String) : Nat := (quote text).utf8ByteSize

def escapedSize (c : Char) : Nat := (escape c).utf8ByteSize

theorem escapeAll_size (cs) : (escapeAll cs).utf8ByteSize = (cs.map escapedSize).sum := by
  induction cs with
  | nil => rfl
  | cons c cs ih => simp [escapeAll, escapedSize, ih]

theorem quotedSize_eq (text) : quotedSize text = (text.toList.map escapedSize).sum + 2 := by
  have quotes : "\"".utf8ByteSize = 1 := rfl
  simp only [quotedSize, quote, String.utf8ByteSize_append, escapeAll_size, quotes]
  omega

/-- A printable ASCII character that needs no escape. -/
def Plain (c : Char) : Prop := 32 ≤ c.toNat ∧ c.toNat < 128 ∧ c ≠ '"' ∧ c ≠ '\\'

instance : DecidablePred Plain := fun c =>
  inferInstanceAs (Decidable (32 ≤ c.toNat ∧ c.toNat < 128 ∧ c ≠ '"' ∧ c ≠ '\\'))

theorem Plain.utf8Size {c} (plain : Plain c) : c.utf8Size = 1 := by
  rw [Char.utf8Size_eq_one_iff, UInt32.le_iff_toNat_le]
  exact Nat.le_of_lt_succ plain.2.1

theorem escapedSize_plain {c} (plain : Plain c) : escapedSize c = 1 := by
  have single := plain.utf8Size
  obtain ⟨printable, ascii, noQuote, noBackslash⟩ := plain
  simp [escapedSize, escape, noQuote, noBackslash, single,
    show c.toNat ≠ 8 by omega, show c.toNat ≠ 9 by omega, show c.toNat ≠ 10 by omega,
    show c.toNat ≠ 12 by omega, show c.toNat ≠ 13 by omega, show ¬ c.toNat < 32 by omega]

theorem quotedSize_plain {text} (plain : ∀ c ∈ text.toList, Plain c) :
    quotedSize text = text.length + 2 := by
  have ones : text.toList.map escapedSize = text.toList.map fun _ => 1 :=
    List.map_congr_left fun c member => escapedSize_plain (plain c member)
  simp [quotedSize_eq, ones, String.length_toList]

theorem of_control {P : Char → Prop} (controls : ∀ n < 32, P (Char.ofNat n)) {c} (control : c.toNat < 32) : P c := by
  have found := controls c.toNat control
  rwa [Char.ofNat_toNat] at found

theorem escapedSize_le (c) : escapedSize c ≤ 6 := by
  have wide := c.utf8Size_le_four
  have controls : ∀ n < 32, escapedSize (Char.ofNat n) ≤ 6 := by decide +kernel
  by_cases control : c.toNat < 32
  · exact of_control (P := fun c => escapedSize c ≤ 6) controls control
  · simp only [escapedSize, escape, control, if_false]
    split_ifs <;> first | decide | (rw [String.utf8ByteSize_singleton]; omega)

theorem quotedSize_le (text) : quotedSize text ≤ 6 * text.toList.length + 2 := by
  have bound := List.sum_le_card_nsmul (text.toList.map escapedSize) 6 (by simp [escapedSize_le])
  rw [List.length_map, smul_eq_mul] at bound
  rw [quotedSize_eq]
  omega

theorem utf8Size_le_escapedSize (c) : c.utf8Size ≤ escapedSize c := by
  have controls : ∀ n < 32, (Char.ofNat n).utf8Size ≤ escapedSize (Char.ofNat n) := by decide +kernel
  by_cases control : c.toNat < 32
  · exact of_control (P := fun c => c.utf8Size ≤ escapedSize c) controls control
  · simp only [escapedSize, escape, control, if_false]
    split_ifs <;> first | (subst_vars; decide) | omega | rw [String.utf8ByteSize_singleton]

theorem utf8ByteSize_eq_sum (text : String) : text.utf8ByteSize = (text.toList.map Char.utf8Size).sum := by
  have bytes (cs : List Char) : String.utf8Len cs = (cs.map Char.utf8Size).sum := by
    induction cs with
    | nil => rfl
    | cons c cs ih => rw [String.utf8Len_cons, List.map_cons, List.sum_cons, ih, Nat.add_comm]
  rw [← String.utf8Len_toList, bytes]

theorem utf8ByteSize_le_quotedSize (text) : text.utf8ByteSize ≤ quotedSize text := by
  rw [quotedSize_eq, utf8ByteSize_eq_sum]
  exact Nat.le_add_right_of_le (List.sum_le_sum fun c _ => utf8Size_le_escapedSize c)

theorem quotedSize_ascii {text} (plain : ∀ c ∈ text.toList, Plain c) : quotedSize text = text.utf8ByteSize + 2 := by
  have same : text.toList.map escapedSize = text.toList.map Char.utf8Size :=
    List.map_congr_left fun c member => (escapedSize_plain (plain c member)).trans (plain c member).utf8Size.symm
  rw [quotedSize_eq, same, utf8ByteSize_eq_sum]

theorem length_le_utf8ByteSize (text : String) : text.toList.length ≤ text.utf8ByteSize := by
  have narrow := List.length_le_sum_of_one_le (text.toList.map Char.utf8Size) (by
    simpa using fun c _ => c.utf8Size_pos)
  rwa [List.length_map, ← utf8ByteSize_eq_sum] at narrow

theorem quotedSize_replicate (n) (c) :
    quotedSize (String.ofList (List.replicate n c)) = n * escapedSize c + 2 := by
  rw [quotedSize_eq, String.toList_ofList, List.map_replicate, List.sum_replicate_nat]

theorem utf8ByteSize_replicate (n) (c) :
    (String.ofList (List.replicate n c)).utf8ByteSize = n * c.utf8Size := by
  rw [utf8ByteSize_eq_sum, String.toList_ofList, List.map_replicate, List.sum_replicate_nat]

theorem size_array {elements} (some : elements ≠ []) :
    (Value.array elements).size = (elements.map fun v => v.size + 1).sum + 1 := by
  have body : ∀ (v : Value) (vs : List Value),
      (renderElements (v :: vs)).utf8ByteSize + 1 = ((v :: vs).map fun v => v.size + 1).sum := by
    intro v vs
    induction vs generalizing v with
    | nil => simp [renderElements, Value.size]
    | cons next rest ih =>
      have comma : ",".utf8ByteSize = 1 := rfl
      have tail := ih next
      simp only [List.map_cons, List.sum_cons] at tail ⊢
      simp only [renderElements, String.utf8ByteSize_append, comma, Value.size] at tail ⊢
      omega
  obtain ⟨v, vs, rfl⟩ := List.exists_cons_of_ne_nil some
  have opening : "[".utf8ByteSize = 1 := rfl
  have closing : "]".utf8ByteSize = 1 := rfl
  rw [← body v vs]
  simp only [Value.size, Value.render, String.utf8ByteSize_append, opening, closing]
  omega

theorem size_object {fields} (some : fields ≠ []) :
    (Value.object fields).size = (fields.map fun f => quotedSize f.1 + f.2.size + 2).sum + 1 := by
  have body : ∀ (f : String × Value) (fs : List (String × Value)),
      (renderFields (f :: fs)).utf8ByteSize + 1 =
        ((f :: fs).map fun f => quotedSize f.1 + f.2.size + 2).sum := by
    have colon : ":".utf8ByteSize = 1 := rfl
    intro f fs
    induction fs generalizing f with
    | nil =>
      simp only [renderFields, String.utf8ByteSize_append, colon, quotedSize, Value.size, List.map_cons,
        List.map_nil, List.sum_cons, List.sum_nil]
      omega
    | cons next rest ih =>
      have comma : ",".utf8ByteSize = 1 := rfl
      have tail := ih next
      simp only [List.map_cons, List.sum_cons] at tail ⊢
      simp only [renderFields, String.utf8ByteSize_append, comma, colon, quotedSize, Value.size] at tail ⊢
      omega
  obtain ⟨f, fs, rfl⟩ := List.exists_cons_of_ne_nil some
  have opening : "\x7b".utf8ByteSize = 1 := rfl
  have closing : "\x7d".utf8ByteSize = 1 := rfl
  rw [← body f fs]
  simp only [Value.size, Value.render, String.utf8ByteSize_append, opening, closing]
  omega

theorem size_object_of_keys {fields} (keys) (some : fields ≠ [])
    (counted : (fields.map fun f => quotedSize f.1 + 2).sum = keys) :
    (Value.object fields).size = keys + (fields.map fun f => f.2.size).sum + 1 := by
  rw [size_object some, ← counted]
  congr 1
  clear some counted
  induction fields with
  | nil => rfl
  | cons field fields ih =>
    simp only [List.map_cons, List.sum_cons, ih]
    omega

@[simp] theorem size_string (text) : (Value.string text).size = quotedSize text := rfl

@[simp] theorem size_null : Value.null.size = 4 := rfl

theorem size_nat_le {n k : Nat} (some : 0 < k) (small : n < 10 ^ k) : (Value.nat n).size ≤ k := by
  have digits : (toString n).toList = Nat.toDigits 10 n := Nat.toList_repr
  have single : ∀ c ∈ (toString n).toList, c.utf8Size ≤ 1 := by
    intro c member
    have digit := Char.isDigit_iff_toNat.mp (Nat.isDigit_of_mem_toDigits (by decide) (by decide) (digits ▸ member))
    simp only [Char.reduceToNat] at digit
    have plain : Plain c := by refine ⟨by omega, by omega, ?_, ?_⟩ <;> rintro rfl <;> simp at digit
    exact plain.utf8Size.le
  calc (Value.nat n).size = ((toString n).toList.map Char.utf8Size).sum := utf8ByteSize_eq_sum _
    _ ≤ (toString n).toList.length := by
      simpa using List.sum_le_card_nsmul ((toString n).toList.map Char.utf8Size) 1 (by simpa using single)
    _ ≤ k := by rw [digits]; exact Nat.toDigits_length 10 n k some small

/-! ### Identifiers and digests

Both are printed as lower-case hexadecimal, which a string literal never escapes. -/

def hexDigits : Nat → Nat → List Char
  | 0, _ => []
  | width + 1, n => hexDigits width (n / 16) ++ [hexDigit (n % 16)]

theorem length_hexDigits (width n) : (hexDigits width n).length = width := by
  induction width generalizing n with
  | zero => rfl
  | succ width ih => simp [hexDigits, ih]

theorem forall_mem_hexDigits {P : Char → Prop} (digits : ∀ n < 16, P (hexDigit n)) {width n} :
    ∀ c ∈ hexDigits width n, P c := by
  intro c member
  induction width generalizing n with
  | zero => cases member
  | succ width ih =>
    rcases List.mem_append.mp member with earlier | last
    · exact ih earlier
    · rw [List.mem_singleton.mp last]
      exact digits _ (Nat.mod_lt _ (by decide))

/-- The five hyphenated groups of a 128-bit identifier. -/
def uuidChars (a b c d e : Nat) : List Char :=
  hexDigits 8 a ++ '-' :: hexDigits 4 b ++ '-' :: hexDigits 4 c ++ '-' :: hexDigits 4 d ++ '-' :: hexDigits 12 e

theorem length_uuidChars (a b c d e) : (uuidChars a b c d e).length = 36 := by
  simp only [uuidChars, List.length_append, List.length_cons, length_hexDigits]

def uuidText (n : Nat) : String :=
  String.ofList (uuidChars (n / 16 ^ 24) (n / 16 ^ 20) (n / 16 ^ 16) (n / 16 ^ 12) n)

theorem length_uuidText (n) : (uuidText n).length = 36 := by
  rw [uuidText, String.length_ofList, length_uuidChars]

theorem forall_mem_uuidText {P : Char → Prop} (hyphen : P '-') (digits : ∀ n < 16, P (hexDigit n)) (n) :
    ∀ c ∈ (uuidText n).toList, P c := by
  intro c member
  simp only [uuidText, uuidChars, String.toList_ofList, List.mem_append, List.mem_cons] at member
  grind [forall_mem_hexDigits digits]

theorem quotedSize_uuidText (n) : quotedSize (uuidText n) = 38 := by
  rw [quotedSize_plain (forall_mem_uuidText (by decide) (by decide) n), length_uuidText]

theorem hexDigit_inj : ∀ a < 16, ∀ b < 16, hexDigit a = hexDigit b → a = b := by decide

theorem hexDigits_inj {width a b} (same : hexDigits width a = hexDigits width b) :
    a % 16 ^ width = b % 16 ^ width := by
  induction width generalizing a b with
  | zero => simp [Nat.mod_one]
  | succ width ih =>
    obtain ⟨front, last⟩ := List.append_inj' same rfl
    have low := hexDigit_inj _ (Nat.mod_lt a (by decide)) _ (Nat.mod_lt b (by decide)) (List.singleton_inj.mp last)
    have high := ih front
    rw [Nat.pow_succ', Nat.mod_mul, Nat.mod_mul, low, high]

theorem uuidChars_inj {a b c d e a' b' c' d' e'} (same : uuidChars a b c d e = uuidChars a' b' c' d' e') :
    hexDigits 8 a = hexDigits 8 a' ∧ hexDigits 4 b = hexDigits 4 b' ∧ hexDigits 4 c = hexDigits 4 c' ∧
      hexDigits 4 d = hexDigits 4 d' ∧ hexDigits 12 e = hexDigits 12 e' := by
  simp only [uuidChars, List.append_assoc, List.cons_append] at same
  obtain ⟨first, same⟩ := List.append_inj same (by simp only [length_hexDigits])
  obtain ⟨second, same⟩ := List.append_inj (List.cons.inj same).2 (by simp only [length_hexDigits])
  obtain ⟨third, same⟩ := List.append_inj (List.cons.inj same).2 (by simp only [length_hexDigits])
  obtain ⟨fourth, same⟩ := List.append_inj (List.cons.inj same).2 (by simp only [length_hexDigits])
  exact ⟨first, second, third, fourth, (List.cons.inj same).2⟩

theorem uuidText_inj {a b} (same : uuidText a = uuidText b) (small : a < 2 ^ 128) (small' : b < 2 ^ 128) : a = b := by
  obtain ⟨first, second, third, fourth, fifth⟩ := uuidChars_inj (String.ofList_injective same)
  have first := hexDigits_inj first
  have second := hexDigits_inj second
  have third := hexDigits_inj third
  have fourth := hexDigits_inj fourth
  have fifth := hexDigits_inj fifth
  omega

structure Digest where
  text : String
  length_text : text.length = 64
  plain_text : ∀ c ∈ text.toList, Plain c

theorem Digest.quotedSize_text (digest : Digest) : quotedSize digest.text = 66 := by
  rw [quotedSize_plain digest.plain_text, digest.length_text]

def Digest.ofNat (n : Nat) : Digest where
  text := String.ofList (hexDigits 64 n)
  length_text := by rw [String.length_ofList, length_hexDigits]
  plain_text := fun c member => forall_mem_hexDigits (by decide) c (by simpa using member)

instance : DecidableEq Digest := fun a b =>
  decidable_of_iff (a.text = b.text) ⟨fun same => by cases a; cases b; cases same; rfl, fun same => by rw [same]⟩

def Value.field (v : Value) (key : String) : Option Value :=
  match v with
  | .object fields => fields.lookup key
  | _ => none

def Value.asString : Value → Option String
  | .string text => some text
  | _ => none

def Value.asBool : Value → Option Bool
  | .bool b => some b
  | _ => none

def Value.asArray : Value → Option (List Value)
  | .array elements => some elements
  | _ => none

def Value.isObject : Value → Bool
  | .object _ => true
  | _ => false

def digitsValue (digits : List Char) : Option Nat :=
  if digits ≠ [] ∧ digits.all (fun c => 48 ≤ c.toNat ∧ c.toNat ≤ 57) then
    some (digits.foldl (fun n c => 10 * n + (c.toNat - 48)) 0)
  else none

def Value.asU64 : Value → Option Nat
  | .number literal => (digitsValue literal.toList).filter fun n => n ≤ 18446744073709551615
  | _ => none

theorem digitsValue_toString (n : Nat) : digitsValue (toString n).toList = some n := by
  have digits : (toString n).toList = Nat.toDigits 10 n := Nat.toList_repr
  have all : (Nat.toDigits 10 n).all (fun c => 48 ≤ c.toNat ∧ c.toNat ≤ 57) = true := by
    rw [List.all_eq_true]
    intro c member
    simpa [Char.isDigit, UInt32.le_iff_toNat_le] using Nat.isDigit_of_mem_toDigits (by decide) (by decide) member
  rw [digits, digitsValue, if_pos ⟨Nat.toDigits_ne_nil, all⟩]
  exact congrArg some (Nat.ofDigitChars_toDigits (by decide) (by decide))

theorem asU64_nat {n : Nat} (bounded : n < 2 ^ 64) : (Value.nat n).asU64 = some n := by
  rw [Value.nat, Value.asU64, digitsValue_toString]
  exact Option.filter_some_pos (decide_eq_true (Nat.le_of_lt_succ bounded))

def Value.asI64 : Value → Option Int
  | .number literal =>
    match literal.toList with
    | '-' :: digits => ((digitsValue digits).filter fun n => 0 < n ∧ n ≤ 9223372036854775808).map fun n => -(n : Int)
    | digits => ((digitsValue digits).filter fun n => n ≤ 9223372036854775807).map fun n => (n : Int)
  | _ => none

end Json
