import Mathlib

/-! Text as characters with its size in UTF-8 bytes. Byte offsets may cut a text only at the
boundary of a character; `prefixLength` is the largest boundary within a limit. -/

namespace Utf8Text

def size (text : List Char) : Nat := (text.map Char.utf8Size).sum

@[simp] theorem size_nil : size [] = 0 := rfl

@[simp] theorem size_cons (c) (text) : size (c :: text) = c.utf8Size + size text := by
  simp [size]

@[simp] theorem size_append (first second) : size (first ++ second) = size first + size second := by
  simp [size]

theorem size_pos {text} (nonempty : text ≠ []) : 0 < size text := by
  obtain ⟨c, rest, rfl⟩ := List.exists_cons_of_ne_nil nonempty
  have positive := c.utf8Size_pos
  simp only [size_cons]
  omega

def isCharBoundary : List Char → Nat → Bool
  | _, 0 => true
  | [], _ + 1 => false
  | c :: text, n => c.utf8Size ≤ n && isCharBoundary text (n - c.utf8Size)

def boundaryBelow (text : List Char) : Nat → Nat
  | 0 => 0
  | n + 1 => if isCharBoundary text (n + 1) then n + 1 else boundaryBelow text n

def prefixLength (text : List Char) (maximum : Nat) : Nat := boundaryBelow text (min (size text) maximum)

def takeBytes : Nat → List Char → List Char
  | _, [] => []
  | n, c :: text => if c.utf8Size ≤ n then c :: takeBytes (n - c.utf8Size) text else []

def dropBytes : Nat → List Char → List Char
  | _, [] => []
  | n, c :: text => if c.utf8Size ≤ n then dropBytes (n - c.utf8Size) text else c :: text

@[simp] theorem takeBytes_append_dropBytes (n) (text) : takeBytes n text ++ dropBytes n text = text := by
  induction text generalizing n with
  | nil => rfl
  | cons c text ih =>
    by_cases fits : c.utf8Size ≤ n
    · simp [takeBytes, dropBytes, fits, ih]
    · simp [takeBytes, dropBytes, fits]

theorem size_takeBytes {text n} (boundary : isCharBoundary text n = true) :
    size (takeBytes n text) = n := by
  induction text generalizing n with
  | nil =>
    cases n with
    | zero => rfl
    | succ n => simp [isCharBoundary] at boundary
  | cons c text ih =>
    have positive := c.utf8Size_pos
    cases n with
    | zero => simp [takeBytes, show ¬c.utf8Size ≤ 0 by omega]
    | succ n =>
      simp only [isCharBoundary, Bool.and_eq_true, decide_eq_true_eq] at boundary
      simp only [takeBytes, boundary.1, if_true, size_cons, ih boundary.2]
      omega

theorem isCharBoundary_boundaryBelow (text) (n) : isCharBoundary text (boundaryBelow text n) = true := by
  induction n with
  | zero => simp [boundaryBelow, isCharBoundary]
  | succ n ih =>
    by_cases boundary : isCharBoundary text (n + 1) = true
    · simp [boundaryBelow, boundary]
    · simpa [boundaryBelow, boundary] using ih

theorem boundaryBelow_le (text) (n) : boundaryBelow text n ≤ n := by
  induction n with
  | zero => exact Nat.le_refl 0
  | succ n ih =>
    rw [boundaryBelow]
    split <;> omega

theorem boundaryBelow_of_boundary {text n} (boundary : isCharBoundary text n = true) :
    boundaryBelow text n = n := by
  cases n with
  | zero => rfl
  | succ n => simp [boundaryBelow, boundary]

theorem prefixLength_le (text) (maximum) : prefixLength text maximum ≤ maximum :=
  Nat.le_trans (boundaryBelow_le ..) (Nat.min_le_right ..)

theorem size_takeBytes_prefixLength (text) (maximum) :
    size (takeBytes (prefixLength text maximum) text) = prefixLength text maximum :=
  size_takeBytes (isCharBoundary_boundaryBelow ..)

theorem isCharBoundary_append (first second) (n) :
    isCharBoundary (first ++ second) (size first + n) = isCharBoundary second n := by
  induction first with
  | nil => rw [List.nil_append, size_nil, Nat.zero_add]
  | cons c first ih =>
    have positive := c.utf8Size_pos
    obtain ⟨m, shape⟩ := Nat.exists_eq_succ_of_ne_zero (show size (c :: first) + n ≠ 0 by simp only [size_cons]; omega)
    have shorter : size (c :: first) + n - c.utf8Size = size first + n := by simp only [size_cons]; omega
    have within_ : c.utf8Size ≤ size (c :: first) + n := by simp only [size_cons]; omega
    rw [shape, List.cons_append, isCharBoundary, ← shape, shorter, ih, decide_eq_true within_, Bool.true_and]
    exact Nat.succ_ne_zero m

@[simp] theorem isCharBoundary_zero (text) : isCharBoundary text 0 = true := by
  cases text <;> simp [isCharBoundary]

theorem isCharBoundary_size (text) : isCharBoundary text (size text) = true := by
  simpa using isCharBoundary_append text [] 0

theorem prefixLength_of_fits {text maximum} (fits : size text ≤ maximum) :
    prefixLength text maximum = size text := by
  rw [prefixLength, Nat.min_eq_left fits]
  exact boundaryBelow_of_boundary (isCharBoundary_size text)

@[simp] theorem takeBytes_size (text) : takeBytes (size text) text = text := by
  induction text with
  | nil => rfl
  | cons c text ih => simp [takeBytes, ih]

@[simp] theorem dropBytes_size (text) : dropBytes (size text) text = [] := by
  induction text with
  | nil => rfl
  | cons c text ih => simp [dropBytes, ih]

theorem le_boundaryBelow {text n b} (boundary : isCharBoundary text b = true) (below : b ≤ n) : b ≤ boundaryBelow text n := by
  induction n with
  | zero => exact below
  | succ n ih =>
    rw [boundaryBelow]
    split
    next => exact below
    next other =>
      rcases Nat.lt_or_eq_of_le below with inside | rfl
      · exact ih (Nat.le_of_lt_succ inside)
      · exact absurd boundary other

theorem prefix_of_size_le {first second text : List Char} (start : first <+: text) (start' : second <+: text)
    (smaller : size first ≤ size second) : first <+: second := by
  rcases List.prefix_or_prefix_of_prefix start start' with inside | ⟨rest, rfl⟩
  · exact inside
  · rw [size_append] at smaller
    have empty : rest = [] := by
      by_contra some_
      have positive := size_pos some_
      omega
    rw [empty, List.append_nil]

theorem isCharBoundary_of_prefix {first text} (start : first <+: text) : isCharBoundary text (size first) = true := by
  obtain ⟨rest, rfl⟩ := start
  simpa using isCharBoundary_append first rest 0

/-! ### Bytes -/

/-- The UTF-8 bytes of a text. -/
def bytes (text : String) : List UInt8 := text.toList.flatMap String.utf8EncodeChar

theorem bytes_injective {left right} (same : bytes left = bytes right) : left = right := by
  have encoded := congrArg List.toByteArray same
  simpa only [bytes, ← List.utf8Encode.eq_1, ← String.toByteArray_ofList, String.ofList_toList, String.toByteArray_inj]
    using encoded

theorem bytes_append (first second : List Char) : bytes (String.ofList (first ++ second)) =
    bytes (String.ofList first) ++ bytes (String.ofList second) := by
  simp only [bytes, String.toList_ofList, List.flatMap_append]

theorem length_bytes (text) : (bytes text).length = size text.toList := by
  rw [bytes, List.length_flatMap, size]
  simp only [String.length_utf8EncodeChar]

theorem toByteArray_bytes (text) : (bytes text).toByteArray = text.toByteArray := by
  rw [bytes, ← List.utf8Encode.eq_1, ← String.toByteArray_ofList, String.ofList_toList]

theorem length_bytes_eq (text) : (bytes text).length = text.utf8ByteSize := by
  rw [← String.size_toByteArray, ← toByteArray_bytes, List.size_toByteArray]

/-- The text of valid bytes (`str::from_utf8`). -/
def ofBytes (encoded : List UInt8) : Option String := String.fromUTF8? encoded.toByteArray

theorem ofBytes_eq_some {encoded text} : ofBytes encoded = some text ↔ bytes text = encoded := by
  rw [← List.toByteArray_inj, toByteArray_bytes, ofBytes, String.fromUTF8?]
  constructor
  · intro read
    split at read
    · cases read
      rfl
    · cases read
  · intro same
    rw [dif_pos (same ▸ text.isValidUTF8)]
    exact congrArg some (String.toByteArray_inj.mp same.symm)

theorem prefix_of_bytes {content text tail} (same : bytes content ++ tail = bytes text) :
    content.toList <+: text.toList := by
  have encoded := congrArg List.toByteArray same
  simp only [bytes, List.toByteArray_append, ← List.utf8Encode.eq_1] at encoded
  exact List.isPrefix_of_utf8Encode_append_eq_utf8Encode _ encoded

theorem exists_split_of_firstByte {text : List Char} {before after byte} (first : byte.IsUTF8FirstByte)
    (same : bytes (String.ofList text) = before ++ byte :: after) :
    ∃ front back, text = front ++ back ∧ bytes (String.ofList front) = before ∧ bytes (String.ofList back) = byte :: after := by
  simp only [bytes, String.toList_ofList] at same ⊢
  induction text generalizing before with
  | nil => simp at same
  | cons c text ih =>
    rw [List.flatMap_cons] at same
    rcases List.append_eq_append_iff.mp same with ⟨between, rfl, rest⟩ | ⟨between, encoded, rest⟩
    · obtain ⟨front, back, rfl, rfl, last⟩ := ih rest
      exact ⟨c :: front, back, rfl, rfl, last⟩
    · cases between with
      | nil =>
        rw [List.append_nil] at encoded
        exact ⟨[c], text, rfl, by rw [List.flatMap_singleton, encoded], rest.symm⟩
      | cons byte' between =>
        obtain ⟨rfl, rest⟩ := List.cons.inj rest
        -- The byte is the one at this place of the character, and only the first is a first byte.
        have inside : before.length < (String.utf8EncodeChar c).length := by
          rw [encoded, List.length_append, List.length_cons]
          omega
        have here : (String.utf8EncodeChar c)[before.length] = byte := by simp [encoded]
        have start : before.length = 0 := UInt8.isUTF8FirstByte_getElem_utf8EncodeChar.mp (here ▸ first)
        rw [List.eq_nil_of_length_eq_zero start, List.nil_append] at encoded
        refine ⟨[], c :: text, rfl, (List.eq_nil_of_length_eq_zero start).symm, ?_⟩
        rw [List.flatMap_cons, encoded, rest, List.cons_append]

theorem bytes_firstByte {c} {text : List Char} : ∃ byte rest, bytes (String.ofList (c :: text)) = byte :: rest ∧ byte.IsUTF8FirstByte := by
  have inside : 0 < (String.utf8EncodeChar c).length := by
    rw [String.length_utf8EncodeChar]
    exact c.utf8Size_pos
  refine ⟨(String.utf8EncodeChar c)[0], (String.utf8EncodeChar c).tail ++ text.flatMap String.utf8EncodeChar, ?_,
    UInt8.isUTF8FirstByte_getElem_utf8EncodeChar.mpr rfl⟩
  rw [bytes, String.toList_ofList, List.flatMap_cons, ← List.cons_append, List.getElem_zero, List.cons_head_tail]

theorem ascii_mem_encode {c} {byte : UInt8} (ascii : byte.toNat < 128) (member : byte ∈ String.utf8EncodeChar c) :
    c.toNat = byte.toNat := by
  simp only [String.utf8EncodeChar] at member
  change c.val.toNat = byte.toNat
  split_ifs at member <;>
    simp only [List.mem_cons, List.not_mem_nil, or_false, ← UInt8.toNat_inj, UInt8.toNat_ofNat'] at member <;>
    omega

theorem zero_mem_bytes {text} (zero : 0 ∈ bytes text) : ∃ c ∈ text.toList, c.toNat = 0 := by
  obtain ⟨c, member, zero⟩ := List.mem_flatMap.mp zero
  exact ⟨c, member, ascii_mem_encode (by decide) zero⟩

theorem count_bytes (text : List Char) : (bytes (String.ofList text)).count 10 = text.count '\n' := by
  induction text with
  | nil => rfl
  | cons c text ih =>
    rw [← List.singleton_append, bytes_append, List.count_append, ih, List.count_append]
    congr 1
    by_cases feed : c = '\n'
    · subst feed
      rfl
    · have other : 10 ∉ bytes (String.ofList [c]) := by
        intro member
        rw [bytes, String.toList_ofList, List.flatMap_singleton] at member
        have same : c.toNat = 10 := ascii_mem_encode (by decide) member
        exact feed (by rw [← Char.ofNat_toNat c, same])
      rw [List.count_eq_zero.mpr other, List.count_singleton, if_neg (by simpa using feed)]

theorem bytes_ascii {text} (ascii : ∀ c ∈ text, c.toNat < 128) :
    bytes (String.ofList text) = text.map fun c => UInt8.ofNat c.toNat := by
  rw [bytes, String.toList_ofList]
  induction text with
  | nil => rfl
  | cons c text ih =>
    rw [List.forall_mem_cons] at ascii
    have small : c.val.toNat ≤ 127 := Nat.le_of_lt_succ ascii.1
    rw [List.flatMap_cons, ih ascii.2, String.utf8EncodeChar, if_pos small]
    rfl

end Utf8Text
