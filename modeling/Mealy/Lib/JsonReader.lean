import Mealy.Lib.Json

/-! Reading compact JSON text. A number ends at the first character that cannot belong to one,
so the text behind a value decides where the value ends; every other value closes itself. -/

namespace Json

def isNumberChar (c : Char) : Bool := c.isDigit || c ∈ ['-', '+', '.', 'e', 'E']

mutual

/-- Every number in a value has a property, and the keys of every object have one. -/
def Value.All (number : String → Prop) (keys : List String → Prop) : Value → Prop
  | .number literal => number literal
  | .array elements => allElements number keys elements
  | .object fields => keys (fields.map Prod.fst) ∧ allFields number keys fields
  | _ => True

def allElements (number : String → Prop) (keys : List String → Prop) : List Value → Prop
  | [] => True
  | element :: rest => element.All number keys ∧ allElements number keys rest

def allFields (number : String → Prop) (keys : List String → Prop) : List (String × Value) → Prop
  | [] => True
  | (_, value) :: rest => value.All number keys ∧ allFields number keys rest

end

mutual

/-- How many arrays and objects lie within each other. -/
def Value.depth : Value → Nat
  | .array elements => depthElements elements + 1
  | .object fields => depthFields fields + 1
  | _ => 0

def depthElements : List Value → Nat
  | [] => 0
  | element :: rest => max element.depth (depthElements rest)

def depthFields : List (String × Value) → Nat
  | [] => 0
  | (_, value) :: rest => max value.depth (depthFields rest)

end

section
variable {number number' : String → Prop} {keys keys' : List String → Prop}

theorem allFields_iff {fields} : allFields number keys fields ↔ ∀ field ∈ fields, field.2.All number keys := by
  induction fields with
  | nil => simp [allFields]
  | cons field fields ih => simp [allFields, ih]

theorem depthFields_perm {fields fields'} (perm : fields.Perm fields') : depthFields fields = depthFields fields' := by
  induction perm with
  | nil => rfl
  | cons _ _ ih => rw [depthFields, depthFields, ih]
  | swap => exact Nat.max_left_comm ..
  | trans _ _ ih ih' => exact ih.trans ih'

mutual

theorem Value.All.mono (numbers : ∀ literal, number literal → number' literal) (ordered : ∀ names, keys names → keys' names)
    (v : Value) (all : v.All number keys) : v.All number' keys' := by
  cases v with
  | number literal => exact numbers literal all
  | array elements => exact allElements_mono numbers ordered elements all
  | object fields => exact ⟨ordered _ all.1, allFields_mono numbers ordered fields all.2⟩
  | _ => trivial

theorem allElements_mono (numbers : ∀ literal, number literal → number' literal) (ordered : ∀ names, keys names → keys' names)
    (elements : List Value) (all : allElements number keys elements) : allElements number' keys' elements := by
  cases elements with
  | nil => trivial
  | cons element rest => exact ⟨Value.All.mono numbers ordered element all.1, allElements_mono numbers ordered rest all.2⟩

theorem allFields_mono (numbers : ∀ literal, number literal → number' literal) (ordered : ∀ names, keys names → keys' names)
    (fields : List (String × Value)) (all : allFields number keys fields) : allFields number' keys' fields := by
  rcases fields with _ | ⟨⟨key, value⟩, rest⟩
  · trivial
  · exact ⟨Value.All.mono numbers ordered value all.1, allFields_mono numbers ordered rest all.2⟩

end

end

def IsNumber (literal : String) : Prop := literal.toList ≠ [] ∧ ∀ c ∈ literal.toList, isNumberChar c = true

/-- A value whose numbers are literals and whose objects have no key twice. -/
def Value.WellFormed (v : Value) : Prop := v.All IsNumber List.Nodup

def hexValue (c : Char) : Nat := if c.isDigit then c.toNat - 48 else c.toNat - 87

/-- One character of a string literal and what follows it. -/
def readChar : List Char → Option (Char × List Char)
  | '\\' :: 'u' :: '0' :: '0' :: high :: low :: rest => some (Char.ofNat (16 * hexValue high + hexValue low), rest)
  | '\\' :: c :: rest =>
    (([('"', '"'), ('\\', '\\'), ('b', Char.ofNat 8), ('t', '\t'), ('n', '\n'), ('f', Char.ofNat 12), ('r', '\r')].lookup c).map
      fun escaped => (escaped, rest))
  | '"' :: _ => none
  | c :: rest => some (c, rest)
  | [] => none

/-- The characters up to the closing quote and what follows it. -/
def readString : Nat → List Char → Option (List Char × List Char)
  | 0, _ => none
  | fuel + 1, text =>
    match readChar text with
    | some (c, rest) => (readString fuel rest).map fun read => (c :: read.1, read.2)
    | none => if text.head? = some '"' then some ([], text.tail) else none

theorem readChar_escape (c rest) : readChar ((escape c).toList ++ rest) = some (c, rest) := by
  by_cases control : c.toNat < 32
  · rw [← Char.ofNat_toNat c]
    generalize c.toNat = n at control
    interval_cases n <;> rfl
  · have printable : ∀ n < 32, c.toNat ≠ n := fun n small same => control (same ▸ small)
    simp only [escape, printable 8 (by decide), printable 9 (by decide), printable 10 (by decide),
      printable 12 (by decide), printable 13 (by decide), control, if_false]
    split_ifs with isQuote isBackslash
    · subst isQuote; rfl
    · subst isBackslash; rfl
    · rw [String.toList_singleton, List.singleton_append, readChar]
      all_goals simp_all

theorem length_le_escapeAll (text : List Char) : text.length ≤ (escapeAll text).toList.length := by
  induction text with
  | nil => exact Nat.zero_le _
  | cons c text ih =>
    have some_ : (escape c).toList ≠ [] := by
      intro empty
      have read := readChar_escape c []
      rw [empty] at read
      cases read
    have positive := List.length_pos_iff.mpr some_
    rw [escapeAll, String.toList_append, List.length_append, List.length_cons]
    omega

theorem readString_escapeAll {text : List Char} {fuel} (enough : (escapeAll text).toList.length < fuel) (rest) :
    readString fuel ((escapeAll text).toList ++ '"' :: rest) = some (text, rest) := by
  replace enough := Nat.lt_of_le_of_lt (length_le_escapeAll text) enough
  induction text generalizing fuel with
  | nil =>
    obtain ⟨fuel, rfl⟩ := Nat.exists_eq_succ_of_ne_zero (Nat.ne_of_gt enough)
    rfl
  | cons c text ih =>
    obtain ⟨fuel, rfl⟩ := Nat.exists_eq_succ_of_ne_zero (Nat.ne_of_gt (Nat.zero_lt_of_lt enough))
    rw [escapeAll, String.toList_append, List.append_assoc, readString, readChar_escape]
    simp only [ih (Nat.lt_of_succ_lt_succ enough), Option.map_some]

/-- A string literal, its opening quote included. -/
def readQuoted (fuel : Nat) : List Char → Option (String × List Char)
  | '"' :: rest => (readString fuel rest).map fun read => (String.ofList read.1, read.2)
  | _ => none

theorem readQuoted_quote (text : String) (fuel rest) (enough : (quote text).toList.length ≤ fuel) :
    readQuoted fuel ((quote text).toList ++ rest) = some (text, rest) := by
  have shape : (quote text).toList ++ rest = '"' :: ((escapeAll text.toList).toList ++ '"' :: rest) := by
    simp [quote]
  have shorter : (escapeAll text.toList).toList.length < fuel := by
    simp only [quote, String.toList_append, List.length_append] at enough
    have quotes : "\"".toList.length = 1 := rfl
    omega
  rw [shape, readQuoted, readString_escapeAll shorter, Option.map_some, String.ofList_toList]

def readNumber (text : List Char) : Option (Value × List Char) :=
  if text.takeWhile isNumberChar = [] then none
  else some (.number (String.ofList (text.takeWhile isNumberChar)), text.dropWhile isNumberChar)

def readWord (text : List Char) : Option (Value × List Char) :=
  if "null".toList.isPrefixOf text then some (.null, text.drop 4)
  else if "true".toList.isPrefixOf text then some (.bool true, text.drop 4)
  else if "false".toList.isPrefixOf text then some (.bool false, text.drop 5)
  else readNumber text

mutual

def readValue : Nat → List Char → Option (Value × List Char)
  | 0, _ => none
  | fuel + 1, text =>
    match text with
    | '"' :: _ => (readQuoted fuel text).map fun read => (.string read.1, read.2)
    | '[' :: rest =>
      if rest.head? = some ']' then some (.array [], rest.tail)
      else (readElements fuel rest).map fun read => (.array read.1, read.2)
    | '\x7b' :: rest =>
      if rest.head? = some '\x7d' then some (.object [], rest.tail)
      else (readFields fuel rest).map fun read => (.object read.1, read.2)
    | _ => readWord text

def readElements : Nat → List Char → Option (List Value × List Char)
  | 0, _ => none
  | fuel + 1, text =>
    match readValue fuel text with
    | some (element, ',' :: rest) => (readElements fuel rest).map fun read => (element :: read.1, read.2)
    | some (element, ']' :: rest) => some ([element], rest)
    | _ => none

def readFields : Nat → List Char → Option (List (String × Value) × List Char)
  | 0, _ => none
  | fuel + 1, text =>
    match readQuoted fuel text with
    | some (key, ':' :: rest) =>
      match readValue fuel rest with
      | some (value, ',' :: rest) => (readFields fuel rest).map fun read => ((key, value) :: read.1, read.2)
      | some (value, '\x7d' :: rest) => some ([(key, value)], rest)
      | _ => none
    | _ => none

end

/-- The value of a text that holds one value and nothing else. -/
def read (text : String) : Option Value :=
  match readValue (2 * text.toList.length + 1) text.toList with
  | some (value, []) => some value
  | _ => none

/-- What follows a value does not continue a number. -/
def Stops (rest : List Char) : Prop := ∀ c ∈ rest.head?, isNumberChar c = false

theorem readNumber_append {literal rest : List Char} (some_ : literal ≠ [])
    (number : ∀ c ∈ literal, isNumberChar c = true) (stops : Stops rest) :
    readNumber (literal ++ rest) = some (.number (String.ofList literal), rest) := by
  have taken : (literal ++ rest).takeWhile isNumberChar = literal := by
    rw [List.takeWhile_append_of_pos number]
    cases rest with
    | nil => simp
    | cons c rest => simp [stops c rfl]
  have dropped : (literal ++ rest).dropWhile isNumberChar = rest := by
    rw [List.dropWhile_append_of_pos number]
    cases rest with
    | nil => rfl
    | cons c rest => simp [stops c rfl]
  rw [readNumber, taken, dropped, if_neg some_]

theorem head_ne_of_read {α : Type} {reader : List Char → Option α} {c} (refused : ∀ rest, reader (c :: rest) = none)
    {text value} (ok : reader text = some value) : text.head? ≠ some c := by
  intro first
  obtain ⟨rest, rfl⟩ := List.head?_eq_some_iff.mp first
  cases (refused rest).symm.trans ok

theorem readElements_closing (fuel rest) : readElements fuel (']' :: rest) = none := by
  rcases fuel with _ | _ | _ <;> rfl

theorem readFields_closing (fuel rest) : readFields fuel ('\x7d' :: rest) = none := by
  cases fuel <;> rfl

theorem readWord_number {literal rest : List Char} (some_ : literal ≠ [])
    (number : ∀ c ∈ literal, isNumberChar c = true) (stops : Stops rest) (fuel) :
    readValue (fuel + 1) (literal ++ rest) = some (.number (String.ofList literal), rest) := by
  obtain ⟨c, tail, rfl⟩ := List.exists_cons_of_ne_nil some_
  have first := number c (by simp)
  have other : ∀ d, isNumberChar d = false → c ≠ d := fun d no same => by simp [same, no] at first
  have read := readNumber_append some_ number stops
  rw [List.cons_append] at read ⊢
  rw [readValue]
  · simpa [readWord, List.isPrefixOf, (other 'n' rfl).symm, (other 't' rfl).symm, (other 'f' rfl).symm] using read
  · exact fun _ same => other '"' rfl (List.cons.inj same).1
  · exact fun _ same => other '[' rfl (List.cons.inj same).1
  · exact fun _ same => other '\x7b' rfl (List.cons.inj same).1

theorem stops_cons {c : Char} (no : isNumberChar c = false) (rest) : Stops (c :: rest) := by
  rintro _ ⟨⟩
  exact no

mutual

theorem readValue_render (v : Value) (fuel rest) (wellFormed : v.WellFormed)
    (enough : 2 * v.render.toList.length < fuel) (stops : Stops rest) :
    readValue fuel (v.render.toList ++ rest) = some (v, rest) := by
  obtain ⟨fuel, rfl⟩ := Nat.exists_eq_succ_of_ne_zero (Nat.ne_of_gt (Nat.zero_lt_of_lt enough))
  match v with
  | .null => rfl
  | .bool true => rfl
  | .bool false => rfl
  | .number literal =>
    have read := readWord_number wellFormed.1 wellFormed.2 stops fuel
    rwa [String.ofList_toList] at read
  | .string text =>
    have read := readQuoted_quote text fuel rest (by simp only [Value.render] at enough; omega)
    simp only [Value.render, quote, String.toList_append, List.append_assoc] at read ⊢
    exact congrArg (Option.map _) read
  | .array [] => rfl
  | .array (element :: elements) =>
    have shape : (Value.array (element :: elements)).render.toList ++ rest =
        '[' :: ((renderElements (element :: elements)).toList ++ ']' :: rest) := by simp [Value.render]
    have shorter : 2 * (renderElements (element :: elements)).toList.length + 1 < fuel := by
      have length := congrArg List.length shape
      simp only [List.length_append, List.length_cons] at length
      omega
    have read := readElements_render (element :: elements) fuel rest nofun wellFormed shorter
    rw [shape, readValue, if_neg (head_ne_of_read (readElements_closing fuel) read), read, Option.map_some]
  | .object [] => rfl
  | .object (field :: fields) =>
    have shape : (Value.object (field :: fields)).render.toList ++ rest =
        '\x7b' :: ((renderFields (field :: fields)).toList ++ '\x7d' :: rest) := by simp [Value.render]
    have shorter : 2 * (renderFields (field :: fields)).toList.length + 1 < fuel := by
      have length := congrArg List.length shape
      simp only [List.length_append, List.length_cons] at length
      omega
    have read := readFields_render (field :: fields) fuel rest nofun wellFormed.2 shorter
    rw [shape, readValue, if_neg (head_ne_of_read (readFields_closing fuel) read), read, Option.map_some]

theorem readElements_render (elements : List Value) (fuel rest) (some_ : elements ≠ [])
    (wellFormed : allElements IsNumber List.Nodup elements) (enough : 2 * (renderElements elements).toList.length + 1 < fuel) :
    readElements fuel ((renderElements elements).toList ++ ']' :: rest) = some (elements, rest) := by
  obtain ⟨fuel, rfl⟩ := Nat.exists_eq_succ_of_ne_zero (Nat.ne_of_gt (Nat.zero_lt_of_lt enough))
  match elements with
  | [] => exact absurd rfl some_
  | [element] =>
    have read := readValue_render element fuel (']' :: rest) wellFormed.1
      (Nat.lt_of_succ_lt_succ enough) (stops_cons rfl rest)
    simp only [renderElements, readElements, read]
  | element :: next :: later =>
    have shape : (renderElements (element :: next :: later)).toList ++ ']' :: rest =
        element.render.toList ++ ',' :: ((renderElements (next :: later)).toList ++ ']' :: rest) := by
      simp [renderElements]
    have length := congrArg List.length shape
    simp only [List.length_append, List.length_cons] at length
    have read := readValue_render element fuel _ wellFormed.1 (by omega)
      (stops_cons (rfl : isNumberChar ',' = false) ((renderElements (next :: later)).toList ++ ']' :: rest))
    have readLater := readElements_render (next :: later) fuel rest nofun wellFormed.2 (by omega)
    rw [shape, readElements, read]
    simp only [readLater, Option.map_some]

theorem readFields_render (fields : List (String × Value)) (fuel rest) (some_ : fields ≠ [])
    (wellFormed : allFields IsNumber List.Nodup fields) (enough : 2 * (renderFields fields).toList.length + 1 < fuel) :
    readFields fuel ((renderFields fields).toList ++ '\x7d' :: rest) = some (fields, rest) := by
  obtain ⟨fuel, rfl⟩ := Nat.exists_eq_succ_of_ne_zero (Nat.ne_of_gt (Nat.zero_lt_of_lt enough))
  rcases fields with _ | ⟨⟨key, value⟩, _ | ⟨next, later⟩⟩
  · exact absurd rfl some_
  · have shape : (renderFields [(key, value)]).toList ++ '\x7d' :: rest =
        (quote key).toList ++ ':' :: (value.render.toList ++ '\x7d' :: rest) := by simp [renderFields]
    have length := congrArg List.length shape
    simp only [List.length_append, List.length_cons] at length
    have read := readValue_render value fuel ('\x7d' :: rest) wellFormed.1 (by omega) (stops_cons rfl rest)
    have readKey := readQuoted_quote key fuel (':' :: (value.render.toList ++ '\x7d' :: rest)) (by omega)
    rw [shape, readFields, readKey]
    simp only [read]
  · have shape : (renderFields ((key, value) :: next :: later)).toList ++ '\x7d' :: rest =
        (quote key).toList ++ ':' :: (value.render.toList ++
          ',' :: ((renderFields (next :: later)).toList ++ '\x7d' :: rest)) := by simp [renderFields]
    have length := congrArg List.length shape
    simp only [List.length_append, List.length_cons] at length
    have read := readValue_render value fuel _ wellFormed.1 (by omega)
      (stops_cons (rfl : isNumberChar ',' = false) ((renderFields (next :: later)).toList ++ '\x7d' :: rest))
    have readLater := readFields_render (next :: later) fuel rest nofun wellFormed.2 (by omega)
    have readKey := readQuoted_quote key fuel (':' :: (value.render.toList ++
      ',' :: ((renderFields (next :: later)).toList ++ '\x7d' :: rest))) (by omega)
    rw [shape, readFields, readKey]
    simp only [read, readLater, Option.map_some]

end

theorem read_render {v : Value} (wellFormed : v.WellFormed) : read v.render = some v := by
  have whole := readValue_render v (2 * v.render.toList.length + 1) [] wellFormed (Nat.lt_succ_self _) nofun
  rw [List.append_nil] at whole
  rw [read, whole]

def Value.asObject : Value → Option (List (String × Value))
  | .object fields => some fields
  | _ => none

/-! ### One line -/

theorem newline_not_mem_escape (c : Char) : '\n' ∉ (escape c).toList := by
  have controls : ∀ n < 32, '\n' ∉ (escape (Char.ofNat n)).toList := by decide +kernel
  by_cases control : c.toNat < 32
  · exact of_control (P := fun c => '\n' ∉ (escape c).toList) controls control
  · have other : c ≠ '\n' := by rintro rfl; exact control (by decide)
    simp only [escape, control, if_false]
    split_ifs <;> first | decide | simpa using other.symm

theorem newline_not_mem_quote (text : String) : '\n' ∉ (quote text).toList := by
  have escaped (cs : List Char) : '\n' ∉ (escapeAll cs).toList := by
    induction cs with
    | nil => exact List.not_mem_nil
    | cons c cs ih => simpa [escapeAll] using ⟨newline_not_mem_escape c, ih⟩
  simpa [quote] using escaped text.toList

section
variable {keys : List String → Prop}

mutual

theorem newline_not_mem_render (v : Value) (all : v.All IsNumber keys) : '\n' ∉ v.render.toList := by
  match v with
  | .null | .bool true | .bool false => decide
  | .number literal => exact fun newline => absurd (all.2 _ newline) (by decide)
  | .string text => exact newline_not_mem_quote text
  | .array elements => simpa [Value.render] using newline_not_mem_renderElements elements all
  | .object fields => simpa [Value.render] using newline_not_mem_renderFields fields all.2

theorem newline_not_mem_renderElements (elements : List Value) (all : allElements IsNumber keys elements) :
    '\n' ∉ (renderElements elements).toList := by
  match elements with
  | [] => exact List.not_mem_nil
  | [element] => exact newline_not_mem_render element all.1
  | element :: next :: rest =>
    simpa [renderElements] using ⟨newline_not_mem_render element all.1, newline_not_mem_renderElements (next :: rest) all.2⟩

theorem newline_not_mem_renderFields (fields : List (String × Value)) (all : allFields IsNumber keys fields) :
    '\n' ∉ (renderFields fields).toList := by
  match fields with
  | [] => exact List.not_mem_nil
  | [(key, value)] => simpa [renderFields] using ⟨newline_not_mem_quote key, newline_not_mem_render value all.1⟩
  | (key, value) :: next :: rest =>
    simpa [renderFields] using ⟨newline_not_mem_quote key, newline_not_mem_render value all.1,
      newline_not_mem_renderFields (next :: rest) all.2⟩

end

end

/-! ### Readers with a limit -/

/-- A literal that is read as the number it is printed for. -/
def Exact (parse : String → Option Value) (literal : String) : Prop :=
  IsNumber literal ∧ parse literal = some (.number literal)

/-- A reader of JSON text that keeps the keys of an object sorted and refuses text nested more than
127 deep. It reads integers of 64 bits exactly; which fractions it reads exactly is left open. -/
structure Reader where
  parse : String → Option Value
  parse_render : ∀ {v : Value}, v.All (Exact parse) (List.Pairwise (· < ·)) → v.depth ≤ 127 → parse v.render = some v
  parse_integer : ∀ n : Int, -2 ^ 63 ≤ n → n < 2 ^ 64 → parse (toString n) = some (.number (toString n))
  parse_deep : ∀ {v : Value}, v.WellFormed → 127 < v.depth → parse v.render = none

theorem isNumber_nat (n : Nat) : IsNumber (toString n) := by
  have digits : (toString n).toList = Nat.toDigits 10 n := Nat.toList_repr
  refine ⟨digits ▸ Nat.toDigits_ne_nil, fun c member => ?_⟩
  have digit := Nat.isDigit_of_mem_toDigits (by decide) (by decide) (digits ▸ member)
  simp [isNumberChar, digit]

theorem isNumber_int (n : Int) : IsNumber (toString n) := by
  cases n with
  | ofNat n => exact isNumber_nat n
  | negSucc n =>
    have shape : (toString (Int.negSucc n)).toList = '-' :: (toString (n + 1)).toList := String.toList_append
    rw [IsNumber, shape]
    exact ⟨nofun, List.forall_mem_cons.mpr ⟨rfl, (isNumber_nat (n + 1)).2⟩⟩

theorem wellFormed_of_exact {parse v} {keys : List String → Prop} (all : Value.All (Exact parse) keys v)
    (distinct : ∀ names, keys names → names.Nodup) : v.WellFormed :=
  Value.All.mono (fun _ exact_ => exact_.1) distinct v all

@[simp] theorem depth_nat (n) : (Value.nat n).depth = 0 := rfl

/-- The reader above with the limit on the depth, which reads every number exactly. -/
def limited : Reader where
  parse text := (read text).filter fun v => v.depth ≤ 127
  parse_render all shallow := by
    rw [read_render (wellFormed_of_exact all fun _ sorted => sorted.imp ne_of_lt), Option.filter_some_pos (by simpa using shallow)]
  parse_integer n _ _ := by
    have number : (Value.number (toString n)).WellFormed := isNumber_int n
    exact congrArg (Option.filter _) (read_render number)
  parse_deep formed deep := by
    rw [read_render formed, Option.filter_some_neg (by simpa using deep)]

end Json
