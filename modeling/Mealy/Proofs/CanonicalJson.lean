import Mealy.Lib.JsonReader

/-! The canonical form of JSON arguments (`approval.rs`), whose digest an approval is bound to.
Two values have one canonical text exactly when they differ only in the order of object keys. -/

namespace Mealy
open Json

mutual

/-- `canonical_json`: the keys of every object sorted. Only the keys decide the order, so the
values may be made canonical first. -/
def canonicalJson : Value → Value
  | .object fields => .object ((canonicalFields fields).insertionSort fun left right => left.1 ≤ right.1)
  | .array items => .array (canonicalItems items)
  | value => value

def canonicalItems : List Value → List Value
  | [] => []
  | item :: rest => canonicalJson item :: canonicalItems rest

def canonicalFields : List (String × Value) → List (String × Value)
  | [] => []
  | (key, value) :: rest => (key, canonicalJson value) :: canonicalFields rest

end

mutual

/-- Equal up to the order of the keys of objects, at every depth. -/
def EqualUpToKeyOrder : Value → Value → Prop
  | .object fields, .object fields' => ∃ arranged, arranged.Perm fields' ∧ fieldsEqual fields arranged
  | .array items, .array items' => itemsEqual items items'
  | .object _, _ => False
  | .array _, _ => False
  | value, value' => value = value'

def itemsEqual : List Value → List Value → Prop
  | [], [] => True
  | item :: rest, item' :: rest' => EqualUpToKeyOrder item item' ∧ itemsEqual rest rest'
  | _, _ => False

def fieldsEqual : List (String × Value) → List (String × Value) → Prop
  | [], [] => True
  | (key, value) :: rest, (key', value') :: rest' => key = key' ∧ EqualUpToKeyOrder value value' ∧ fieldsEqual rest rest'
  | _, _ => False

end

/-! ### Sorted fields -/

theorem canonicalFields_eq_map (fields) :
    canonicalFields fields = fields.map fun field => (field.1, canonicalJson field.2) := by
  induction fields with
  | nil => rfl
  | cons field fields ih => rw [List.map_cons, ← ih, canonicalFields]

theorem keys_canonicalFields (fields) : (canonicalFields fields).map Prod.fst = fields.map Prod.fst := by
  rw [canonicalFields_eq_map, List.map_map]
  rfl

theorem insertionSort_eq_iff {fields fields' : List (String × Value)} (distinct : (fields.map Prod.fst).Nodup) :
    fields.insertionSort (fun left right => left.1 ≤ right.1) = fields'.insertionSort (fun left right => left.1 ≤ right.1) ↔
      fields.Perm fields' := by
  have sorts := List.perm_insertionSort (fun left right : String × Value => left.1 ≤ right.1)
  constructor
  · intro same
    exact (sorts fields).symm.trans (same ▸ sorts fields')
  · intro perm
    have sorted := List.pairwise_insertionSort (fun left right : String × Value => left.1 ≤ right.1)
    refine List.Perm.eq_of_pairwise ?_ (sorted fields) (sorted fields') ((sorts fields).trans (perm.trans (sorts fields').symm))
    intro left right member member' below above
    exact List.inj_on_of_nodup_map distinct ((sorts fields).subset member)
      (perm.mem_iff.mpr ((sorts fields').subset member')) (le_antisymm below above)

theorem exists_arranged {canonical : List (String × Value)} {fields} (perm : canonical.Perm (canonicalFields fields)) :
    ∃ arranged, arranged.Perm fields ∧ canonical = canonicalFields arranged := by
  have paired : List.Forall₂ (fun form field => form = (field.1, canonicalJson field.2)) (canonicalFields fields) fields := by
    rw [canonicalFields_eq_map, List.forall₂_map_left_iff]
    exact List.forall₂_same.mpr fun _ _ => rfl
  obtain ⟨arranged, formed, arrangement⟩ := List.perm_comp_forall₂ perm paired
  refine ⟨arranged, arrangement, ?_⟩
  rw [canonicalFields_eq_map, ← List.forall₂_eq_eq_eq, List.forall₂_map_right_iff]
  exact formed

mutual

theorem equalUpToKeyOrder_iff (a b : Value) (wellFormed : a.WellFormed) :
    EqualUpToKeyOrder a b ↔ canonicalJson a = canonicalJson b := by
  cases a with
  | object fields =>
    cases b with
    | object fields' =>
      have distinct : ((canonicalFields fields).map Prod.fst).Nodup := (keys_canonicalFields fields).symm ▸ wellFormed.1
      rw [EqualUpToKeyOrder, canonicalJson, canonicalJson, Value.object.injEq, insertionSort_eq_iff distinct]
      constructor
      · rintro ⟨arranged, perm, equal⟩
        rw [(fieldsEqual_iff fields arranged wellFormed.2).mp equal, canonicalFields_eq_map, canonicalFields_eq_map]
        exact perm.map _
      · intro perm
        obtain ⟨arranged, arrangement, same⟩ := exists_arranged perm
        exact ⟨arranged, arrangement, (fieldsEqual_iff fields arranged wellFormed.2).mpr same⟩
    | _ => simp [EqualUpToKeyOrder, canonicalJson]
  | array items =>
    cases b with
    | array items' =>
      rw [EqualUpToKeyOrder, canonicalJson, canonicalJson, Value.array.injEq, itemsEqual_iff items items' wellFormed]
    | _ => simp [EqualUpToKeyOrder, canonicalJson]
  | _ => cases b <;> simp [EqualUpToKeyOrder, canonicalJson]

theorem itemsEqual_iff (items items' : List Value) (wellFormed : allElements IsNumber List.Nodup items) :
    itemsEqual items items' ↔ canonicalItems items = canonicalItems items' := by
  cases items with
  | nil => cases items' <;> simp [itemsEqual, canonicalItems]
  | cons item rest =>
    cases items' with
    | nil => simp [itemsEqual, canonicalItems]
    | cons item' rest' =>
      rw [itemsEqual, equalUpToKeyOrder_iff item item' wellFormed.1, itemsEqual_iff rest rest' wellFormed.2,
        canonicalItems, canonicalItems, List.cons.injEq]

theorem fieldsEqual_iff (fields fields' : List (String × Value)) (wellFormed : allFields IsNumber List.Nodup fields) :
    fieldsEqual fields fields' ↔ canonicalFields fields = canonicalFields fields' := by
  rcases fields with _ | ⟨⟨key, value⟩, rest⟩
  · rcases fields' with _ | ⟨⟨key', value'⟩, rest'⟩ <;> simp [fieldsEqual, canonicalFields]
  · rcases fields' with _ | ⟨⟨key', value'⟩, rest'⟩
    · simp [fieldsEqual, canonicalFields]
    · rw [fieldsEqual, equalUpToKeyOrder_iff value value' wellFormed.1, fieldsEqual_iff rest rest' wellFormed.2,
        canonicalFields, canonicalFields, List.cons.injEq, Prod.mk.injEq, and_assoc]

end

section
variable {number : String → Prop} {keys keys' : List String → Prop}

mutual

theorem canonicalJson_all (sorts : ∀ names, keys names → keys' (names.insertionSort (· ≤ ·))) (v : Value)
    (all : v.All number keys) : (canonicalJson v).All number keys' := by
  cases v with
  | object fields =>
    have sorted := List.perm_insertionSort (fun left right => left.1 ≤ right.1) (canonicalFields fields)
    have each := allFields_iff.mp (canonicalFields_all sorts fields all.2)
    refine ⟨?_, allFields_iff.mpr fun field member => each field (sorted.subset member)⟩
    rw [List.map_insertionSort _ (· ≤ ·) Prod.fst _ fun _ _ _ _ => Iff.rfl, keys_canonicalFields]
    exact sorts _ all.1
  | array items => exact canonicalItems_all sorts items all
  | _ => exact all

theorem canonicalItems_all (sorts : ∀ names, keys names → keys' (names.insertionSort (· ≤ ·))) (items : List Value)
    (all : allElements number keys items) : allElements number keys' (canonicalItems items) := by
  cases items with
  | nil => trivial
  | cons item rest => exact ⟨canonicalJson_all sorts item all.1, canonicalItems_all sorts rest all.2⟩

theorem canonicalFields_all (sorts : ∀ names, keys names → keys' (names.insertionSort (· ≤ ·)))
    (fields : List (String × Value)) (all : allFields number keys fields) : allFields number keys' (canonicalFields fields) := by
  rcases fields with _ | ⟨⟨key, value⟩, rest⟩
  · trivial
  · exact ⟨canonicalJson_all sorts value all.1, canonicalFields_all sorts rest all.2⟩

end

end

theorem insertionSort_strict (names : List String) (distinct : names.Nodup) :
    (names.insertionSort (· ≤ ·)).Pairwise (· < ·) :=
  ((List.pairwise_insertionSort _ _).and ((List.perm_insertionSort _ _).nodup_iff.mpr distinct)).imp
    fun both => lt_of_le_of_ne both.1 both.2

theorem canonicalJson_wellFormed {v : Value} (formed : v.WellFormed) : (canonicalJson v).WellFormed :=
  canonicalJson_all (fun names distinct => (insertionSort_strict names distinct).imp ne_of_lt) v formed

mutual

theorem canonicalJson_depth (v : Value) : (canonicalJson v).depth = v.depth := by
  cases v with
  | object fields =>
    rw [canonicalJson, Value.depth, depthFields_perm (List.perm_insertionSort ..), canonicalFields_depth fields, Value.depth]
  | array items => rw [canonicalJson, Value.depth, canonicalItems_depth items, Value.depth]
  | _ => rfl

theorem canonicalItems_depth (items : List Value) : depthElements (canonicalItems items) = depthElements items := by
  cases items with
  | nil => rfl
  | cons item rest => rw [canonicalItems, depthElements, canonicalJson_depth item, canonicalItems_depth rest, depthElements]

theorem canonicalFields_depth (fields : List (String × Value)) : depthFields (canonicalFields fields) = depthFields fields := by
  rcases fields with _ | ⟨⟨key, value⟩, rest⟩
  · rfl
  · rw [canonicalFields, depthFields, canonicalJson_depth value, canonicalFields_depth rest, depthFields]

end

mutual

theorem canonicalJson_idem (v : Value) : canonicalJson (canonicalJson v) = canonicalJson v := by
  cases v with
  | object fields =>
    have sorted := List.perm_insertionSort (fun left right => left.1 ≤ right.1) (canonicalFields fields)
    have fixed : ∀ field ∈ canonicalFields fields, (field.1, canonicalJson field.2) = field :=
      List.map_inj_left.mp (by rw [← canonicalFields_eq_map, canonicalFields_idem fields, List.map_id'])
    have again : canonicalFields ((canonicalFields fields).insertionSort fun left right => left.1 ≤ right.1) = _ :=
      (canonicalFields_eq_map _).trans
        ((List.map_inj_left.mpr fun field member => fixed field (sorted.subset member)).trans (List.map_id' _))
    rw [canonicalJson, canonicalJson, again, (List.pairwise_insertionSort _ _).insertionSort_eq]
  | array items => rw [canonicalJson, canonicalJson, canonicalItems_idem items]
  | _ => rfl

theorem canonicalItems_idem (items : List Value) : canonicalItems (canonicalItems items) = canonicalItems items := by
  cases items with
  | nil => rfl
  | cons item rest => rw [canonicalItems, canonicalItems, canonicalJson_idem item, canonicalItems_idem rest]

theorem canonicalFields_idem (fields : List (String × Value)) :
    canonicalFields (canonicalFields fields) = canonicalFields fields := by
  rcases fields with _ | ⟨⟨key, value⟩, rest⟩
  · rfl
  · rw [canonicalFields, canonicalFields, canonicalJson_idem value, canonicalFields_idem rest]

end

/-- One canonical text means one value up to key order. A canonical text whose numbers are read
exactly stays as it is when it is read and made canonical again, unless it is nested too deep. -/
theorem canonical_json_text_iff (serde : Reader) {a b : Value} (formed : a.WellFormed) (formed' : b.WellFormed) :
    ((canonicalJson a).render = (canonicalJson b).render ↔ EqualUpToKeyOrder a b) ∧
    (a.All (Exact serde.parse) List.Nodup →
      ((serde.parse (canonicalJson a).render).map (fun value => (canonicalJson value).render) =
        some (canonicalJson a).render ↔ a.depth ≤ 127)) := by
  constructor
  · rw [equalUpToKeyOrder_iff a b formed]
    constructor
    · intro same
      have read := read_render (canonicalJson_wellFormed formed)
      rw [same, read_render (canonicalJson_wellFormed formed')] at read
      exact (Option.some.inj read).symm
    · exact congrArg Value.render
  · intro exact_
    rw [← canonicalJson_depth a]
    constructor
    · intro again
      by_contra deep
      rw [serde.parse_deep (canonicalJson_wellFormed formed) (Nat.lt_of_not_le deep)] at again
      cases again
    · intro shallow
      rw [serde.parse_render (canonicalJson_all insertionSort_strict a exact_) shallow, Option.map_some, canonicalJson_idem]

theorem canonical_json_text_reordered :
    let left := Value.object [("b", .number "2"), ("a", .array [.object [("d", .null), ("c", .bool true)]])]
    let right := Value.object [("a", .array [.object [("c", .bool true), ("d", .null)]]), ("b", .number "2")]
    ((canonicalJson left).render = (canonicalJson right).render ↔ EqualUpToKeyOrder left right) ∧
    (limited.parse (canonicalJson left).render).map (fun value => (canonicalJson value).render) =
      some (canonicalJson left).render := by
  have formed := canonical_json_text_iff limited
    (a := .object [("b", .number "2"), ("a", .array [.object [("d", .null), ("c", .bool true)]])])
    (b := .object [("a", .array [.object [("c", .bool true), ("d", .null)]]), ("b", .number "2")])
    ⟨by decide, isNumber_int 2, ⟨⟨by decide, trivial, trivial, trivial⟩, trivial⟩, trivial⟩
    ⟨by decide, ⟨⟨by decide, trivial, trivial, trivial⟩, trivial⟩, isNumber_int 2, trivial⟩
  refine ⟨formed.1, (formed.2 ?_).mpr (by decide)⟩
  exact ⟨by decide, ⟨isNumber_int 2, limited.parse_integer 2 (by decide) (by decide)⟩,
    ⟨⟨by decide, trivial, trivial, trivial⟩, trivial⟩, trivial⟩

/-- Arrays within each other. -/
def nested : Nat → Value
  | 0 => .array []
  | n + 1 => .array [nested n]

theorem nested_wellFormed (n) : (nested n).WellFormed := by
  induction n with
  | zero => trivial
  | succ n ih => exact ⟨ih, trivial⟩

theorem nested_depth (n) : (nested n).depth = n + 1 := by
  induction n with
  | zero => rfl
  | succ n ih => simp [nested, Value.depth, depthElements, ih]

/-- The canonical text of 128 nested arrays is not read again. -/
theorem deep_canonical_text_unread : (nested 127).WellFormed ∧
    ∀ serde : Reader, serde.parse (canonicalJson (nested 127)).render = none := by
  refine ⟨nested_wellFormed 127, fun serde => serde.parse_deep (canonicalJson_wellFormed (nested_wellFormed 127)) ?_⟩
  rw [canonicalJson_depth, nested_depth]
  decide

end Mealy
