import Mathlib

/-! Keyed tables. A table is a finite set of rows under distinct primary keys;
statements read it through `get`, whole-table queries through `select`, `any`,
`count` and `sum`, and write it one row at a time through `put`. Row order never
matters: every query below is characterised by `get` alone, or by how `put`
changes it. -/

namespace Relational

universe u v

/-- Rows of type `ρ` under distinct primary keys of type `κ`. -/
structure Table (κ : Type u) (ρ : Type v) where
  rows : AList (fun _ : κ => ρ)

namespace Table
variable {κ : Type u} {ρ : Type v}

def empty : Table κ ρ := ⟨∅⟩

def entries (t : Table κ ρ) : List (κ × ρ) := t.rows.entries.map fun e => (e.1, e.2)

/-- The rows a `SELECT` with this predicate returns. -/
def select (t : Table κ ρ) (p : κ → ρ → Bool) : List (κ × ρ) := t.entries.filter fun e => p e.1 e.2

def any (t : Table κ ρ) (p : κ → ρ → Bool) : Bool := t.entries.any fun e => p e.1 e.2

def count (t : Table κ ρ) (p : κ → ρ → Bool) : Nat := (t.select p).length

def sum (t : Table κ ρ) (f : κ → ρ → Nat) : Nat := (t.entries.map fun e => f e.1 e.2).sum

/-- The first row a query returns. -/
def find (t : Table κ ρ) (p : κ → ρ → Bool) : Option (κ × ρ) := (t.select p).head?

/-- Rewrite every row: an `UPDATE` without a key in its `WHERE` clause. -/
def update (t : Table κ ρ) (f : κ → ρ → ρ) : Table κ ρ where
  rows :=
    { entries := t.rows.entries.map fun e => ⟨e.1, f e.1 e.2⟩
      nodupKeys := by
        have keys : (t.rows.entries.map fun e => (⟨e.1, f e.1 e.2⟩ : Sigma fun _ : κ => ρ)).keys =
            t.rows.entries.keys := by
          simp [List.keys, Function.comp_def]
        simpa only [List.NodupKeys, keys] using t.rows.nodupKeys }

theorem count_le (t : Table κ ρ) (p : κ → ρ → Bool) : t.count p ≤ t.entries.length := List.length_filter_le ..

/-- The first row in the order of an `ORDER BY … LIMIT 1`. -/
def firstBy {α : Type v} (precedes : α → α → Bool) : List α → Option α
  | [] => none
  | row :: rest =>
    match firstBy precedes rest with
    | none => some row
    | some other => if precedes row other then some row else some other

theorem firstBy_mem {α} {precedes : α → α → Bool} {rows row}
    (first : firstBy precedes rows = some row) : row ∈ rows := by
  induction rows generalizing row with
  | nil => cases first
  | cons head rest ih =>
    unfold firstBy at first
    split at first
    next => cases first; exact List.mem_cons_self
    next other found =>
      split at first
      next => cases first; exact List.mem_cons_self
      next => cases first; exact List.mem_cons_of_mem _ (ih found)

theorem firstBy_eq_none {α} {precedes : α → α → Bool} {rows} :
    firstBy precedes rows = none ↔ rows = [] := by
  cases rows with
  | nil => simp [firstBy]
  | cons row rest =>
    unfold firstBy
    split <;> try split
    all_goals simp

theorem firstBy_least {α} {precedes : α → α → Bool}
    (total : ∀ a b, precedes a b = false → precedes b a = true)
    (trans : ∀ a b c, precedes a b = true → precedes b c = true → precedes a c = true) {rows row}
    (first : firstBy precedes rows = some row) : ∀ other ∈ rows, precedes row other = true := by
  have refl (a : α) : precedes a a = true := by
    cases self : precedes a a with
    | true => rfl
    | false => exact self.symm.trans (total a a self)
  induction rows generalizing row with
  | nil => cases first
  | cons head rest ih =>
    unfold firstBy at first
    split at first
    next empty =>
      cases first
      intro other member
      rcases List.mem_cons.mp member with rfl | later
      · exact refl _
      · simp [firstBy_eq_none.mp empty] at later
    next least found =>
      split at first
      next before =>
        cases first
        intro other member
        rcases List.mem_cons.mp member with rfl | later
        · exact refl _
        · exact trans _ _ _ before (ih found other later)
      next after =>
        cases first
        intro other member
        rcases List.mem_cons.mp member with rfl | later
        · exact total _ _ (Bool.eq_false_iff.mpr after)
        · exact ih found other later

variable [DecidableEq κ]

def get (t : Table κ ρ) (k : κ) : Option ρ := t.rows.lookup k

def put (t : Table κ ρ) (k : κ) (r : ρ) : Table κ ρ := ⟨t.rows.insert k r⟩

@[simp] theorem get_empty (k : κ) : (empty : Table κ ρ).get k = none := rfl

theorem get_put (t : Table κ ρ) (k : κ) (r : ρ) (k' : κ) :
    (t.put k r).get k' = if k' = k then some r else t.get k' := by
  unfold get put
  split
  next same => subst same; exact AList.lookup_insert _
  next different => exact AList.lookup_insert_ne different

@[simp] theorem get_put_self (t : Table κ ρ) (k : κ) (r : ρ) : (t.put k r).get k = some r := by
  simp [get_put]

theorem get_put_ne (t : Table κ ρ) {k k'} (r : ρ) (different : k' ≠ k) : (t.put k r).get k' = t.get k' := by
  simp [get_put, different]

def erase (t : Table κ ρ) (k : κ) : Table κ ρ := ⟨t.rows.erase k⟩

theorem get_erase (t : Table κ ρ) (k k' : κ) : (t.erase k).get k' = if k' = k then none else t.get k' := by
  unfold get erase
  split
  next same => subst same; exact AList.lookup_erase _ _
  next different => exact AList.lookup_erase_ne different

@[simp] theorem get_erase_self (t : Table κ ρ) (k : κ) : (t.erase k).get k = none := by
  simp [get_erase]

theorem get_erase_ne (t : Table κ ρ) {k k'} (different : k' ≠ k) : (t.erase k).get k' = t.get k' := by
  simp [get_erase, different]

theorem get_of_get_erase {t : Table κ ρ} {k k' : κ} {r : ρ} (stored : (t.erase k).get k' = some r) :
    t.get k' = some r := by
  rw [get_erase] at stored
  split at stored
  next => cases stored
  next => exact stored

theorem map_get_put {β : Type*} (t : Table κ ρ) (k : κ) (r : ρ) (f : ρ → β) :
    (fun k' => ((t.put k r).get k').map f) = Function.update (fun k' => (t.get k').map f) k (some (f r)) := by
  funext k'
  by_cases same : k' = k
  · subst same
    simp
  · simp [get_put_ne t r same, Function.update_of_ne same]

theorem map_get_put_same {β : Type*} {t : Table κ ρ} {k : κ} {r r' : ρ} {f : ρ → β} (stored : t.get k = some r)
    (kept : f r' = f r) (k' : κ) : ((t.put k r').get k').map f = (t.get k').map f := by
  by_cases same : k' = k
  · subst same
    simp [stored, kept]
  · rw [get_put_ne t r' same]

theorem kept_put_rel {R : ρ → ρ → Prop} {t : Table κ ρ} {key old new} (refl : ∀ row, R row row)
    (stored : t.get key = some old) (own : R old new) (other : κ) (row : ρ) (found : t.get other = some row) :
    ∃ row', (t.put key new).get other = some row' ∧ R row row' := by
  by_cases same : other = key
  · subst same
    cases stored.symm.trans found
    exact ⟨new, get_put_self .., own⟩
  · exact ⟨row, by rw [get_put_ne _ _ same, found], refl row⟩

theorem kept_put {β : Type*} {t : Table κ ρ} {key : κ} {old new : ρ} (f : ρ → β) (stored : t.get key = some old)
    (same : f new = f old) (other : κ) (row : ρ) (found : t.get other = some row) :
    ∃ row', (t.put key new).get other = some row' ∧ f row' = f row :=
  kept_put_rel (R := fun row row' => f row' = f row) (fun _ => rfl) stored same other row found

theorem of_get_put {t : Table κ ρ} {key other row new} (found : (t.put key new).get other = some row) :
    other = key ∧ row = new ∨ other ≠ key ∧ t.get other = some row := by
  rw [get_put] at found
  split at found
  next same => exact .inl ⟨same, (Option.some.inj found).symm⟩
  next different => exact .inr ⟨different, found⟩

theorem others_put {t : Table κ ρ} {key : κ} {new : ρ} (other : κ) (row : ρ) (stored : t.get other = some row)
    (apart : other ≠ key) : (t.put key new).get other = some row :=
  (get_put_ne t new apart).trans stored

theorem kept_put_fresh {t : Table κ ρ} {key : κ} {new : ρ} (fresh : t.get key = none) (other : κ) (row : ρ)
    (found : t.get other = some row) : (t.put key new).get other = some row := by
  rw [get_put_ne _ _ (by rintro rfl; simp [fresh] at found), found]

theorem mem_entries (t : Table κ ρ) (k : κ) (r : ρ) : (k, r) ∈ t.entries ↔ t.get k = some r := by
  have stored : r ∈ t.rows.lookup k ↔ Sigma.mk k r ∈ t.rows.entries := AList.mem_lookup_iff
  rw [Option.mem_def] at stored
  rw [get, stored, entries, List.mem_map]
  constructor
  · rintro ⟨⟨k', r'⟩, member, same⟩
    cases same
    exact member
  · exact fun member => ⟨_, member, rfl⟩

@[simp] theorem mem_select (t : Table κ ρ) (p : κ → ρ → Bool) (k : κ) (r : ρ) :
    (k, r) ∈ t.select p ↔ t.get k = some r ∧ p k r = true := by
  rw [select, List.mem_filter, mem_entries]

theorem get_update (t : Table κ ρ) (f : κ → ρ → ρ) (k : κ) : (t.update f).get k = (t.get k).map (f k) := by
  have entries_update : (t.update f).entries = t.entries.map fun e => (e.1, f e.1 e.2) := by
    simp [entries, update, Function.comp_def]
  have iff (r : ρ) : (t.update f).get k = some r ↔ (t.get k).map (f k) = some r := by
    rw [← mem_entries, entries_update, List.mem_map, Option.map_eq_some_iff]
    constructor
    · rintro ⟨⟨k', r'⟩, member, same⟩
      cases same
      exact ⟨r', (t.mem_entries k' r').mp member, rfl⟩
    · rintro ⟨r', stored, rfl⟩
      exact ⟨(k, r'), (t.mem_entries k r').mpr stored, rfl⟩
  cases found : (t.get k).map (f k) with
  | none =>
    cases updated : (t.update f).get k with
    | none => rfl
    | some r => exact absurd ((iff r).mp updated) (by simp [found])
  | some r => exact (iff r).mpr found

theorem any_iff (t : Table κ ρ) (p : κ → ρ → Bool) :
    t.any p = true ↔ ∃ k r, t.get k = some r ∧ p k r = true := by
  rw [any, List.any_eq_true]
  constructor
  · rintro ⟨⟨k, r⟩, member, holds⟩
    exact ⟨k, r, (t.mem_entries k r).mp member, holds⟩
  · rintro ⟨k, r, found, holds⟩
    exact ⟨(k, r), (t.mem_entries k r).mpr found, holds⟩

theorem any_eq_false (t : Table κ ρ) (p : κ → ρ → Bool) :
    t.any p = false ↔ ∀ k r, t.get k = some r → p k r = false := by
  rw [← Bool.not_eq_true, any_iff]
  constructor
  · intro none k r found
    exact Bool.eq_false_iff.mpr fun holds => none ⟨k, r, found, holds⟩
  · rintro never ⟨k, r, found, holds⟩
    exact Bool.false_ne_true ((never k r found).symm.trans holds)

theorem find_some {t : Table κ ρ} {p : κ → ρ → Bool} {k : κ} {r : ρ} (found : t.find p = some (k, r)) :
    t.get k = some r ∧ p k r = true :=
  (t.mem_select p k r).mp (List.mem_of_mem_head? found)

theorem find_none_iff {t : Table κ ρ} {p : κ → ρ → Bool} :
    t.find p = none ↔ ∀ k r, t.get k = some r → p k r = false := by
  rw [find, List.head?_eq_none_iff]
  constructor
  · intro empty k r stored
    refine Bool.eq_false_iff.mpr fun holds => ?_
    have member := (t.mem_select p k r).mpr ⟨stored, holds⟩
    simp [empty] at member
  · intro never
    refine List.eq_nil_iff_forall_not_mem.mpr fun ⟨k, r⟩ member => ?_
    obtain ⟨stored, holds⟩ := (t.mem_select p k r).mp member
    exact Bool.false_ne_true ((never k r stored).symm.trans holds)

theorem find_eq_some_of_unique {t : Table κ ρ} {p : κ → ρ → Bool} {k : κ} {r : ρ}
    (stored : t.get k = some r) (holds : p k r = true)
    (unique : ∀ k' r', t.get k' = some r' → p k' r' = true → k' = k) : t.find p = some (k, r) := by
  cases found : t.find p with
  | none => exact absurd (find_none_iff.mp found k r stored) (by simp [holds])
  | some row =>
    obtain ⟨k', r'⟩ := row
    obtain ⟨stored', holds'⟩ := find_some found
    have same := unique k' r' stored' holds'
    subst same
    rw [stored] at stored'
    cases stored'
    rfl

end Table

end Relational
