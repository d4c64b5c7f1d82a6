import Mathlib

/-! Greedy selection under a budget with a reservation for mandatory items: an item is
taken if it fits beside what was taken before and all mandatory items behind it, and a
mandatory one is always taken. -/

namespace ReservedGreedy

variable {α : Type} (cost : α → Nat) (mandatory : α → Bool) (budget : Nat)

def reserve (items : List α) : Nat := ((items.filter mandatory).map cost).sum

/-- Each item with the decision about it, after `total` was spent. -/
def select (total : Nat) : List α → List (α × Bool)
  | [] => []
  | item :: rest =>
    let taken := mandatory item || decide (total + cost item + reserve cost mandatory rest ≤ budget)
    (item, taken) :: select (if taken then total + cost item else total) rest

def spent (choices : List (α × Bool)) : Nat := ((choices.filter Prod.snd).map fun choice => cost choice.1).sum

variable {cost mandatory budget}

theorem reserve_cons (item : α) (rest : List α) :
    reserve cost mandatory (item :: rest) =
      (if mandatory item then cost item else 0) + reserve cost mandatory rest := by
  unfold reserve
  cases taken : mandatory item <;> simp [taken]

theorem reserve_le (items : List α) : reserve cost mandatory items ≤ (items.map cost).sum := by
  induction items with
  | nil => exact Nat.le_refl _
  | cons item rest ih =>
    rw [reserve_cons, List.map_cons, List.sum_cons]
    split <;> omega

theorem spent_cons (item : α) (taken) (rest) :
    spent cost ((item, taken) :: rest) = (if taken then cost item else 0) + spent cost rest := by
  unfold spent
  cases taken <;> simp

theorem select_items (total) (items : List α) :
    (select cost mandatory budget total items).map Prod.fst = items := by
  induction items generalizing total with
  | nil => rfl
  | cons item rest ih => simp only [select, List.map_cons, ih]

theorem select_length (total) (items : List α) :
    (select cost mandatory budget total items).length = items.length := by
  rw [← List.length_map Prod.fst, select_items]

theorem select_mandatory {total items choice}
    (member : choice ∈ select cost mandatory budget total items) (required : mandatory choice.1 = true) :
    choice.2 = true := by
  induction items generalizing total with
  | nil => cases member
  | cons item rest ih =>
    simp only [select, List.mem_cons] at member
    rcases member with rfl | later
    · simp only at required
      simp [required]
    · exact ih later

theorem reserve_step {total item rest} (fits : total + reserve cost mandatory (item :: rest) ≤ budget) :
    (if mandatory item || decide (total + cost item + reserve cost mandatory rest ≤ budget) then total + cost item
      else total) + reserve cost mandatory rest ≤ budget := by
  rw [reserve_cons] at fits
  split
  next taken =>
    rcases Bool.or_eq_true_iff.mp taken with required | room
    · rw [if_pos required] at fits
      omega
    · exact of_decide_eq_true room
  next => omega

theorem select_fits {total items} (fits : total + reserve cost mandatory items ≤ budget) :
    total + spent cost (select cost mandatory budget total items) ≤ budget := by
  induction items generalizing total with
  | nil =>
    simp only [reserve, List.filter_nil, List.map_nil, List.sum_nil] at fits
    simpa [select, spent] using fits
  | cons item rest ih =>
    have later := ih (reserve_step fits)
    simp only [select, spent_cons]
    generalize (mandatory item || decide (total + cost item + reserve cost mandatory rest ≤ budget)) = taken at later ⊢
    cases taken
    · simpa using later
    · simp only [if_true] at later ⊢
      omega

theorem select_split (total) (before : List α) (item : α) (after : List α) :
    ∃ choices taken later, select cost mandatory budget total (before ++ item :: after) =
        choices ++ (item, taken) :: later ∧ choices.map Prod.fst = before ∧ later.map Prod.fst = after ∧
      (taken = true ↔ mandatory item = true ∨
        total + spent cost choices + cost item + reserve cost mandatory after ≤ budget) := by
  induction before generalizing total with
  | nil =>
    refine ⟨[], _, _, rfl, rfl, select_items _ _, ?_⟩
    simp [spent]
  | cons first rest ih =>
    simp only [List.cons_append, select]
    generalize first_taken : (mandatory first ||
      decide (total + cost first + reserve cost mandatory (rest ++ item :: after) ≤ budget)) = taken
    obtain ⟨choices, decided, later, chosen, before, after_, iff⟩ := ih (if taken then total + cost first else total)
    refine ⟨(first, taken) :: choices, decided, later, by rw [chosen]; rfl, by rw [List.map_cons, before], after_, ?_⟩
    rw [iff, spent_cons]
    cases taken
    · simp
    · simp only [if_true]
      rw [← Nat.add_assoc]

end ReservedGreedy
