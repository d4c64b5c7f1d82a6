import Mealy.Store.Schema

/-! The run budget: amounts on every accounted axis, reservations taken before work
is dispatched and settled when it ends (`run_budget_usage`, `budget_reservation`). -/

namespace Mealy

namespace Usage

def add (a b : Usage) : Usage where
  modelCalls := a.modelCalls + b.modelCalls
  toolCalls := a.toolCalls + b.toolCalls
  inputTokens := a.inputTokens + b.inputTokens
  outputTokens := a.outputTokens + b.outputTokens
  costMicrounits := a.costMicrounits + b.costMicrounits
  outputBytes := a.outputBytes + b.outputBytes
  delegatedRuns := a.delegatedRuns + b.delegatedRuns

def sub (a b : Usage) : Usage where
  modelCalls := a.modelCalls - b.modelCalls
  toolCalls := a.toolCalls - b.toolCalls
  inputTokens := a.inputTokens - b.inputTokens
  outputTokens := a.outputTokens - b.outputTokens
  costMicrounits := a.costMicrounits - b.costMicrounits
  outputBytes := a.outputBytes - b.outputBytes
  delegatedRuns := a.delegatedRuns - b.delegatedRuns

instance : Add Usage := ⟨add⟩
instance : Sub Usage := ⟨sub⟩

/-- No axis of `a` exceeds the one of `b`. -/
structure Le (a b : Usage) : Prop where
  modelCalls : a.modelCalls ≤ b.modelCalls
  toolCalls : a.toolCalls ≤ b.toolCalls
  inputTokens : a.inputTokens ≤ b.inputTokens
  outputTokens : a.outputTokens ≤ b.outputTokens
  costMicrounits : a.costMicrounits ≤ b.costMicrounits
  outputBytes : a.outputBytes ≤ b.outputBytes
  delegatedRuns : a.delegatedRuns ≤ b.delegatedRuns

instance : LE Usage := ⟨Le⟩

theorem le_iff {a b : Usage} : a ≤ b ↔
    a.modelCalls ≤ b.modelCalls ∧ a.toolCalls ≤ b.toolCalls ∧ a.inputTokens ≤ b.inputTokens ∧
    a.outputTokens ≤ b.outputTokens ∧ a.costMicrounits ≤ b.costMicrounits ∧
    a.outputBytes ≤ b.outputBytes ∧ a.delegatedRuns ≤ b.delegatedRuns :=
  ⟨fun ⟨h1, h2, h3, h4, h5, h6, h7⟩ => ⟨h1, h2, h3, h4, h5, h6, h7⟩,
   fun ⟨h1, h2, h3, h4, h5, h6, h7⟩ => ⟨h1, h2, h3, h4, h5, h6, h7⟩⟩

instance (a b : Usage) : Decidable (a ≤ b) := decidable_of_iff _ le_iff.symm

end Usage

def BudgetReservation.usage (reservation : BudgetReservation) : Usage where
  modelCalls := 1
  inputTokens := reservation.inputTokens
  outputTokens := reservation.outputTokens
  costMicrounits := reservation.costMicrounits
  outputBytes := reservation.outputBytes

namespace RunBudget

/-- The `CHECK` of every axis: what is used and reserved stays within the maximum. -/
def Fits (budget : RunBudget) : Prop := budget.used + budget.reserved ≤ budget.maximum

instance (budget : RunBudget) : Decidable budget.Fits :=
  inferInstanceAs (Decidable (budget.used + budget.reserved ≤ budget.maximum))

/-- Reserve `amount` while the run is neither cancelled nor past its deadline. -/
def reserve (budget : RunBudget) (amount : Usage) (now : Millis) : Option RunBudget :=
  let next := { budget with reserved := budget.reserved + amount }
  if budget.cancellationRequestedAt = none ∧ now < budget.deadlineAt ∧ next.Fits then some next else none

def settle (budget : RunBudget) (released charged : Usage) : Option RunBudget :=
  let next := { budget with reserved := budget.reserved - released, used := budget.used + charged }
  if released ≤ budget.reserved ∧ next.Fits then some next else none

/-- Count one more retry if `granted`. -/
def retry (budget : RunBudget) (granted : Bool) : RunBudget :=
  { budget with usedRetries := budget.usedRetries + granted.toNat }

end RunBudget
end Mealy
