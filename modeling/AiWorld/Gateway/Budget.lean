import Mathlib.Algebra.Order.Field.Rat
import Mathlib.Data.Rat.Floor

set_option autoImplicit false

namespace AiWorld.Gateway

structure BudgetPolicy where
  maxModelCostUsd : ℚ := 2
  maxModelCalls : Int := 6
  maxRuntimeMinutes : Int := 10
  maxRetries : Int := 2
  maxOutputTokens : Int := 8000
deriving DecidableEq, Repr

structure BudgetUsage where
  callsMade : Int := 0
  costSpentUsd : ℚ := 0
  elapsedMinutes : ℚ := 0
  retriesMade : Int := 0
deriving DecidableEq, Repr

structure BudgetDecision where
  allowed : Bool
  reason : Option String := none
deriving DecidableEq, Repr

-- Two decimals, half to even, of an amount that is not negative.
def twoDecimals (amount : ℚ) : String :=
  let cents := (amount * 100).floor.toNat
  let rest := amount * 100 - (cents : ℚ)
  let rounded := if rest > 1 / 2 ∨ (rest = 1 / 2 ∧ cents % 2 = 1) then cents + 1 else cents
  let tail := toString (rounded % 100)
  toString (rounded / 100) ++ "." ++ (if rounded % 100 < 10 then "0" ++ tail else tail)

def evaluateBudget (policy : BudgetPolicy) (usage : BudgetUsage) (requestedOutputTokens : Int)
    (isRetry : Bool) (worstCaseCostUsd : ℚ) : BudgetDecision :=
  if usage.callsMade ≥ policy.maxModelCalls then
    ⟨false, some ("max_model_calls (" ++ toString policy.maxModelCalls ++ ") reached.")⟩
  else if usage.costSpentUsd ≥ policy.maxModelCostUsd ∨
      usage.costSpentUsd + worstCaseCostUsd > policy.maxModelCostUsd then
    ⟨false, some ("max_model_cost_usd ($" ++ twoDecimals policy.maxModelCostUsd ++ ") reached.")⟩
  else if usage.elapsedMinutes ≥ policy.maxRuntimeMinutes then
    ⟨false, some ("max_runtime_minutes (" ++ toString policy.maxRuntimeMinutes ++ ") exceeded.")⟩
  else if requestedOutputTokens > policy.maxOutputTokens then
    ⟨false, some ("requested_output_tokens (" ++ toString requestedOutputTokens ++ ") exceeds max_output_tokens (" ++
      toString policy.maxOutputTokens ++ ").")⟩
  else if isRetry ∧ usage.retriesMade ≥ policy.maxRetries then
    ⟨false, some ("max_retries (" ++ toString policy.maxRetries ++ ") reached.")⟩
  else ⟨true, none⟩

structure BudgetPolicy.NonNegative (policy : BudgetPolicy) : Prop where
  cost : 0 ≤ policy.maxModelCostUsd
  calls : 0 ≤ policy.maxModelCalls
  runtime : 0 ≤ policy.maxRuntimeMinutes
  retries : 0 ≤ policy.maxRetries
  tokens : 0 ≤ policy.maxOutputTokens

-- An admitted attempt leaves room for one more call and for its whole worst case.
theorem admitted_within_budget {policy : BudgetPolicy} {usage : BudgetUsage} {tokens : Int} {isRetry : Bool} {worst : ℚ}
    (allowed : (evaluateBudget policy usage tokens isRetry worst).allowed = true) :
    usage.callsMade + 1 ≤ policy.maxModelCalls ∧ usage.costSpentUsd + worst ≤ policy.maxModelCostUsd ∧
      (isRetry = true → usage.retriesMade + 1 ≤ policy.maxRetries) := by
  unfold evaluateBudget at allowed
  by_cases calls : usage.callsMade ≥ policy.maxModelCalls
  · simp [calls] at allowed
  by_cases cost : usage.costSpentUsd ≥ policy.maxModelCostUsd ∨ usage.costSpentUsd + worst > policy.maxModelCostUsd
  · simp [calls, cost] at allowed
  by_cases runtime : usage.elapsedMinutes ≥ policy.maxRuntimeMinutes
  · simp [calls, cost, runtime] at allowed
  by_cases output : tokens > policy.maxOutputTokens
  · simp [calls, cost, runtime, output] at allowed
  by_cases retries : isRetry = true ∧ usage.retriesMade ≥ policy.maxRetries
  · simp [calls, cost, runtime, output, retries] at allowed
  refine ⟨by omega, ?_, fun retrying => ?_⟩
  · exact not_lt.mp (fun above => cost (Or.inr above))
  · have below : ¬ usage.retriesMade ≥ policy.maxRetries := fun reached => retries ⟨retrying, reached⟩
    omega

end AiWorld.Gateway
