import AiWorld.Executor.World

set_option autoImplicit false

namespace AiWorld.Executor

open AiWorld.Concurrency AiWorld.Gateway

structure SqlUsageProvider where
  tenantId : Nat
  missionId : Nat
  taskId : Nat
  agentId : Nat
  attemptStartedAt : ℚ

def totalCost (rows : List ModelInvocation) : ℚ := (rows.map (fun row => row.values.estimatedCost)).sum

def notCompleted (rows : List ModelInvocation) : Nat := rows.countP (fun row => row.values.status ≠ .completed)

namespace SqlUsageProvider

def usageForTask (provider : SqlUsageProvider) : Exec BudgetUsage := do
  let db ← view
  let time ← now
  return {
    callsMade := db.invocations.length
    costSpentUsd := totalCost db.invocations
    elapsedMinutes := (time - provider.attemptStartedAt) / 60
    retriesMade := notCompleted db.invocations }

def beginAttempt (provider : SqlUsageProvider) (worstCase : ModelInvocationTelemetry) : Exec Nat := do
  let attemptId ← newId
  stage (fun db => { db with
    invocations := db.invocations ++
      [⟨attemptId, provider.tenantId, provider.missionId, provider.taskId, provider.agentId, rowValues worstCase⟩] })
  sessionCommit [.begun attemptId]
  return attemptId

def setValues (attemptId : Nat) (values : RowValues) (row : ModelInvocation) : ModelInvocation :=
  if row.id = attemptId then { row with values := values } else row

def finishAttempt (_provider : SqlUsageProvider) (attemptId : Nat) (outcome : ModelInvocationTelemetry) : Exec Unit := do
  stage (fun db => { db with invocations := db.invocations.map (setValues attemptId (rowValues outcome)) })
  sessionCommit [.finished attemptId]

end SqlUsageProvider

-- The hash and the JSON rendering of a request are taken as given functions.
structure ModelGateway where
  providers : List String
  maxAttempts : Nat := 3
  sha256Hex : String → String
  modelDumpJson : ModelRequest → String

structure Call where
  request : ModelRequest
  requestHash : String
  worstCaseCostUsd : ℚ
  ledger : Option SqlUsageProvider
  started : ℚ

structure GenerateOutcome where
  response : ModelResponse
  telemetry : ModelInvocationTelemetry
  attempts : Nat
  failedAttempts : List ModelInvocationTelemetry

def unpriced {α : Type} (request : ModelRequest) : Exec α :=
  throw (.modelGateway (unpricedMessage request.provider request.model) [])

def budgetReason (decision : BudgetDecision) : String := decision.reason.getD "Budget exceeded."

def truncate (amount : ℚ) : Int := if 0 ≤ amount then amount.floor else -(-amount).floor

def writeAhead (call : Call) : Exec (Option Nat) :=
  match call.ledger with
  | none => return none
  | some ledger =>
      match estimateWorstCaseAttempt call.request with
      | none => unpriced call.request
      | some (tokensIn, tokensOut, cost) => do
          let attemptId ← ledger.beginAttempt
            { provider := call.request.provider, model := call.request.model, inputTokens := tokensIn,
              outputTokens := tokensOut, estimatedCost := cost, latencyMs := 0, status := .requested,
              requestHash := call.requestHash }
          return some attemptId

def finish (call : Call) (attemptId : Option Nat) (outcome : ModelInvocationTelemetry) : Exec Unit :=
  match call.ledger, attemptId with
  | some ledger, some id => ledger.finishAttempt id outcome
  | _, _ => return ()

def failedAttemptTelemetry (call : Call) (error : ProviderError) (elapsedSeconds : ℚ) : Exec ModelInvocationTelemetry :=
  match estimateFailedAttempt call.request error with
  | none => unpriced call.request
  | some (tokensIn, tokensOut, cost) =>
      return { provider := call.request.provider, model := call.request.model, inputTokens := tokensIn,
               outputTokens := tokensOut, estimatedCost := cost, latencyMs := truncate (elapsedSeconds * 1000),
               status := .failed, requestHash := call.requestHash }

namespace ModelGateway

def admitCall (gateway : ModelGateway) (request : ModelRequest) (policy : BudgetPolicy) (usage : BudgetUsage)
    (isRetry : Bool) (ledger : Option SqlUsageProvider) : Exec Call :=
  if request.provider ∈ gateway.providers then
    match estimateWorstCaseAttempt request with
    | none => unpriced request
    | some (_, _, worstCaseCost) =>
        let decision := evaluateBudget policy usage request.maxOutputTokens isRetry worstCaseCost
        if decision.allowed then do
          let started ← now
          return ⟨request, gateway.sha256Hex (gateway.modelDumpJson request), worstCaseCost, ledger, started⟩
        else throw (.budgetExceeded (budgetReason decision) [])
  else throw (.modelGateway ("No provider registered for '" ++ request.provider ++ "'.") [])

def checkCircuit (call : Call) (failed : List ModelInvocationTelemetry) : Exec Unit := do
  let refused ← beforeCall call.request.provider
  match refused with
  | none => return ()
  | some retryAfter => throw (.modelGateway (circuitOpenMessage call.request.provider retryAfter) failed)

structure Attempt where
  attemptId : Option Nat
  outcome : ProviderOutcome
  failed : List ModelInvocationTelemetry

-- A bad request says nothing about the provider's health.
def recordError (call : Call) (error : ProviderError) : Exec Unit :=
  if isPermanentRejection error then pure () else recordFailure call.request.provider

def settleError (call : Call) (attemptId : Option Nat) (started : ℚ) (failed : List ModelInvocationTelemetry)
    (error : ProviderError) : Exec Attempt := do
  recordError call error
  let ended ← now
  let failure ← failedAttemptTelemetry call error (ended - started)
  finish call attemptId failure
  return ⟨attemptId, .error error, failed ++ [failure]⟩

def attempt (call : Call) (number : Nat) (failed : List ModelInvocationTelemetry) : Exec Attempt := do
  let attemptId ← writeAhead call
  let started ← now
  let outcome ← send attemptId number call.request
  match outcome with
  | .response response => do
      recordSuccess call.request.provider
      return ⟨attemptId, .response response, failed⟩
  | .error error => settleError call attemptId started failed error

def succeed (gateway : ModelGateway) (call : Call) (attemptId : Option Nat) (response : ModelResponse) (number : Nat)
    (failed : List ModelInvocationTelemetry) : Exec GenerateOutcome :=
  match estimateCostUsd call.request.provider call.request.model response.inputTokens response.outputTokens with
  | none => unpriced call.request
  | some cost => do
      let telemetry : ModelInvocationTelemetry :=
        { provider := call.request.provider, model := call.request.model, inputTokens := response.inputTokens,
          outputTokens := response.outputTokens, estimatedCost := cost, latencyMs := response.latencyMs,
          status := .completed, requestHash := call.requestHash, responseHash := some (gateway.sha256Hex response.text),
          usageEstimated := response.usageEstimated }
      finish call attemptId telemetry
      return ⟨response, telemetry, number, failed⟩

def requireRetryBudget (call : Call) (policy : BudgetPolicy) (incoming : BudgetUsage) (number : Nat)
    (failed : List ModelInvocationTelemetry) : Exec Unit := do
  let time ← now
  let soFar : BudgetUsage :=
    { callsMade := incoming.callsMade + failed.length
      costSpentUsd := incoming.costSpentUsd + (failed.map (fun telemetry => telemetry.estimatedCost)).sum
      elapsedMinutes := incoming.elapsedMinutes + (time - call.started) / 60
      retriesMade := incoming.retriesMade + ((number : Int) - 1) }
  let decision := evaluateBudget policy soFar call.request.maxOutputTokens true call.worstCaseCostUsd
  if decision.allowed then return () else throw (.budgetExceeded (budgetReason decision) failed)

def beforeRetry (gateway : ModelGateway) (call : Call) (policy : BudgetPolicy) (incoming : BudgetUsage) (number : Nat)
    (failed : List ModelInvocationTelemetry) : Exec Unit :=
  if number < gateway.maxAttempts then requireRetryBudget call policy incoming number failed else pure ()

def target (request : ModelRequest) : String := "'" ++ request.provider ++ "/" ++ request.model ++ "'"

def rejectedMessage (request : ModelRequest) (error : ProviderError) : String :=
  "Model call to " ++ target request ++ " was rejected by the provider and will not be retried: " ++ error.message

def exhaustedMessage (gateway : ModelGateway) (request : ModelRequest) (lastError : Option ProviderError) : String :=
  "Model call to " ++ target request ++ " failed after " ++ toString gateway.maxAttempts ++ " attempts: " ++
    (lastError.map (fun error => error.message)).getD "None"

-- The `for` loop of `generate`: attempts left, number of the next one, and what the
-- earlier ones left behind.
def attempts (gateway : ModelGateway) (call : Call) (policy : BudgetPolicy) (usage : BudgetUsage) :
    Nat → Nat → List ModelInvocationTelemetry → Option ProviderError → Exec GenerateOutcome
  | 0, _, failed, lastError => throw (.modelGateway (exhaustedMessage gateway call.request lastError) failed)
  | left + 1, number, failed, _ => do
      checkCircuit call failed
      let result ← attempt call number failed
      match result.outcome with
      | .response response => succeed gateway call result.attemptId response number result.failed
      | .error error =>
          if isPermanentRejection error then
            throw (.modelGateway (rejectedMessage call.request error) result.failed)
          else do
            beforeRetry gateway call policy usage number result.failed
            attempts gateway call policy usage left (number + 1) result.failed (some error)

def generate (gateway : ModelGateway) (request : ModelRequest) (policy : BudgetPolicy) (usage : BudgetUsage)
    (isRetry : Bool) (ledger : Option SqlUsageProvider) : Exec GenerateOutcome := do
  let call ← gateway.admitCall request policy usage isRetry ledger
  gateway.attempts call policy usage gateway.maxAttempts 1 [] none

end ModelGateway

end AiWorld.Executor
