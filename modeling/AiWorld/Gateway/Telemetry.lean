import AiWorld.Contracts
import AiWorld.Gateway.Budget

set_option autoImplicit false

namespace AiWorld.Gateway

structure ModelRequest where
  provider : String
  model : String
  systemPrompt : String
  userPrompt : String
  maxOutputTokens : Int
  timeoutSeconds : Nat := 60
deriving DecidableEq, Repr

structure ModelResponse where
  text : String
  inputTokens : Int
  outputTokens : Int
  latencyMs : Int
  provider : String
  model : String
  usageEstimated : Bool := false
deriving DecidableEq, Repr

-- Any exception of a provider call, timeouts included. Only an integer
-- `status_code` attribute is ever looked at.
structure ProviderError where
  statusCode : Option Int := none
  message : String := ""
deriving DecidableEq, Repr

structure ModelInvocationTelemetry where
  provider : String
  model : String
  inputTokens : Int
  outputTokens : Int
  estimatedCost : ℚ
  latencyMs : Int
  status : ModelInvocationStatus
  requestHash : String
  responseHash : Option String := none
  usageEstimated : Bool := false
deriving DecidableEq, Repr

-- USD per 1000 tokens, input and output. A provider's "*" row prices all its models.
def pricingPer1kTokens : List ((String × String) × (ℚ × ℚ)) :=
  [(("mock", "*"), (0, 0)),
    (("anthropic", "claude-sonnet-5"), (3 / 1000, 15 / 1000)),
    (("anthropic", "claude-haiku-4-5-20251001"), (1 / 1000, 5 / 1000)),
    (("anthropic", "claude-opus-5"), (15 / 1000, 75 / 1000)),
    (("openai", "gpt-4o-mini"), (15 / 100000, 6 / 10000)),
    (("openai", "gpt-4o"), (25 / 10000, 1 / 100))]

def priceFor (provider model : String) : Option (ℚ × ℚ) :=
  (pricingPer1kTokens.lookup (provider, model)).or (pricingPer1kTokens.lookup (provider, "*"))

def unpricedMessage (provider model : String) : String :=
  "No price is configured for model '" ++ provider ++ "/" ++ model ++
    "'. Add it to model_gateway.telemetry._PRICING_PER_1K_TOKENS before using it."

def costAt (price : ℚ × ℚ) (inputTokens outputTokens : Int) : ℚ :=
  (inputTokens : ℚ) / 1000 * price.1 + (outputTokens : ℚ) / 1000 * price.2

def estimateCostUsd (provider model : String) (inputTokens outputTokens : Int) : Option ℚ :=
  (priceFor provider model).map (fun price => costAt price inputTokens outputTokens)

def bytesPerInputTokenEstimate : Nat := 3

def estimateInputTokens (systemPrompt userPrompt : String) : Int :=
  (((systemPrompt ++ userPrompt).utf8ByteSize + (bytesPerInputTokenEstimate - 1)) / bytesPerInputTokenEstimate : Nat)

def isProvablyUnbilled (error : ProviderError) : Bool :=
  match error.statusCode with
  | some status => 400 ≤ status ∧ status < 500 ∧ status ≠ 408
  | none => false

def isPermanentRejection (error : ProviderError) : Bool :=
  isProvablyUnbilled error && error.statusCode ≠ some 429

-- Input tokens, output tokens and cost of the dearest attempt that could be billed.
def estimateWorstCaseAttempt (request : ModelRequest) : Option (Int × Int × ℚ) :=
  let tokensIn := estimateInputTokens request.systemPrompt request.userPrompt
  (estimateCostUsd request.provider request.model tokensIn request.maxOutputTokens).map
    (fun cost => (tokensIn, request.maxOutputTokens, cost))

def estimateFailedAttempt (request : ModelRequest) (error : ProviderError) : Option (Int × Int × ℚ) :=
  if isProvablyUnbilled error then some (0, 0, 0) else estimateWorstCaseAttempt request

end AiWorld.Gateway
