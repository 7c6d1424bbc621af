import Mathlib.Data.Rat.Floor

set_option autoImplicit false

namespace AiWorld.Gateway

structure ProviderState where
  consecutiveFailures : Nat := 0
  openedAt : Option ℚ := none

structure CircuitBreaker where
  failureThreshold : Nat := 3
  cooldownSeconds : ℚ := 30
  state : String → ProviderState := fun _ => {}

namespace CircuitBreaker

def put (breaker : CircuitBreaker) (provider : String) (entry : ProviderState) : CircuitBreaker :=
  { breaker with state := fun name => if name = provider then entry else breaker.state name }

-- The time left until the next try when the call is refused.
def beforeCall (breaker : CircuitBreaker) (provider : String) (now : ℚ) : Option ℚ × CircuitBreaker :=
  match (breaker.state provider).openedAt with
  | none => (none, breaker)
  | some openedAt =>
      if now - openedAt < breaker.cooldownSeconds then (some (breaker.cooldownSeconds - (now - openedAt)), breaker)
      else (none, breaker.put provider { consecutiveFailures := 0, openedAt := none })

def recordSuccess (breaker : CircuitBreaker) (provider : String) : CircuitBreaker :=
  breaker.put provider { consecutiveFailures := 0, openedAt := none }

def recordFailure (breaker : CircuitBreaker) (provider : String) (now : ℚ) : CircuitBreaker :=
  let failures := (breaker.state provider).consecutiveFailures + 1
  let opened := (breaker.state provider).openedAt
  breaker.put provider
    { consecutiveFailures := failures
      openedAt := if failures ≥ breaker.failureThreshold ∧ opened = none then some now else opened }

end CircuitBreaker

-- No decimals, half to even, of an amount that is not negative.
def noDecimals (amount : ℚ) : String :=
  let whole := amount.floor.toNat
  let rest := amount - (whole : ℚ)
  toString (if rest > 1 / 2 ∨ (rest = 1 / 2 ∧ whole % 2 = 1) then whole + 1 else whole)

def circuitOpenMessage (provider : String) (retryAfterSeconds : ℚ) : String :=
  "Circuit open for provider '" ++ provider ++ "'; retry after " ++ noDecimals retryAfterSeconds ++ "s."

end AiWorld.Gateway
