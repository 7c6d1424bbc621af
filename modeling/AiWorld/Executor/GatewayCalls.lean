import AiWorld.Concurrency.Raise
import AiWorld.Executor.Gateway

set_option autoImplicit false

namespace AiWorld.Executor

open AiWorld.Concurrency AiWorld.Gateway

variable {call : Call} {attemptId : Option Nat} {gateway : ModelGateway} {number : Nat}

-- What a call of the gateway for `request` can do: rewrite and commit the ledger's
-- rows, take ids, read the clock, move the breaker, and send that request.
def GatewayStmt (request : ModelRequest) : Stmt → Prop
  | .stage change => ∃ rows : TaskDb → List ModelInvocation, change = fun db => { db with invocations := rows db }
  | .commit notes => sentCount notes = 0
  | .send _ _ asked => asked = request
  | .rollback => False
  | .putObject _ _ => False
  | _ => True

-- The failures it can raise: the two the executor handles, and a refused commit if
-- there are any.
def GatewayFailure (refuses : Prop) : Failure → Prop
  | .unexpected message => message = "commit failed" ∧ refuses
  | _ => True

-- The answers it is given: commits may be refused or not, and the provider's responses
-- are of one kind.
structure Serves (request : ModelRequest) (given : ∀ stmt, Ans stmt → Prop) (kind : ModelResponse → Prop) (refuses : Prop) :
    Prop where
  commits : ∀ notes, given (.commit notes) false → refuses
  responds : ∀ attempt number response, given (.send attempt number request) (.response response) → kind response

theorem serves_anything (request : ModelRequest) : Serves request (fun _ _ => True) (fun _ => True) True :=
  ⟨fun _ _ => trivial, fun _ _ _ _ => trivial⟩

section
variable {request : ModelRequest} {given : ∀ stmt, Ans stmt → Prop} {kind : ModelResponse → Prop} {refuses : Prop}

abbrev Calls {α : Type} (request : ModelRequest) (given : ∀ stmt, Ans stmt → Prop) (refuses : Prop) (post : α → Prop)
    (program : Exec α) : Prop :=
  Utters (S := execSig) (GatewayStmt request) given post (GatewayFailure refuses) program

theorem now_calls : Calls request given refuses (fun _ => True) now :=
  utters_weaken (fun _ fine => fine) (fun _ _ fits => fits) (fun _ _ => trivial) (fun _ raised => raised)
    (utters_ask (S := execSig) .now trivial)

theorem stage_calls (rows : TaskDb → List ModelInvocation) :
    Calls request given refuses (given (.stage (fun db => { db with invocations := rows db })))
      (stage (fun db => { db with invocations := rows db })) :=
  utters_ask (S := execSig) (.stage _) ⟨rows, rfl⟩

theorem commit_calls (serves : Serves request given kind refuses) {note : Event} (quiet : isSend note = false) :
    Calls request given refuses (fun _ => True) (sessionCommit [note]) := by
  have silent : sentCount [note] = 0 := by simp [sentCount, quiet]
  refine utters_bind (utters_ask (S := execSig) (.commit [note]) silent) (fun (acknowledged : Bool) fits => ?_)
  cases acknowledged with
  | true => exact utters_pure trivial
  | false => exact utters_throw ⟨rfl, serves.commits _ fits⟩

theorem unpriced_calls {α : Type} {post : α → Prop} {other : ModelRequest} :
    Calls request given refuses post (unpriced other : Exec α) := utters_throw trivial

theorem begin_attempt_calls (serves : Serves request given kind refuses) (ledger : SqlUsageProvider)
    {worstCase : ModelInvocationTelemetry} : Calls request given refuses (fun _ => True) (ledger.beginAttempt worstCase) := by
  refine utters_bind (utters_ask (S := execSig) .newId trivial) (fun attemptId _ => ?_)
  refine utters_bind (stage_calls _) (fun _ _ => ?_)
  exact utters_bind (commit_calls serves rfl) (fun _ _ => utters_pure trivial)

theorem finish_calls (serves : Serves request given kind refuses)
    {outcome : ModelInvocationTelemetry} : Calls request given refuses (fun _ => True) (finish call attemptId outcome) := by
  unfold finish
  split
  · exact utters_bind (stage_calls _) (fun _ _ => commit_calls serves rfl)
  · exact utters_pure trivial

theorem write_ahead_calls (serves : Serves request given kind refuses) :
    Calls request given refuses (fun _ => True) (writeAhead call) := by
  unfold writeAhead
  split
  · exact utters_pure trivial
  · split
    · exact unpriced_calls
    · exact utters_bind (begin_attempt_calls serves _) (fun _ _ => utters_pure trivial)

-- A response that comes back is one the provider gave.
def Genuine (kind : ModelResponse → Prop) (result : ModelGateway.Attempt) : Prop :=
  ∀ response, result.outcome = .response response → kind response

variable {failed : List ModelInvocationTelemetry} {usage : BudgetUsage}

theorem settle_error_calls (serves : Serves request given kind refuses) {started : ℚ} {error : ProviderError} :
    Calls request given refuses (Genuine kind) (ModelGateway.settleError call attemptId started failed error) := by
  have records : Calls request given refuses (fun _ => True) (ModelGateway.recordError call error) := by
    unfold ModelGateway.recordError
    split
    · exact utters_pure trivial
    · exact utters_weaken (fun _ fine => fine) (fun _ _ fits => fits) (fun _ _ => trivial) (fun _ raised => raised)
        (utters_ask (S := execSig) (.recordFailure _) trivial)
  have estimates (elapsed : ℚ) : Calls request given refuses (fun _ => True) (failedAttemptTelemetry call error elapsed) := by
    unfold failedAttemptTelemetry
    split
    · exact unpriced_calls
    · exact utters_pure trivial
  refine utters_bind records (fun _ _ => utters_bind now_calls (fun ended _ => utters_bind (estimates _) (fun telemetry _ => ?_)))
  refine utters_bind (finish_calls serves) (fun _ _ => utters_pure (fun response same => ?_))
  cases same

theorem attempt_calls (serves : Serves request given kind refuses) (own : call.request = request) (number : Nat) :
    Calls request given refuses (Genuine kind) (ModelGateway.attempt call number failed) := by
  subst own
  refine utters_bind (write_ahead_calls serves) (fun attemptId _ => utters_bind now_calls (fun started _ => ?_))
  refine utters_bind (utters_ask (S := execSig) (.send attemptId number call.request) rfl) (fun (outcome : ProviderOutcome) fits => ?_)
  cases outcome with
  | response response =>
      refine utters_bind (utters_ask (S := execSig) (.recordSuccess _) trivial) (fun _ _ => utters_pure (fun other same => ?_))
      obtain rfl := ProviderOutcome.response.inj same
      exact serves.responds _ _ _ fits
  | error error => exact settle_error_calls serves

theorem succeed_calls (serves : Serves request given kind refuses) (gateway : ModelGateway) (call : Call)
    (attemptId : Option Nat) {response : ModelResponse} (genuine : kind response)
    (failed : List ModelInvocationTelemetry) :
    Calls request given refuses (fun outcome => kind outcome.response) (gateway.succeed call attemptId response number failed) := by
  unfold ModelGateway.succeed
  split
  · exact unpriced_calls
  · exact utters_bind (finish_calls serves) (fun _ _ => utters_pure genuine)

theorem check_circuit_calls (failed : List ModelInvocationTelemetry) :
    Calls request given refuses (fun _ => True) (ModelGateway.checkCircuit call failed) := by
  refine utters_bind (utters_ask (S := execSig) (.beforeCall _) trivial) (fun (refused : Option ℚ) _ => ?_)
  cases refused with
  | none => exact utters_pure trivial
  | some retryAfter => exact utters_throw trivial

theorem before_retry_calls (call : Call) (policy : BudgetPolicy) (usage : BudgetUsage)
    (failed : List ModelInvocationTelemetry) :
    Calls request given refuses (fun _ => True) (gateway.beforeRetry call policy usage number failed) := by
  unfold ModelGateway.beforeRetry ModelGateway.requireRetryBudget
  split
  · refine utters_bind now_calls (fun time _ => ?_)
    dsimp only
    split
    · exact utters_pure trivial
    · exact utters_throw trivial
  · exact utters_pure trivial

-- By induction on the attempts left in the loop.
theorem attempts_call (serves : Serves request given kind refuses) (own : call.request = request) (policy : BudgetPolicy)
    (left number : Nat) (failed : List ModelInvocationTelemetry) (lastError : Option ProviderError) :
    Calls request given refuses (fun outcome => kind outcome.response)
      (gateway.attempts call policy usage left number failed lastError) := by
  induction left generalizing number failed lastError with
  | zero => exact utters_throw trivial
  | succ left ih =>
      refine utters_bind (check_circuit_calls failed) (fun _ _ => ?_)
      refine utters_bind (attempt_calls serves own number) (fun result genuine => ?_)
      cases outcome : result.outcome with
      | response response => exact succeed_calls serves gateway call _ (genuine response outcome) _
      | error error =>
          dsimp only
          split
          · exact utters_throw trivial
          · exact utters_bind (before_retry_calls call policy usage _)
              (fun _ _ => ih (number + 1) result.failed (some error))

theorem generate_calls (serves : Serves request given kind refuses) {gateway : ModelGateway} {policy : BudgetPolicy}
    {isRetry : Bool} {ledger : Option SqlUsageProvider} :
    Calls request given refuses (fun outcome => kind outcome.response)
      (gateway.generate request policy usage isRetry ledger) := by
  have admits : Calls request given refuses (fun call => call.request = request)
      (gateway.admitCall request policy usage isRetry ledger) := by
    unfold ModelGateway.admitCall
    split
    · split
      · exact utters_throw trivial
      · dsimp only
        split
        · exact utters_bind now_calls (fun _ _ => utters_pure rfl)
        · exact utters_throw trivial
    · exact utters_throw trivial
  exact utters_bind admits (fun call own => attempts_call serves own policy _ _ _ _)

end

end AiWorld.Executor
