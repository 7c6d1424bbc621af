import AiWorld.Executor.Ledger

set_option autoImplicit false

namespace AiWorld.Executor

open AiWorld.Concurrency AiWorld.Gateway

variable {call : Call} {error : ProviderError} {failed : List ModelInvocationTelemetry}

abbrev charging : Contract machine Unit := contract Ledger (fun _ _ => True)

-- The session holds no row of the ledger that is not committed.
def Synced (w : World) : Prop := w.session.invocations = w.committed.invocations

structure Open (id : Nat) (cost : Option ℚ) (w : World) : Prop where
  synced : Synced w
  begun : .begun id ∈ w.trace
  unsent : ∀ number request outcome, .sent (some id) number request outcome ∉ w.trace
  pending : .finished id ∉ w.trace
  worst : ∀ row ∈ w.committed.invocations, row.id = id → some row.values.estimatedCost = cost

structure InFlight (id : Nat) (request : ModelRequest) (outcome : ProviderOutcome) (w : World) : Prop where
  synced : Synced w
  sent : ∃ number, .sent (some id) number request outcome ∈ w.trace

theorem synced_rollsBack (w : World) : Synced w.rollsBack := rfl

theorem begin_attempt_charges {ledger : SqlUsageProvider} {worstCase : ModelInvocationTelemetry} :
    Raises charging 0 () Synced (ledger.beginAttempt worstCase)
      (fun id => Open id (some worstCase.estimatedCost)) (fun _ => Synced) := by
  unfold SqlUsageProvider.beginAttempt
  refine raises_bind (fun id w => Synced w ∧ id < w.nextId ∧ ∀ row ∈ w.committed.invocations, row.id < id)
    (raises_newId ?_) (fun id => ?_)
  · intro w synced ledger
    exact ⟨⟨ledger_same ledger rfl rfl (Nat.le_succ _), trivial⟩, synced, Nat.lt_succ_self _, ledger.fresh⟩
  refine raises_bind (fun _ w => w.session.invocations = w.committed.invocations ++ [⟨id, ledger.tenantId,
    ledger.missionId, ledger.taskId, ledger.agentId, rowValues worstCase⟩] ∧ id < w.nextId ∧
    ∀ row ∈ w.committed.invocations, row.id < id) (raises_stage _ ?_) (fun _ => ?_)
  · rintro w ⟨synced, known, new⟩ ledger
    refine ⟨⟨ledger_same ledger rfl rfl le_rfl, trivial⟩, ?_, known, new⟩
    simp only [World.stages, synced.symm]
  refine raises_bind (fun _ => Open id (some worstCase.estimatedCost)) (raises_commit ?_ ?_)
    (fun _ => raises_pure id (fun _ opened => opened))
  · rintro w ⟨staged, known, new⟩ ledger
    refine ⟨⟨ledger_begins ledger staged rfl new known, trivial⟩, ⟨rfl, by simp [World.commits], ?_, ?_, ?_⟩, rfl⟩
    · intro number request outcome sent
      obtain ⟨_, same, begun⟩ := ledger_sent_begun ledger
        (show .sent (some id) number request outcome ∈ w.trace by simpa [World.commits] using sent)
      obtain ⟨row, present, listed⟩ := ledger.begun _ begun
      have := new row present
      have := Option.some.inj same
      omega
    · intro finished
      obtain ⟨row, present, listed⟩ := ledger.begun id (ledger.finished id (by simpa [World.commits] using finished))
      have := new row present
      omega
    · intro row present same
      rcases List.mem_append.mp (staged ▸ present) with old | added
      · have := new row old
        omega
      · obtain rfl := List.mem_singleton.mp added
        rfl
  · rintro w _ ledger
    exact ⟨⟨ledger_same ledger rfl rfl le_rfl, trivial⟩, synced_rollsBack w⟩

theorem finish_charges {ledger : SqlUsageProvider} (supplied : call.ledger = some ledger) {id : Nat} {request : ModelRequest}
    {outcome : ProviderOutcome} {telemetry : ModelInvocationTelemetry}
    (settled : some telemetry.estimatedCost = settledCost request outcome) :
    Raises charging 0 () (InFlight id request outcome) (finish call (some id) telemetry)
      (fun _ => Synced) (fun _ => Synced) := by
  simp only [finish, supplied, SqlUsageProvider.finishAttempt]
  refine raises_bind (fun _ w => w.session.invocations = w.committed.invocations.map
    (SqlUsageProvider.setValues id (rowValues telemetry)) ∧ ∃ number, .sent (some id) number request outcome ∈ w.trace)
    (raises_stage _ ?_) (fun _ => raises_commit ?_ ?_)
  · rintro w ⟨synced, sent⟩ ledger
    refine ⟨⟨ledger_same ledger rfl rfl le_rfl, trivial⟩, ?_, sent⟩
    simp only [World.stages, synced.symm]
  · rintro w ⟨staged, number, sent⟩ ledger
    exact ⟨⟨ledger_finishes ledger staged sent settled, trivial⟩, rfl, rfl⟩
  · rintro w _ ledger
    exact ⟨⟨ledger_same ledger rfl rfl le_rfl, trivial⟩, synced_rollsBack w⟩

theorem write_ahead_charges {ledger : SqlUsageProvider} (supplied : call.ledger = some ledger) :
    Raises charging 0 () Synced (writeAhead call)
      (fun attempt w => ∃ id, attempt = some id ∧ Open id (worstCaseCost call.request) w) (fun _ => Synced) := by
  simp only [writeAhead, supplied]
  cases priced : estimateWorstCaseAttempt call.request with
  | none => exact raises_throw _ (fun _ synced => synced)
  | some worst =>
      obtain ⟨tokensIn, tokensOut, cost⟩ := worst
      refine raises_bind _ (begin_attempt_charges) (fun id => raises_pure _ (fun w opened => ⟨id, rfl, ?_⟩))
      simpa [worstCaseCost, priced] using opened

theorem failed_telemetry_charges {elapsed : ℚ} {id : Nat} :
    Raises charging 0 () (InFlight id call.request (.error error)) (failedAttemptTelemetry call error elapsed)
      (fun telemetry w => some telemetry.estimatedCost = settledCost call.request (.error error) ∧
        InFlight id call.request (.error error) w) (fun _ => Synced) := by
  unfold failedAttemptTelemetry
  cases priced : estimateFailedAttempt call.request error with
  | none => exact raises_throw _ (fun _ flying => flying.synced)
  | some estimate =>
      obtain ⟨tokensIn, tokensOut, cost⟩ := estimate
      refine raises_pure _ (fun w flying => ⟨?_, flying⟩)
      by_cases unbilled : isProvablyUnbilled error
      · simp only [estimateFailedAttempt, unbilled, if_true, Option.some.injEq, Prod.mk.injEq] at priced
        simp [settledCost, unbilled, ← priced.2.2]
      · have worst : estimateWorstCaseAttempt call.request = some (tokensIn, tokensOut, cost) := by
          simpa [estimateFailedAttempt, unbilled] using priced
        simp [settledCost, unbilled, worstCaseCost, worst]

theorem in_flight_breaks {id : Nat} {request : ModelRequest} {outcome : ProviderOutcome} {w : World}
    (flying : InFlight id request outcome w) (breaker : CircuitBreaker) : InFlight id request outcome (w.breaks breaker) :=
  ⟨flying.synced, flying.sent⟩

theorem settle_error_charges {ledger : SqlUsageProvider} (supplied : call.ledger = some ledger) {id : Nat} {started : ℚ}
    {failed : List ModelInvocationTelemetry} :
    Raises charging 0 () (InFlight id call.request (.error error))
      (ModelGateway.settleError call (some id) started failed error)
      (fun result w => result.outcome = .error error ∧ Synced w) (fun _ => Synced) := by
  unfold ModelGateway.settleError
  refine raises_bind (fun _ => InFlight id call.request (.error error)) ?_ (fun _ => ?_)
  · unfold ModelGateway.recordError
    split
    · exact raises_pure _ (fun _ flying => flying)
    · exact raises_recordFailure (fun w breaker flying ledger =>
        ⟨⟨ledger_same ledger rfl rfl le_rfl, trivial⟩, in_flight_breaks flying breaker⟩)
  refine raises_bind (fun _ => InFlight id call.request (.error error))
    (raises_now (fun _ => trivial) (fun _ _ flying _ => flying)) (fun ended => ?_)
  refine raises_bind _ (failed_telemetry_charges) (fun telemetry => ?_)
  -- the charge is a fact about the telemetry alone, so it leaves the assertion here
  rintro w ⟨settled, flying⟩
  refine raises_bind _ (finish_charges supplied settled)
    (fun _ => raises_pure _ (fun _ synced => ⟨rfl, synced⟩)) w flying

-- After a response the row is still at its worst case; after an error it is settled.
def Attempted (request : ModelRequest) (result : ModelGateway.Attempt) (w : World) : Prop :=
  match result.outcome with
  | .response response => ∃ id, result.attemptId = some id ∧ InFlight id request (.response response) w
  | .error _ => Synced w

theorem attempt_charges {ledger : SqlUsageProvider} (supplied : call.ledger = some ledger) {number : Nat}
    (failed : List ModelInvocationTelemetry) :
    Raises charging 0 () Synced (ModelGateway.attempt call number failed) (Attempted call.request) (fun _ => Synced) := by
  unfold ModelGateway.attempt
  refine raises_bind _ (write_ahead_charges supplied) (fun attempt => ?_)
  rintro w ⟨id, rfl, opened⟩
  refine raises_bind (fun _ => Open id (worstCaseCost call.request))
    (raises_now (fun _ => trivial) (fun _ _ opened _ => opened)) (fun started => ?_) w opened
  refine raises_bind (fun outcome => InFlight id call.request outcome) (raises_send ?_) (fun outcome => ?_)
  · intro w outcome opened ledger
    exact ⟨⟨ledger_sends ledger opened.begun opened.unsent opened.pending opened.worst number outcome, trivial⟩,
      opened.synced, number, by simp [World.sends]⟩
  cases outcome with
  | response response =>
      refine raises_bind (fun _ => InFlight id call.request (.response response))
        (raises_recordSuccess (fun w breaker flying ledger =>
          ⟨⟨ledger_same ledger rfl rfl le_rfl, trivial⟩, in_flight_breaks flying breaker⟩))
        (fun _ => raises_pure _ (fun _ flying => ⟨id, rfl, flying⟩))
  | error error =>
      refine raises_weaken (settle_error_charges supplied) (fun _ flying => flying)
        (fun result w settled => ?_) (fun _ _ synced => synced)
      simpa only [Attempted, settled.1] using settled.2

theorem succeed_charges {gateway : ModelGateway} {ledger : SqlUsageProvider} (supplied : call.ledger = some ledger)
    (id number : Nat) (response : ModelResponse) :
    Raises charging 0 () (InFlight id call.request (.response response))
      (gateway.succeed call (some id) response number failed) (fun _ => Synced) (fun _ => Synced) := by
  unfold ModelGateway.succeed
  cases priced : estimateCostUsd call.request.provider call.request.model response.inputTokens response.outputTokens with
  | none => exact raises_throw _ (fun _ flying => flying.synced)
  | some cost =>
      exact raises_bind _ (finish_charges supplied
        (by simp only [settledCost, priced])) (fun _ => raises_pure _ (fun _ synced => synced))

theorem check_circuit_charges (call : Call) : Keeps charging 0 () Synced (ModelGateway.checkCircuit call failed) := by
  unfold ModelGateway.checkCircuit
  refine keeps_bind (raises_beforeCall (fun w _ _ synced ledger =>
    ⟨⟨ledger_same ledger rfl rfl le_rfl, trivial⟩, synced⟩)) (fun refused => ?_)
  cases refused with
  | none => exact keeps_pure
  | some retryAfter => exact keeps_throw

theorem before_retry_charges (gateway : ModelGateway) (call : Call) {policy : BudgetPolicy} (usage : BudgetUsage)
    (number : Nat) : Keeps charging 0 () Synced (gateway.beforeRetry call policy usage number failed) := by
  unfold ModelGateway.beforeRetry ModelGateway.requireRetryBudget
  split
  · refine keeps_bind (raises_now (fun _ => trivial) (fun _ _ synced _ => synced)) (fun time => ?_)
    dsimp only
    split
    · exact keeps_pure
    · exact keeps_throw
  · exact keeps_pure

theorem attempts_charge {gateway : ModelGateway} {ledger : SqlUsageProvider} (supplied : call.ledger = some ledger)
    (policy : BudgetPolicy) {usage : BudgetUsage} (left number : Nat) (failed : List ModelInvocationTelemetry)
    (lastError : Option ProviderError) :
    Keeps charging 0 () Synced (gateway.attempts call policy usage left number failed lastError) := by
  induction left generalizing number failed lastError with
  | zero => exact keeps_throw
  | succ left ih =>
      refine keeps_bind (check_circuit_charges call) (fun _ => ?_)
      refine raises_bind _ (attempt_charges supplied failed) (fun result => ?_)
      obtain ⟨attemptId, outcome, failedNow⟩ := result
      cases outcome with
      | response response =>
          rintro w ⟨id, rfl, flying⟩
          exact succeed_charges supplied id number response w flying
      | error error =>
          dsimp only
          split
          · exact keeps_throw
          · exact keeps_bind (before_retry_charges gateway call usage number)
              (fun _ => ih (number + 1) failedNow (some error))

theorem generate_charges (gateway : ModelGateway) (request : ModelRequest) (policy : BudgetPolicy) (usage : BudgetUsage)
    (isRetry : Bool) (ledger : SqlUsageProvider) :
    Keeps charging 0 () Synced (gateway.generate request policy usage isRetry (some ledger)) := by
  refine raises_bind (fun call w => call.ledger = some ledger ∧ Synced w) ?_ (fun call => ?_)
  · unfold ModelGateway.admitCall
    split
    · split
      · exact raises_throw _ (fun _ synced => synced)
      · dsimp only
        split
        · exact raises_bind _ (raises_now (fun _ => trivial) (fun _ _ synced _ => synced))
            (fun _ => raises_pure _ (fun _ synced => ⟨rfl, synced⟩))
        · exact raises_throw _ (fun _ synced => synced)
    · exact raises_throw _ (fun _ synced => synced)
  · rintro w ⟨supplied, synced⟩
    exact attempts_charge supplied policy _ _ _ _ w synced

-- An HTTP 4xx rejection other than 408.
def Rejected (error : ProviderError) : Prop :=
  ∃ status, error.statusCode = some status ∧ 400 ≤ status ∧ status < 500 ∧ status ≠ 408

theorem provably_unbilled_iff (error : ProviderError) : isProvablyUnbilled error = true ↔ Rejected error := by
  unfold isProvablyUnbilled Rejected
  cases code : error.statusCode with
  | none => simp
  | some status => simp

-- The charge of the row of a started request, by what the provider did.
structure Charge (u : World) (id : Nat) (request : ModelRequest) (outcome : ProviderOutcome) (cost : ℚ) : Prop where
  unfinished : .finished id ∉ u.trace → some cost = worstCaseCost request
  answered : .finished id ∈ u.trace → ∀ response, outcome = .response response →
    some cost = estimateCostUsd request.provider request.model response.inputTokens response.outputTokens
  rejected : .finished id ∈ u.trace → ∀ error, outcome = .error error → Rejected error → cost = 0
  billable : .finished id ∈ u.trace → ∀ error, outcome = .error error → ¬ Rejected error →
    some cost = worstCaseCost request

variable {u : World}

theorem ledger_charge (ledger : Ledger u) {id number : Nat} {request : ModelRequest} {outcome : ProviderOutcome}
    {row : ModelInvocation} (sent : .sent (some id) number request outcome ∈ u.trace)
    (present : row ∈ u.committed.invocations) (same : row.id = id) : Charge u id request outcome row.values.estimatedCost := by
  have charged := ledger.charged id number request outcome sent row present same
  refine ⟨fun pending => ?_, fun done response answered => ?_, fun done error failed rejected => ?_,
    fun done error failed billable => ?_⟩
  · simpa [pending] using charged
  · subst answered
    simpa [done, settledCost] using charged
  · subst failed
    simpa [done, settledCost, (provably_unbilled_iff error).mpr rejected] using charged
  · subst failed
    have unproved : isProvablyUnbilled error = false := by simpa [← provably_unbilled_iff] using billable
    simpa [done, settledCost, unproved] using charged

theorem ledger_row_unique (ledger : Ledger u) {row other : ModelInvocation} (present : row ∈ u.committed.invocations)
    (listed : other ∈ u.committed.invocations) (same : other.id = row.id) : other = row :=
  List.inj_on_of_nodup_map ledger.distinct listed present same

theorem ledger_empty_trace (w : World) (quiet : w.trace = []) (fresh : ∀ row ∈ w.committed.invocations, row.id < w.nextId)
    (distinct : (w.committed.invocations.map (fun row => row.id)).Nodup) : Ledger w where
  fresh := fresh
  distinct := distinct
  begun := by simp [quiet]
  finished := by simp [quiet]
  ahead := by simp [quiet]
  once := by simp [quiet]
  charged := by simp [quiet]

def afterGenerate (gateway : ModelGateway) (request : ModelRequest) (policy : BudgetPolicy) (usage : BudgetUsage)
    (isRetry : Bool) (ledger : SqlUsageProvider) (choices : List Choice) (w : World) : World :=
  (machine.drive 0 choices (gateway.generate request policy usage isRetry (some ledger)).run w).2

-- The choices say what the provider and each commit do, and where the call is cut off.
theorem write_ahead_charging (gateway : ModelGateway) (request : ModelRequest) (policy : BudgetPolicy)
    (usage : BudgetUsage) (isRetry : Bool) (ledger : SqlUsageProvider) (w : World) (quiet : w.trace = [])
    (synced : Synced w) (fresh : ∀ row ∈ w.committed.invocations, row.id < w.nextId)
    (distinct : (w.committed.invocations.map (fun row => row.id)).Nodup) (choices : List Choice) :
    ((afterGenerate gateway request policy usage isRetry ledger choices w).trace.filterMap sentId).Nodup ∧
    ∀ before after attempt number asked outcome,
      (afterGenerate gateway request policy usage isRetry ledger choices w).trace =
          before ++ .sent attempt number asked outcome :: after →
        ∃ row ∈ (afterGenerate gateway request policy usage isRetry ledger choices w).committed.invocations,
          attempt = some row.id ∧ .begun row.id ∈ before ∧
          (∀ other ∈ (afterGenerate gateway request policy usage isRetry ledger choices w).committed.invocations,
            other.id = row.id → other = row) ∧
          Charge (afterGenerate gateway request policy usage isRetry ledger choices w) row.id asked outcome
            row.values.estimatedCost := by
  have start := ledger_empty_trace w quiet fresh distinct
  have safe := generate_charges gateway request policy usage isRetry ledger w synced
  have kept : Ledger (afterGenerate gateway request policy usage isRetry ledger choices w) :=
    (drive_safe (fun _ => trivial) (fun _ _ _ _ _ => trivial) 0 choices _ w start safe).1
  refine ⟨kept.once, fun before after attempt number asked outcome split => ?_⟩
  obtain ⟨id, rfl, begun⟩ := kept.ahead before after attempt number asked outcome split
  obtain ⟨row, present, rfl⟩ := kept.begun id (by simp [split, begun])
  have sent : .sent (some row.id) number asked outcome ∈
      (afterGenerate gateway request policy usage isRetry ledger choices w).trace := by simp [split]
  exact ⟨row, present, rfl, begun, fun other listed same => ledger_row_unique kept present listed same,
    ledger_charge kept sent present rfl⟩

namespace Sample

def gateway : ModelGateway := { providers := ["openai"], sha256Hex := id, modelDumpJson := fun request => request.userPrompt }

def request : ModelRequest :=
  { provider := "openai", model := "gpt-4o", systemPrompt := "system", userPrompt := "user", maxOutputTokens := 100 }

def db : TaskDb where
  task := ⟨3, "title", "instructions", "", {}, .queued, 0, none⟩
  mission := ⟨2, 1, "objective", .running⟩

def world : World := { committed := db, session := db, nextId := 10 }

def ledger : SqlUsageProvider := ⟨1, 2, 3, 4, 0⟩

def timeout : ProviderOutcome := .error { message := "timed out" }

def answer : ProviderOutcome := .response ⟨"text", 5, 7, 20, "openai", "gpt-4o", false⟩

def unavailable : ProviderOutcome := .error { statusCode := some 503, message := "unavailable" }

def quietChoices (count : Nat) (outcome : ProviderOutcome) : List Choice := List.replicate count { outcome := outcome }

end Sample

-- A timeout, then an answer whose row could not be finished.
theorem write_ahead_charging_sample :
    (afterGenerate Sample.gateway Sample.request {} {} false Sample.ledger
        (Sample.quietChoices 12 Sample.timeout ++ Sample.quietChoices 8 Sample.answer) Sample.world).trace =
      [.begun 10, .sent (some 10) 1 Sample.request Sample.timeout, .finished 10,
        .begun 11, .sent (some 11) 2 Sample.request Sample.answer] ∧
    ((afterGenerate Sample.gateway Sample.request {} {} false Sample.ledger
        (Sample.quietChoices 12 Sample.timeout ++ Sample.quietChoices 8 Sample.answer) Sample.world).trace.filterMap
          sentId).Nodup :=
  ⟨by decide +kernel, (write_ahead_charging Sample.gateway Sample.request {} {} false Sample.ledger Sample.world rfl rfl
    (by decide) (by decide) _).1⟩

end AiWorld.Executor
