import AiWorld.Executor.Ceilings

set_option autoImplicit false

namespace AiWorld.Executor

open AiWorld.Concurrency AiWorld.Gateway

variable {call : Call} {ledger : SqlUsageProvider} {request : ModelRequest}

-- What holds of the session between two statements of an attempt.
structure Working (policy : BudgetPolicy) (w : World) : Prop where
  synced : Synced w
  policed : Policed policy w.session

section
variable {policy : BudgetPolicy} {usage : BudgetUsage} {failed : List ModelInvocationTelemetry} {number : Nat} {worst : ℚ}

theorem working_rollsBack {w : World} (ceilings : Ceilings policy w) : Working policy w.rollsBack :=
  ⟨rfl, ceilings.policed⟩

theorem begin_attempt_bounded {worstCase : ModelInvocationTelemetry} (room : Room policy usage failed number worst)
    (cost : worstCase.estimatedCost = worst) :
    Raises (bounding policy) 0 () (fun w => Working policy w ∧ Tally usage failed number w) (ledger.beginAttempt worstCase)
      (fun id w => Working policy w ∧ Pending policy usage failed number (number - 2) id w)
      (fun _ => Working policy) := by
  unfold SqlUsageProvider.beginAttempt
  refine raises_bind (fun id w => Working policy w ∧ Tally usage failed number w ∧ id < w.nextId ∧
    ∀ row ∈ w.committed.invocations, row.id < id) (raises_newId ?_) (fun id => ?_)
  · intro w holds ceilings
    obtain ⟨working, tally⟩ := holds
    exact ⟨⟨ceilings_same ceilings rfl rfl (Nat.le_succ _), trivial⟩, ⟨working.synced, working.policed⟩,
      ⟨tally.counts, tally.numbered, tally.earlier⟩, Nat.lt_succ_self _, ceilings.fresh⟩
  refine raises_bind (fun _ w => w.session.invocations = w.committed.invocations ++ [⟨id, ledger.tenantId,
    ledger.missionId, ledger.taskId, ledger.agentId, rowValues worstCase⟩] ∧ Policed policy w.session ∧
    Tally usage failed number w ∧ id < w.nextId ∧ ∀ row ∈ w.committed.invocations, row.id < id)
    (raises_stage _ ?_) (fun _ => ?_)
  · intro w holds ceilings
    obtain ⟨working, tally, known, older⟩ := holds
    refine ⟨⟨ceilings_same ceilings rfl rfl le_rfl, trivial⟩, ?_, ⟨working.policed.task, working.policed.checkpoints⟩,
      ⟨tally.counts, tally.numbered, tally.earlier⟩, known, older⟩
    have synced : w.session.invocations = w.committed.invocations := working.synced
    simp only [World.stages, synced]
  refine raises_bind (fun _ w => Working policy w ∧ Pending policy usage failed number (number - 2) id w)
    (raises_commit ?_ ?_) (fun _ => raises_pure id (fun _ holds => holds))
  · intro w holds ceilings
    obtain ⟨staged, policed, tally, known, older⟩ := holds
    obtain ⟨kept, pending⟩ := ceilings_begins ceilings tally room staged policed cost older known
    exact ⟨⟨kept, trivial⟩, ⟨⟨rfl, policed⟩, pending⟩, ⟨rfl, policed⟩⟩
  · intro w _ ceilings
    exact ⟨⟨ceilings_same ceilings rfl rfl le_rfl, trivial⟩, working_rollsBack ceilings⟩

theorem write_ahead_bounded (supplied : call.ledger = some ledger) (room : Room policy usage failed number worst)
    (priced : worstCaseCost call.request = some worst) :
    Raises (bounding policy) 0 () (fun w => Working policy w ∧ Tally usage failed number w) (writeAhead call)
      (fun attempt w => ∃ id, attempt = some id ∧ Working policy w ∧ Pending policy usage failed number (number - 2) id w)
      (fun _ => Working policy) := by
  simp only [writeAhead, supplied]
  cases estimate : estimateWorstCaseAttempt call.request with
  | none => exact raises_throw _ (fun _ holds => holds.1)
  | some triple =>
      obtain ⟨tokensIn, tokensOut, cost⟩ := triple
      have same : cost = worst := by simpa [worstCaseCost, estimate] using priced
      exact raises_bind _ (begin_attempt_bounded room same)
        (fun id => raises_pure _ (fun _ holds => ⟨id, rfl, holds⟩))

-- The attempt's request is out: its row stands last and counts as sent.
structure Flying (policy : BudgetPolicy) (usage : BudgetUsage) (failed : List ModelInvocationTelemetry) (number id : Nat)
    (request : ModelRequest) (outcome : ProviderOutcome) (w : World) : Prop where
  working : Working policy w
  pending : Pending policy usage failed number (number - 1) id w
  sent : .sent (some id) number request outcome ∈ w.trace

-- The row as the finishing commit leaves it.
structure Settled (policy : BudgetPolicy) (usage : BudgetUsage) (failed : List ModelInvocationTelemetry) (number : Nat)
    (values : RowValues) (w : World) : Prop where
  working : Working policy w
  earlier : (retriesSent w.trace : Int) ≤ usage.retriesMade + (number - 1 : Nat)
  numbered : failed.length + 1 = number
  rows : ∃ rows row, w.committed.invocations = rows ++ [row] ∧ row.values = values ∧ Counts usage failed rows

variable {outcome : ProviderOutcome} {telemetry : ModelInvocationTelemetry} {error : ProviderError} {gateway : ModelGateway}

theorem finish_bounded (supplied : call.ledger = some ledger) {id : Nat}
    (room : Room policy usage failed number worst)
    (within : ∀ w, Flying policy usage failed number id request outcome w → Affordable w.trace →
      telemetry.estimatedCost ≤ worst ∨ telemetry.estimatedCost = 0) :
    Raises (bounding policy) 0 () (Flying policy usage failed number id request outcome) (finish call (some id) telemetry)
    (fun _ => Settled policy usage failed number (rowValues telemetry)) (fun _ => Working policy) := by
  simp only [finish, supplied, SqlUsageProvider.finishAttempt]
  refine raises_bind (fun _ w => w.session.invocations = w.committed.invocations.map
      (SqlUsageProvider.setValues id (rowValues telemetry)) ∧ Policed policy w.session ∧
      Pending policy usage failed number (number - 1) id w ∧
      (Affordable w.trace → telemetry.estimatedCost ≤ worst ∨ telemetry.estimatedCost = 0))
    (raises_stage _ ?_) (fun _ => raises_commit ?_ ?_)
  · intro w flying ceilings
    have working := flying.working
    have pending := flying.pending
    have synced : w.session.invocations = w.committed.invocations := working.synced
    refine ⟨⟨ceilings_same ceilings rfl rfl le_rfl, trivial⟩, ?_, ⟨working.policed.task, working.policed.checkpoints⟩,
      ⟨pending.numbered, pending.earlier, pending.rows⟩, within w flying⟩
    simp only [World.stages, synced]
  · intro w holds ceilings
    obtain ⟨staged, policed, pending, cheap⟩ := holds
    obtain ⟨kept, rows, row, listed, values, counted, earlier⟩ :=
      ceilings_finishes ceilings pending room staged policed cheap
    exact ⟨⟨kept, trivial⟩, ⟨⟨rfl, policed⟩, earlier, pending.numbered, rows, row, listed, values, counted⟩, ⟨rfl, policed⟩⟩
  · intro w _ ceilings
    exact ⟨⟨ceilings_same ceilings rfl rfl le_rfl, trivial⟩, working_rollsBack ceilings⟩

theorem settled_failure {w : World} (settled : Settled policy usage failed number (rowValues telemetry) w)
    (failure : telemetry.status = .failed) : Tally usage (failed ++ [telemetry]) (number + 1) w := by
  obtain ⟨rows, row, listed, values, counted⟩ := settled.rows
  have earlier := settled.earlier
  have numbered := settled.numbered
  have calls := counted.calls
  have retries := counted.retries
  have unfinished : row.values.status ≠ .completed := by simp [values, rowValues, failure]
  refine ⟨⟨?_, ?_, ?_⟩, by simpa using numbered, ?_⟩
  · rw [listed]
    simp only [List.length_append, List.length_singleton]
    push_cast
    omega
  · rw [listed, total_cost_snoc, counted.cost, values]
    simp only [rowValues, List.map_append, List.map_cons, List.map_nil, List.sum_append, List.sum_cons, List.sum_nil]
    linarith
  · rw [listed, not_completed_snoc, if_neg unfinished]
    simp only [List.length_append, List.length_singleton]
    push_cast
    omega
  · have shift : number + 1 - 2 = number - 1 := by omega
    rw [shift]
    exact earlier

theorem flying_breaks {id : Nat} {request : ModelRequest} {w : World}
    (flying : Flying policy usage failed number id request outcome w) (breaker : CircuitBreaker) :
    Flying policy usage failed number id request outcome (w.breaks breaker) :=
  ⟨⟨flying.working.synced, flying.working.policed⟩,
    ⟨flying.pending.numbered, flying.pending.earlier, flying.pending.rows⟩, flying.sent⟩

theorem failed_estimate_within {tokensIn tokensOut : Int} {cost : ℚ} (priced : worstCaseCost request = some worst)
    (estimate : estimateFailedAttempt request error = some (tokensIn, tokensOut, cost)) : cost ≤ worst ∨ cost = 0 := by
  by_cases unbilled : isProvablyUnbilled error
  · have free : (0, 0, 0) = (tokensIn, tokensOut, cost) := by simpa [estimateFailedAttempt, unbilled] using estimate
    exact .inr (congrArg (fun triple => triple.2.2) free).symm
  · have same : estimateWorstCaseAttempt request = some (tokensIn, tokensOut, cost) := by
      simpa [estimateFailedAttempt, unbilled] using estimate
    have equal : cost = worst := by simpa [worstCaseCost, same] using priced
    exact .inl equal.le

-- After a response the row is still to be finished; after an error it is counted.
def Outcome (policy : BudgetPolicy) (usage : BudgetUsage) (failed : List ModelInvocationTelemetry) (number : Nat)
    (request : ModelRequest) (result : ModelGateway.Attempt) (w : World) : Prop :=
  match result.outcome with
  | .response response => ∃ id, result.attemptId = some id ∧
      Flying policy usage failed number id request (.response response) w
  | .error _ => Working policy w ∧ Tally usage result.failed (number + 1) w

theorem settle_error_bounded (supplied : call.ledger = some ledger) {id : Nat} {started : ℚ}
    (room : Room policy usage failed number worst) (priced : worstCaseCost call.request = some worst) :
    Raises (bounding policy) 0 () (Flying policy usage failed number id call.request (.error error))
      (ModelGateway.settleError call (some id) started failed error)
      (Outcome policy usage failed number call.request) (fun _ => Working policy) := by
  unfold ModelGateway.settleError
  refine raises_bind (fun _ => Flying policy usage failed number id call.request (.error error)) ?_ (fun _ => ?_)
  · unfold ModelGateway.recordError
    split
    · exact raises_pure _ (fun _ flying => flying)
    · exact raises_recordFailure (fun w breaker flying ceilings =>
        ⟨⟨ceilings_same ceilings rfl rfl le_rfl, trivial⟩, flying_breaks flying breaker⟩)
  refine raises_bind (fun _ => Flying policy usage failed number id call.request (.error error))
    (raises_now (fun _ => trivial) (fun _ _ flying _ => flying)) (fun ended => ?_)
  unfold failedAttemptTelemetry
  cases estimate : estimateFailedAttempt call.request error with
  | none => exact raises_bind (fun _ _ => False) (raises_throw _ (fun _ flying => flying.working)) (fun _ _ absurd => absurd.elim)
  | some triple =>
      obtain ⟨tokensIn, tokensOut, cost⟩ := triple
      have cheap := failed_estimate_within priced estimate
      refine raises_bind (fun telemetry w => telemetry.estimatedCost = cost ∧ telemetry.status = .failed ∧
        Flying policy usage failed number id call.request (.error error) w)
        (raises_pure _ (fun _ flying => ⟨rfl, rfl, flying⟩)) (fun telemetry => ?_)
      intro w holds
      obtain ⟨same, failure, flying⟩ := holds
      refine raises_bind _ (finish_bounded supplied room
        (fun _ _ _ => same ▸ cheap)) (fun _ => raises_pure _ (fun u settled => ?_)) w flying
      exact ⟨settled.working, settled_failure settled failure⟩

theorem attempt_bounded (supplied : call.ledger = some ledger) (room : Room policy usage failed number worst)
    (priced : worstCaseCost call.request = some worst) :
    Raises (bounding policy) 0 () (fun w => Working policy w ∧ Tally usage failed number w)
      (ModelGateway.attempt call number failed) (Outcome policy usage failed number call.request)
      (fun _ => Working policy) := by
  unfold ModelGateway.attempt
  refine raises_bind _ (write_ahead_bounded supplied room priced) (fun attempt => ?_)
  intro w holds
  obtain ⟨id, rfl, ready⟩ := holds
  refine raises_bind (fun _ w => Working policy w ∧ Pending policy usage failed number (number - 2) id w)
    (raises_now (fun _ => trivial) (fun _ _ ready _ => ready)) (fun started => ?_) w ready
  refine raises_bind (fun outcome => Flying policy usage failed number id call.request outcome) (raises_send ?_)
    (fun outcome => ?_)
  · intro w outcome ready ceilings
    obtain ⟨working, pending⟩ := ready
    obtain ⟨kept, sent⟩ := ceilings_sends ceilings pending room call.request outcome
    exact ⟨⟨kept, trivial⟩, ⟨working.synced, working.policed⟩, sent, by simp [World.sends]⟩
  cases outcome with
  | response response =>
      exact raises_bind (fun _ => Flying policy usage failed number id call.request (.response response))
        (raises_recordSuccess (fun w breaker flying ceilings =>
          ⟨⟨ceilings_same ceilings rfl rfl le_rfl, trivial⟩, flying_breaks flying breaker⟩))
        (fun _ => raises_pure _ (fun _ flying => ⟨id, rfl, flying⟩))
  | error error => exact settle_error_bounded supplied room priced

theorem succeed_bounded (gateway : ModelGateway) (supplied : call.ledger = some ledger) (id : Nat) {response : ModelResponse}
    (listed : List ModelInvocationTelemetry) (room : Room policy usage failed number worst)
    (priced : worstCaseCost call.request = some worst) :
    Raises (bounding policy) 0 () (Flying policy usage failed number id call.request (.response response))
      (gateway.succeed call (some id) response number listed) (fun _ => Working policy) (fun _ => Working policy) := by
  unfold ModelGateway.succeed
  cases reported : estimateCostUsd call.request.provider call.request.model response.inputTokens response.outputTokens with
  | none => exact raises_throw _ (fun _ flying => flying.working)
  | some cost =>
      refine raises_bind _ (finish_bounded supplied room ?_)
        (fun _ => raises_pure _ (fun _ settled => settled.working))
      intro w flying affordable
      exact .inl (affordable (some id) number call.request response cost worst flying.sent reported priced)

theorem check_circuit_bounded (listed : List ModelInvocationTelemetry) :
    Raises (bounding policy) 0 () (fun w => Working policy w ∧ Tally usage failed number w)
      (ModelGateway.checkCircuit call listed) (fun _ w => Working policy w ∧ Tally usage failed number w)
      (fun _ => Working policy) := by
  unfold ModelGateway.checkCircuit
  refine raises_bind (fun _ w => Working policy w ∧ Tally usage failed number w) (raises_beforeCall ?_) (fun refused => ?_)
  · intro w breaker answer holds ceilings
    obtain ⟨working, tally⟩ := holds
    exact ⟨⟨ceilings_same ceilings rfl rfl le_rfl, trivial⟩, ⟨working.synced, working.policed⟩,
      tally.counts, tally.numbered, tally.earlier⟩
  · cases refused with
    | none => exact raises_pure _ (fun _ holds => holds)
    | some retryAfter => exact raises_throw _ (fun _ holds => holds.1)

-- The check leaves room for the next attempt, unless this was the last one.
theorem before_retry_bounded (previous : Nat) (same : call.worstCaseCostUsd = worst) (assertion : World → Prop)
    (working : ∀ w, assertion w → Working policy w) :
    Raises (bounding policy) 0 () assertion (gateway.beforeRetry call policy usage previous failed)
      (fun _ w => assertion w ∧ (previous < gateway.maxAttempts → Room policy usage failed (previous + 1) worst))
      (fun _ => Working policy) := by
  unfold ModelGateway.beforeRetry ModelGateway.requireRetryBudget
  split
  · refine raises_bind (fun _ => assertion) (raises_now (fun _ => trivial) (fun _ _ holds _ => holds)) (fun time => ?_)
    dsimp only
    split
    · rename_i allowed
      have budget := admitted_within_budget allowed
      refine raises_pure _ (fun w holds => ⟨holds, fun _ => ⟨?_, ?_, fun _ => ?_⟩⟩)
      · exact budget.1
      · exact same ▸ budget.2.1
      · have retries := budget.2.2 rfl
        dsimp only at retries
        push_cast
        omega
    · exact raises_throw _ (fun w holds => working w holds)
  · rename_i last
    exact raises_pure _ (fun w holds => ⟨holds, fun more => absurd more last⟩)

theorem attempts_bounded (supplied : call.ledger = some ledger) (priced : worstCaseCost call.request = some worst)
    (same : call.worstCaseCostUsd = worst) {left : Nat} (lastError : Option ProviderError)
    (count : left + number = gateway.maxAttempts + 1) (room : 0 < left → Room policy usage failed number worst) :
    Raises (bounding policy) 0 () (fun w => Working policy w ∧ Tally usage failed number w)
      (gateway.attempts call policy usage left number failed lastError) (fun _ => Working policy)
      (fun _ => Working policy) := by
  induction left generalizing number failed lastError with
  | zero => exact raises_throw _ (fun _ holds => holds.1)
  | succ left ih =>
      have fits := room (Nat.succ_pos left)
      refine raises_bind _ (check_circuit_bounded failed) (fun _ => ?_)
      refine raises_bind _ (attempt_bounded supplied fits priced) (fun result => ?_)
      obtain ⟨attemptId, outcome, failedNow⟩ := result
      cases outcome with
      | response response =>
          intro w holds
          obtain ⟨id, rfl, flying⟩ := holds
          exact succeed_bounded gateway supplied id failedNow fits priced w flying
      | error error =>
          dsimp only
          split
          · exact raises_throw _ (fun _ holds => holds.1)
          · intro w holds
            refine raises_bind _ (before_retry_bounded number same
              (fun w => Working policy w ∧ Tally usage failedNow (number + 1) w) (fun _ holds => holds.1))
              (fun _ => ?_) w holds
            intro u after
            exact ih (some error) (by omega) (fun more => after.2 (by omega)) u after.1

end

theorem generate_bounded (policy : BudgetPolicy) (gateway : ModelGateway) (request : ModelRequest) (usage : BudgetUsage)
    (isRetry : Bool) (ledger : SqlUsageProvider) :
    Raises (bounding policy) 0 () (fun w => Working policy w ∧ Counts usage [] w.committed.invocations)
      (gateway.generate request policy usage isRetry (some ledger)) (fun _ => Working policy) (fun _ => Working policy) := by
  refine raises_bind (fun call w => (call.ledger = some ledger ∧ worstCaseCost call.request = some call.worstCaseCostUsd ∧
    Room policy usage [] 1 call.worstCaseCostUsd) ∧ Working policy w ∧ Tally usage [] 1 w) ?_ (fun call => ?_)
  · unfold ModelGateway.admitCall
    split
    · split
      · exact raises_throw _ (fun _ holds => holds.1)
      · rename_i tokensIn tokensOut worst estimate
        dsimp only
        split
        · rename_i allowed
          have budget := admitted_within_budget allowed
          refine raises_bind (fun _ w => Working policy w ∧ Tally usage [] 1 w)
            (raises_now (fun _ => trivial) ?_) (fun _ => raises_pure _ (fun w holds => ⟨⟨rfl, ?_, ?_⟩, holds⟩))
          · intro w time holds ceilings
            obtain ⟨working, counted⟩ := holds
            have spent := ceilings.spent
            have retries := counted.retries
            refine ⟨working, counted, rfl, ?_⟩
            simp only [List.length_nil] at retries
            push_cast
            omega
          · simp [worstCaseCost, estimate]
          · refine ⟨by simpa using budget.1, by simpa using budget.2.1, fun retry => absurd retry (by decide)⟩
        · exact raises_throw _ (fun _ holds => holds.1)
    · exact raises_throw _ (fun _ holds => holds.1)
  · intro w holds
    obtain ⟨⟨supplied, priced, room⟩, ready⟩ := holds
    exact attempts_bounded supplied priced rfl none rfl (fun _ => room) w ready

end AiWorld.Executor
