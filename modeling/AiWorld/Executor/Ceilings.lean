import Mathlib.Tactic.Linarith
import AiWorld.Executor.Charging

set_option autoImplicit false

namespace AiWorld.Executor

open AiWorld.Concurrency AiWorld.Gateway

def isRetrySend : Event → Bool
  | .sent _ number _ _ => 2 ≤ number
  | _ => false

def retriesSent (trace : List Event) : Nat := trace.countP isRetrySend

-- Every usage reported so far costs no more than the worst case of its request.
def Affordable (trace : List Event) : Prop :=
  ∀ attempt number request response cost worst, .sent attempt number request (.response response) ∈ trace →
    estimateCostUsd request.provider request.model response.inputTokens response.outputTokens = some cost →
      worstCaseCost request = some worst → cost ≤ worst

-- A resumed checkpoint is held to the task's own policy.
structure Policed (policy : BudgetPolicy) (db : TaskDb) : Prop where
  task : db.task.budgetPolicy = policy
  checkpoints : ∀ checkpoint ∈ db.checkpoints, ∀ system user hash provider model tokens own,
    checkpoint.state = .promptAssembled system user hash provider model tokens own → own = policy

structure Ceilings (policy : BudgetPolicy) (w : World) : Prop where
  fresh : ∀ row ∈ w.committed.invocations, row.id < w.nextId
  calls : (w.committed.invocations.length : Int) ≤ policy.maxModelCalls
  cost : Affordable w.trace → totalCost w.committed.invocations ≤ policy.maxModelCostUsd
  spent : retriesSent w.trace ≤ notCompleted w.committed.invocations
  retries : (retriesSent w.trace : Int) ≤ policy.maxRetries
  policed : Policed policy w.committed

abbrev bounding (policy : BudgetPolicy) : Contract machine Unit := contract (Ceilings policy) (fun _ _ => True)

theorem affordable_before {trace : List Event} {event : Event} (affordable : Affordable (trace ++ [event])) :
    Affordable trace :=
  fun attempt number request response cost worst sent =>
    affordable attempt number request response cost worst (List.mem_append_left _ sent)

theorem retries_sent_snoc (trace : List Event) (event : Event) :
    retriesSent (trace ++ [event]) = retriesSent trace + if isRetrySend event then 1 else 0 := by
  simp [retriesSent, List.countP_append, List.countP_singleton]

theorem total_cost_snoc (rows : List ModelInvocation) (row : ModelInvocation) :
    totalCost (rows ++ [row]) = totalCost rows + row.values.estimatedCost := by
  simp [totalCost]

theorem not_completed_snoc (rows : List ModelInvocation) (row : ModelInvocation) :
    notCompleted (rows ++ [row]) = notCompleted rows + if row.values.status = .completed then 0 else 1 := by
  by_cases completed : row.values.status = .completed
  · simp [notCompleted, List.countP_append, completed]
  · simp [notCompleted, List.countP_append, completed]

theorem set_values_snoc {rows : List ModelInvocation} {row : ModelInvocation} (values : RowValues)
    (older : ∀ other ∈ rows, other.id < row.id) :
    (rows ++ [row]).map (SqlUsageProvider.setValues row.id values) = rows ++ [{ row with values := values }] := by
  have same : rows.map (SqlUsageProvider.setValues row.id values) = rows := by
    calc rows.map (SqlUsageProvider.setValues row.id values) = rows.map (fun other => other) := by
          refine List.map_congr_left (fun other present => ?_)
          have different : other.id ≠ row.id := Nat.ne_of_lt (older other present)
          simp only [SqlUsageProvider.setValues, if_neg different]
      _ = rows := by simp
  rw [List.map_append, same]
  simp [SqlUsageProvider.setValues]

section
variable {policy : BudgetPolicy} {w u : World}

theorem ceilings_same (ceilings : Ceilings policy w) (committed : u.committed = w.committed) (trace : u.trace = w.trace)
    (ids : w.nextId ≤ u.nextId) : Ceilings policy u where
  fresh := fun row present => Nat.lt_of_lt_of_le (ceilings.fresh row (committed ▸ present)) ids
  calls := by rw [committed]; exact ceilings.calls
  cost := by rw [committed, trace]; exact ceilings.cost
  spent := by rw [committed, trace]; exact ceilings.spent
  retries := by rw [trace]; exact ceilings.retries
  policed := by rw [committed]; exact ceilings.policed

-- What is known of the rows before attempt `number`, in terms of the usage the call
-- was given and of its own failed attempts.
structure Counts (usage : BudgetUsage) (failed : List ModelInvocationTelemetry) (rows : List ModelInvocation) : Prop where
  calls : (rows.length : Int) = usage.callsMade + failed.length
  cost : totalCost rows = usage.costSpentUsd + (failed.map (fun telemetry => telemetry.estimatedCost)).sum
  retries : (notCompleted rows : Int) = usage.retriesMade + failed.length

structure Tally (usage : BudgetUsage) (failed : List ModelInvocationTelemetry) (number : Nat) (w : World) : Prop where
  counts : Counts usage failed w.committed.invocations
  numbered : failed.length + 1 = number
  earlier : (retriesSent w.trace : Int) ≤ usage.retriesMade + (number - 2 : Nat)

-- What the budget check before attempt `number` established.
structure Room (policy : BudgetPolicy) (usage : BudgetUsage) (failed : List ModelInvocationTelemetry) (number : Nat)
    (worst : ℚ) : Prop where
  calls : usage.callsMade + failed.length + 1 ≤ policy.maxModelCalls
  cost : usage.costSpentUsd + (failed.map (fun telemetry => telemetry.estimatedCost)).sum + worst ≤ policy.maxModelCostUsd
  retries : 2 ≤ number → usage.retriesMade + (number - 1 : Nat) ≤ policy.maxRetries

-- The row of the attempt stands last; `sent` counts the retries sent with it.
structure Pending (policy : BudgetPolicy) (usage : BudgetUsage) (failed : List ModelInvocationTelemetry) (number : Nat)
    (sent : Nat) (id : Nat) (w : World) : Prop where
  numbered : failed.length + 1 = number
  earlier : (retriesSent w.trace : Int) ≤ usage.retriesMade + sent
  rows : ∃ rows row, w.committed.invocations = rows ++ [row] ∧ row.id = id ∧ (∀ other ∈ rows, other.id < id) ∧
    Counts usage failed rows ∧ (Affordable w.trace → totalCost rows ≤ policy.maxModelCostUsd)

variable {usage : BudgetUsage} {failed : List ModelInvocationTelemetry} {number id : Nat} {worst : ℚ}

theorem ceilings_begins {row : ModelInvocation} (ceilings : Ceilings policy w) (tally : Tally usage failed number w)
    (room : Room policy usage failed number worst) (staged : w.session.invocations = w.committed.invocations ++ [row])
    (policed : Policed policy w.session) (cost : row.values.estimatedCost = worst)
    (older : ∀ other ∈ w.committed.invocations, other.id < row.id) (known : row.id < w.nextId) :
    Ceilings policy (w.commits [.begun row.id]) ∧
      Pending policy usage failed number (number - 2) row.id (w.commits [.begun row.id]) := by
  have sameRetries : retriesSent (w.commits [.begun row.id]).trace = retriesSent w.trace := by
    simp only [World.commits, retries_sent_snoc, isRetrySend]
    rfl
  have rows : (w.commits [.begun row.id]).committed.invocations = w.committed.invocations ++ [row] := staged
  have counted := tally.counts
  refine ⟨⟨?_, ?_, ?_, ?_, ?_, policed⟩, ⟨tally.numbered, ?_, ?_⟩⟩
  · intro other present
    rw [rows] at present
    rcases List.mem_append.mp present with old | added
    · exact (older other old).trans known
    · obtain rfl := List.mem_singleton.mp added
      exact known
  · have fits := room.calls
    have length := counted.calls
    rw [rows, List.length_append, List.length_singleton]
    push_cast
    omega
  · intro _
    rw [rows, total_cost_snoc, counted.cost, cost]
    exact room.cost
  · rw [rows, sameRetries, not_completed_snoc]
    exact ceilings.spent.trans (Nat.le_add_right _ _)
  · rw [sameRetries]
    exact ceilings.retries
  · rw [sameRetries]
    exact tally.earlier
  · exact ⟨w.committed.invocations, row, rows, rfl, older, counted,
      fun affordable => ceilings.cost (affordable_before affordable)⟩

theorem ceilings_sends (ceilings : Ceilings policy w) (pending : Pending policy usage failed number (number - 2) id w)
    (room : Room policy usage failed number worst) (request : ModelRequest) (outcome : ProviderOutcome) :
    Ceilings policy (w.sends (.sent (some id) number request outcome)) ∧
      Pending policy usage failed number (number - 1) id (w.sends (.sent (some id) number request outcome)) := by
  obtain ⟨rows, row, listed, same, older, counted, affordable⟩ := pending.rows
  have retriesAfter : (retriesSent (w.sends (.sent (some id) number request outcome)).trace : Int) ≤
      usage.retriesMade + (number - 1 : Nat) := by
    have earlier := pending.earlier
    simp only [World.sends, retries_sent_snoc, isRetrySend]
    by_cases retry : 2 ≤ number
    · simp only [retry, decide_true, if_true]
      push_cast
      omega
    · simp only [retry, decide_false]
      push_cast
      omega
  refine ⟨⟨ceilings.fresh, ceilings.calls, fun later => ceilings.cost (affordable_before later), ?_, ?_,
    ceilings.policed⟩, ⟨pending.numbered, retriesAfter, ?_⟩⟩
  · have unfinished := counted.retries
    have numbered := pending.numbered
    have more : notCompleted rows ≤ notCompleted w.committed.invocations := by
      rw [listed, not_completed_snoc]
      exact Nat.le_add_right _ _
    change retriesSent (w.sends (.sent (some id) number request outcome)).trace ≤ notCompleted w.committed.invocations
    omega
  · by_cases retry : 2 ≤ number
    · exact retriesAfter.trans (room.retries retry)
    · have unchanged : retriesSent (w.sends (.sent (some id) number request outcome)).trace = retriesSent w.trace := by
        simp [World.sends, retries_sent_snoc, isRetrySend, retry]
      rw [unchanged]
      exact ceilings.retries
  · exact ⟨rows, row, listed, same, older, counted, fun later => affordable (affordable_before later)⟩

theorem ceilings_finishes {values : RowValues} (ceilings : Ceilings policy w)
    (pending : Pending policy usage failed number (number - 1) id w) (room : Room policy usage failed number worst)
    (staged : w.session.invocations = w.committed.invocations.map (SqlUsageProvider.setValues id values))
    (policed : Policed policy w.session)
    (within : Affordable w.trace → values.estimatedCost ≤ worst ∨ values.estimatedCost = 0) :
    Ceilings policy (w.commits [.finished id]) ∧
      ∃ rows row, (w.commits [.finished id]).committed.invocations = rows ++ [row] ∧ row.values = values ∧
        Counts usage failed rows ∧
        (retriesSent (w.commits [.finished id]).trace : Int) ≤ usage.retriesMade + (number - 1 : Nat) := by
  obtain ⟨rows, row, listed, rfl, older, counted, affordable⟩ := pending.rows
  have after : (w.commits [.finished row.id]).committed.invocations = rows ++ [{ row with values := values }] := by
    rw [← set_values_snoc values older, ← listed]
    exact staged
  have sameRetries : retriesSent (w.commits [.finished row.id]).trace = retriesSent w.trace := by
    simp only [World.commits, retries_sent_snoc, isRetrySend]
    rfl
  have kept := sameRetries ▸ pending.earlier
  refine ⟨⟨?_, ?_, ?_, ?_, ?_, policed⟩, rows, { row with values := values }, after, rfl, counted, kept⟩
  · intro other present
    have fresh := ceilings.fresh
    rw [listed] at fresh
    rw [after] at present
    rcases List.mem_append.mp present with old | added
    · exact fresh other (List.mem_append_left _ old)
    · obtain rfl := List.mem_singleton.mp added
      exact fresh row (by simp)
  · have calls := ceilings.calls
    rw [listed, List.length_append, List.length_singleton] at calls
    rw [after, List.length_append, List.length_singleton]
    exact calls
  · intro later
    have limit := room.cost
    have spent := affordable (affordable_before later)
    rw [counted.cost] at spent
    rw [after, total_cost_snoc, counted.cost]
    rcases within (affordable_before later) with below | free
    · change _ + values.estimatedCost ≤ _
      linarith
    · change _ + values.estimatedCost ≤ _
      linarith
  · have unfinished := counted.retries
    have numbered := pending.numbered
    have more : notCompleted rows ≤ notCompleted (rows ++ [{ row with values := values }]) := by
      rw [not_completed_snoc]
      exact Nat.le_add_right _ _
    rw [after]
    omega
  · rw [sameRetries]
    exact ceilings.retries

end

end AiWorld.Executor
