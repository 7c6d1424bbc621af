import Mathlib.Data.List.Nodup
import Mathlib.Data.List.Pairwise
import AiWorld.Executor.Gateway
import AiWorld.Executor.Rules

set_option autoImplicit false

namespace AiWorld.Executor

open AiWorld.Concurrency AiWorld.Gateway

def worstCaseCost (request : ModelRequest) : Option ℚ := (estimateWorstCaseAttempt request).map (fun worst => worst.2.2)

-- What a finished attempt is charged.
def settledCost (request : ModelRequest) : ProviderOutcome → Option ℚ
  | .response response => estimateCostUsd request.provider request.model response.inputTokens response.outputTokens
  | .error error => if isProvablyUnbilled error then some 0 else worstCaseCost request

def sentId : Event → Option Nat
  | .sent attempt _ _ _ => attempt
  | _ => none

structure Ledger (w : World) : Prop where
  fresh : ∀ row ∈ w.committed.invocations, row.id < w.nextId
  distinct : (w.committed.invocations.map (fun row => row.id)).Nodup
  begun : ∀ id, .begun id ∈ w.trace → ∃ row ∈ w.committed.invocations, row.id = id
  finished : ∀ id, .finished id ∈ w.trace → .begun id ∈ w.trace
  ahead : ∀ before after attempt number request outcome,
    w.trace = before ++ .sent attempt number request outcome :: after → ∃ id, attempt = some id ∧ .begun id ∈ before
  once : (w.trace.filterMap sentId).Nodup
  charged : ∀ id number request outcome, .sent (some id) number request outcome ∈ w.trace →
    ∀ row ∈ w.committed.invocations, row.id = id →
      some row.values.estimatedCost =
        if .finished id ∈ w.trace then settledCost request outcome else worstCaseCost request

section
variable {w : World}

theorem ledger_same {u : World} (ledger : Ledger w) (rows : u.committed.invocations = w.committed.invocations)
    (trace : u.trace = w.trace) (ids : w.nextId ≤ u.nextId) : Ledger u where
  fresh := fun row present => Nat.lt_of_lt_of_le (ledger.fresh row (rows ▸ present)) ids
  distinct := by simpa only [rows] using ledger.distinct
  begun := by simpa only [rows, trace] using ledger.begun
  finished := by simpa only [trace] using ledger.finished
  ahead := by simpa only [trace] using ledger.ahead
  once := by simpa only [trace] using ledger.once
  charged := by simpa only [rows, trace] using ledger.charged

theorem ledger_sent_begun (ledger : Ledger w) {attempt : Option Nat} {number : Nat} {request : ModelRequest}
    {outcome : ProviderOutcome} (sent : .sent attempt number request outcome ∈ w.trace) :
    ∃ id, attempt = some id ∧ .begun id ∈ w.trace := by
  obtain ⟨before, after, split⟩ := List.append_of_mem sent
  obtain ⟨id, same, begun⟩ := ledger.ahead before after attempt number request outcome split
  exact ⟨id, same, by simp [split, begun]⟩

theorem ledger_sent_unique (ledger : Ledger w) {first second : Event} {id : Nat} (one : first ∈ w.trace)
    (two : second ∈ w.trace) (firstId : sentId first = some id) (secondId : sentId second = some id) : first = second := by
  have apart := List.pairwise_filterMap.mp ledger.once
  by_contra different
  have : Std.Symm (fun a b => ∀ x, sentId a = some x → ∀ y, sentId b = some y → x ≠ y) :=
    ⟨fun _ _ differ y right x left same => differ x left y right same.symm⟩
  exact apart.forall one two different id firstId id secondId rfl

-- A list that grows by one event splits at an old event, or at the new one.
theorem snoc_split {α : Type} {old before after : List α} {last middle : α}
    (split : old ++ [last] = before ++ middle :: after) :
    (before = old ∧ middle = last) ∨ ∃ rest, old = before ++ middle :: rest := by
  rcases List.eq_nil_or_concat after with rfl | ⟨rest, final, rfl⟩
  · obtain ⟨same, tail⟩ := List.append_inj' split rfl
    exact .inl ⟨same.symm, by simpa using tail.symm⟩
  · have parts : old ++ [last] = (before ++ middle :: rest) ++ [final] := by simpa using split
    exact .inr ⟨rest, (List.append_inj' parts rfl).1⟩

theorem ledger_ahead_snoc (ledger : Ledger w) (event : Event)
    (other : ∀ attempt number request outcome, event ≠ .sent attempt number request outcome) :
    ∀ before after attempt number request outcome,
      w.trace ++ [event] = before ++ .sent attempt number request outcome :: after →
        ∃ id, attempt = some id ∧ .begun id ∈ before := by
  intro before after attempt number request outcome split
  rcases snoc_split split with ⟨_, same⟩ | ⟨rest, old⟩
  · exact absurd same.symm (other attempt number request outcome)
  · exact ledger.ahead before rest attempt number request outcome old

variable {rows : List ModelInvocation} {values : RowValues}

theorem ledger_begins {row : ModelInvocation} (ledger : Ledger w) (staged : w.session.invocations = rows ++ [row])
    (old : w.committed.invocations = rows) (new : ∀ other ∈ rows, other.id < row.id) (known : row.id < w.nextId) :
    Ledger (w.commits [.begun row.id]) where
  fresh := by
    intro other present
    rcases List.mem_append.mp (staged ▸ present) with before | added
    · exact ledger.fresh other (old ▸ before)
    · obtain rfl : other = row := by simpa using added
      exact known
  distinct := by
    have apart := old ▸ ledger.distinct
    simp only [World.commits, staged, List.map_append, List.nodup_append, apart, true_and]
    refine ⟨by simp, ?_⟩
    rintro id before other added rfl
    obtain ⟨earlier, present, same⟩ := List.mem_map.mp before
    have clash := new earlier present
    simp only [List.map_cons, List.map_nil, List.mem_singleton] at added
    omega
  begun := by
    intro id begun
    simp only [World.commits, staged]
    rcases List.mem_append.mp begun with before | added
    · obtain ⟨other, present, same⟩ := ledger.begun id before
      exact ⟨other, List.mem_append_left _ (old ▸ present), same⟩
    · obtain rfl : id = row.id := by simpa using added
      exact ⟨row, by simp, rfl⟩
  finished := by
    intro id finished
    have before : .finished id ∈ w.trace := by simpa [World.commits] using finished
    exact List.mem_append_left _ (ledger.finished id before)
  ahead := ledger_ahead_snoc ledger _ (by simp)
  once := by simpa [World.commits, List.filterMap_cons, sentId] using ledger.once
  charged := by
    intro id number request outcome sent other present same
    have before : .sent (some id) number request outcome ∈ w.trace := by simpa [World.commits] using sent
    have charge := ledger.charged id number request outcome before
    rcases List.mem_append.mp (staged ▸ present) with earlier | added
    · simpa [World.commits] using charge other (old ▸ earlier) same
    · -- the new row's id is larger than that of every attempt begun so far
      obtain rfl : other = row := by simpa using added
      obtain ⟨_, equal, begun⟩ := ledger_sent_begun ledger before
      obtain ⟨earlier, kept, sameId⟩ := ledger.begun _ begun
      have clash := new earlier (old ▸ kept)
      have equal : id = _ := Option.some.inj equal
      omega

theorem ledger_sends {id : Nat} {request : ModelRequest} (ledger : Ledger w) (begun : .begun id ∈ w.trace)
    (unsent : ∀ number other outcome, .sent (some id) number other outcome ∉ w.trace) (pending : .finished id ∉ w.trace)
    (worst : ∀ row ∈ w.committed.invocations, row.id = id → some row.values.estimatedCost = worstCaseCost request)
    (number : Nat) (outcome : ProviderOutcome) : Ledger (w.sends (.sent (some id) number request outcome)) where
  fresh := ledger.fresh
  distinct := ledger.distinct
  begun := by
    intro other seen
    exact ledger.begun other (by simpa [World.sends] using seen)
  finished := by
    intro other seen
    exact List.mem_append_left _ (ledger.finished other (by simpa [World.sends] using seen))
  ahead := by
    intro before after attempt place asked result split
    rcases snoc_split split with ⟨rfl, same⟩ | ⟨rest, old⟩
    · obtain ⟨rfl, -, -, -⟩ := Event.sent.inj same
      exact ⟨id, rfl, begun⟩
    · exact ledger.ahead before rest attempt place asked result old
  once := by
    simp only [World.sends, List.filterMap_append, List.filterMap_cons, sentId, List.filterMap_nil, List.nodup_append,
      ledger.once, true_and]
    refine ⟨by simp, ?_⟩
    rintro other earlier last added rfl
    obtain ⟨event, present, same⟩ := List.mem_filterMap.mp earlier
    obtain rfl : other = id := by simpa using added
    cases event with
    | sent attempt place asked result =>
        obtain rfl : attempt = some other := same
        exact unsent place asked result present
    | begun other => cases same
    | finished other => cases same
  charged := by
    intro other place asked result sent row present same
    have finishedSame : .finished other ∈ (w.sends (.sent (some id) number request outcome)).trace ↔
        .finished other ∈ w.trace := by simp [World.sends]
    rcases List.mem_append.mp sent with before | added
    · simpa only [finishedSame] using ledger.charged other place asked result before row present same
    · obtain ⟨attempt, -, rfl, rfl⟩ := Event.sent.inj (List.mem_singleton.mp added)
      obtain rfl : other = id := Option.some.inj attempt
      simpa only [finishedSame, if_neg pending] using worst row present same

theorem set_values_ids (id : Nat) (values : RowValues) (rows : List ModelInvocation) :
    (rows.map (SqlUsageProvider.setValues id values)).map (fun row => row.id) = rows.map (fun row => row.id) := by
  rw [List.map_map]
  refine List.map_congr_left (fun row _ => ?_)
  simp only [Function.comp_apply, SqlUsageProvider.setValues]
  split <;> rfl

theorem set_values_row {id : Nat} {row : ModelInvocation} (present : row ∈ rows.map (SqlUsageProvider.setValues id values)) :
    (row.id = id ∧ row.values = values) ∨ (row.id ≠ id ∧ row ∈ rows) := by
  obtain ⟨old, member, rfl⟩ := List.mem_map.mp present
  by_cases same : old.id = id
  · exact .inl (by simp [SqlUsageProvider.setValues, same])
  · exact .inr (by simpa [SqlUsageProvider.setValues, same] using member)

theorem ledger_finishes {id number : Nat} {request : ModelRequest} {outcome : ProviderOutcome} (ledger : Ledger w)
    (staged : w.session.invocations = w.committed.invocations.map (SqlUsageProvider.setValues id values))
    (sent : .sent (some id) number request outcome ∈ w.trace)
    (settled : some values.estimatedCost = settledCost request outcome) : Ledger (w.commits [.finished id]) where
  fresh := by
    have ids := set_values_ids id values w.committed.invocations
    intro row present
    have listed : row.id ∈ w.committed.invocations.map (fun row => row.id) := by
      rw [← ids, ← staged]
      exact List.mem_map_of_mem present
    obtain ⟨old, member, same⟩ := List.mem_map.mp listed
    exact same ▸ ledger.fresh old member
  distinct := by
    simpa only [World.commits, staged, set_values_ids] using ledger.distinct
  begun := by
    intro other begun
    obtain ⟨row, present, same⟩ := ledger.begun other (by simpa [World.commits] using begun)
    have listed : other ∈ (w.commits [.finished id]).committed.invocations.map (fun row => row.id) := by
      simp only [World.commits, staged, set_values_ids]
      exact same ▸ List.mem_map_of_mem present
    exact List.mem_map.mp listed
  finished := by
    intro other finished
    rcases List.mem_append.mp finished with before | added
    · exact List.mem_append_left _ (ledger.finished other before)
    · obtain rfl : other = id := by simpa using added
      obtain ⟨_, same, begun⟩ := ledger_sent_begun ledger sent
      exact List.mem_append_left _ (Option.some.inj same ▸ begun)
  ahead := ledger_ahead_snoc ledger _ (by simp)
  once := by simpa [World.commits, List.filterMap_cons, sentId] using ledger.once
  charged := by
    intro other place asked result seen row present same
    have before : .sent (some other) place asked result ∈ w.trace := by simpa [World.commits] using seen
    rcases set_values_row (staged ▸ present) with ⟨this, new⟩ | ⟨different, old⟩
    · obtain rfl : other = id := same.symm.trans this
      obtain ⟨-, -, rfl, rfl⟩ := Event.sent.inj (ledger_sent_unique ledger sent before rfl rfl)
      simpa [World.commits, new] using settled
    · have apart : other ≠ id := fun equal => different (same.trans equal)
      simpa [World.commits, apart] using ledger.charged other place asked result before row old same

end

end AiWorld.Executor
