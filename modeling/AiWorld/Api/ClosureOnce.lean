import AiWorld.Api.RuntimeRuns

set_option autoImplicit false

namespace AiWorld.Api

open AiWorld.Concurrency AiWorld.Database

-- What the closures owe to the committed calls of `close_task`, from the database the
-- system has started with.
structure ExactlyOnce (start : Db) (s : Sys) : Prop where
  single : ∀ first second row other, s.db.closure first = some row → s.db.closure second = some other →
    row.runtimeSessionId = other.runtimeSessionId → first = second
  ended : ∀ id row, s.db.session id = some row → row.kind = .subagent → (Closed id s.db ↔ row.endedAt ≠ none)
  reported : ∀ id, (Closed id s.db ∧ ¬ Closed id start ∧ s.server.journal.countP (newFor id) = 1) ∨
    ((Closed id s.db → Closed id start) ∧ s.server.journal.countP (newFor id) = 0)
  quiet : ∀ call ∈ s.server.journal, call.isNew = false → ∀ key ∈ call.wrote, key.announces = false
  subagents : ∀ closureId row, s.db.closure closureId = some row →
    ∃ session, s.db.session row.runtimeSessionId = some session ∧ session.kind = .subagent

-- A closure changes in `late_close_at` alone, from NULL, by a hook's close of a row that
-- the reaper has closed.
structure Amended (journal : List CloseCall) (closureId : Nat) (before after : AgentRuntimeClosure) : Prop where
  pinned : after = { before with lateCloseAt := after.lateCloseAt }
  late : after.lateCloseAt = before.lateCloseAt ∨ (before.lateCloseAt = none ∧ before.closedBy = .reaper ∧
    ∃ call ∈ journal, LateCall closureId before.runtimeSessionId call)

def noTerms : Terms := ⟨False, False⟩

def RuntimeRequests : System → Action → Prop := Pool.Meets (fun request => runtimeRequest request = true) (fun _ _ _ _ => True) anyCrash

theorem unconditioned (start : Db) (system : System) (action : Action) (met : RuntimeRequests system action) :
    RuntimeMeets start noTerms system action := by
  cases action with
  | arrive request => exact met
  | step pid choice => exact fun _ _ _ _ => ⟨False.elim, False.elim⟩
  | crash pid => exact met

variable {start : Db} {terms : Terms} {s : Sys}

theorem runtime_exactly_once (inv : Runtime start terms s) : ExactlyOnce start s where
  single := fun first second row other stored present whose => by
    have clash := inv.unique.committed (.closure first) row (.closure second) other (.runtimeSession row.runtimeSessionId) stored present
      (by simp [closureSchema, Schema.only, schema, indexed]) (by simp [closureSchema, Schema.only, schema, indexed, whose])
    cases clash
    rfl
  ended := inv.paired
  reported := fun id => (inv.accounted id).counted
  quiet := inv.fine
  subagents := inv.owned

theorem closure_amended (inv : Runtime start terms s) {before : Db} (since : Follows terms start before)
    (moves : Follows terms before s.db) (closureId : Nat) (row : AgentRuntimeClosure)
    (stored : before.closure closureId = some row) :
    ∃ found, s.db.closure closureId = some found ∧ Amended s.server.journal closureId row found := by
  obtain ⟨found, present, kept⟩ := closure_lasts moves stored
  have whose : found.runtimeSessionId = row.runtimeSessionId := by rw [kept.pinned]
  refine ⟨found, present, kept.pinned, ?_⟩
  by_cases same : found.lateCloseAt = row.lateCloseAt
  · exact .inl same
  obtain ⟨unlate, reaper, -⟩ := kept.late.resolve_left same
  refine .inr ⟨unlate, reaper, ?_⟩
  have closedLate : found.lateCloseAt ≠ none := fun none => same (none.trans unlate.symm)
  rcases (inv.accounted row.runtimeSessionId).late closureId found present whose closedLate with ⟨old, there, -, early⟩ | call
  · -- What was late at the start was late ever since.
    obtain ⟨again, presentToo, keptToo⟩ := closure_lasts since there
    obtain rfl : again = row := Option.some.inj (presentToo.symm.trans stored)
    rcases keptToo.late with still | ⟨none, -⟩
    · exact absurd (still.symm.trans unlate) early
    · exact absurd none early
  · exact call

-- In every run of hook closes, session ends by PATCH or by the reaper, reaper sweeps,
-- heartbeats and registrations, over any sessions and cut off anywhere: the closures are
-- exactly-once in the state it reaches, and a closure of a state on the way is there,
-- amended at most.
theorem closures_exactly_once (db : Db) (nextId : Nat) (queue : List Nat) (consistent : Consistent db) (front back : List Action)
    (system later : System) (before : Runs step RuntimeRequests (boot db nextId queue) front system)
    (after : Runs step RuntimeRequests system back later) :
    ExactlyOnce db later.shared ∧ ∀ closureId row, system.db.closure closureId = some row →
      ∃ found, later.db.closure closureId = some found ∧ Amended later.shared.server.journal closureId row found := by
  have start : RuntimeSound db noTerms (boot db nextId queue) := runtime_boot noTerms db nextId queue consistent False.elim False.elim
  have reached := runs_weaken (unconditioned db) before
  have continued := runs_weaken (unconditioned db) after
  have sound := runtime_runs reached start
  have inv := (runtime_runs continued sound).inv.2
  exact ⟨runtime_exactly_once inv, closure_amended inv (runtime_follows reached start) (runtime_follows continued sound)⟩

-- The reaper closes the subagent after a hook has loaded it; the hook's close is late.
def overtakenHook : List Action :=
  .arrive (.closeSubagentById member 7 ⟨.completed, .hookReported, none⟩) :: .step 0 {} :: .arrive (.reapSweep 10 5) ::
    List.replicate 31 (.step 1 { time := 1000 })

def lateHook : List Action := List.replicate 8 (.step 0 { time := 2000 })

def closedLateAt (time : Option Nat) (system : System) : Bool :=
  (system.db.closure 10).any (fun row => row.runtimeSessionId = 7 ∧ row.lateCloseAt = time)

theorem runtime_requests_of_checks (system : System) (action : Action)
    (checked : system.checks runtimeRequest (fun _ _ _ _ => true) (fun _ _ => true) action = true) : RuntimeRequests system action := by
  simpa [RuntimeRequests] using Pool.meets_of_checks _ _ _ system action checked

theorem overtaken_hook_closes_late :
    ∃ between system, Runs step RuntimeRequests deskBoot overtakenHook between ∧ Runs step RuntimeRequests between lateHook system ∧
      closedLateAt none between = true ∧ closedLateAt (some 2000) system = true ∧ ExactlyOnce runtimeDesk system.shared ∧
      ∀ row, between.db.closure 10 = some row → ∃ found, system.db.closure 10 = some found ∧
        Amended system.shared.server.journal 10 row found := by
  obtain ⟨between, reached, shown⟩ := checked_exhibit step _ runtime_requests_of_checks
    (fun between => closedLateAt none between && (checkedLabels step (Pool.checks runtimeRequest (fun _ _ _ _ => true) (fun _ _ => true))
      between lateHook).any (closedLateAt (some 2000))) deskBoot overtakenHook (by decide +kernel)
  obtain ⟨unlate, continues⟩ := Bool.and_eq_true_iff.mp shown
  obtain ⟨system, run, late⟩ := checked_exhibit step _ runtime_requests_of_checks (closedLateAt (some 2000)) between lateHook continues
  obtain ⟨once, amended⟩ := closures_exactly_once runtimeDesk 10 [] desk_consistent overtakenHook lateHook between system reached run
  exact ⟨between, system, reached, run, unlate, late, once, amended 10⟩

end AiWorld.Api
