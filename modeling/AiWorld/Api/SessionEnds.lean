import AiWorld.Api.RuntimeRuns

set_option autoImplicit false

namespace AiWorld.Api

open AiWorld.Concurrency AiWorld.Database

def openParents : Terms := ⟨False, True⟩

def OpenParents : System → Action → Prop :=
  Pool.Meets (fun request => runtimeRequest request = true) (fun _ _ stmt s => parentOpen stmt s = true) anyCrash

theorem open_parents_met (start : Db) (system : System) (action : Action) (met : OpenParents system action) :
    RuntimeMeets start openParents system action := by
  cases action with
  | arrive request => exact met
  | step pid choice => exact fun request stmt next entry => ⟨False.elim, fun _ => met request stmt next entry⟩
  | crash pid => exact met

-- Every subagent of an ended session is over, with its task.
def ChildrenOver (db : Db) : Prop := ∀ parentId parent id row, db.session parentId = some parent → parent.kind = .session →
  parent.endedAt ≠ none → db.session id = some row → row.parentSessionId = some parentId →
    row.endedAt ≠ none ∧ ∀ taskId task, row.taskId = some taskId → db.task taskId = some task → terminalTask task.status = true

-- In every run in which each new row of a subagent is inserted under a session that is
-- open as it is committed then.
theorem ended_sessions_settled (db : Db) (nextId : Nat) (queue : List Nat) (consistent : Consistent db) (sheltered : Sheltered db)
    (tasks : Tasks db) (actions : List Action) (system : System) (run : Runs step OpenParents (boot db nextId queue) actions system) :
    ChildrenOver system.db := by
  have start : RuntimeSound db openParents (boot db nextId queue) :=
    runtime_boot openParents db nextId queue consistent (fun _ => sheltered) (fun _ => tasks)
  have inv : Runtime db openParents system.shared := (runtime_runs (runs_weaken (open_parents_met db) run) start).inv.2
  intro parentId parent id row storedParent kind ended stored named
  have isOver := inv.sheltered trivial parentId parent id row storedParent kind ended stored named
  obtain ⟨subagent, -⟩ := inv.kin id row parentId stored named
  exact ⟨isOver, fun taskId task whose present => (inv.tasks trivial).done id row taskId task stored subagent isOver whose present⟩

theorem desk_tasks : Tasks runtimeDesk where
  apart := fun id row other rival taskId stored present first second => by
    rcases desk_sessions stored with ⟨rfl, rfl⟩ | ⟨rfl, rfl⟩ <;> rcases desk_sessions present with ⟨rfl, rfl⟩ | ⟨rfl, rfl⟩ <;>
      first | rfl | (cases first; cases second)
  held := fun id row taskId stored named => by
    rcases desk_sessions stored with ⟨rfl, rfl⟩ | ⟨rfl, rfl⟩ <;> cases named <;> decide +kernel
  done := fun id row taskId task stored _ ended _ _ => by
    rcases desk_sessions stored with ⟨-, rfl⟩ | ⟨-, rfl⟩ <;> exact absurd rfl ended

theorem desk_sheltered : Sheltered runtimeDesk := fun parentId parent _ _ stored _ ended _ _ => by
  rcases desk_sessions stored with ⟨-, rfl⟩ | ⟨-, rfl⟩ <;> exact absurd rfl ended

-- A registration commits, then its parent ends.
def registeredThenEnded : List Action :=
  .arrive (.registerSubagent member ⟨none, "a-2", "s-1"⟩) :: turns 0 13 ++ .arrive (.updateSession member 5 (some .completed)) :: turns 1 46

def sessionEnded (id : Nat) (system : System) : Bool := (system.db.session id).any (fun row => row.endedAt ≠ none)

theorem registered_subagent_settles :
    ∃ system, Runs step OpenParents deskBoot registeredThenEnded system ∧ sessionEnded 5 system = true ∧ sessionEnded 11 system = true ∧
      ChildrenOver system.db := by
  obtain ⟨system, run, shown⟩ := checked_exhibit step (Pool.checks runtimeRequest (fun _ _ => parentOpen) (fun _ _ => true))
    (fun system action checked => by simpa [OpenParents] using Pool.meets_of_checks _ _ _ system action checked)
    (fun system => sessionEnded 5 system && sessionEnded 11 system) deskBoot registeredThenEnded (by decide +kernel)
  obtain ⟨first, second⟩ := Bool.and_eq_true_iff.mp shown
  exact ⟨system, run, first, second, ended_sessions_settled runtimeDesk 10 [] desk_consistent desk_sheltered desk_tasks _ system run⟩

-- The parent ends after a registration has found it open and before the row is inserted.
def registeredUnderEnded : List Action :=
  .arrive (.registerSubagent member ⟨none, "a-2", "s-1"⟩) :: turns 0 2 ++ .arrive (.updateSession member 5 (some .completed)) :: turns 1 29 ++
    turns 0 11

theorem subagent_open_under_ended_session :
    ∃ system, Runs step Anything deskBoot registeredUnderEnded system ∧ sessionEnded 5 system = true ∧
      (system.db.session 15).any (fun row => row.parentSessionId = some 5 ∧ row.endedAt = none ∧ row.taskId = some 14) = true ∧
      (system.db.task 14).any (fun task => task.missionId = 3 ∧ terminalTask task.status = false) = true ∧
      (system.db.mission 3).any (fun mission => mission.status = .completed) = true ∧ ¬ ChildrenOver system.db := by
  obtain ⟨system, run, shown⟩ := runs_exhibit step (fun system => sessionEnded 5 system &&
      (system.db.session 15).any (fun row => row.parentSessionId = some 5 ∧ row.endedAt = none ∧ row.taskId = some 14) &&
      (system.db.task 14).any (fun task => task.missionId = 3 ∧ terminalTask task.status = false) &&
      (system.db.mission 3).any (fun mission => mission.status = .completed) &&
      (system.db.session 5).any (fun row => row.kind = .session ∧ row.endedAt ≠ none)) deskBoot registeredUnderEnded (by decide +kernel)
  simp only [Bool.and_eq_true] at shown
  obtain ⟨⟨⟨⟨ended, child⟩, task⟩, mission⟩, parent⟩ := shown
  refine ⟨system, run, ended, child, task, mission, fun settled => ?_⟩
  obtain ⟨row, stored, fits⟩ := Option.any_eq_true _ _ |>.mp child
  obtain ⟨parentRow, present, isOver⟩ := Option.any_eq_true _ _ |>.mp parent
  simp only [decide_eq_true_eq] at fits isOver
  exact (settled 5 parentRow 15 row present isOver.1 isOver.2 stored fits.1).1 fits.2.1

def endsOnce : Terms := ⟨True, False⟩

def StillOpenWhenLocked : System → Action → Prop :=
  Pool.Meets (fun request => runtimeRequest request = true) (fun pid _ stmt s => stillOpen pid stmt s = true) anyCrash

theorem still_open_met (start : Db) (system : System) (action : Action) (met : StillOpenWhenLocked system action) :
    RuntimeMeets start endsOnce system action := by
  cases action with
  | arrive request => exact met
  | step pid choice => exact fun request stmt next entry => ⟨fun _ => met request stmt next entry, False.elim⟩
  | crash pid => exact met

theorem session_follows {terms : Terms} {before after : Db} (follows : Follows terms before after) (id : Nat) (row : AgentRuntimeSession)
    (stored : before.session id = some row) :
    ∃ found, after.session id = some found ∧ SessionMoves terms allLocks id row found := session_lasts follows stored

-- In every run in which a session that a request has loaded as open is open when its
-- lock is granted, the end state of a session changes at most once: from one state to
-- a later one, or from that one to a last one, but not both.
theorem session_end_state_set_once (db : Db) (nextId : Nat) (queue : List Nat) (consistent : Consistent db) (front middle back : List Action)
    (first second third : System) (reached : Runs step StillOpenWhenLocked (boot db nextId queue) front first)
    (onward : Runs step StillOpenWhenLocked first middle second) (further : Runs step StillOpenWhenLocked second back third) (id : Nat)
    (row : AgentRuntimeSession) (stored : first.db.session id = some row) (kind : row.kind = .session) :
    ∃ found last, second.db.session id = some found ∧ third.db.session id = some last ∧
      (endState found = endState row ∨ endState last = endState found) := by
  have start : RuntimeSound db endsOnce (boot db nextId queue) := runtime_boot endsOnce db nextId queue consistent False.elim False.elim
  have soundFirst := runtime_runs (runs_weaken (still_open_met db) reached) start
  have soundSecond := runtime_runs (runs_weaken (still_open_met db) onward) soundFirst
  obtain ⟨found, present, moves⟩ := session_follows (runtime_follows (runs_weaken (still_open_met db) onward) soundFirst) id row stored
  obtain ⟨last, there, movesToo⟩ := session_follows (runtime_follows (runs_weaken (still_open_met db) further) soundSecond) id found present
  refine ⟨found, last, present, there, ?_⟩
  have kindToo : found.kind = .session := by rw [moves.pinned]; exact kind
  rcases moves.once trivial kind with same | ⟨-, ended⟩
  · exact .inl same
  · exact .inr ((movesToo.once trivial kindToo).resolve_right (fun again => ended again.1))

-- One PATCH ends the session, and a second one finds it ended.
def endedByPatch : List Action := .arrive (.updateSession member 5 (some .completed)) :: turns 0 29

def patchedAgain : List Action := .arrive (.updateSession member 5 (some .failed)) :: turns 1 3

def endsAs (ending : Option Nat × Option AgentRuntimeOutcome) (system : System) : Bool :=
  (system.db.session 5).any (fun row => endState row = ending)

theorem still_open_of_checks (system : System) (action : Action)
    (checked : system.checks runtimeRequest (fun pid _ => stillOpen pid) (fun _ _ => true) action = true) : StillOpenWhenLocked system action := by
  simpa [StillOpenWhenLocked] using Pool.meets_of_checks _ _ _ system action checked

theorem second_patch_changes_nothing :
    ∃ between system, Runs step StillOpenWhenLocked deskBoot endedByPatch between ∧ Runs step StillOpenWhenLocked between patchedAgain system ∧
      endsAs (some 0, some .completed) between = true ∧ ∃ found last, between.db.session 5 = some found ∧ system.db.session 5 = some last ∧
        (endState found = endState deskSession ∨ endState last = endState found) := by
  obtain ⟨between, onward, shown⟩ := checked_exhibit step _ still_open_of_checks
    (fun between => endsAs (some 0, some .completed) between && (checkedLabels step (Pool.checks runtimeRequest (fun pid _ => stillOpen pid)
      (fun _ _ => true)) between patchedAgain).any (fun _ => true)) deskBoot endedByPatch (by decide +kernel)
  obtain ⟨ended, continues⟩ := Bool.and_eq_true_iff.mp shown
  obtain ⟨system, further, -⟩ := checked_exhibit step _ still_open_of_checks (fun _ => true) between patchedAgain continues
  exact ⟨between, system, onward, further, ended, session_end_state_set_once runtimeDesk 10 [] desk_consistent [] endedByPatch patchedAgain deskBoot
    between system (.nil _) onward further 5 deskSession (by decide +kernel) rfl⟩

-- Two PATCHes load the open session; the second one waits for the lock, still holds the
-- row it has loaded, and ends the session again.
def overlappingPatches : List Action :=
  .arrive (.updateSession member 5 (some .completed)) :: turns 0 1 ++ .arrive (.updateSession member 5 (some .failed)) :: turns 1 1 ++
    List.replicate 28 (.step 0 { time := 1000 })

def secondPatch : List Action := List.replicate 7 (.step 1 { time := 2000 })

theorem second_patch_overwrites_end_state :
    ∃ between system, Runs step Anything deskBoot overlappingPatches between ∧ Runs step Anything between secondPatch system ∧
      endsAs (none, none) deskBoot = true ∧ endsAs (some 1000, some .completed) between = true ∧
      endsAs (some 2000, some .failed) system = true := by
  obtain ⟨between, onward, shown⟩ := runs_exhibit step (fun between => endsAs (some 1000, some .completed) between &&
    (runLabels step between secondPatch).any (endsAs (some 2000, some .failed))) deskBoot overlappingPatches (by decide +kernel)
  obtain ⟨ended, continues⟩ := Bool.and_eq_true_iff.mp shown
  obtain ⟨system, further, overwritten⟩ := runs_exhibit step (endsAs (some 2000, some .failed)) between secondPatch continues
  exact ⟨between, system, onward, further, by decide +kernel, ended, overwritten⟩

end AiWorld.Api
