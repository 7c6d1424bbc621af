import AiWorld.Api.Writes

set_option autoImplicit false

namespace AiWorld.Api

open AiWorld.Concurrency AiWorld.Database

def missionsRelated (s : Sys) : Prop := Tidy s.server ∧ Related missionRule s.server

def missionsMove (s t : Sys) : Prop := ∀ key, MissionCell key (s.db.lookup key) (t.db.lookup key)

-- No process relies on the others: the rule of the mission rows is kept by each
-- statement on its own.
def lifecycle : Discipline machine Request :=
  .ofRely machine (fun _ request stmt s => loadedStatusHolds request stmt s = true) anyCrash missionsRelated missionsMove
    (fun _ _ _ => True) (fun _ _ => True) (fun _ _ => trivial) (fun _ _ _ _ _ _ => trivial)
    (fun pid s inv _ => by
      obtain ⟨kept, moved, -⟩ := crash_related pid s inv.1 inv.2
      exact ⟨kept, moved, fun _ _ => ⟨trivial, fun _ => trivial⟩⟩)

theorem lifecycle_executes {pid : Nat} {request : Request} {stmt : Stmt} {s t : Sys} {choice : Choice} {answer : Ans stmt}
    (fine : programWrite (powersOf request) stmt) (inv : missionsRelated s) (holds : loadedStatusHolds request stmt s = true)
    (executed : exec pid stmt choice s = some (answer, t)) : lifecycle.guarantee pid s t := by
  obtain ⟨kept, moved, -⟩ := exec_related inv.1 inv.2
    (fun query issued => by
      subst issued
      exact mission_write_respects inv.2 fine.1 holds) executed
  exact ⟨kept, moved, fun _ _ => ⟨trivial, fun _ => trivial⟩⟩

theorem lifecycle_starts (pid : Nat) (request : Request) (s : Sys) :
    Safe lifecycle.toContract pid request (fun _ _ => True) (program request) s := by
  have walk : Triple lifecycle.toContract pid request (fun _ => True) (program request)
      (fun result _ => Returned Fine result ∧ True) :=
    triple_issues (fun _ _ _ _ _ => trivial) (fun (stmt : Stmt) s choice answer t fine _ inv holds executed =>
      ⟨lifecycle_executes fine inv holds executed, trivial⟩) (route_writes)
  exact safe_weaken (fun _ _ _ => trivial) _ s (walk s trivial)

-- Every step of the run flushes mission statuses that still hold.
def StatusHolds : System → Action → Prop :=
  Pool.Meets (fun _ => True) (fun _ request stmt s => loadedStatusHolds request stmt s = true) anyCrash

abbrev LifecycleSound (system : System) : Prop := Sound lifecycle (fun _ _ _ _ => True) system

theorem lifecycle_boot (db : Db) (nextId : Nat) (queue : List Nat) : LifecycleSound (boot db nextId queue) :=
  sound_start _ ⟨tidy_start db, related_start missionRule (fun _ => rfl)⟩ (fun _ => trivial)

theorem lifecycle_step (system next : System) (action : Action) (sound : LifecycleSound system)
    (met : StatusHolds system action) (stepped : step system action = some next) :
    LifecycleSound next ∧ missionsMove system.shared next.shared := by
  obtain ⟨kept, promised⟩ := pool_step_sound (D := lifecycle) (fun _ _ _ _ _ _ _ _ => trivial)
    (fun pid request s _ _ _ => lifecycle_starts pid request s) (fun _ _ _ _ _ => trivial) system next action sound met
    stepped
  refine ⟨kept, ?_⟩
  cases action with
  | arrive request =>
      intro key
      rw [show next.shared = system.shared from promised]
      exact mission_cell_refl key _
  | step pid choice => exact promised.2.1
  | crash pid => exact promised.2.1

def terminalMission (status : MissionStatus) : Bool := status = .completed ∨ status = .failed ∨ status = .cancelled

theorem terminal_no_edge {before : MissionStatus} (after : MissionStatus) (terminal : terminalMission before = true) : ¬ Edge before after := by
  revert terminal
  cases before <;> cases after <;> decide

-- A mission that has ended keeps its status.
def EndedStay (system later : System) : Prop :=
  ∀ id mission, system.db.mission id = some mission → terminalMission mission.status = true →
    ∃ row, later.db.mission id = some row ∧ row.status = mission.status

theorem ended_stay_refl (system : System) : EndedStay system system := fun _ mission stored _ => ⟨mission, stored, rfl⟩

theorem ended_stay_trans (first second third : System) (before : EndedStay first second)
    (after : EndedStay second third) : EndedStay first third := by
  intro id mission stored terminal
  obtain ⟨middle, found, same⟩ := before id mission stored terminal
  obtain ⟨row, kept, again⟩ := after id middle found (same ▸ terminal)
  exact ⟨row, kept, again.trans same⟩

theorem missions_move_row (system next : System) (moved : missionsMove system.shared next.shared) (id : Nat)
    (mission : Mission) (stored : system.db.mission id = some mission) :
    ∃ row, next.db.mission id = some row ∧ StatusMoves mission row := by
  have rule : Persists StatusMoves (system.db.mission id) (next.db.mission id) := moved (.mission id)
  rw [stored] at rule
  exact persists_found rule

theorem ended_stay_step (system next : System) (moved : missionsMove system.shared next.shared) :
    EndedStay system next := by
  intro id mission stored terminal
  obtain ⟨row, found, same | edge⟩ := missions_move_row system next moved id mission stored
  · exact ⟨row, found, same⟩
  · exact absurd edge (terminal_no_edge _ terminal)

-- In every run whose flushes meet the condition, a committed status changes along the
-- edges of the table alone, and a mission that has ended never changes status again.
theorem mission_status_follows_transitions (db : Db) (nextId : Nat) (queue : List Nat) (actions : List Action)
    (system : System) (reached : Runs step StatusHolds (boot db nextId queue) actions system) :
    (∀ action next, StatusHolds system action → step system action = some next →
      ∀ id mission, system.db.mission id = some mission →
        ∃ row, next.db.mission id = some row ∧ (row.status = mission.status ∨ Edge mission.status row.status)) ∧
    ∀ further later, Runs step StatusHolds system further later → EndedStay system later := by
  have sound : LifecycleSound system :=
    runs_invariant LifecycleSound (fun s t action holds met stepped => (lifecycle_step s t action holds met stepped).1)
      reached (lifecycle_boot db nextId queue)
  refine ⟨fun action next met stepped id mission stored => ?_, fun further later run => ?_⟩
  · exact missions_move_row system next (lifecycle_step system next action sound met stepped).2 id mission stored
  · refine runs_relates LifecycleSound EndedStay ended_stay_refl ended_stay_trans
      (fun s t action holds met stepped => ?_) run sound
    obtain ⟨kept, moved⟩ := lifecycle_step s t action holds met stepped
    exact ⟨kept, ended_stay_step s t moved⟩

def launched : List Action :=
  .arrive (.createMission member 1 none) :: turns 0 6 ++ .arrive (.startMission member 11) :: turns 1 19

def missionIs (status : MissionStatus) (system : System) : Bool := (system.db.mission 11).any (fun row => row.status = status)

theorem worker_completes_running_mission :
    ∃ system, Runs step StatusHolds (boot office 10 []) (launched ++ .arrive .workerTurn :: turns 2 45) system ∧
      missionIs .completed system = true ∧
      ∀ further later, Runs step StatusHolds system further later → EndedStay system later := by
  obtain ⟨system, run, shown⟩ := checked_exhibit step
    (Pool.checks (fun _ => true) (fun _ => loadedStatusHolds) (fun _ _ => true))
    (fun system action checked => by simpa [StatusHolds] using Pool.meets_of_checks _ _ _ system action checked)
    (missionIs .completed) (boot office 10 []) (launched ++ .arrive .workerTurn :: turns 2 45) (by decide +kernel)
  exact ⟨system, run, shown, (mission_status_follows_transitions office 10 [] _ system run).2⟩

-- A user cancels a mission whose task is queued. The worker that takes the task loads
-- the cancelled mission, never looks at its status, and commits it as completed.
def cancelled : List Action := launched ++ .arrive (.cancelMission member 11) :: turns 2 6

theorem cancelled_mission_completes :
    ∃ system, Runs step Anything (boot office 10 []) (cancelled ++ .arrive .workerTurn :: turns 3 43) system ∧
      missionIs .cancelled system = true ∧
      (∃ next, step system (.step 3 {}) = some next ∧ missionIs .completed next = true) ∧
      ¬ Edge .cancelled .completed := by
  obtain ⟨system, run, shown⟩ := runs_exhibit step
    (fun system => missionIs .cancelled system && (step system (.step 3 {})).any (missionIs .completed))
    (boot office 10 []) (cancelled ++ .arrive .workerTurn :: turns 3 43) (by decide +kernel)
  have both : missionIs .cancelled system = true ∧ (step system (.step 3 {})).any (missionIs .completed) = true := by
    simpa using shown
  exact ⟨system, run, both.1, by simpa [Option.any_eq_true] using both.2, by decide⟩

end AiWorld.Api
