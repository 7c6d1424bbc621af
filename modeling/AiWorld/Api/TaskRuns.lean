import AiWorld.Api.Writes

set_option autoImplicit false

namespace AiWorld.Api

open AiWorld.Concurrency AiWorld.Database

variable {s : Sys} {pid : Nat}

def tasksRelated (s : Sys) : Prop := Tidy s.server ∧ Related taskRule s.server

def tasksMove (s t : Sys) : Prop := ∀ key, TaskCell key (s.db.lookup key) (t.db.lookup key)

-- A process relies on the rows it has written to: nobody else commits to them.
def taskLife : Discipline machine Request :=
  .ofRely machine (fun pid request stmt s => loadedTaskHolds pid request stmt s = true) anyCrash tasksRelated tasksMove
    (fun pid s t => Steady taskRule pid s.server t.server) (fun pid s => s.server.staged pid = [])
    (fun pid s => steady_refl taskRule pid s.server)
    (fun pid s t u => steady_trans taskRule (fun _ => task_cell_trans) pid s.server t.server u.server)
    (fun pid s inv _ => by
      obtain ⟨kept, moved, steady⟩ := crash_related pid s inv.1 inv.2
      exact ⟨kept, moved, fun other different => ⟨steady other different, fun idle =>
        (steady other different).undisturbed.staged.trans idle⟩⟩)

def Careful (pid : Nat) (s : Sys) : Prop := Tidy s.server ∧ TasksOpen pid s.server

theorem careful_stable : Stable taskLife.toContract pid (Careful pid) := by
  intro s t holds moved inv
  refine ⟨inv.1, fun write member id here row stored => ?_⟩
  rw [moved.undisturbed.staged] at member
  have held : s.server.rowLock (.task id) = some pid := here ▸ holds.1.owned pid write member
  rw [moved.undisturbed.rows _ held] at stored
  exact holds.2 write member id here row stored

theorem task_life_executes {request : Request} {stmt : Stmt} {t : Sys} {choice : Choice} {answer : Ans stmt}
    (fine : taskWrite (isWorker request) stmt) (careful : Careful pid s) (inv : tasksRelated s)
    (holds : loadedTaskHolds pid request stmt s = true) (executed : exec pid stmt choice s = some (answer, t)) :
    taskLife.guarantee pid s t ∧ Careful pid t := by
  obtain ⟨kept, moved, steady⟩ := exec_related inv.1 inv.2
    (fun query issued => by
      subst issued
      exact task_write_respects inv.2 fine holds careful.2) executed
  refine ⟨⟨kept, moved, fun other different => ⟨steady other different, fun idle =>
    (steady other different).undisturbed.staged.trans idle⟩⟩, kept.1, ?_⟩
  rcases exec_moves executed with ⟨query, rfl, move⟩ | same
  · exact move_tasks_open inv.2 fine holds careful.2 move
  · exact same ▸ careful.2

theorem task_life_starts (request : Request) (inv : tasksRelated s) (idle : s.server.staged pid = []) :
    Safe taskLife.toContract pid request (fun _ _ => True) (program request) s := by
  have walk : Triple taskLife.toContract pid request (Careful pid) (program request)
      (fun result t => Returned Fine result ∧ Careful pid t) :=
    triple_issues (careful_stable) (fun (stmt : Stmt) s choice answer t fine careful inv holds executed =>
      task_life_executes fine.2.2.2 careful inv holds executed) (route_writes)
  exact safe_weaken (fun _ _ _ => trivial) _ s (walk s ⟨inv.1, by simp [TasksOpen, idle]⟩)

-- Every first write to a task finds the status it was decided on.
def TaskStatusHolds : System → Action → Prop :=
  Pool.Meets (fun _ => True) (fun pid request stmt s => loadedTaskHolds pid request stmt s = true) anyCrash

abbrev TaskLifeSound (system : System) : Prop := Sound taskLife (fun _ _ _ _ => True) system

theorem task_life_boot (db : Db) (nextId : Nat) (queue : List Nat) : TaskLifeSound (boot db nextId queue) :=
  sound_start _ ⟨tidy_start db, related_start taskRule (fun _ => rfl)⟩ (fun _ => rfl)

theorem task_life_step (system next : System) (action : Action) (sound : TaskLifeSound system)
    (met : TaskStatusHolds system action) (stepped : step system action = some next) :
    TaskLifeSound next ∧ tasksMove system.shared next.shared := by
  obtain ⟨kept, promised⟩ := pool_step_sound (D := taskLife) (fun _ _ _ _ _ _ _ _ => trivial)
    (fun pid request s _ inv idle => task_life_starts request inv idle) (fun _ _ _ _ _ => trivial) system next action
    sound met stepped
  refine ⟨kept, ?_⟩
  cases action with
  | arrive request =>
      intro key
      rw [show next.shared = system.shared from promised]
      exact task_cell_refl key _
  | step pid choice => exact promised.2.1
  | crash pid => exact promised.2.1

-- The later committed status of each task is on a path from the earlier one.
def TasksAdvance (system later : System) : Prop :=
  ∀ id task, system.db.task id = some task → ∃ row, later.db.task id = some row ∧ TaskPath task.status row.status

theorem tasks_advance_refl (system : System) : TasksAdvance system system := fun _ task stored => ⟨task, stored, .refl⟩

theorem tasks_advance_trans (first second third : System) (before : TasksAdvance first second)
    (after : TasksAdvance second third) : TasksAdvance first third := by
  intro id task stored
  obtain ⟨middle, found, path⟩ := before id task stored
  obtain ⟨row, kept, further⟩ := after id middle found
  exact ⟨row, kept, path.trans further⟩

theorem tasks_advance_step (system next : System) (moved : tasksMove system.shared next.shared) :
    TasksAdvance system next := by
  intro id task stored
  have rule : Persists (fun (row next : Task) => TaskPath row.status next.status) (system.db.task id) (next.db.task id) :=
    moved (.task id)
  rw [stored] at rule
  exact persists_found rule

-- In every run whose first writes meet the condition, every committed change of a
-- task's status is a path of the table, and a final status stays.
theorem task_status_follows_paths (db : Db) (nextId : Nat) (queue : List Nat) (actions : List Action) (system : System)
    (reached : Runs step TaskStatusHolds (boot db nextId queue) actions system) (further : List Action) (later : System)
    (run : Runs step TaskStatusHolds system further later) (id : Nat) (task : Task)
    (stored : system.db.task id = some task) :
    ∃ row, later.db.task id = some row ∧ TaskPath task.status row.status ∧
      (task.status = .completed ∨ task.status = .cancelled → row.status = task.status) := by
  have sound : TaskLifeSound system :=
    runs_invariant TaskLifeSound (fun s t action holds met stepped => (task_life_step s t action holds met stepped).1)
      reached (task_life_boot db nextId queue)
  have advance : TasksAdvance system later :=
    runs_relates TaskLifeSound TasksAdvance tasks_advance_refl tasks_advance_trans
      (fun s t action holds met stepped => by
        obtain ⟨kept, moved⟩ := task_life_step s t action holds met stepped
        exact ⟨kept, tasks_advance_step s t moved⟩) run sound
  obtain ⟨row, found, path⟩ := advance id task stored
  exact ⟨row, found, path, fun final => task_path_final _ _ (by simpa [finalTask] using final) path⟩

-- A desk with one external agent and its running mission.
def desk : Db :=
  ((((∅ : Db).insert (.modelPolicy 0) ⟨1, "claude-code-external"⟩).insert (.agent 1)
    ⟨1, "AGT-X", "External", .active, some 2⟩).insert (.agentVersion 2) ⟨1, 1, "external_manual", 0⟩).insert (.mission 3)
      ⟨1, "MSN-3", some 1, .running⟩

def externalDesk : Db := desk.insert (.task 4) ⟨3, 1, .queued, 0, "3:task:1", none⟩

def taskIs (id : Nat) (status : TaskStatus) (system : System) : Bool :=
  (system.db.task id).any (fun row => row.status = status)

def completing : List Action := .arrive (.completeTaskExternal member 4 (.ok ())) :: turns 0 19

theorem task_is_iff (id : Nat) (status : TaskStatus) (system : System) :
    taskIs id status system = true ↔ ∃ row, system.db.task id = some row ∧ row.status = status := by
  simp [taskIs, Option.any_eq_true]

theorem completed_task_stays :
    ∃ system, Runs step TaskStatusHolds (boot externalDesk 10 []) completing system ∧ taskIs 4 .completed system = true ∧
      ∀ further later, Runs step TaskStatusHolds system further later → taskIs 4 .completed later = true := by
  obtain ⟨system, run, shown⟩ := checked_exhibit step
    (Pool.checks (fun _ => true) loadedTaskHolds (fun _ _ => true))
    (fun system action checked => by simpa [TaskStatusHolds] using Pool.meets_of_checks _ _ _ system action checked)
    (taskIs 4 .completed) (boot externalDesk 10 []) completing (by decide +kernel)
  refine ⟨system, run, shown, fun further later more => ?_⟩
  obtain ⟨task, stored, completed⟩ := (task_is_iff 4 .completed system).mp shown
  obtain ⟨row, found, -, stays⟩ := task_status_follows_paths externalDesk 10 [] completing system run further later more 4
    task stored
  exact (task_is_iff 4 .completed later).mpr ⟨row, found, (stays (.inl completed)).trans completed⟩

-- A fail and a complete of one queued external task have both loaded it. The complete
-- commits, and the fail then writes over the row it never read again.
def overlapping : List Action :=
  .arrive (.failTaskExternal member 4) :: turns 0 4 ++ .arrive (.completeTaskExternal member 4 (.ok ())) :: turns 1 19 ++
    turns 0 9

theorem completed_task_fails :
    ∃ system, Runs step Anything (boot externalDesk 10 []) overlapping system ∧ taskIs 4 .completed system = true ∧
      (∃ next, step system (.step 0 {}) = some next ∧ taskIs 4 .failed next = true) ∧ ¬ TaskPath .completed .failed := by
  obtain ⟨system, run, shown⟩ := runs_exhibit step
    (fun system => taskIs 4 .completed system && (step system (.step 0 {})).any (taskIs 4 .failed))
    (boot externalDesk 10 []) overlapping (by decide +kernel)
  have both : taskIs 4 .completed system = true ∧ (step system (.step 0 {})).any (taskIs 4 .failed) = true := by
    simpa using shown
  refine ⟨system, run, both.1, by simpa [Option.any_eq_true] using both.2, fun path => ?_⟩
  cases task_path_final .completed .failed rfl path

end AiWorld.Api
