import AiWorld.Api.Lifecycle

set_option autoImplicit false

namespace AiWorld.Api

open AiWorld.Concurrency AiWorld.Database

variable {before : TaskStatus} {request : Request} {pid : Nat} {s : Sys} {query : Database.Stmt Row CloseCall}

-- A path of TASK_TRANSITIONS.
def TaskPath : TaskStatus → TaskStatus → Prop := Relation.ReflTransGen (fun before after => after ∈ taskTransitions before)

def finalTask (status : TaskStatus) : Bool := status = .completed ∨ status = .cancelled

theorem final_no_transition (after : TaskStatus) (final : finalTask before = true) : after ∉ taskTransitions before := by
  revert final
  cases before <;> cases after <;> decide

-- Every status can be reached from one that is not final: a failed task is queued again.
theorem open_task_path (after : TaskStatus) (unfinished : finalTask before = false) : TaskPath before after := by
  have reachesRunning : TaskPath before .running := by
    cases before with
    | queued => exact .single (by decide)
    | running => exact .refl
    | waiting => exact .single (by decide)
    | failed => exact .tail (.single (b := .queued) (by decide)) (by decide)
    | completed => cases unfinished
    | cancelled => cases unfinished
  refine reachesRunning.trans ?_
  cases after with
  | queued => exact .tail (.single (b := .failed) (by decide)) (by decide)
  | running => exact .refl
  | waiting => exact .single (by decide)
  | failed => exact .single (by decide)
  | completed => exact .single (by decide)
  | cancelled => exact .single (by decide)

theorem task_path_final (before after : TaskStatus) (final : finalTask before = true) (path : TaskPath before after) :
    after = before := by
  induction path with
  | refl => rfl
  | tail _ edge ih =>
      subst ih
      exact absurd edge (final_no_transition _ final)

-- What a transaction may make of a committed task: its status stays or moves along a
-- path.
def TaskCell : (key : Key) → Option (Row key) → Option (Row key) → Prop
  | .task _, before, after => Persists (fun (row next : Task) => TaskPath row.status next.status) before after
  | _, _, _ => True

theorem task_cell_refl (key : Key) (row : Option (Row key)) : TaskCell key row row := by
  cases key with
  | task id => exact persists_refl (fun _ => .refl) row
  | _ => trivial

theorem task_cell_elsewhere {key : Key} (before after : Option (Row key)) (elsewhere : ∀ id, key ≠ .task id) :
    TaskCell key before after := by
  cases key with
  | task id => exact absurd rfl (elsewhere id)
  | _ => trivial

theorem task_cell_trans (key : Key) (a b c : Option (Row key)) (first : TaskCell key a b) (second : TaskCell key b c) :
    TaskCell key a c := by
  cases key with
  | task id => exact persists_trans (fun _ _ _ => Relation.ReflTransGen.trans) a c first second
  | _ => trivial

def taskRule : CellRule Row := ⟨fun _ => TaskCell, fun _ => task_cell_refl, fun _ _ _ _ _ _ moves => moves⟩

-- The first write of a transaction to a task's row finds the committed status the
-- session has loaded, and a worker's finds the task still queued or running.
def loadedTaskHolds (pid : Nat) (request : Request) (stmt : Stmt) (s : Sys) : Bool :=
  match stmt with
  | .db (.update (.task id) loaded _) =>
      (s.server.staged pid).any (fun write => write.key = .task id) ||
        (s.db.task id).all (fun row => if isWorker request then executable row.status else row.status = loaded.status)
  | _ => true

-- What the programs write to tasks: no route but the worker flushes a task it has
-- loaded in a final status.
def taskWrite (worker : Bool) : Stmt → Prop
  | .db (.update (.task _) loaded _) => worker = true ∨ finalTask loaded.status = false
  | .db (.updateWhere (.task _) _ _) => False
  | .db (.delete (.task _)) => False
  | _ => True

theorem executable_open {status : TaskStatus} (runs : executable status = true) : finalTask status = false := by
  revert runs
  cases status <;> decide

theorem transition_open {current target : TaskStatus} (valid : validateTaskTransition current target = .ok ()) :
    finalTask current = false := by
  cases final : finalTask current with
  | false => rfl
  | true => exact absurd (task_transition_ok valid) (final_no_transition target final)

-- The tasks a transaction has written to are open in the database.
def TasksOpen (pid : Nat) (s : Server Row Index CloseCall) : Prop :=
  ∀ write ∈ s.staged pid, ∀ id, write.key = .task id → ∀ row, s.db.lookup (.task id) = some row →
    finalTask row.status = false

theorem task_row_absent {s : Server Row Index CloseCall} (related : Related taskRule s) {id : Nat}
    (absent : (s.view pid).lookup (.task id) = none) : s.db.lookup (.task id) = none := by
  have rule : Persists (fun (row next : Task) => TaskPath row.status next.status) (s.db.lookup (.task id))
      ((s.view pid).lookup (.task id)) := related pid (.task id)
  rw [absent] at rule
  cases stored : s.db.lookup (.task id) with
  | none => rfl
  | some row =>
      rw [stored] at rule
      exact rule.elim

-- A write to a task under the condition, against the committed row.
theorem written_task_open (related : Related taskRule s.server) (fine : taskWrite (isWorker request) (.db query))
    (holds : loadedTaskHolds pid request (.db query) s = true) (unfinished : TasksOpen pid s.server) {write : Write Row}
    (issued : query.write = some write) (applies : query.applies schema (s.server.view pid)) (id : Nat)
    (here : write.key = .task id) (row : Task) (stored : s.server.db.lookup (.task id) = some row) :
    finalTask row.status = false := by
  cases query with
  | insert key fresh =>
      cases issued
      obtain rfl : key = .task id := here
      have absent := task_row_absent related (accepts_absent applies)
      cases absent.symm.trans stored
  | update key loaded columns =>
      cases issued
      obtain rfl : key = .task id := here
      have committed : s.db.task id = some row := stored
      have met : (∃ other ∈ s.server.staged pid, other.key = .task id) ∨
          (if isWorker request then executable row.status else row.status = loaded.status) := by
        simpa [loadedTaskHolds, committed] using holds
      rcases met with ⟨other, member, same⟩ | loadedStill
      · exact unfinished other member id same row stored
      · cases worker : isWorker request with
        | true => exact executable_open (by simpa [worker] using loadedStill)
        | false =>
            have same : row.status = loaded.status := by simpa [worker] using loadedStill
            rcases fine with works | loadedOpen
            · simp [worker] at works
            · rw [same]
              exact loadedOpen
  | updateWhere key wanted columns =>
      cases issued
      obtain rfl : key = .task id := here
      exact fine.elim
  | delete key =>
      cases issued
      obtain rfl : key = .task id := here
      exact fine.elim
  | _ => cases issued

theorem task_write_respects (related : Related taskRule s.server) (fine : taskWrite (isWorker request) (.db query))
    (holds : loadedTaskHolds pid request (.db query) s = true) (unfinished : TasksOpen pid s.server) :
    Respects taskRule schema pid query s.server := by
  intro write issued applies
  have settled := written_task_open related fine holds unfinished issued applies
  by_cases task : ∃ id, write.key = .task id
  · obtain ⟨id, here⟩ := task
    have rule : Persists (fun (row next : Task) => TaskPath row.status next.status) (s.server.db.lookup (.task id))
        ((s.server.view pid).lookup (.task id)) := related pid (.task id)
    have opened := settled id here
    cases write with
    | put key fresh =>
        obtain rfl : key = .task id := here
        change Persists _ (s.server.db.lookup (.task id)) (some fresh)
        cases stored : s.server.db.lookup (.task id) with
        | none => trivial
        | some row => exact open_task_path _ (opened row stored)
    | change key columns =>
        obtain rfl : key = .task id := here
        change Persists _ (s.server.db.lookup (.task id)) (((s.server.view pid).lookup (.task id)).map columns)
        cases stored : s.server.db.lookup (.task id) with
        | none => trivial
        | some row =>
            rw [stored] at rule
            obtain ⟨found, seen, -⟩ := persists_found rule
            rw [seen]
            exact open_task_path _ (opened row stored)
    | erase key =>
        obtain rfl : key = .task id := here
        cases query with
        | delete key =>
            cases issued
            exact fine.elim
        | _ => cases issued
  · exact task_cell_elsewhere _ _ (fun id here => task ⟨id, here⟩)

theorem move_tasks_open {t : Server Row Index CloseCall} (related : Related taskRule s.server)
    (fine : taskWrite (isWorker request) (.db query)) (holds : loadedTaskHolds pid request (.db query) s = true)
    (unfinished : TasksOpen pid s.server) (move : Move schema pid query s.server t) : TasksOpen pid t := by
  cases move with
  | none => exact unfinished
  | grab grab granted => exact unfinished
  | write grab write granted covered issued applies sharing =>
      intro staged member
      have origin : staged ∈ s.server.staged pid ∨ staged = write := by simpa [Server.stages] using member
      rcases origin with old | rfl
      · exact unfinished staged old
      · exact written_task_open related fine holds unfinished issued applies
  | note note issued => exact unfinished
  | commit issued => simp [TasksOpen, Server.commits, Server.rollsBack]
  | rollback issued => simp [TasksOpen, Server.rollsBack]

end AiWorld.Api
