import AiWorld.Api.SessionRecords
import AiWorld.Api.TaskRuns

set_option autoImplicit false

namespace AiWorld.Api

open AiWorld.Concurrency AiWorld.Database

section
variable {wanted : Key → Bool} (rooms : ∀ id, wanted (.roomAssignment id) = false)

-- The unique indexes of the wanted tables hold, whatever runs and crashes.
def permanence (wanted : Key → Bool) : Discipline machine Request :=
  growth (fun _ _ _ _ => True) anyCrash (fun s => Unique (schema.only wanted) s.server)
    (fun pid s _ unique _ => rollback_unique pid s.server unique)

abbrev PermanenceSound (wanted : Key → Bool) (system : System) : Prop := Sound (permanence wanted) (fun _ _ _ _ => True) system

theorem permanence_boot {db : Db} (nextId : Nat) (queue : List Nat) (distinct : Distinct (schema.only wanted) db) :
    PermanenceSound wanted (boot db nextId queue) :=
  sound_start _ ⟨growth_boot db nextId queue, unique_start distinct⟩ (fun _ => rfl)

include rooms

theorem permanence_executes {pid : Nat} {request : Request} {stmt : Stmt} {s t : Sys} {choice : Choice} {answer : Ans stmt}
    (fine : programWrite (powersOf request) stmt) (inv : (permanence wanted).inv s)
    (executed : exec pid stmt choice s = some (answer, t)) : (permanence wanted).guarantee pid s t := by
  refine growth_guarantees inv.1 fine.2.1 ?_ executed
  rcases exec_moves executed with ⟨query, rfl, move⟩ | same
  · exact move_unique inv.1.1 inv.2 (pins_shrinks rooms fine.2.1) (move_only wanted move)
  · exact same ▸ inv.2

theorem permanence_starts (pid : Nat) (request : Request) (s : Sys) :
    Safe (permanence wanted).toContract pid request (fun _ _ => True) (program request) s := by
  have walk : Triple (permanence wanted).toContract pid request (fun _ => True) (program request)
      (fun result _ => Returned Fine result ∧ True) :=
    triple_issues (fun _ _ _ _ _ => trivial) (fun (stmt : Stmt) s choice answer t fine _ inv _ executed =>
      ⟨permanence_executes rooms fine inv executed, trivial⟩) route_writes
  exact safe_weaken (fun _ _ _ => trivial) _ s (walk s trivial)

theorem permanence_step (system next : System) (action : Action) (sound : PermanenceSound wanted system)
    (stepped : step system action = some next) : PermanenceSound wanted next ∧ Extends system.db next.db := by
  obtain ⟨kept, promised⟩ := pool_step_sound (D := permanence wanted) (fun _ _ _ _ _ _ _ _ => trivial)
    (fun pid request s _ _ _ => permanence_starts rooms pid request s) (fun _ _ _ _ _ => trivial) system next action sound
    (Pool.meets_always (fun _ => trivial) (fun _ _ _ _ => trivial) (fun _ _ => trivial) system action) stepped
  refine ⟨kept, ?_⟩
  cases action with
  | arrive request =>
      have same : next.db = system.db := congrArg (fun shared : Sys => shared.db) promised
      rw [same]
      exact extends_refl system.db
  | step pid choice => exact promised.2.1
  | crash pid => exact promised.2.1

theorem permanence_reached {db : Db} {nextId : Nat} {queue : List Nat} (distinct : Distinct (schema.only wanted) db)
    {actions : List Action} {system : System} (reached : Runs step Anything (boot db nextId queue) actions system) :
    PermanenceSound wanted system :=
  runs_invariant (PermanenceSound wanted) (fun s t action sound _ stepped => (permanence_step rooms s t action sound stepped).1)
    reached (permanence_boot nextId queue distinct)

end

def linksProject : Key → Bool
  | .missionProject _ => true
  | _ => false

-- Whatever requests run, crash and interleave, a committed row stays with its pinned
-- columns, but for the link of a mission to its project.
theorem committed_rows_stay (db : Db) (nextId : Nat) (queue : List Nat) (actions : List Action) (system : System)
    (reached : Runs step Anything (boot db nextId queue) actions system) (further : List Action) (later : System)
    (run : Runs step Anything system further later) (key : Key) (lasting : linksProject key = false) (row : Row key)
    (stored : system.db.lookup key = some row) : ∃ after, later.db.lookup key = some after ∧ Pinned key row after := by
  have rooms : ∀ id, (fun _ : Key => false) (.roomAssignment id) = false := fun _ => rfl
  have grown : Extends system.db later.db :=
    runs_relates (PermanenceSound (fun _ => false)) (fun s t => Extends s.db t.db) (fun s => extends_refl s.db)
      (fun _ t _ before after => extends_trans t.db before after)
      (fun s t action sound _ stepped => permanence_step rooms s t action sound stepped) run
      (permanence_reached rooms (fun _ _ _ _ _ _ _ listed => by cases listed) reached)
  have moves := grown key
  rw [stored] at moves
  cases key with
  | missionProject id => cases lasting
  | _ => exact persists_found moves

theorem completing_runs : ∃ system, Runs step Anything (boot externalDesk 10 []) completing system := by
  obtain ⟨system, run, -⟩ := runs_exhibit step (taskIs 4 .completed) (boot externalDesk 10 []) completing (by decide +kernel)
  exact ⟨system, run⟩

theorem committed_rows_stay_completing :
    ∃ later, Runs step Anything (boot externalDesk 10 []) completing later ∧
      ∃ after, later.db.lookup (.task 4) = some after ∧ Pinned (.task 4) ⟨3, 1, .queued, 0, "3:task:1", none⟩ after := by
  obtain ⟨later, run⟩ := completing_runs
  exact ⟨later, run, committed_rows_stay externalDesk 10 [] [] _ (.nil _) completing later run (.task 4) rfl _ rfl⟩

-- All unique indexes but those of the rooms, which a release gives up.
def keepsEntries : Key → Bool
  | .roomAssignment _ => false
  | _ => true

def pinnedIndexes : Schema Row Index := schema.only keepsEntries

end AiWorld.Api
