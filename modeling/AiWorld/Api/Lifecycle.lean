import AiWorld.Api.Columns

set_option autoImplicit false

namespace AiWorld.Api

open AiWorld.Concurrency AiWorld.Database

variable {seen committed : Option Mission}

-- `start_mission` goes from draft to running in one update.
def Edge (before after : MissionStatus) : Prop :=
  after ∈ missionTransitions before ∨ (before = .draft ∧ after = .running)

instance (before after : MissionStatus) : Decidable (Edge before after) := inferInstanceAs (Decidable (_ ∨ _))

def StatusMoves (before after : Mission) : Prop := after.status = before.status ∨ Edge before.status after.status

-- A committed mission stays, with its status or moved along an edge.
abbrev MissionMoves : Option Mission → Option Mission → Prop := Persists StatusMoves

def MissionCell : (key : Key) → Option (Row key) → Option (Row key) → Prop
  | .mission _, before, after => MissionMoves before after
  | _, _, _ => True

theorem mission_cell_refl (key : Key) (row : Option (Row key)) : MissionCell key row row := by
  cases key with
  | mission id =>
      cases row with
      | none => trivial
      | some mission => exact .inl rfl
  | _ => trivial

def missionRule : CellRule Row := ⟨fun _ => MissionCell, fun _ => mission_cell_refl, fun _ _ _ _ _ _ moves => moves⟩

def isWorker : Request → Bool
  | .workerTurn => true
  | _ => false

-- A flush of a mission's status finds the committed status the session has loaded,
-- and a worker has loaded the mission running or writes the loaded status back.
def loadedStatusHolds (request : Request) (stmt : Stmt) (s : Sys) : Bool :=
  match stmt with
  | .db (.update (.mission id) loaded columns) =>
      (s.db.mission id).all (fun row => row.status = loaded.status) &&
        (!isWorker request || loaded.status = .running || (columns loaded).status = loaded.status)
  | _ => true

-- What the programs write to missions.
def missionWrite (worker : Bool) : Stmt → Prop
  | .db (.update (.mission _) loaded columns) =>
      ∃ target, (∀ row, (columns row).status = target) ∧
        (Edge loaded.status target ∨ (worker = true ∧ Edge .running target))
  | .db (.updateWhere (.mission _) holds columns) =>
      (∀ row, holds row = true → startable row = true) ∧ ∀ row, (columns row).status = .running
  | .db (.delete (.mission _)) => False
  | _ => True

theorem startable_edge {before after : MissionStatus} (moved : after = before ∨ Edge before after)
    (start : after = .draft ∨ after = .ready) : Edge before .running := by
  revert moved start
  cases before <;> cases after <;> decide

theorem mission_inserted (row : Mission) (moves : MissionMoves committed seen)
    (absent : seen = none) : MissionMoves committed (some row) := by
  subst absent
  cases committed with
  | none => trivial
  | some before => exact moves.elim

theorem mission_updated (columns : Mission → Mission) {target : MissionStatus} (moves : MissionMoves committed seen)
    (sets : ∀ row, (columns row).status = target)
    (allowed : ∀ before, committed = some before → target = before.status ∨ Edge before.status target) :
    MissionMoves committed (seen.map columns) := by
  cases committed with
  | none => trivial
  | some before =>
      cases seen with
      | none => exact moves.elim
      | some found =>
          have written : (columns found).status = target := sets found
          simpa only [Option.map_some, Persists, StatusMoves, written] using allowed before rfl

theorem mission_started {found : Mission} (columns : Mission → Mission) (moves : MissionMoves committed (some found))
    (start : startable found = true)
    (sets : ∀ row, (columns row).status = .running) : MissionMoves committed (some (columns found)) := by
  cases committed with
  | none => trivial
  | some before =>
      right
      rw [sets]
      exact startable_edge moves (by simpa [startable] using start)

theorem mission_write_respects {request : Request} {pid : Nat} {query : Database.Stmt Row CloseCall} {s : Sys}
    (related : Related missionRule s.server) (fine : missionWrite (isWorker request) (.db query))
    (holds : loadedStatusHolds request (.db query) s = true) : Respects missionRule schema pid query s.server := by
  cases query with
  | insert key row =>
      cases key with
      | mission id =>
          exact respects_insert (fun accepted =>
            mission_inserted row (related pid (.mission id)) (accepts_absent accepted))
      | _ => exact respects_insert (fun _ => trivial)
  | update key loaded columns =>
      cases key with
      | mission id =>
          obtain ⟨target, sets, edge⟩ := fine
          refine respects_update (mission_updated columns (related pid (.mission id)) sets ?_)
          intro before committed
          have still : before.status = loaded.status ∧
              ((isWorker request = false ∨ loaded.status = .running) ∨ (columns loaded).status = loaded.status) := by
            simpa [loadedStatusHolds, Sys.db, Db.mission, committed] using holds
          rw [still.1]
          rcases edge with direct | ⟨worker, running⟩
          · exact .inr direct
          · rcases still.2 with (other | loadedRunning) | rewritten
            · simp [worker] at other
            · exact .inr (loadedRunning ▸ running)
            · exact .inl ((sets loaded).symm.trans rewritten)
      | _ => exact respects_update trivial
  | updateWhere key wanted columns =>
      cases key with
      | mission id =>
          refine respects_update_where (fun found stored wants => ?_)
          have seen := related pid (.mission id)
          rw [stored] at seen
          exact mission_started columns seen (fine.1 found wants) fine.2
      | _ => exact respects_update_where (fun _ _ _ => trivial)
  | delete key =>
      cases key with
      | mission id => exact fine.elim
      | _ => exact respects_delete trivial
  | _ => exact respects_reading rfl

end AiWorld.Api
