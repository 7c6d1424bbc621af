import AiWorld.Api.Requests
import AiWorld.Database.Cells

set_option autoImplicit false

namespace AiWorld.Api

open AiWorld.Concurrency AiWorld.Database

variable {key : Key} {s t : Sys} {stmt : Stmt} {pid : Nat} {choice : Choice}
variable {answer : Ans stmt} {rule : CellRule Row} {committed : Option (Row key)}

-- A statement of the system either moves the server or leaves it alone.
theorem exec_moves (executed : exec pid stmt choice s = some (answer, t)) :
    (∃ query, stmt = .db query ∧ Move schema pid query s.server t.server) ∨ t.server = s.server := by
  cases stmt with
  | db query =>
      obtain ⟨⟨found, after⟩, performed, same⟩ := Option.map_eq_some_iff.mp executed
      cases same
      exact .inl ⟨query, rfl, perform_moves performed⟩
  | pop =>
      right
      cases last : s.queue.getLast? with
      | none =>
          simp only [exec, last] at executed
          cases executed
          rfl
      | some taskId =>
          simp only [exec, last] at executed
          cases executed
          rfl
  | acquire taskId =>
      right
      cases held : s.lease taskId with
      | none =>
          simp only [exec, held] at executed
          cases executed
          rfl
      | some holder =>
          simp only [exec, held] at executed
          cases executed
          rfl
  | newId =>
      cases executed
      exact .inr rfl
  | now =>
      cases executed
      exact .inr rfl
  | model =>
      cases executed
      exact .inr rfl
  | reportStarted missionId taskId =>
      cases executed
      exact .inr rfl
  | owe taskId =>
      cases executed
      exact .inr rfl
  | push taskId =>
      cases executed
      exact .inr rfl
  | leased taskId =>
      cases executed
      exact .inr rfl
  | begin taskId =>
      cases executed
      exact .inr rfl
  | release taskId =>
      cases executed
      exact .inr rfl
  | expire taskId =>
      cases executed
      exact .inr rfl

theorem exec_onward (query : Database.Stmt Row CloseCall) (s t : Sys) (answer : Ans (.db query)) (open_ : query ≠ .commit)
    (forward : query ≠ .rollback) (executed : exec pid (.db query) choice s = some (answer, t)) :
    Onward schema pid query s.server t.server := by
  obtain ⟨⟨found, after⟩, performed, same⟩ := Option.map_eq_some_iff.mp executed
  cases same
  rcases move_onward (perform_moves performed) with
    ⟨ends, -⟩ | ⟨ends, -⟩ | onward
  · exact absurd ends open_
  · exact absurd ends forward
  · exact onward

-- Redis answers at once; only the database keeps a process waiting.
theorem exec_waits (pid : Nat) (stmt : Stmt) (choice : Choice) (s : Sys) (blocked : exec pid stmt choice s = none) :
    ∃ other, other ≠ pid ∧ s.server.Holds other := by
  cases stmt with
  | db query => exact perform_waits (Option.map_eq_none_iff.mp blocked)
  | pop =>
      simp only [exec] at blocked
      split at blocked
      next => cases blocked
      next => cases blocked
  | acquire taskId =>
      simp only [exec] at blocked
      split at blocked
      next => cases blocked
      next => cases blocked
  | _ => cases blocked

theorem exec_related (tidy : Tidy s.server) (related : Related rule s.server)
    (respects : ∀ query, stmt = .db query → Respects rule schema pid query s.server)
    (executed : exec pid stmt choice s = some (answer, t)) :
    (Tidy t.server ∧ Related rule t.server) ∧
      (∀ key, rule.allows (s.server.locks pid) key (s.db.lookup key) (t.db.lookup key)) ∧
      ∀ other, other ≠ pid → Steady rule other s.server t.server := by
  rcases exec_moves executed with ⟨query, rfl, move⟩ | same
  · obtain ⟨kept, moved⟩ := move_related tidy related (respects query rfl) move
    exact ⟨⟨move_tidy schema pid query tidy move, kept⟩, moved, fun other different =>
      move_steady tidy related (respects query rfl) different move⟩
  · simp only [Sys.db, same]
    exact ⟨⟨tidy, related⟩, fun key => rule.refl _ key _, fun other _ => steady_refl rule other s.server⟩

-- A crash does to the server what a rollback does.
theorem crash_related (pid : Nat) (s : Sys) (tidy : Tidy s.server) (related : Related rule s.server) :
    (Tidy (s.crashes pid).server ∧ Related rule (s.crashes pid).server) ∧
      (∀ key, rule.allows (s.server.locks pid) key (s.db.lookup key) ((s.crashes pid).db.lookup key)) ∧
      ∀ other, other ≠ pid → Steady rule other s.server (s.crashes pid).server := by
  have move : Move schema pid .rollback s.server (s.server.rollsBack pid) := .rollback rfl
  have respects : Respects rule schema pid .rollback s.server := respects_reading rfl
  obtain ⟨kept, moved⟩ := move_related tidy related respects move
  exact ⟨⟨move_tidy schema pid _ tidy move, kept⟩, moved, fun other different =>
    move_steady tidy related respects different move⟩

abbrev anyCrash (_ : Nat) (_ : Sys) : Prop := True

abbrev noCrash (_ : Nat) (_ : Sys) : Prop := False

-- The columns that no program sets after the insert.
def Pinned : (key : Key) → Row key → Row key → Prop
  | .agent _, before, after =>
      after = { before with lifecycleState := after.lifecycleState, activeVersionId := after.activeVersionId }
  | .mission _, before, after => after = { before with status := after.status }
  | .task _, before, after =>
      after = { before with
        status := after.status, retryCount := after.retryCount, outputArtifactId := after.outputArtifactId }
  | .roomAssignment _, before, after => after = { before with releasedAt := after.releasedAt }
  | .session _, before, after =>
      after = { before with
        lastHeartbeatAt := after.lastHeartbeatAt, endedAt := after.endedAt, outcome := after.outcome }
  | .closure _, before, after => after = { before with lateCloseAt := after.lateCloseAt }
  | _, before, after => after = before

theorem pinned_refl (key : Key) (row : Row key) : Pinned key row row := by
  cases key <;> rfl

theorem pinned_trans (key : Key) (a b c : Row key) (first : Pinned key a b) (second : Pinned key b c) :
    Pinned key a c := by
  cases key <;> (simp only [Pinned] at first second ⊢; rw [second, first])

-- Only the link of a mission to its project is ever deleted or pointed elsewhere.
def PinMoves : (key : Key) → Option (Row key) → Option (Row key) → Prop
  | .missionProject _, _, _ => True
  | key, before, after => Persists (Pinned key) before after

theorem pin_moves_refl (key : Key) (row : Option (Row key)) : PinMoves key row row := by
  cases key with
  | missionProject id => trivial
  | _ => exact persists_refl (pinned_refl _) row

theorem pin_moves_trans (key : Key) (a b c : Option (Row key)) (first : PinMoves key a b) (second : PinMoves key b c) :
    PinMoves key a c := by
  cases key with
  | missionProject id => trivial
  | _ => exact persists_trans (pinned_trans _) a c first second

def pinRule : CellRule Row := ⟨fun _ => PinMoves, fun _ => pin_moves_refl, fun _ _ _ _ _ _ moves => moves⟩

-- What a statement does to rows that are there already.
def pinsColumns : Stmt → Prop
  | .db (.update key _ columns) => ∀ row, PinMoves key (some row) (some (columns row))
  | .db (.updateWhere key _ columns) => ∀ row, PinMoves key (some row) (some (columns row))
  | .db (.delete key) => ∀ row, PinMoves key row none
  | _ => True

theorem pin_moves_inserted (row : Row key) (moves : PinMoves key committed none) : PinMoves key committed (some row) := by
  cases key with
  | missionProject id => trivial
  | _ =>
      cases committed with
      | none => trivial
      | some before => exact moves.elim

theorem pin_moves_changed {seen : Option (Row key)} (columns : Row key → Row key) (moves : PinMoves key committed seen)
    (pins : ∀ row, PinMoves key (some row) (some (columns row))) : PinMoves key committed (seen.map columns) := by
  cases seen with
  | none => exact moves
  | some found => exact pin_moves_trans key _ _ _ moves (pins found)

theorem pins_respects {query : Database.Stmt Row CloseCall} {s : Server Row Index CloseCall} (related : Related pinRule s)
    (pins : pinsColumns (.db query)) : Respects pinRule schema pid query s := by
  cases query with
  | insert key row =>
      refine respects_insert (fun accepted => ?_)
      have seen := related pid key
      rw [accepts_absent accepted] at seen
      exact pin_moves_inserted row seen
  | update key loaded columns =>
      exact respects_update (pin_moves_changed columns (related pid key) pins)
  | updateWhere key wanted columns =>
      refine respects_update_where (fun found stored wants => ?_)
      have seen := related pid key
      rw [stored] at seen
      exact pin_moves_trans key _ _ _ seen (pins found)
  | delete key => exact respects_delete (pins _)
  | _ => exact respects_reading rfl

-- What a program may do: flush a mission as the worker does, roll back, and insert
-- rows with references inside a tenant.
structure Powers where
  worker : Bool
  rolls : Bool
  inserts : (key : Key) → Row key → Prop

-- A runtime session is inserted with its mission.
def Missioned : (key : Key) → Row key → Prop
  | .session _, row => row.missionId.isSome = true
  | _, _ => True

-- May insert every row that some program inserts.
def Powers.Free (powers : Powers) : Prop := ∀ key row, Missioned key row → powers.inserts key row

def mayInsert (powers : Powers) : (key : Key) → Row key → Prop
  | .agentVersion id, row => powers.inserts (.agentVersion id) row
  | .mission id, row => powers.inserts (.mission id) row
  | .missionProject id, row => powers.inserts (.missionProject id) row
  | .task id, row => powers.inserts (.task id) row
  | .artifact id, row => powers.inserts (.artifact id) row
  | .modelInvocation id, row => powers.inserts (.modelInvocation id) row
  | .checkpoint id, row => powers.inserts (.checkpoint id) row
  | .session id, row => powers.inserts (.session id) row
  | _, _ => True

def inScope (powers : Powers) : Stmt → Prop
  | .db (.insert key row) => mayInsert powers key row
  | .db (.update (.missionProject id) _ columns) => ∀ row, powers.inserts (.missionProject id) (columns row)
  | .db (.updateWhere (.missionProject _) _ _) => False
  | .db .rollback => powers.rolls = true
  | _ => True

def insertsOwned : Request → Bool
  | .createAgent _ _ _ _ => true
  | .createAgentVersion _ _ _ => true
  | .createMission _ _ _ => true
  | .updateMission _ _ _ => true
  | .startMission _ _ => true
  | .completeTaskExternal _ _ _ => true
  | .registerSession _ _ => true
  | .registerSubagent _ _ => true
  | .workerTurn => true
  | _ => false

end AiWorld.Api
