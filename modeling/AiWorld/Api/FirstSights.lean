import AiWorld.Api.Alone
import AiWorld.Api.PersonaRule

set_option autoImplicit false

namespace AiWorld.Api

open AiWorld.Concurrency AiWorld.Database

variable {key : Key} {after before : Db} {t s : Sys}

def personaCode (payload : SubagentPayload) : String := (resolvePersona payload.agentType).agentCode

-- The rows that name the request they come from.
def authors : Request → (key : Key) → Row key → Prop
  | .registerSubagent user payload, .personaSlot _, row => row.tenantId = user.tenantId ∧ row.agentCode = personaCode payload
  | .registerSubagent _ payload, .task _, row =>
      ∃ missionId, row.idempotencyKey = subagentIdempotencyKey missionId payload.externalInstanceRef
  | .registerSubagent _ payload, .session _, row => row.kind = .subagent ∧ row.externalInstanceRef = some payload.externalInstanceRef
  | .registerSubagent _ _, _, _ => True
  | _, _, _ => False

theorem authors_moves {request : Request} {before after : Row key} (moved : PersonaCell key (some before) (some after))
    (named : authors request key before) : authors request key after := by
  cases request with
  | registerSubagent user payload =>
      cases key with
      | personaSlot id =>
          obtain rfl : before = after := moved.1
          exact named
      | task id =>
          obtain rfl : before = after := moved
          exact named
      | session id =>
          obtain rfl : before = after := moved
          exact named
      | _ => trivial
  | _ => exact named.elim

-- What concurrent registrations keep, since a database `start` and with `assigned` for
-- the request of each process: every new row was inserted under an id that its author
-- has drawn, and every version has its agent.
structure Sights (start : Db) (assigned : Nat → Option Request) (s : Sys) : Prop where
  slots : Slots s
  since : PersonaMoves start s.db
  authored : ∀ key row id, key.minted = some id → s.db.lookup key = some row → (start.lookup key).isSome = true ∨
    ∃ author request, s.drawn id = some author ∧ assigned author = some request ∧ authors request key row
  staged : ∀ pid key row, (s.server.view pid).lookup key = some row → (s.db.lookup key).isSome = true ∨
    ∃ request, assigned pid = some request ∧ authors request key row
  versions : ∀ id row, s.db.agentVersion id = some row → (s.db.agent row.agentId).isSome = true
  versioned : ∀ pid id row, (s.server.view pid).lookup (.agentVersion id) = some row →
    ((s.server.view pid).lookup (.agent row.agentId)).isSome = true

def Authorised (assigned : Nat → Option Request) (pid : Nat) : Stmt → Prop
  | .db (.insert key row) => ∃ request, assigned pid = some request ∧ authors request key row
  | _ => True

theorem persona_cell_some {before after : Option (Row key)} (moved : PersonaCell key before after)
    (stored : before.isSome = true) : after.isSome = true := by
  cases before with
  | none => cases stored
  | some row =>
      cases after with
      | some found => rfl
      | none =>
          cases key with
          | agent id => exact moved.1.elim
          | personaSlot id => exact moved.1.elim
          | _ => exact moved.elim

theorem present_moves (moved : PersonaMoves before after) (key : Key)
    (stored : (before.lookup key).isSome = true) : (after.lookup key).isSome = true :=
  persona_cell_some (moved key) stored

theorem version_moves (moved : PersonaMoves before after) {id : Nat} {old row : AgentVersion}
    (stored : before.lookup (.agentVersion id) = some old) (present : after.lookup (.agentVersion id) = some row) : old = row := by
  have persists : Persists Eq _ _ := moved (.agentVersion id)
  rw [stored, present] at persists
  exact persists

section
variable {start : Db} {assigned : Nat → Option Request} {pid : Nat} {query : Database.Stmt Row CloseCall} {s t : Sys}
  (kept : Kept personaRule s) (sights : Sights start assigned s) (lawful : Lawful pid (.db query) s)
  (authorised : Authorised assigned pid (.db query)) (move : Move schema pid query s.server t.server)
include kept sights lawful move

include authorised in
theorem move_staged_rows (other : Nat) (key : Key) (row : Row key) (seen : (t.server.view other).lookup key = some row) :
    (t.db.lookup key).isSome = true ∨ ∃ request, assigned other = some request ∧ authors request key row := by
  have stays := present_moves (move_personas kept lawful move) key
  by_cases own : other = pid
  · subst own
    rcases move_onward move with ⟨-, after⟩ | ⟨-, after⟩ | onward
    · rw [after, Server.commits_view] at seen
      exact .inl (by rw [Sys.db, after, Server.commits_db, seen]; rfl)
    · rw [after, Server.rollsBack_view] at seen
      exact .inl (stays (Option.isSome_of_eq_some seen))
    · rcases onward_row onward seen with before | ⟨rfl, -⟩
      · obtain ⟨old, stored⟩ := Option.isSome_iff_exists.mp before
        have moved := persona_own_view other query t.server lawful.1 onward key
        rw [stored, seen] at moved
        exact (sights.staged other key old stored).imp stays
          (Exists.imp (fun request => And.imp_right (authors_moves moved)))
      · exact .inr authorised
  · have undisturbed := move_undisturbed schema query kept.1 own move
    by_cases held : s.server.rowLock key = some other
    · rw [view_undisturbed undisturbed held] at seen
      exact (sights.staged other key row seen).imp_left stays
    · have tidy := move_tidy schema pid query kept.1 move
      rw [view_unlocked tidy (fun after => held ((undisturbed.rowLock _).mp after))] at seen
      exact .inl (Option.isSome_of_eq_some seen)

theorem move_authored (drawn : t.drawn = s.drawn) (key : Key) (row : Row key) (id : Nat) (named : key.minted = some id)
    (stored : t.db.lookup key = some row) : (start.lookup key).isSome = true ∨
      ∃ author request, t.drawn id = some author ∧ assigned author = some request ∧ authors request key row := by
  have old : (s.db.lookup key).isSome = true → (start.lookup key).isSome = true ∨
      ∃ author request, s.drawn id = some author ∧ assigned author = some request ∧ authors request key row := fun before => by
    obtain ⟨found, present⟩ := Option.isSome_iff_exists.mp before
    have moved := move_personas kept lawful move key
    rw [present, stored] at moved
    exact (sights.authored key found id named present).imp_right (fun ⟨author, request, holds, mine, wrote⟩ =>
      ⟨author, request, holds, mine, authors_moves moved wrote⟩)
  rw [drawn]
  rcases move_db move with same | ⟨-, after⟩
  · exact old (by rw [show s.db = t.db from same.symm, stored]; rfl)
  · have seen : (s.server.view pid).lookup key = some row := by rwa [Sys.db, after] at stored
    rcases sights.staged pid key row seen with before | ⟨request, mine, wrote⟩
    · exact old before
    · rcases seen_minted pid s sights.slots.minted id named (Option.isSome_of_eq_some seen) with before | holds
      · exact old before
      · exact .inr ⟨pid, request, holds, mine, wrote⟩

omit kept lawful in
theorem move_versions (id : Nat) (row : AgentVersion) (stored : t.db.agentVersion id = some row) :
    (t.db.agent row.agentId).isSome = true := by
  rcases move_db move with same | ⟨-, after⟩
  · rw [show t.db = s.db from same] at stored ⊢
    exact sights.versions id row stored
  · have db : t.db = s.server.view pid := by rw [Sys.db, after, Server.commits_db]
    rw [db] at stored ⊢
    exact sights.versioned pid id row stored

theorem move_versioned (other id : Nat) (row : AgentVersion) (seen : (t.server.view other).lookup (.agentVersion id) = some row) :
    ((t.server.view other).lookup (.agent row.agentId)).isSome = true := by
  have keptAfter := (move_related kept.1 kept.2 (persona_respects kept.2 lawful.1) move).1
  have committed : t.db.agentVersion id = some row → ((t.server.view other).lookup (.agent row.agentId)).isSome = true := fun stored =>
    present_moves (keptAfter other) _ (move_versions sights move id row stored)
  by_cases own : other = pid
  · subst own
    rcases move_onward move with ⟨-, after⟩ | ⟨-, after⟩ | onward
    · refine committed ?_
      rw [after, Server.commits_view] at seen
      rw [Sys.db, after]
      exact seen
    · refine committed ?_
      rw [after, Server.rollsBack_view] at seen
      rw [Sys.db, after]
      exact seen
    · have moved := persona_own_view other query t.server lawful.1 onward
      refine present_moves moved _ ?_
      rcases onward_row onward seen with before | ⟨rfl, accepted⟩
      · obtain ⟨old, stored⟩ := Option.isSome_iff_exists.mp before
        obtain rfl := version_moves moved stored seen
        exact sights.versioned other id old stored
      · exact (accepts_cases accepted).2.2 (.agent row.agentId) (by simp [schema, references])
  · have steady := move_steady kept.1 kept.2
      (persona_respects kept.2 lawful.1) own move
    by_cases held : s.server.rowLock (.agentVersion id) = some other
    · rw [view_undisturbed steady.undisturbed held] at seen
      exact present_moves steady.seen _ (sights.versioned other id row seen)
    · have tidy := move_tidy schema pid query kept.1 move
      rw [view_unlocked tidy (fun after => held ((steady.undisturbed.rowLock _).mp after))] at seen
      exact committed seen

include authorised in
theorem move_sights (next : t.nextId = s.nextId) (drawn : t.drawn = s.drawn) : Sights start assigned t where
  slots := move_slots kept sights.slots lawful move next drawn
  since := fun key => persona_cell_trans key _ _ _ (sights.since key) (move_personas kept lawful move key)
  authored := move_authored kept sights lawful move drawn
  staged := move_staged_rows kept sights lawful authorised move
  versions := move_versions sights move
  versioned := move_versioned kept sights lawful move

end

variable {start : Db} {assigned : Nat → Option Request}

theorem same_sights (sights : Sights start assigned s) (server : t.server = s.server) (slots : Slots t)
    (drawn : ∀ id pid, s.drawn id = some pid → t.drawn id = some pid) : Sights start assigned t where
  slots := slots
  since := by simpa only [Sys.db, server] using sights.since
  authored := fun key row id named stored => by
    simp only [Sys.db, server] at stored
    exact (sights.authored key row id named stored).imp_right (Exists.imp (fun author =>
      Exists.imp (fun _ => And.imp_left (drawn id author))))
  staged := by simpa only [Sys.db, server] using sights.staged
  versions := by simpa only [Sys.db, server] using sights.versions
  versioned := by simpa only [server] using sights.versioned

theorem sights_step {pid : Nat} {stmt : Stmt} {choice : Choice} {answer : Ans stmt} (kept : Kept personaRule s)
    (sights : Sights start assigned s) (lawful : Lawful pid stmt s) (authorised : Authorised assigned pid stmt)
    (executed : exec pid stmt choice s = some (answer, t)) :
    Sights start assigned t ∧ ∀ other, other ≠ pid → Newcomers other s t := by
  obtain ⟨slots, newcomers⟩ := lawful_step kept sights.slots lawful executed
  refine ⟨?_, newcomers⟩
  cases stmt with
  | db query =>
      obtain ⟨⟨found, after⟩, performed, same⟩ := Option.map_eq_some_iff.mp executed
      cases same
      exact move_sights kept sights lawful authorised (perform_moves performed) rfl rfl
  | newId =>
      cases executed
      exact same_sights sights rfl slots (fun id owner held => (takes_id_mine pid s owner sights.slots.minted).drawn id held)
  | now =>
      cases executed
      exact sights
  | _ => exact lawful.elim

end AiWorld.Api
