import AiWorld.Api.Growth
import AiWorld.Api.Minted
import AiWorld.Api.Ruled
import AiWorld.Database.Unique

set_option autoImplicit false

namespace AiWorld.Api

open AiWorld.Concurrency AiWorld.Database

variable {pid tenantId : Nat} {agentCode : String} {s t : Sys} {after before : Db} {query : Database.Stmt Row CloseCall}

-- Registrations add rows and point an agent at its version; no row is changed beyond
-- that, and none is deleted. A new agent is active, and a new slot is one the CHECK
-- constraint admits.
def AgentKept (before after : Agent) : Prop := after = { before with activeVersionId := after.activeVersionId }

theorem agent_kept_refl (row : Agent) : AgentKept row row := rfl

theorem agent_kept_trans (a : Agent) {b : Agent} (c : Agent) (first : AgentKept a b) (second : AgentKept b c) : AgentKept a c := by
  rw [AgentKept, second, first]

def AgentAdded (before after : Option Agent) : Prop := ∀ row, after = some row → before = none → row.lifecycleState = .active

def SlotAdded (before after : Option AgentRuntimePersonaSlot) : Prop :=
  ∀ row, after = some row → before = some row ∨ row.slot < personaSlotCap

def PersonaCell : (key : Key) → Option (Row key) → Option (Row key) → Prop
  | .agent _, before, after => Persists AgentKept before after ∧ AgentAdded before after
  | .personaSlot _, before, after => Persists Eq before after ∧ SlotAdded before after
  | _, before, after => Persists Eq before after

theorem persona_cell_refl (key : Key) (row : Option (Row key)) : PersonaCell key row row := by
  cases key with
  | agent id => exact ⟨persists_refl agent_kept_refl row, fun _ same absent => by cases same.symm.trans absent⟩
  | personaSlot id => exact ⟨persists_refl (fun _ => rfl) row, fun _ same => .inl same⟩
  | _ => exact persists_refl (fun _ => rfl) row

theorem persona_cell_trans (key : Key) (a b c : Option (Row key)) (first : PersonaCell key a b)
    (second : PersonaCell key b c) : PersonaCell key a c := by
  cases key with
  | agent id =>
      refine ⟨persists_trans agent_kept_trans a c first.1 second.1, fun row same absent => ?_⟩
      cases middle : b with
      | none => exact second.2 row same middle
      | some found =>
          have kept := second.1
          rw [middle, same] at kept
          have active := first.2 found middle absent
          rw [show row = { found with activeVersionId := row.activeVersionId } from kept]
          exact active
  | personaSlot id =>
      refine ⟨persists_trans (fun _ _ _ same also => same.trans also) a c first.1 second.1, fun row same => ?_⟩
      exact (second.2 row same).elim (fun middle => first.2 row middle) .inr
  | _ => exact persists_trans (fun _ _ _ same also => same.trans also) a c first second

def personaRule : CellRule Row :=
  ⟨fun _ => PersonaCell, fun _ => persona_cell_refl, fun _ _ _ _ _ _ moves => moves⟩

theorem persona_rule_trans (held : Locks Key) (key : Key) (a b c : Option (Row key)) (first : personaRule.allows held key a b)
    (second : personaRule.allows held key b c) : personaRule.allows held key a c := persona_cell_trans key a b c first second

def personaWrites : Database.Stmt Row CloseCall → Prop
  | .insert (.agent _) row => row.lifecycleState = .active
  | .update (.agent _) _ columns => ∀ row, AgentKept row (columns row)
  | .update _ _ _ => False
  | .updateWhere _ _ _ => False
  | .delete _ => False
  | _ => True

theorem persona_writes_cell (pid : Nat) (query : Database.Stmt Row CloseCall) (s : Server Row Index CloseCall)
    (writes : personaWrites query) (write : Write Row) (issued : query.write = some write)
    (applies : query.applies schema (s.view pid)) :
    PersonaCell write.key ((s.view pid).lookup write.key) (write.cell ((s.view pid).lookup write.key)) := by
  cases query with
  | insert key row =>
      cases issued
      have absent : (s.view pid).lookup key = none := accepts_absent applies
      change PersonaCell key ((s.view pid).lookup key) (some row)
      rw [absent]
      cases key with
      | personaSlot id =>
          have fits : valid (.personaSlot id) row (s.view pid) = true := (accepts_cases applies).2.1
          refine ⟨trivial, fun other same => .inr ?_⟩
          cases same
          exact of_decide_eq_true fits
      | agent id =>
          refine ⟨trivial, fun other same _ => ?_⟩
          cases same
          exact writes
      | _ => trivial
  | update key loaded columns =>
      cases issued
      cases key with
      | agent id =>
          refine ⟨persists_map writes _, fun row same absent => ?_⟩
          change ((s.view pid).lookup (.agent id)).map columns = some row at same
          change (s.view pid).lookup (.agent id) = none at absent
          rw [absent] at same
          cases same
      | _ => exact writes.elim
  | updateWhere key wanted columns => exact writes.elim
  | delete key => exact writes.elim
  | _ => cases issued

theorem persona_respects {s : Server Row Index CloseCall} (related : Related personaRule s)
    (writes : personaWrites query) : Respects personaRule schema pid query s :=
  respects_own (fun _ => persona_cell_trans) related (persona_writes_cell pid query s writes)

theorem persona_own_view (pid : Nat) (query : Database.Stmt Row CloseCall) {s : Server Row Index CloseCall} (t : Server Row Index CloseCall)
    (writes : personaWrites query) (onward : Onward schema pid query s t) (key : Key) :
    PersonaCell key ((s.view pid).lookup key) ((t.view pid).lookup key) :=
  onward_view personaRule pid query s t (s.locks pid) (persona_writes_cell pid query s writes) onward key

theorem persona_shrinks (writes : personaWrites query) (write : Write Row)
    (issued : query.write = some write) : write.shrinks schema := by
  cases query with
  | insert key row =>
      cases issued
      trivial
  | update key loaded columns =>
      cases issued
      cases key with
      | agent id =>
          intro row entry listed
          have same : columns row = { row with activeVersionId := (columns row).activeVersionId } := writes row
          change entry ∈ [Index.agentCode (columns row).tenantId (columns row).agentCode] at listed
          rw [same] at listed
          exact listed
      | _ => exact writes.elim
  | updateWhere key wanted columns => exact writes.elim
  | delete key => exact writes.elim
  | _ => cases issued

-- The persona's agent and its slot, and a slot of the tenant that is taken.
def HasAgent (tenantId : Nat) (agentCode : String) (db : Db) : Prop :=
  ∃ id agent, db.agent id = some agent ∧ agent.tenantId = tenantId ∧ agent.agentCode = agentCode

def HasSlot (tenantId : Nat) (agentCode : String) (db : Db) : Prop :=
  ∃ id row, db.lookup (.personaSlot id) = some row ∧ row.tenantId = tenantId ∧ row.agentCode = agentCode

def SlotTaken (tenantId slot : Nat) (db : Db) : Prop :=
  ∃ id row, db.lookup (.personaSlot id) = some row ∧ row.tenantId = tenantId ∧ row.slot = slot

def AllTaken (tenantId : Nat) (db : Db) : Prop := ∀ slot, slot < personaSlotCap → SlotTaken tenantId slot db

theorem mem_occupied (tenantId slot : Nat) (db : Db) : slot ∈ occupiedPersonaSlots tenantId db ↔ SlotTaken tenantId slot db := by
  simp only [occupiedPersonaSlots, List.mem_map, List.mem_filter, mem_persona_slots, decide_eq_true_eq]
  refine ⟨fun ⟨entry, ⟨stored, owner⟩, same⟩ => ⟨entry.1, entry.2, stored, owner, same⟩, fun ⟨id, row, stored, owner, same⟩ =>
    ⟨(id, row), ⟨stored, owner⟩, same⟩⟩

theorem agent_by_code_none (agentCode : String) {db : Db}
    (missing : getAgentByCode tenantId agentCode db = none) : ¬ HasAgent tenantId agentCode db := by
  rintro ⟨id, agent, stored, owner, code⟩
  have absent := List.find?_eq_none.mp missing (id, agent) ((mem_agents db (id, agent)).mpr stored)
  simp [owner, code] at absent

abbrev PersonaMoves (before after : Db) : Prop :=
  ∀ key, PersonaCell key (before.lookup key) (after.lookup key)

theorem slot_moves (moved : PersonaMoves before after) {id : Nat} {row : AgentRuntimePersonaSlot}
    (stored : before.lookup (.personaSlot id) = some row) : after.lookup (.personaSlot id) = some row := by
  have persists := (moved (.personaSlot id)).1
  rw [stored] at persists
  obtain ⟨found, present, rfl⟩ := persists_found persists
  exact present

theorem has_slot_moves (moved : PersonaMoves before after) (tenantId : Nat) (agentCode : String)
    (has : HasSlot tenantId agentCode before) : HasSlot tenantId agentCode after := by
  obtain ⟨id, row, stored, named⟩ := has
  exact ⟨id, row, slot_moves moved stored, named⟩

theorem slot_taken_moves (before : Db) (moved : PersonaMoves before after) (slot : Nat)
    (taken : SlotTaken tenantId slot before) : SlotTaken tenantId slot after := by
  obtain ⟨id, row, stored, named⟩ := taken
  exact ⟨id, row, slot_moves moved stored, named⟩

theorem has_agent_moves (moved : PersonaMoves before after) (tenantId : Nat) (agentCode : String)
    (has : HasAgent tenantId agentCode before) : HasAgent tenantId agentCode after := by
  obtain ⟨id, agent, stored, owner, code⟩ := has
  have persists := (moved (.agent id)).1
  rw [show before.lookup (.agent id) = some agent from stored] at persists
  obtain ⟨found, present, kept⟩ := persists_found persists
  exact ⟨id, found, present, by rw [kept, owner], by rw [kept, code]⟩

def Paired (db : Db) : Prop :=
  ∀ id row, db.lookup (.personaSlot id) = some row → HasAgent row.tenantId row.agentCode db

-- What every registration keeps.
structure Slots (s : Sys) : Prop where
  unique : Unique schema s.server
  minted : Minted s
  valid : ∀ id row, s.db.lookup (.personaSlot id) = some row → row.slot < personaSlotCap
  paired : Paired s.db

-- A transaction that may commit: its slots have their agents, and a new agent its slot.
structure Settles (pid : Nat) (s : Sys) : Prop where
  paired : Paired (s.server.view pid)
  slotted : ∀ tenantId agentCode, HasAgent tenantId agentCode (s.server.view pid) →
    HasAgent tenantId agentCode s.db ∨ HasSlot tenantId agentCode (s.server.view pid)

def Lawful (pid : Nat) : Stmt → Sys → Prop
  | .db query, s => personaWrites query ∧ mints pid (.db query) s ∧ (query = .commit → Settles pid s)
  | .newId, _ => True
  | .now, _ => True
  | _, _ => False

-- What a process may rely on beside the rows: its ids, and that a new agent comes with
-- its slot.
structure Newcomers (pid : Nat) (s t : Sys) : Prop where
  mine : Mine pid s t
  undrawn : ∀ id, t.drawn id = some pid → s.drawn id = some pid
  slots : ∀ tenantId agentCode, HasSlot tenantId agentCode s.db → HasSlot tenantId agentCode t.db
  agents : ∀ tenantId agentCode, HasAgent tenantId agentCode t.db →
    HasAgent tenantId agentCode s.db ∨ HasSlot tenantId agentCode t.db

theorem newcomers_same (mine : Mine pid s t) (undrawn : ∀ id, t.drawn id = some pid → s.drawn id = some pid)
    (db : t.db = s.db) : Newcomers pid s t :=
  ⟨mine, undrawn, fun _ _ has => db ▸ has, fun _ _ has => .inl (db ▸ has)⟩

theorem newcomers_refl (pid : Nat) (s : Sys) : Newcomers pid s s :=
  newcomers_same (mine_refl pid s) (fun _ held => held) rfl

theorem newcomers_trans (pid : Nat) (s t u : Sys) (first : Newcomers pid s t) (second : Newcomers pid t u) : Newcomers pid s u where
  mine := mine_trans first.mine second.mine
  undrawn := fun id held => first.undrawn id (second.undrawn id held)
  slots := fun tenantId agentCode has => second.slots _ _ (first.slots tenantId agentCode has)
  agents := fun tenantId agentCode has => (second.agents tenantId agentCode has).elim
    (fun before => (first.agents tenantId agentCode before).imp_right (second.slots tenantId agentCode)) .inr

section
variable {pid : Nat} {query : Database.Stmt Row CloseCall} {s t : Sys} (kept : Kept personaRule s) (slots : Slots s)
  (lawful : Lawful pid (.db query) s) (move : Move schema pid query s.server t.server)
include kept lawful move

theorem move_personas : PersonaMoves s.db t.db :=
  (move_related kept.1 kept.2 (persona_respects kept.2 lawful.1) move).2

include slots

theorem move_slots (next : t.nextId = s.nextId) (drawn : t.drawn = s.drawn) : Slots t where
  unique := move_unique kept.1 slots.unique (persona_shrinks lawful.1) move
  minted := move_minted move next drawn slots.minted lawful.2.1
  valid := fun id row stored => ((move_personas kept lawful move (.personaSlot id)).2 row stored).elim
    (slots.valid id row) (fun fits => fits)
  paired := by
    rcases move_db move with same | ⟨rfl, after⟩
    · rw [show t.db = s.db from same]
      exact slots.paired
    · rw [show t.db = s.server.view pid by rw [Sys.db, after, Server.commits_db]]
      exact (lawful.2.2 rfl).paired

theorem move_newcomers {other : Nat} (different : other ≠ pid) (drawn : t.drawn = s.drawn) : Newcomers other s t where
  mine := move_mine different move drawn slots.minted
  undrawn := fun id held => by rwa [drawn] at held
  slots := has_slot_moves (move_personas kept lawful move)
  agents := fun tenantId agentCode has => by
    rcases move_db move with same | ⟨rfl, after⟩
    · exact .inl ((show t.db = s.db from same) ▸ has)
    · have stored : t.db = s.server.view pid := by rw [Sys.db, after, Server.commits_db]
      rw [stored] at has ⊢
      exact (lawful.2.2 rfl).slotted tenantId agentCode has

end

theorem same_slots (slots : Slots s) (server : t.server = s.server) (minted : Minted t) : Slots t where
  unique := server ▸ slots.unique
  minted := minted
  valid := by simpa only [Sys.db, server] using slots.valid
  paired := by simpa only [Sys.db, server] using slots.paired

theorem lawful_step {stmt : Stmt} {choice : Choice} {answer : Ans stmt} (kept : Kept personaRule s) (slots : Slots s)
    (lawful : Lawful pid stmt s) (executed : exec pid stmt choice s = some (answer, t)) :
    Slots t ∧ ∀ other, other ≠ pid → Newcomers other s t := by
  cases stmt with
  | db query =>
      obtain ⟨⟨found, after⟩, performed, same⟩ := Option.map_eq_some_iff.mp executed
      cases same
      have move := perform_moves performed
      exact ⟨move_slots kept slots lawful move rfl rfl, fun other different =>
        move_newcomers kept slots lawful move different rfl⟩
  | newId =>
      cases executed
      exact ⟨same_slots slots rfl (takes_id_minted pid s slots.minted), fun other different =>
        newcomers_same (takes_id_mine pid s other slots.minted) (takes_id_undrawn pid s different) rfl⟩
  | now =>
      cases executed
      exact ⟨slots, fun other _ => newcomers_same (mine_refl other s) (fun _ held => held) rfl⟩
  | _ => exact lawful.elim

theorem crash_slots (pid : Nat) (s : Sys) (kept : Kept personaRule s) (slots : Slots s) :
    Slots (s.crashes pid) ∧ ∀ other, other ≠ pid → Newcomers other s (s.crashes pid) := by
  have move : Move schema pid .rollback s.server (s.crashes pid).server := .rollback rfl
  have lawful : Lawful pid (.db .rollback) s := ⟨trivial, trivial, nofun⟩
  exact ⟨move_slots kept slots lawful move rfl rfl, fun other different =>
    move_newcomers kept slots lawful move different rfl⟩

section
variable {pid : Nat}

-- What a transaction sees beyond the committed rows is of one persona.
structure Holding (pid tenantId : Nat) (agentCode : String) (s : Sys) : Prop where
  slots : ∀ id row, (s.server.view pid).lookup (.personaSlot id) = some row →
    s.db.lookup (.personaSlot id) = some row ∨ (row.tenantId = tenantId ∧ row.agentCode = agentCode)
  agents : ∀ id agent, (s.server.view pid).lookup (.agent id) = some agent →
    HasAgent agent.tenantId agent.agentCode s.db ∨ (agent.tenantId = tenantId ∧ agent.agentCode = agentCode)

theorem holding_clean (tenantId : Nat) (agentCode : String) (clean : Clean pid s) : Holding pid tenantId agentCode s := by
  refine ⟨fun id row seen => .inl ?_, fun id agent seen => .inl ⟨id, agent, ?_, rfl, rfl⟩⟩
  · rwa [clean_view clean] at seen
  · rwa [clean_view clean] at seen

theorem holding_steady (tidy : Tidy t.server) (steady : Steady personaRule pid s.server t.server)
    (holding : Holding pid tenantId agentCode s) : Holding pid tenantId agentCode t := by
  have unlocked : ∀ key, s.server.rowLock key ≠ some pid → (t.server.view pid).lookup key = t.db.lookup key := fun key free =>
    view_unlocked tidy (fun held => free ((steady.undisturbed.rowLock key).mp held))
  refine ⟨fun id row seen => ?_, fun id agent seen => ?_⟩
  · by_cases held : s.server.rowLock (.personaSlot id) = some pid
    · rw [view_undisturbed steady.undisturbed held] at seen
      exact (holding.slots id row seen).imp_left (slot_moves steady.committed)
    · exact .inl (unlocked _ held ▸ seen)
  · by_cases held : s.server.rowLock (.agent id) = some pid
    · rw [view_undisturbed steady.undisturbed held] at seen
      exact (holding.agents id agent seen).imp_left (has_agent_moves steady.committed _ _)
    · exact .inl ⟨id, agent, (unlocked _ held).symm.trans seen, rfl, rfl⟩

-- The statements of a transaction that works on one persona.
def worksOn (tenantId : Nat) (agentCode : String) : Database.Stmt Row CloseCall → Prop
  | .insert (.personaSlot _) row => row.tenantId = tenantId ∧ row.agentCode = agentCode
  | .insert (.agent _) row => row.tenantId = tenantId ∧ row.agentCode = agentCode
  | _ => True

theorem holding_onward (tenantId : Nat) (query : Database.Stmt Row CloseCall) (s t : Sys) (writes : personaWrites query)
    (works : worksOn tenantId agentCode query) (onward : Onward schema pid query s.server t.server)
    (holding : Holding pid tenantId agentCode s) : Holding pid tenantId agentCode t := by
  have same : t.db = s.db := onward.db
  have moved := persona_own_view pid query t.server writes onward
  refine ⟨fun id row seen => ?_, fun id agent seen => ?_⟩
  · rw [same]
    rcases onward_row onward seen with before | ⟨rfl, -⟩
    · obtain ⟨old, stored⟩ := Option.isSome_iff_exists.mp before
      have kept := slot_moves moved stored
      obtain rfl : old = row := Option.some.inj (kept.symm.trans seen)
      exact holding.slots id old stored
    · exact .inr works
  · rw [same]
    rcases onward_row onward seen with before | ⟨rfl, -⟩
    · obtain ⟨old, stored⟩ := Option.isSome_iff_exists.mp before
      have persists := (moved (.agent id)).1
      rw [stored, seen] at persists
      have kept : agent = { old with activeVersionId := agent.activeVersionId } := persists
      rw [kept]
      exact holding.agents id old stored
    · exact .inr works

-- The slot is in the transaction; then the agent too.
structure Creating (pid tenantId : Nat) (agentCode : String) (s : Sys) : Prop where
  holding : Holding pid tenantId agentCode s
  slot : HasSlot tenantId agentCode (s.server.view pid)

structure Created (pid tenantId : Nat) (agentCode : String) (s : Sys) : Prop where
  creating : Creating pid tenantId agentCode s
  agent : HasAgent tenantId agentCode (s.server.view pid)

theorem creating_steady (tidy : Tidy t.server) (steady : Steady personaRule pid s.server t.server)
    (creating : Creating pid tenantId agentCode s) : Creating pid tenantId agentCode t :=
  ⟨holding_steady tidy steady creating.holding,
    has_slot_moves steady.seen _ _ creating.slot⟩

theorem created_steady (tidy : Tidy t.server) (steady : Steady personaRule pid s.server t.server)
    (created : Created pid tenantId agentCode s) : Created pid tenantId agentCode t :=
  ⟨creating_steady tidy steady created.creating,
    has_agent_moves steady.seen _ _ created.agent⟩

theorem creating_onward (tenantId : Nat) (query : Database.Stmt Row CloseCall) (s t : Sys) (writes : personaWrites query)
    (works : worksOn tenantId agentCode query) (onward : Onward schema pid query s.server t.server)
    (creating : Creating pid tenantId agentCode s) : Creating pid tenantId agentCode t :=
  ⟨holding_onward tenantId query s t writes works onward creating.holding,
    has_slot_moves (persona_own_view pid query t.server writes onward) _ _ creating.slot⟩

theorem created_onward (writes : personaWrites query) (works : worksOn tenantId agentCode query)
    (onward : Onward schema pid query s.server t.server) (created : Created pid tenantId agentCode s) :
    Created pid tenantId agentCode t :=
  ⟨creating_onward tenantId query s t writes works onward created.creating,
    has_agent_moves (persona_own_view pid query t.server writes onward) _ _ created.agent⟩

theorem created_settles (kept : Kept personaRule s) (slots : Slots s)
    (created : Created pid tenantId agentCode s) : Settles pid s where
  paired := fun id row stored => by
    rcases created.creating.holding.slots id row stored with committed | ⟨owner, code⟩
    · exact has_agent_moves (kept.2 pid) _ _ (slots.paired id row committed)
    · rw [owner, code]
      exact created.agent
  slotted := by
    rintro tenant code ⟨id, agent, stored, rfl, rfl⟩
    refine (created.creating.holding.agents id agent stored).imp_right (fun ⟨owner, code⟩ => ?_)
    rw [owner, code]
    exact created.creating.slot

end

end AiWorld.Api
