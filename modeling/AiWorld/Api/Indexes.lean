import AiWorld.Api.Runtime
import AiWorld.Database.Unique

set_option autoImplicit false

namespace AiWorld.Api

open AiWorld.Concurrency AiWorld.Database

variable {id tenantId : Nat} {db : Db} {row : AgentRuntimeSession} {key : Key} {ref : String}

theorem find_only {α : Type} (wanted : α → Bool) {rows : List α} (value : α)
    (only : ∀ first ∈ rows, ∀ second ∈ rows, wanted first = true → wanted second = true → first = second) :
    rows.find? wanted = some value ↔ value ∈ rows ∧ wanted value = true := by
  constructor
  · intro found
    exact ⟨List.mem_of_find?_eq_some found, List.find?_some found⟩
  · rintro ⟨member, fits⟩
    obtain ⟨other, found⟩ := Option.isSome_iff_exists.mp (List.find?_isSome.mpr ⟨value, member, fits⟩)
    rw [found, only other (List.mem_of_find?_eq_some found) value member (List.find?_some found) fits]

def Key.isSession : Key → Bool
  | .session _ => true
  | _ => false

-- The unique indexes on the runtime sessions.
def sessionSchema : Schema Row Index := schema.only Key.isSession

theorem session_index (id : Nat) (fits : row.tenantId = tenantId ∧ row.kind = .session ∧ row.externalSessionRef = ref) :
    Index.sessionRef tenantId ref ∈ sessionSchema.indexed (.session id) row := by
  obtain ⟨rfl, kind, rfl⟩ := fits
  simp [sessionSchema, Schema.only, Key.isSession, schema, indexed, kind]

theorem session_found_iff (db : Db) (distinct : Distinct sessionSchema db) (tenantId : Nat) (ref : String)
    (session : Loaded AgentRuntimeSession) :
    getSession tenantId ref db = some session ↔ db.session session.1 = some session.2 ∧
      session.2.tenantId = tenantId ∧ session.2.kind = .session ∧ session.2.externalSessionRef = ref := by
  refine (find_only _ _ ?_).trans (and_congr (mem_sessions db session) (by simp))
  rintro ⟨id, row⟩ member ⟨other, rival⟩ present fits fitsToo
  have stored : db.lookup (.session id) = some row := (mem_sessions db _).mp member
  have storedToo : db.lookup (.session other) = some rival := (mem_sessions db _).mp present
  have same := distinct (.session id) row (.session other) rival (.sessionRef tenantId ref) stored storedToo
    (session_index id (of_decide_eq_true fits)) (session_index other (of_decide_eq_true fitsToo))
  cases same
  rw [show row = rival from Option.some.inj (stored.symm.trans storedToo)]

theorem get_session_iff (distinct : Distinct schema db) (tenantId : Nat) (ref : String) (session : Loaded AgentRuntimeSession) :
    getSession tenantId ref db = some session ↔ db.session session.1 = some session.2 ∧
      session.2.tenantId = tenantId ∧ session.2.kind = .session ∧ session.2.externalSessionRef = ref :=
  session_found_iff db (only_distinct Key.isSession distinct) tenantId ref session

theorem agent_index (id : Nat) {row : Agent} {code : String} (fits : row.tenantId = tenantId ∧ row.agentCode = code) :
    Index.agentCode tenantId code ∈ schema.indexed (.agent id) row := by
  obtain ⟨rfl, rfl⟩ := fits
  exact List.mem_singleton.mpr rfl

theorem get_agent_iff (distinct : Distinct schema db) (tenantId : Nat) (code : String) (agent : Loaded Agent) :
    getAgentByCode tenantId code db = some agent ↔ db.agent agent.1 = some agent.2 ∧
      agent.2.tenantId = tenantId ∧ agent.2.agentCode = code := by
  refine (find_only _ _ ?_).trans (and_congr (mem_agents db agent) (by simp))
  rintro ⟨id, row⟩ member ⟨other, rival⟩ present fits fitsToo
  have stored : db.lookup (.agent id) = some row := (mem_agents db _).mp member
  have storedToo : db.lookup (.agent other) = some rival := (mem_agents db _).mp present
  have same := distinct (.agent id) row (.agent other) rival (.agentCode tenantId code) stored storedToo
    (agent_index id (of_decide_eq_true fits)) (agent_index other (of_decide_eq_true fitsToo))
  cases same
  rw [show row = rival from Option.some.inj (stored.symm.trans storedToo)]

-- A row of a table with unique indexes is accepted when its own table has no rival.
theorem table_accepted {row : Row key} (fresh : db.lookup key = none) (fits : valid key row db = true)
    (referenced : ∀ reference ∈ references key row, (db.lookup reference).isSome = true)
    (apart : ∀ rival found entry, db.lookup rival = some found → entry ∈ indexed rival found → entry ∈ indexed key row → False) :
    schema.accepts key row db = true := by
  refine accepts_intro schema key row db (fun rival found stored => ⟨?_, fun entry occupied wanted =>
    apart rival found entry stored occupied wanted⟩) fits referenced
  rintro rfl
  cases fresh.symm.trans stored

-- A row with no unique index is refused only for its key or for a missing reference.
theorem unindexed_accepted {row : Row key} (plain : indexed key row = []) (fresh : db.lookup key = none)
    (fits : valid key row db = true) (referenced : ∀ reference ∈ references key row, (db.lookup reference).isSome = true) :
    schema.accepts key row db = true :=
  table_accepted fresh fits referenced (fun _ _ _ _ _ wanted => by rw [plain] at wanted; cases wanted)

theorem event_accepted {row : AuditEvent} (fresh : db.event id = none)
    (mission : ∀ missionId, row.missionId = some missionId → (db.mission missionId).isSome = true)
    (task : ∀ taskId, row.taskId = some taskId → (db.task taskId).isSome = true)
    (agent : ∀ agentId, row.agentId = some agentId → (db.agent agentId).isSome = true) :
    schema.accepts (.event id) row db = true := by
  refine unindexed_accepted rfl fresh rfl (fun reference named => ?_)
  simp only [references, List.mem_append, Option.mem_toList, Option.map_eq_some_iff] at named
  rcases named with (⟨missionId, same, rfl⟩ | ⟨taskId, same, rfl⟩) | ⟨agentId, same, rfl⟩
  · exact mission missionId same
  · exact task taskId same
  · exact agent agentId same

theorem version_accepted {row : AgentVersion} (fresh : db.lookup (.agentVersion id) = none)
    (agent : (db.lookup (.agent row.agentId)).isSome = true) (policy : (db.lookup (.modelPolicy row.modelPolicyId)).isSome = true)
    (first : ∀ other found, db.lookup (.agentVersion other) = some found → found.agentId ≠ row.agentId) :
    schema.accepts (.agentVersion id) row db = true := by
  refine table_accepted fresh rfl (by simp [references, agent, policy])
    (fun rival found entry stored occupied wanted => ?_)
  obtain rfl : entry = .agentVersion row.agentId row.version := List.mem_singleton.mp wanted
  cases rival with
  | agentVersion other =>
      have same : row.agentId = found.agentId ∧ row.version = found.version := by simpa [indexed] using occupied
      exact first other found stored same.1.symm
  | _ => cases indexed_on _ found _ occupied

theorem task_accepted {row : Task} (fresh : db.lookup (.task id) = none)
    (mission : (db.lookup (.mission row.missionId)).isSome = true) (agent : (db.lookup (.agent row.assignedAgentId)).isSome = true)
    (first : ∀ other found, db.lookup (.task other) = some found → found.idempotencyKey ≠ row.idempotencyKey) :
    schema.accepts (.task id) row db = true := by
  refine table_accepted fresh rfl (by simp [references, mission, agent])
    (fun rival found entry stored occupied wanted => ?_)
  obtain rfl : entry = .idempotencyKey row.idempotencyKey := List.mem_singleton.mp wanted
  cases rival with
  | task other =>
      have same : row.idempotencyKey = found.idempotencyKey := by simpa [indexed] using occupied
      exact first other found stored same.symm
  | _ => cases indexed_on _ found _ occupied

theorem subagent_accepted (ref : String) (fresh : db.lookup (.session id) = none) (kind : row.kind = .subagent)
    (instance_ : row.externalInstanceRef = some ref)
    (referenced : ∀ reference ∈ references (.session id) row, (db.lookup reference).isSome = true)
    (first : ∀ other (found : AgentRuntimeSession), db.lookup (.session other) = some found → found.tenantId = row.tenantId →
      found.kind = .subagent → found.externalInstanceRef ≠ some ref) : schema.accepts (.session id) row db = true := by
  refine table_accepted fresh rfl referenced (fun rival found entry stored occupied wanted => ?_)
  obtain rfl : entry = .instanceRef row.tenantId ref := by simpa [indexed, kind, instance_] using wanted
  cases rival with
  | session other =>
      simp only [indexed] at occupied
      split at occupied
      next => cases List.mem_singleton.mp occupied
      next rivalRef theirs named =>
        have same : row.tenantId = found.tenantId ∧ ref = rivalRef := by simpa using occupied
        exact first other found stored same.1.symm theirs (named.trans (congrArg some same.2.symm))
      next => cases occupied
  | _ => cases indexed_on _ found _ occupied

theorem session_accepted {agentId missionId taskId : Nat} (time : Nat) (fresh : db.session id = none)
    (absent : ∀ other row, db.session other = some row → ¬(row.tenantId = tenantId ∧ row.kind = .session ∧ row.externalSessionRef = ref))
    (agent : (db.agent agentId).isSome = true) (mission : (db.mission missionId).isSome = true)
    (task : (db.task taskId).isSome = true) :
    schema.accepts (.session id) (newSession tenantId agentId missionId taskId time ref) db = true := by
  refine table_accepted fresh rfl (fun reference named => ?_) (fun rival found entry stored occupied wanted => ?_)
  · have which : (reference = .agent agentId ∨ reference = .mission missionId) ∨ reference = .task taskId := by
      simpa [references, newSession, or_assoc] using named
    rcases which with (rfl | rfl) | rfl
    · exact agent
    · exact mission
    · exact task
  · obtain rfl : entry = .sessionRef tenantId ref := by simpa [indexed, newSession] using wanted
    cases rival with
    | session other =>
        refine absent other found stored ?_
        simp only [indexed] at occupied
        split at occupied
        next _ _ kind => simpa [kind, eq_comm] using occupied
        next => simp at occupied
        next => cases occupied
    | _ => cases indexed_on _ found _ occupied

end AiWorld.Api
