import AiWorld.Api.Missions

set_option autoImplicit false

namespace AiWorld.Api

open AiWorld.Database

def personaSlotCap : Nat := 25

structure PersonaDefinition where
  agentCode : String
  displayName : String
deriving DecidableEq, Repr

def generalPersona : PersonaDefinition := ⟨"AGT-CC-GENERAL", "Claude Code (general)"⟩

def resolvePersona : Option String → PersonaDefinition
  | some "planner" => ⟨"AGT-CC-PLANNER", "Planner"⟩
  | some "architect" => ⟨"AGT-CC-ARCHITECT", "Architect"⟩
  | some "code-reviewer" => ⟨"AGT-CC-CODE-REVIEWER", "Code Reviewer"⟩
  | some "tdd-guide" => ⟨"AGT-CC-TDD-GUIDE", "TDD Guide"⟩
  | some "security-reviewer" => ⟨"AGT-CC-SECURITY-REVIEWER", "Security Reviewer"⟩
  | _ => generalPersona

def maxClaimAttempts : Nat := personaSlotCap + 1

def occupiedPersonaSlots (tenantId : Nat) (db : Db) : List Nat :=
  (db.personaSlots.filter (fun slot => slot.2.tenantId = tenantId)).map (fun slot => slot.2.slot)

def getAgentByCode (tenantId : Nat) (agentCode : String) (db : Db) : Option (Loaded Agent) :=
  db.agents.find? (fun agent => agent.2.tenantId = tenantId ∧ agent.2.agentCode = agentCode)

def resolveClaudeCodeExternalPolicy (tenantId : Nat) : Route Nat := do
  let policy ← select (fun db =>
    db.modelPolicies.find? (fun policy => policy.2.tenantId = tenantId ∧ policy.2.name = "claude-code-external"))
  match policy with
  | none => throw (.http 409 ("No 'claude-code-external' model policy exists for this tenant yet -- run " ++
      "infrastructure/scripts/seed.py before registering Claude Code personas."))
  | some policy => return policy.1

-- What the ORM session has done to the instances it had loaded: a rollback expires
-- them, and reading an attribute of an expired one raises.
def readLoaded (expired : Bool) : Route Unit :=
  if expired then throw (.unexpected "MissingGreenlet") else return ()

-- None once a slot is claimed, or the agent a concurrent caller has created, and
-- whether a collision has rolled the whole transaction back on the way.
def claimSlot (tenantId : Nat) (agentCode : String) : Nat → List Nat → Bool → Route (Option (Loaded Agent) × Bool)
  | 0, _, _ => throw (.http 409 "persona_slot_cap_exceeded")
  | attempts + 1, occupied, expired =>
      match (List.range personaSlotCap).find? (fun slot => slot ∉ occupied) with
      | none => throw (.http 409 "persona_slot_cap_exceeded")
      | some slot => do
          let id ← newId
          let inserted ← tryInsert (.personaSlot id) ⟨tenantId, slot, agentCode⟩
          if inserted then return (none, expired) else do
            rollback
            let existing ← select (getAgentByCode tenantId agentCode)
            match existing with
            | some agent => return (some agent, true)
            | none => do
                let again ← select (occupiedPersonaSlots tenantId)
                claimSlot tenantId agentCode attempts again true

-- The model policy is read between the two inserts.
def createPersona (tenantId : Nat) (persona : PersonaDefinition) (policyId : Nat) (expired : Bool) :
    Route (Loaded Agent) := do
  let id ← newId
  let agent : Agent := ⟨tenantId, persona.agentCode, persona.displayName, .active, none⟩
  insert (.agent id) agent
  readLoaded expired
  let versionId ← newId
  insert (.agentVersion versionId) ⟨id, 1, "external_manual", policyId⟩
  update (.agent id) agent (fun agent => { agent with activeVersionId := some versionId })
  return (id, { agent with activeVersionId := some versionId })

def claimAndCreate (tenantId : Nat) (persona : PersonaDefinition) (policyId : Nat) : Route (Loaded Agent × Bool) := do
  let occupied ← select (occupiedPersonaSlots tenantId)
  let winner ← claimSlot tenantId persona.agentCode maxClaimAttempts occupied false
  match winner.1 with
  | some agent => return (agent, winner.2)
  | none => do
      let agent ← createPersona tenantId persona policyId winner.2
      return (agent, winner.2)

-- The persona's agent, and whether the instances loaded before the call are expired.
def ensurePersona (tenantId : Nat) (persona : PersonaDefinition) : Route (Loaded Agent × Bool) := do
  let existing ← select (getAgentByCode tenantId persona.agentCode)
  match existing with
  | some agent => return (agent, false)
  | none => do
      let policyId ← resolveClaudeCodeExternalPolicy tenantId
      claimAndCreate tenantId persona policyId

def getSession (tenantId : Nat) (ref : String) (db : Db) : Option (Loaded AgentRuntimeSession) :=
  db.sessions.find? (fun session =>
    session.2.tenantId = tenantId ∧ session.2.kind = .session ∧ session.2.externalSessionRef = ref)

def getSubagent (tenantId : Nat) (ref : String) (db : Db) : Option (Loaded AgentRuntimeSession) :=
  db.sessions.find? (fun session =>
    session.2.tenantId = tenantId ∧ session.2.kind = .subagent ∧ session.2.externalInstanceRef = some ref)

def newSession (tenantId agentId missionId taskId startedAt : Nat) (ref : String) : AgentRuntimeSession :=
  ⟨tenantId, .session, some agentId, some missionId, some taskId, ref, none, none, startedAt, none, none, none⟩

def newSubagent (tenantId agentId missionId taskId startedAt : Nat) (parentRef ref : String) (parentId : Nat) :
    AgentRuntimeSession :=
  ⟨tenantId, .subagent, some agentId, some missionId, some taskId, parentRef, some ref, some parentId, startedAt, none,
    none, none⟩

def createSession (tenantId agentId : Nat) (ref : String) : Route (Nat × StartMissionResult) := do
  let mission ← createMission tenantId ref (some agentId)
  let ready ← markMissionStatus mission .ready
  let started ← startMission ready
  let id ← newId
  let time ← now
  insert (.session id) (newSession tenantId agentId mission.1 started.task.1 time ref)
  return (id, started)

-- The handler of an IntegrityError: the whole attempt is discarded and the row of
-- the concurrent winner returned.
def rereadSession (query : Db → Option (Loaded AgentRuntimeSession)) : Failure → Route Reply
  | .integrity => do
      rollback
      let existing ← select query
      match existing with
      | none => throw .integrity
      | some session => return .created session.1
  | failure => throw failure

def publishSession (user : User) (agentId : Nat) (created : Nat × StartMissionResult) : Route Reply := do
  let missionId := some created.2.mission.1
  let taskId := some created.2.task.1
  publish .missionCreated user.tenantId missionId none (some agentId)
  publish .missionStarted user.tenantId missionId none (some agentId)
  publish .taskCreated user.tenantId missionId taskId (some created.2.task.2.assignedAgentId)
  publish .taskAssigned user.tenantId missionId taskId (some created.2.task.2.assignedAgentId)
  return .created created.1

-- The events come after the guarded block; an IntegrityError of theirs is not handled.
def guarded {α : Type} (body : Route α) (reread : Failure → Route Reply) (follow : α → Route Reply) : Route Reply := do
  let result ← tryCatch (Sum.inl <$> body) (fun failure => Sum.inr <$> reread failure)
  match result with
  | .inl value => follow value
  | .inr reply => return reply

def registerSession (user : User) (ref : String) : Route Reply := do
  let existing ← select (getSession user.tenantId ref)
  match existing with
  | some session => return .created session.1
  | none => do
      let claudeCode ← select (getAgentByCode user.tenantId "AGT-CLAUDE-CODE")
      match claudeCode with
      | none => throw (.http 409
          "AGT-CLAUDE-CODE is not seeded for this tenant -- run infrastructure/scripts/seed.py first.")
      | some agent =>
          guarded (createSession user.tenantId agent.1 ref) (rereadSession (getSession user.tenantId ref))
            (publishSession user agent.1)

def subagentIdempotencyKey (missionId : Nat) (ref : String) : String := toString missionId ++ ":ar:" ++ ref

structure SubagentPayload where
  agentType : Option String
  externalInstanceRef : String
  parentExternalSessionRef : String
deriving DecidableEq, Repr

def createSubagent (tenantId agentId missionId parentId : Nat) (payload : SubagentPayload) : Route (Nat × Nat) := do
  let taskId ← newId
  insert (.task taskId)
    ⟨missionId, agentId, .queued, 0, subagentIdempotencyKey missionId payload.externalInstanceRef, none⟩
  let id ← newId
  let time ← now
  insert (.session id) (newSubagent tenantId agentId missionId taskId time payload.parentExternalSessionRef
    payload.externalInstanceRef parentId)
  return (id, taskId)

-- The events name the user, whose row was loaded before the persona.
def publishSubagent (user : User) (missionId agentId : Nat) (expired : Bool) (created : Nat × Nat) : Route Reply := do
  readLoaded expired
  publish .taskCreated user.tenantId (some missionId) (some created.2) (some agentId)
  publish .taskAssigned user.tenantId (some missionId) (some created.2) (some agentId)
  return .created created.1

def registerAs (user : User) (payload : SubagentPayload) (parentId missionId : Nat) (persona : Loaded Agent)
    (expired : Bool) : Route Reply :=
  match persona.2.lifecycleState with
  | .suspended => throw (.http 409 "This persona is suspended.")
  | _ =>
      guarded (createSubagent user.tenantId persona.1 missionId parentId payload)
        (rereadSession (getSubagent user.tenantId payload.externalInstanceRef))
        (publishSubagent user missionId persona.1 expired)

def registerUnder (user : User) (payload : SubagentPayload) (parentId missionId : Nat) : Route Reply := do
  let ensured ← ensurePersona user.tenantId (resolvePersona payload.agentType)
  registerAs user payload parentId missionId ensured.1 ensured.2

def registerNewSubagent (user : User) (payload : SubagentPayload) : Route Reply := do
  let parent ← select (getSession user.tenantId payload.parentExternalSessionRef)
  match parent with
  | none => throw (.http 404 "Parent session is not registered.")
  | some parent =>
      match parent.2.missionId, parent.2.endedAt with
      | none, _ => throw (.http 404 "Parent session is not registered.")
      | some _, some _ => throw (.http 409 "parent_session_ended")
      | some missionId, none => registerUnder user payload parent.1 missionId

def registerSubagent (user : User) (payload : SubagentPayload) : Route Reply := do
  let existing ← select (getSubagent user.tenantId payload.externalInstanceRef)
  match existing with
  | some session => return .created session.1
  | none => registerNewSubagent user payload

end AiWorld.Api
