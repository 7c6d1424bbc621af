import AiWorld.Api.Missions

set_option autoImplicit false

namespace AiWorld.Api

open AiWorld.Database

def roomsPerFloor : Nat := 4

def slotToRoom (slot : Nat) : Nat × Nat := (slot / roomsPerFloor + 1, slot % roomsPerFloor + 1)

def roomToSlot (floor roomIndex : Nat) : Nat := (floor - 1) * roomsPerFloor + (roomIndex - 1)

-- The source loops until a slot is free; `occupied` has fewer slots than the fuel.
def freeSlotFrom (occupied : List Nat) : Nat → Nat → Nat
  | 0, slot => slot
  | fuel + 1, slot => if slot ∈ occupied then freeSlotFrom occupied fuel (slot + 1) else slot

def lowestFreeSlot (occupied : List Nat) : Nat := freeSlotFrom occupied (occupied.length + 1) 0

def maxAllocationAttempts : Nat := 16

def listAssignments (tenantId : Nat) (db : Db) : List (Loaded AgentRoomAssignment) :=
  db.roomAssignments.filter (fun assignment => assignment.2.tenantId = tenantId ∧ assignment.2.releasedAt = none)

def getAssignment (tenantId agentId : Nat) (db : Db) : Option (Loaded AgentRoomAssignment) :=
  (listAssignments tenantId db).find? (fun assignment => assignment.2.agentId = agentId)

def occupiedSlots (tenantId : Nat) (db : Db) : List Nat :=
  (listAssignments tenantId db).map (fun assignment => roomToSlot assignment.2.floor assignment.2.roomIndex)

def newAssignment (tenantId agentId : Nat) (occupied : List Nat) : AgentRoomAssignment :=
  ⟨tenantId, agentId, (slotToRoom (lowestFreeSlot occupied)).1, (slotToRoom (lowestFreeSlot occupied)).2, none⟩

-- A collision rolls the whole transaction back, not only the savepoint.
def allocate (tenantId agentId : Nat) : Nat → Route (Option Nat)
  | 0 => return none
  | attempts + 1 => do
      let existing ← select (getAssignment tenantId agentId)
      match existing with
      | some assignment => return some assignment.1
      | none => do
          let occupied ← select (occupiedSlots tenantId)
          let id ← newId
          let inserted ← tryInsert (.roomAssignment id) (newAssignment tenantId agentId occupied)
          if inserted then return some id else do
            rollback
            allocate tenantId agentId attempts

def ensureAssignment (tenantId agentId : Nat) : Route (Option Nat) :=
  tryCatch (allocate tenantId agentId maxAllocationAttempts) (fun _ => return none)

def releaseRoom (tenantId agentId : Nat) : Route Unit := do
  let assignment ← select (getAssignment tenantId agentId)
  match assignment with
  | none => return ()
  | some assignment => do
      let time ← now
      update (.roomAssignment assignment.1) assignment.2 (fun row => { row with releasedAt := some time })

def releaseAssignment (tenantId agentId : Nat) : Route Unit :=
  tryCatch (releaseRoom tenantId agentId) (fun _ => return ())

def tryRoomAssignment {α : Type} (call : Route α) : Route Unit :=
  tryCatch (do
    let _ ← call
    return ()) (fun _ => return ())

-- `runtimeAdapter` and `modelPolicyId` are what the model reads of a version payload.
structure VersionPayload where
  runtimeAdapter : String
  modelPolicyId : Nat
deriving DecidableEq, Repr

def requireTenantModelPolicy (modelPolicyId tenantId : Nat) : Route Unit := do
  let policy ← getTenantScoped (fun db => db.modelPolicy modelPolicyId) ModelPolicy.tenantId tenantId
  match policy with
  | none => throw (.http 400 "model_policy_id does not belong to this tenant.")
  | some _ => return ()

def activateVersion (versionId : Nat) (agent : Agent) : Agent :=
  { agent with activeVersionId := some versionId, lifecycleState := .active }

def createAgent (user : User) (agentCode displayName : String) (payload : VersionPayload) : Route Reply := do
  requireTenantModelPolicy payload.modelPolicyId user.tenantId
  let id ← newId
  let agent : Agent := ⟨user.tenantId, agentCode, displayName, .draft, none⟩
  insert (.agent id) agent
  let versionId ← newId
  insert (.agentVersion versionId) ⟨id, 1, payload.runtimeAdapter, payload.modelPolicyId⟩
  update (.agent id) agent (activateVersion versionId)
  publish .agentCreated user.tenantId none none (some id)
  publish .agentVersionCreated user.tenantId none none (some id)
  tryRoomAssignment (ensureAssignment user.tenantId id)
  return .created id

def agentOr404 (agentId tenantId : Nat) : Route (Loaded Agent) := do
  let agent ← getTenantScoped (fun db => db.agent agentId) Agent.tenantId tenantId
  match agent with
  | none => throw (.http 404 "Agent not found.")
  | some agent => return (agentId, agent)

def maxVersion (agentId : Nat) (db : Db) : Nat :=
  ((db.agentVersions.filter (fun version => version.2.agentId = agentId)).map (fun version => version.2.version)).foldl
    max 0

def createAgentVersion (user : User) (agentId : Nat) (payload : VersionPayload) : Route Reply := do
  let agent ← agentOr404 agentId user.tenantId
  requireTenantModelPolicy payload.modelPolicyId user.tenantId
  let latest ← select (maxVersion agentId)
  let id ← newId
  insert (.agentVersion id) ⟨agent.1, latest + 1, payload.runtimeAdapter, payload.modelPolicyId⟩
  publish .agentVersionCreated user.tenantId none none (some agent.1)
  return .created id

def versionOf400 (versionId agentId : Nat) : Route Unit := do
  let version ← select (fun db => db.agentVersion versionId)
  match version.filter (fun version => version.agentId = agentId) with
  | none => throw (.http 400 "Version does not belong to this agent.")
  | some _ => return ()

def activateAgent (user : User) (agentId versionId : Nat) : Route Reply := do
  let agent ← agentOr404 agentId user.tenantId
  versionOf400 versionId agent.1
  update (.agent agent.1) agent.2 (activateVersion versionId)
  publish .agentActivated user.tenantId none none (some agent.1)
  tryRoomAssignment (ensureAssignment user.tenantId agent.1)
  return .ok agentId

def suspendAgent (user : User) (agentId : Nat) : Route Reply := do
  let agent ← agentOr404 agentId user.tenantId
  update (.agent agent.1) agent.2 (fun agent => { agent with lifecycleState := .suspended })
  tryRoomAssignment (releaseAssignment user.tenantId agent.1)
  publish .agentSuspended user.tenantId none none (some agent.1)
  return .ok agentId

def backfill (tenantId : Nat) : List Nat → Route Unit
  | [] => return ()
  | agentId :: rest => do
      let _ ← ensureAssignment tenantId agentId
      backfill tenantId rest

-- What `list_agent_rooms` writes; its read model is left out.
def listAgentRooms (user : User) : Route Reply := do
  let agents ← select (fun db =>
    (db.agents.filter (fun agent => agent.2.tenantId = user.tenantId ∧ agent.2.lifecycleState ≠ .suspended)).map Prod.fst)
  let assigned ← select (fun db => (listAssignments user.tenantId db).map (fun assignment => assignment.2.agentId))
  backfill user.tenantId (agents.filter (fun agentId => agentId ∉ assigned))
  return .ok user.tenantId

end AiWorld.Api
