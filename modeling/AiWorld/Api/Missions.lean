import AiWorld.Api.System

set_option autoImplicit false

namespace AiWorld.Api

open AiWorld.Database

-- `get_tenant_scoped_or_404`
def getTenantScoped {α : Type} (query : Db → Option α) (owner : α → Nat) (tenantId : Nat) : Route (Option α) :=
  select (fun db => (query db).filter (fun row => owner row = tenantId))

def resolveProjectLink (projectId : Option Nat) (tenantId : Nat) : Route Unit :=
  match projectId with
  | none => return ()
  | some projectId => do
      let project ← getTenantScoped (fun db => db.project projectId) Project.tenantId tenantId
      match project with
      | none => throw (.http 404 "Project not found.")
      | some project =>
          match project.status with
          | .archived => throw (.http 409 "This project is archived and cannot be linked to a new mission.")
          | .active => return ()

def isAgentRuntimeMission (missionId : Nat) : Route Bool :=
  select (fun db => db.sessions.any (fun session => session.2.missionId = some missionId))

-- An instance of the ORM: the primary key and the columns as they were loaded.
abbrev Loaded (α : Type) := Nat × α

def createMission (tenantId : Nat) (missionCode : String) (assignedAgentId : Option Nat) : Route (Loaded Mission) := do
  let id ← newId
  let mission : Mission := ⟨tenantId, missionCode, assignedAgentId, .draft⟩
  insert (.mission id) mission
  return (id, mission)

def setMissionStatus (status : MissionStatus) (mission : Mission) : Mission := { mission with status := status }

def setTaskStatus (status : TaskStatus) (task : Task) : Task := { task with status := status }

def validated (checked : Except InvalidTransition Unit) : Route Unit :=
  match checked with
  | .ok _ => return ()
  | .error error => throw (.invalidTransition error)

def markMissionStatus (mission : Loaded Mission) (target : MissionStatus) : Route (Loaded Mission) := do
  validated (validateMissionTransition mission.2.status target)
  update (.mission mission.1) mission.2 (setMissionStatus target)
  return (mission.1, setMissionStatus target mission.2)

structure StartMissionResult where
  mission : Loaded Mission
  task : Loaded Task
  newlyStarted : Bool

def taskIdempotencyKey (missionId : Nat) : String := toString missionId ++ ":task:1"

def startable (mission : Mission) : Bool := mission.status = .draft ∨ mission.status = .ready

def resumeMission (mission : Loaded Mission) : Route StartMissionResult := do
  let existing ← select (fun db => db.tasks.find? (fun task => task.2.missionId = mission.1))
  match existing with
  | none => throw (.valueError ("Mission " ++ toString mission.1 ++ " is '" ++ mission.2.status.value ++
      "' and has no task to resume."))
  | some task => return ⟨mission, task, false⟩

-- Without an agent the INSERT fails on its NOT NULL column, with one on a task that
-- is there already; either way the session is left pending a rollback.
def createTask (mission : Loaded Mission) : Route StartMissionResult :=
  match mission.2.assignedAgentId with
  | none => pendingRollback
  | some agentId => do
      let id ← newId
      let task : Task := ⟨mission.1, agentId, .queued, 0, taskIdempotencyKey mission.1, none⟩
      let inserted ← tryInsert (.task id) task
      if inserted then do
        reportStarted mission.1 id
        return ⟨mission, (id, task), true⟩
      else pendingRollback

-- `session.get` returns the instance the caller has loaded, and the refresh after a
-- won race reads the row again.
def startMission (mission : Loaded Mission) : Route StartMissionResult := do
  let won ← updateWhere (.mission mission.1) startable (setMissionStatus .running)
  if won then do
    let refreshed ← select (fun db => db.mission mission.1)
    createTask (mission.1, refreshed.getD mission.2)
  else resumeMission mission

def linkProject (missionId tenantId : Nat) : Option Nat → Route Unit
  | none => return ()
  | some projectId => insert (.missionProject missionId) ⟨tenantId, projectId⟩

def createMissionRoute (user : User) (assignedAgentId : Nat) (projectId : Option Nat) : Route Reply := do
  resolveProjectLink projectId user.tenantId
  let code ← newId
  let mission ← createMission user.tenantId ("MSN-" ++ toString code) (some assignedAgentId)
  linkProject mission.1 user.tenantId projectId
  publish .missionCreated user.tenantId (some mission.1) none mission.2.assignedAgentId
  return .created mission.1

def missionOr404 (missionId tenantId : Nat) : Route (Loaded Mission) := do
  let mission ← getTenantScoped (fun db => db.mission missionId) Mission.tenantId tenantId
  match mission with
  | none => throw (.http 404 "Mission not found.")
  | some mission => return (missionId, mission)

def relinkProject (missionId tenantId : Nat) : Option Nat → Option MissionProject → Route Unit
  | none, none => return ()
  | none, some _ => delete (.missionProject missionId)
  | some projectId, none => insert (.missionProject missionId) ⟨tenantId, projectId⟩
  | some projectId, some link =>
      update (.missionProject missionId) link (fun link => { link with projectId := projectId })

def updateMission (user : User) (missionId : Nat) (projectId : Option Nat) : Route Reply := do
  let mission ← missionOr404 missionId user.tenantId
  resolveProjectLink projectId user.tenantId
  let link ← select (fun db => db.missionProject mission.1)
  relinkProject mission.1 user.tenantId projectId link
  return .ok missionId

def customDurable : String := "custom_durable"

-- The agent's active version, or none where a row on the way is missing.
def activeVersion (agentId : Nat) : Route (Option AgentVersion) := do
  let agent ← select (fun db => db.agent agentId)
  match agent.bind Agent.activeVersionId with
  | none => return none
  | some versionId => select (fun db => db.agentVersion versionId)

def enqueueIfDurable (taskId : Nat) : Option AgentVersion → Route Unit
  | none => return ()
  | some version => if version.runtimeAdapter = customDurable then enqueueTask taskId else return ()

def launch (user : User) (result : StartMissionResult) : Route Unit := do
  let missionId := some result.mission.1
  let taskId := some result.task.1
  publish .missionStarted user.tenantId missionId none result.mission.2.assignedAgentId
  publish .taskCreated user.tenantId missionId taskId (some result.task.2.assignedAgentId)
  publish .taskAssigned user.tenantId missionId taskId (some result.task.2.assignedAgentId)
  owe result.task.1
  commit
  let version ← activeVersion result.task.2.assignedAgentId
  enqueueIfDurable result.task.1 version

def launchIfNew (user : User) (result : StartMissionResult) : Route Unit :=
  if result.newlyStarted then launch user result else return ()

-- The two exceptions the routes turn into a 409 with the exception's own text. No
-- route meets the one where it handles the other.
def refused {α : Type} : Failure → Route α
  | .valueError message => throw (.http 409 message)
  | .invalidTransition error => throw (.http 409 error.message)
  | failure => throw failure

def refuseRuntimeMission (missionId : Nat) (detail : String) : Route Unit := do
  let runtime ← isAgentRuntimeMission missionId
  if runtime then throw (.http 409 detail) else return ()

def startMissionRoute (user : User) (missionId : Nat) : Route Reply := do
  let mission ← missionOr404 missionId user.tenantId
  refuseRuntimeMission missionId
    "This mission belongs to a Claude Code agent-runtime session and cannot be started here."
  let result ← tryCatch (startMission mission) refused
  launchIfNew user result
  return .ok missionId

def cancelMission (user : User) (missionId : Nat) : Route Reply := do
  let mission ← missionOr404 missionId user.tenantId
  refuseRuntimeMission missionId
    "This mission belongs to a Claude Code agent-runtime session and cannot be cancelled here."
  let _ ← tryCatch (markMissionStatus mission .cancelled) refused
  publish .missionCancelled user.tenantId (some missionId) none none
  return .ok missionId

end AiWorld.Api
