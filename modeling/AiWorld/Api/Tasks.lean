import AiWorld.Api.Missions

set_option autoImplicit false

namespace AiWorld.Api

open AiWorld.Database

def getTaskTenantScoped (taskId tenantId : Nat) : Route (Option (Loaded Task)) :=
  select (fun db => do
    let task ← db.task taskId
    let mission ← db.mission task.missionId
    if mission.tenantId = tenantId then some (taskId, task) else none)

def taskOr404 (taskId tenantId : Nat) : Route (Loaded Task) := do
  let task ← getTaskTenantScoped taskId tenantId
  match task with
  | none => throw (.http 404 "Task not found.")
  | some task => return task

def requireDurable : Option AgentVersion → Route Unit
  | none => throw (.http 409 "This task is executed externally and cannot be retried by the platform worker.")
  | some version =>
      if version.runtimeAdapter = customDurable then return ()
      else throw (.http 409 "This task is executed externally and cannot be retried by the platform worker.")

-- The entry is pushed while the new status is flushed and not yet committed.
def retryTask (user : User) (taskId : Nat) : Route Reply := do
  let task ← taskOr404 taskId user.tenantId
  let version ← activeVersion task.2.assignedAgentId
  requireDurable version
  tryCatch (validated (validateTaskTransition task.2.status .queued)) refused
  update (.task task.1) task.2 (setTaskStatus .queued)
  enqueueTask task.1
  return .ok taskId

structure ExternalTask where
  task : Loaded Task
  mission : Loaded Mission
  agentId : Nat
  agentVersionId : Nat

def internalTask : String :=
  "This task is executed internally by the worker, not via complete-external/fail-external."

def externalVersion (agent : Option Agent) : Route Nat :=
  match agent.bind Agent.activeVersionId with
  | none => throw (.http 409 internalTask)
  | some versionId => do
      let version ← select (fun db => db.agentVersion versionId)
      match version with
      | none => throw (.http 409 internalTask)
      | some version => if version.runtimeAdapter = customDurable then throw (.http 409 internalTask) else return versionId

-- Reading an attribute of a missing mission raises.
def loadExternalTask (taskId tenantId : Nat) : Route ExternalTask := do
  let task ← taskOr404 taskId tenantId
  let mission ← select (fun db => db.mission task.2.missionId)
  let agent ← select (fun db => db.agent task.2.assignedAgentId)
  let versionId ← externalVersion agent
  match mission with
  | none => throw (.unexpected "mission")
  | some mission => return ⟨task, (task.2.missionId, mission), task.2.assignedAgentId, versionId⟩

namespace ArtifactService

def findCommitted (taskId : Nat) (artifactType : ArtifactType) (slot : String) (db : Db) : Option (Loaded Artifact) :=
  db.artifacts.find? (fun artifact =>
    artifact.2.taskId = taskId ∧ artifact.2.artifactType = artifactType ∧ artifact.2.logicalOutputSlot = slot)

def insertArtifact (artifact : Artifact) : Route (Nat × Bool) := do
  let id ← newId
  let inserted ← tryInsert (.artifact id) artifact
  if inserted then return (id, true) else pendingRollback

-- The row the artifact ends up as, and whether this call created it.
def commitArtifact (artifact : Artifact) : Route (Nat × Bool) := do
  let existing ← select (findCommitted artifact.taskId artifact.artifactType artifact.logicalOutputSlot)
  match existing with
  | some existing => return (existing.1, false)
  | none => insertArtifact artifact

end ArtifactService

open ArtifactService

def publishCreated (tenantId missionId taskId agentId : Nat) : Bool → Route Unit
  | true => publish .artifactCreated tenantId (some missionId) (some taskId) (some agentId)
  | false => return ()

def completeTask (artifactId : Nat) (task : Task) : Task :=
  { task with outputArtifactId := some artifactId, status := .completed }

def checkOutput (parsed : Except String Unit) : Route Unit :=
  match parsed with
  | .ok _ => return ()
  | .error error => throw (.http 422 ("Output failed validation: " ++ error))

def checkCompletable (external : ExternalTask) : Route Unit := do
  validated (validateTaskTransition external.task.2.status .running)
  validated (validateMissionTransition external.mission.2.status .completed)

-- `parsed` is what `validate_mission_output` says of the payload.
def completeTaskExternal (user : User) (taskId : Nat) (parsed : Except String Unit) : Route Reply := do
  let external ← loadExternalTask taskId user.tenantId
  let missionId := external.mission.1
  let agentId := external.agentId
  tryCatch (checkCompletable external) refused
  checkOutput parsed
  update (.task taskId) external.task.2 (setTaskStatus .running)
  publish .taskStarted user.tenantId (some missionId) (some taskId) (some agentId)
  let committed ← commitArtifact
    ⟨external.mission.2.tenantId, missionId, taskId, agentId, external.agentVersionId, .missionOutput, "primary"⟩
  publishCreated user.tenantId missionId taskId agentId committed.2
  update (.task taskId) external.task.2 (completeTask committed.1)
  publish .taskCompleted user.tenantId (some missionId) (some taskId) (some agentId)
  update (.mission missionId) external.mission.2 (setMissionStatus .completed)
  publish .missionCompleted user.tenantId (some missionId) none (some agentId)
  return .ok taskId

def startExternal (user : User) (external : ExternalTask) : Route (Loaded Task) :=
  match external.task.2.status with
  | .queued => do
      validated (validateTaskTransition .queued .running)
      update (.task external.task.1) external.task.2 (setTaskStatus .running)
      publish .taskStarted user.tenantId (some external.mission.1) (some external.task.1) (some external.agentId)
      return (external.task.1, setTaskStatus .running external.task.2)
  | _ => return external.task

def startAndCheckFailable (user : User) (external : ExternalTask) : Route (Loaded Task) := do
  let task ← startExternal user external
  validated (validateTaskTransition task.2.status .failed)
  validated (validateMissionTransition external.mission.2.status .failed)
  return task

def failTaskExternal (user : User) (taskId : Nat) : Route Reply := do
  let external ← loadExternalTask taskId user.tenantId
  let missionId := external.mission.1
  let agentId := external.agentId
  let task ← tryCatch (startAndCheckFailable user external) refused
  update (.task taskId) task.2 (setTaskStatus .failed)
  publish .taskFailed user.tenantId (some missionId) (some taskId) (some agentId)
  update (.mission missionId) external.mission.2 (setMissionStatus .failed)
  publish .missionFailed user.tenantId (some missionId) none (some agentId)
  return .ok taskId

end AiWorld.Api
