import AiWorld.Executor.Adapter

set_option autoImplicit false

namespace AiWorld.Executor

open AiWorld.Concurrency AiWorld.Gateway

-- The agent, its active version and its model policy, as the attempt finds them.
structure AgentEnv where
  agentId : Nat
  agentVersionId : Nat
  systemPrompt : String
  toolPolicyJson : String
  primaryProvider : String
  primaryModel : String
deriving DecidableEq, Repr

namespace ArtifactService

def primarySlot : String := "primary"

def findCommitted (artifacts : List Artifact) (artifactType : ArtifactType) (slot : String) : Option Artifact :=
  artifacts.find? (fun artifact => artifact.artifactType = artifactType ∧ artifact.logicalOutputSlot = slot)

def storageKey (context : RunContext) (artifactType : ArtifactType) (slot contentHash : String) : String :=
  toString context.tenantId ++ "/" ++ toString context.missionId ++ "/" ++ toString context.taskId ++ "/" ++
    artifactType.value ++ "/" ++ slot ++ "/v1-" ++ contentHash.take 16

def storageUri (deps : EngineDeps) (key : String) : String := "s3://" ++ deps.bucket ++ "/" ++ key

def titleLimit : Nat := 255

-- What the title column refuses; neither is an integrity error.
def titleError (title : String) : Option String :=
  if title.toList.contains (Char.ofNat 0) then some "invalid byte sequence for encoding \"UTF8\": 0x00"
  else if titleLimit < title.length then some "value too long for type character varying(255)"
  else none

-- `begin_nested` flushes before its savepoint, so a conflict spoils the transaction
-- and the second look raises.
def insertArtifact (artifact : Artifact) : Exec (Artifact × Bool) := do
  let db ← view
  match titleError artifact.title with
  | some message => throw (.unexpected message)
  | none =>
      match findCommitted db.artifacts artifact.artifactType artifact.logicalOutputSlot with
      | some _ => throw (.unexpected "This Session's transaction has been rolled back")
      | none => do
          stage (fun db => { db with artifacts := db.artifacts ++ [artifact] })
          return (artifact, true)

def uploadedArtifact (deps : EngineDeps) (context : RunContext) (artifactType : ArtifactType)
    (title content mimeType : String) (id : Nat) : Artifact where
  id := id
  agentId := context.agentId
  agentVersionId := context.agentVersionId
  artifactType := artifactType
  logicalOutputSlot := primarySlot
  title := title
  storageUri := storageUri deps (storageKey context artifactType primarySlot (deps.modelGateway.sha256Hex content))
  contentHash := deps.modelGateway.sha256Hex content
  mimeType := mimeType

def uploadAndInsert (deps : EngineDeps) (context : RunContext) (artifactType : ArtifactType)
    (title content mimeType : String) : Exec (Artifact × Bool) := do
  let stored ← putObject (storageKey context artifactType primarySlot (deps.modelGateway.sha256Hex content)) content
  match stored with
  | false => throw (.unexpected "put_object failed")
  | true => do
      let id ← newId
      insertArtifact (uploadedArtifact deps context artifactType title content mimeType id)

def commitArtifact (deps : EngineDeps) (context : RunContext) (artifactType : ArtifactType)
    (title content mimeType : String) : Exec (Artifact × Bool) := do
  let db ← view
  match findCommitted db.artifacts artifactType primarySlot with
  | some existing => return (existing, false)
  | none => uploadAndInsert deps context artifactType title content mimeType

end ArtifactService

open ArtifactService

def setTaskStatus (status : TaskStatus) (db : TaskDb) : TaskDb := { db with task := { db.task with status := status } }

def setMissionStatus (status : MissionStatus) (db : TaskDb) : TaskDb :=
  { db with mission := { db.mission with status := status } }

def setRetryCount (count : Nat) (db : TaskDb) : TaskDb := { db with task := { db.task with retryCount := count } }

def setOutputArtifact (id : Nat) (db : TaskDb) : TaskDb := { db with task := { db.task with outputArtifactId := some id } }

-- Neither status is validated: both rows are the ones loaded at the start.
def fail (reason : String) : Exec Unit := do
  stage (setTaskStatus .failed)
  publish .taskFailed [("reason", reason)]
  stage (setMissionStatus .failed)
  publish .missionFailed [("reason", reason)]

def modelCompletedData (telemetry : ModelInvocationTelemetry) : List (String × String) :=
  [("provider", telemetry.provider), ("model", telemetry.model)] ++
    (if telemetry.usageEstimated then [("usage_estimated", "True")] else [])

def repairInstruction (error : String) : String :=
  "\n\nYour previous answer was rejected by the output validator: " ++ error ++ "\n" ++
  "Re-answer now with a single corrected JSON object that matches the OUTPUT CONTRACT " ++
  "exactly. Do not include any text outside the JSON object."

def announceRetry (foundRunning : Bool) (retryCount : Nat) : Exec Unit := do
  let counted := if foundRunning then retryCount else retryCount + 1
  stage (setRetryCount counted)
  publish .taskRetryStarted [("retry_count", toString counted)]

def announceStart (task : TaskRow) (existing : Option Checkpoint) : Exec Unit := do
  let foundRunning : Bool := task.status = .running
  stage (setTaskStatus .running)
  if task.retryCount = 0 ∧ existing = none ∧ foundRunning = false then publish .taskStarted []
  else announceRetry foundRunning task.retryCount

def announceResume (checkpoint : Checkpoint) : Exec Unit :=
  match checkpoint.state with
  | .promptAssembled _ _ _ _ _ _ _ => publish .modelRequested []
  | _ => return ()

def runModel (adapter : DurableAgentRuntimeAdapter) (context : RunContext) : Option Checkpoint → Exec RunResult
  | some checkpoint => do
      publish .runtimeRecovered []
      announceResume checkpoint
      adapter.resume checkpoint
  | none => do
      publish .modelRequested []
      adapter.execute context

-- The two exceptions that end the task; every other one leaves the attempt.
def failModel : Failure → Exec (Option RunResult)
  | .budgetExceeded reason _ => do
      publish .budgetExceeded [("reason", reason)]
      fail reason
      return none
  | .modelGateway message _ => do
      publish .modelFailed [("error", message)]
      fail message
      return none
  | .unexpected message => throw (.unexpected message)

def failRepair : Failure → Exec (Option RunResult)
  | .unexpected message => throw (.unexpected message)
  | failure => do
      fail ("repair attempt failed: " ++ failure.text)
      return none

def publishCompleted : Option ModelInvocationTelemetry → Exec Unit
  | none => return ()
  | some telemetry => publish .modelCompleted (modelCompletedData telemetry)

def publishCreated (artifact : Artifact) : Bool → Exec Unit
  | true => publish .artifactCreated [("artifact_id", toString artifact.id)]
  | false => return ()

def commitOutput (deps : EngineDeps) (context : RunContext) (title text : String) : Exec Unit := do
  let committed ← commitArtifact deps context .missionOutput title text "application/json"
  publishCreated committed.1 committed.2
  stage (setOutputArtifact committed.1.id)
  sessionCommit []
  stage (setTaskStatus .completed)
  publish .taskCompleted []
  stage (setMissionStatus .completed)
  publish .missionCompleted []

def rejectOutput (deps : EngineDeps) (context : RunContext) (taskTitle text error : String) : Exec Unit := do
  let _ ← commitArtifact deps context .rawModelResponse (taskTitle ++ " (invalid output)") text "text/plain"
  fail ("Output failed validation even after repair: " ++ error)

def commitCompleted : Option ModelInvocationTelemetry → Exec Unit
  | none => return ()
  | some telemetry => do
      publish .modelCompleted (modelCompletedData telemetry ++ [("repair_attempt", "True")])
      sessionCommit []

def validateMissionOutput (deps : EngineDeps) (text : String) : Exec (Except String String) :=
  match deps.validatorRaises text with
  | some message => throw (.unexpected message)
  | none => return deps.validateMissionOutput text

def afterRepair (deps : EngineDeps) (context : RunContext) (taskTitle : String) (result : RunResult) : Exec Unit := do
  commitCompleted result.modelTelemetry
  let parsed ← validateMissionOutput deps result.outputText
  match parsed with
  | .ok title => commitOutput deps context title result.outputText
  | .error error => rejectOutput deps context taskTitle result.outputText error

def repair (adapter : DurableAgentRuntimeAdapter) (context : RunContext) (taskTitle error : String) : Exec Unit := do
  let repairContext := { context with taskInstructions := context.taskInstructions ++ repairInstruction error }
  publish .modelRequested [("repair_attempt", "True")]
  let result ← tryCatch (some <$> adapter.execute repairContext) failRepair
  match result with
  | none => return ()
  | some result => afterRepair adapter.deps context taskTitle result

def afterModel (adapter : DurableAgentRuntimeAdapter) (context : RunContext) (taskTitle : String) (result : RunResult) :
    Exec Unit := do
  publishCompleted result.modelTelemetry
  publish .runtimeCheckpointCreated [("sequence", toString result.finalCheckpoint.sequence)]
  sessionCommit []
  let parsed ← validateMissionOutput adapter.deps result.outputText
  match parsed with
  | .ok title => commitOutput adapter.deps context title result.outputText
  | .error error => repair adapter context taskTitle error

def runContext (db : TaskDb) (agent : AgentEnv) : RunContext where
  tenantId := db.mission.tenantId
  missionId := db.mission.id
  taskId := db.task.id
  agentId := agent.agentId
  agentVersionId := agent.agentVersionId
  systemPrompt := agent.systemPrompt
  missionObjective := db.mission.objective
  taskInstructions := db.task.instructions
  toolPolicyJson := agent.toolPolicyJson
  budgetPolicy := db.task.budgetPolicy
  availableContext := db.task.inputContext
  modelProvider := agent.primaryProvider
  modelName := agent.primaryModel

def runAttempt (deps : EngineDeps) (agent : AgentEnv) (db : TaskDb) (startedAt : ℚ) : Exec Unit := do
  let existing := latestCheckpoint db.checkpoints
  announceStart db.task existing
  let context := runContext db agent
  let adapter : DurableAgentRuntimeAdapter :=
    ⟨deps, ⟨context.tenantId, context.missionId, context.taskId, context.agentId, startedAt⟩⟩
  let result ← tryCatch (some <$> runModel adapter context existing) failModel
  match result with
  | none => return ()
  | some result => afterModel adapter context db.task.title result

def executeTask (deps : EngineDeps) (agent : Option AgentEnv) : Exec Unit := do
  let startedAt ← now
  let db ← view
  match agent with
  | none => throw (.unexpected ("Task " ++ toString db.task.id ++ " has no resolvable mission/agent/active version."))
  | some agent => runAttempt deps agent db startedAt

end AiWorld.Executor
