import AiWorld.Api.Tasks

set_option autoImplicit false

namespace AiWorld.Api

open AiWorld.Database ArtifactService

-- The rows an attempt loads at its start and never reads again.
structure Attempt where
  task : Loaded Task
  mission : Loaded Mission
  agentId : Nat
  agentVersionId : Nat

def announce (attempt : Attempt) (eventType : EventType) : Route Unit :=
  publish eventType attempt.mission.2.tenantId (some attempt.mission.1) (some attempt.task.1) (some attempt.agentId)

-- One ledger row: written ahead, committed, and finished with a second commit. The
-- columns it finishes are left out.
def ledgerRow (attempt : Attempt) : Route Unit := do
  let id ← newId
  let row : ModelInvocation := ⟨attempt.mission.2.tenantId, attempt.mission.1, attempt.task.1, attempt.agentId⟩
  insert (.modelInvocation id) row
  commit
  update (.modelInvocation id) row (fun row => row)
  commit

def ledgerRows (attempt : Attempt) : Nat → Route Unit
  | 0 => return ()
  | count + 1 => do
      ledgerRow attempt
      ledgerRows attempt count

-- What an attempt learns from the adapter: whether the output passes
-- `validate_mission_output`, and whether the model was called for it.
structure RunResult where
  valid : Bool
  called : Bool

namespace SqlCheckpointStore

def latest (rows : List RuntimeCheckpoint) : Option RuntimeCheckpoint :=
  rows.foldl (fun best row =>
    match best with
    | none => some row
    | some newest => if newest.sequence ≤ row.sequence then some row else some newest) none

def latestForTask (taskId : Nat) : Route (Option RuntimeCheckpoint) :=
  select (fun db => latest ((db.checkpoints.map Prod.snd).filter (fun row => row.taskId = taskId)))

-- The unique index on (task_id, checkpoint_sequence) makes the commit raise.
def save (attempt : Attempt) (sequence : Nat) (stage : CheckpointStage) : Route Unit := do
  let id ← newId
  insert (.checkpoint id) ⟨attempt.mission.1, attempt.task.1, attempt.agentId, sequence, stage⟩
  commit

end SqlCheckpointStore

-- The adapter's part of a model call: its ledger rows and, when the model answered,
-- the response checkpoint.
def callModel (attempt : Attempt) (sequence : Nat) : Route RunResult := do
  let outcome ← model
  match outcome with
  | .responded count valid => do
      ledgerRows attempt count
      SqlCheckpointStore.save attempt (sequence + 1) (.modelResponded valid)
      return ⟨valid, true⟩
  | .budgetExceeded count => do
      ledgerRows attempt count
      throw .budgetExceeded
  | .modelGatewayError count => do
      ledgerRows attempt count
      throw .modelGateway
  | .raised count => do
      ledgerRows attempt (count + 1)
      throw (.unexpected "model call")

def nextSequence : Option RuntimeCheckpoint → Nat
  | some latest => latest.sequence + 1
  | none => 1

-- `adapter.execute`: the prompt checkpoint is committed before the call.
def executeModel (attempt : Attempt) : Route RunResult := do
  let latest ← SqlCheckpointStore.latestForTask attempt.task.1
  SqlCheckpointStore.save attempt (nextSequence latest) .promptAssembled
  callModel attempt (nextSequence latest)

def fail (attempt : Attempt) : Route Unit := do
  update (.task attempt.task.1) attempt.task.2 (setTaskStatus .failed)
  announce attempt .taskFailed
  update (.mission attempt.mission.1) attempt.mission.2 (setMissionStatus .failed)
  announce attempt .missionFailed

def failModel (attempt : Attempt) : Failure → Route (Option RunResult)
  | .budgetExceeded => do
      announce attempt .budgetExceeded
      fail attempt
      return none
  | .modelGateway => do
      announce attempt .modelFailed
      fail attempt
      return none
  | failure => throw failure

def failRepair (attempt : Attempt) : Failure → Route (Option RunResult)
  | .budgetExceeded => do
      fail attempt
      return none
  | .modelGateway => do
      fail attempt
      return none
  | failure => throw failure

def attemptArtifact (attempt : Attempt) (artifactType : ArtifactType) : Artifact :=
  ⟨attempt.mission.2.tenantId, attempt.mission.1, attempt.task.1, attempt.agentId, attempt.agentVersionId,
    artifactType, "primary"⟩

def announceCreated (attempt : Attempt) : Bool → Route Unit
  | true => announce attempt .artifactCreated
  | false => return ()

def commitOutput (attempt : Attempt) : Route Unit := do
  let committed ← commitArtifact (attemptArtifact attempt .missionOutput)
  announceCreated attempt committed.2
  update (.task attempt.task.1) attempt.task.2 (fun task => { task with outputArtifactId := some committed.1 })
  commit
  update (.task attempt.task.1) attempt.task.2 (setTaskStatus .completed)
  announce attempt .taskCompleted
  update (.mission attempt.mission.1) attempt.mission.2 (setMissionStatus .completed)
  announce attempt .missionCompleted

def rejectOutput (attempt : Attempt) : Route Unit := do
  let _ ← commitArtifact (attemptArtifact attempt .rawModelResponse)
  fail attempt

def afterRepair (attempt : Attempt) : Option RunResult → Route Unit
  | none => return ()
  | some result => do
      announce attempt .modelCompleted
      commit
      if result.valid then commitOutput attempt else rejectOutput attempt

def repair (attempt : Attempt) : Route Unit := do
  announce attempt .modelRequested
  let result ← tryCatch (some <$> executeModel attempt) (failRepair attempt)
  afterRepair attempt result

def announceCompleted (attempt : Attempt) : Bool → Route Unit
  | true => announce attempt .modelCompleted
  | false => return ()

def afterModel (attempt : Attempt) : Option RunResult → Route Unit
  | none => return ()
  | some result => do
      announceCompleted attempt result.called
      announce attempt .runtimeCheckpointCreated
      commit
      if result.valid then commitOutput attempt else repair attempt

def resumeModel (attempt : Attempt) (checkpoint : RuntimeCheckpoint) : Route RunResult :=
  match checkpoint.stage with
  | .promptAssembled => do
      announce attempt .modelRequested
      callModel attempt checkpoint.sequence
  | .modelResponded valid => return ⟨valid, false⟩

-- The run from the latest checkpoint the attempt has found, or a first one.
def runModel (attempt : Attempt) : Option RuntimeCheckpoint → Route RunResult
  | some checkpoint => do
      announce attempt .runtimeRecovered
      resumeModel attempt checkpoint
  | none => do
      announce attempt .modelRequested
      executeModel attempt

def startColumns (existing : Option RuntimeCheckpoint) (loaded task : Task) : Task :=
  { task with
    status := .running
    retryCount :=
      if loaded.status = .running ∨ (loaded.retryCount = 0 ∧ existing = none) then loaded.retryCount
      else loaded.retryCount + 1 }

def startEvent (existing : Option RuntimeCheckpoint) (loaded : Task) : EventType :=
  if loaded.retryCount = 0 ∧ existing = none ∧ loaded.status ≠ .running then .taskStarted else .taskRetryStarted

def runAttempt (attempt : Attempt) (existing : Option RuntimeCheckpoint) : Route Unit := do
  update (.task attempt.task.1) attempt.task.2 (startColumns existing attempt.task.2)
  announce attempt (startEvent existing attempt.task.2)
  let result ← tryCatch (some <$> runModel attempt existing) (failModel attempt)
  afterModel attempt result

def unresolvable (taskId : Nat) : String :=
  "Task " ++ toString taskId ++ " has no resolvable mission/agent/active version."

def executeTask (task : Loaded Task) : Route Unit := do
  begin task.1
  let mission ← select (fun db => db.mission task.2.missionId)
  let agent ← select (fun db => db.agent task.2.assignedAgentId)
  match mission, agent.bind Agent.activeVersionId with
  | some mission, some versionId => do
      let existing ← SqlCheckpointStore.latestForTask task.1
      runAttempt ⟨task, (task.2.missionId, mission), task.2.assignedAgentId, versionId⟩ existing
  | _, _ => throw (.unexpected (unresolvable task.1))

def executable (status : TaskStatus) : Bool := status = .queued ∨ status = .running

def executeAndCommit (task : Loaded Task) : Route Unit := do
  executeTask task
  commit

def processLeased (taskId : Nat) : Route Unit := do
  let task ← select (fun db => db.task taskId)
  match task.filter (fun task => executable task.status) with
  | none => return ()
  | some task => tryCatch (executeAndCommit (taskId, task)) (fun _ => rollback)

-- Losing the lease cancels the work as a crash does, and finds nothing to release.
def processTask (taskId : Nat) : Route Unit := do
  let acquired ← acquire taskId
  if acquired then do
    processLeased taskId
    release taskId
  else return ()

-- One turn of the worker's loop.
def workerTurn : Route Reply := do
  let taskId ← dequeueTask
  match taskId with
  | none => return .idle
  | some taskId => do
      processTask taskId
      return .idle

def leaseExpiry (taskId : Nat) : Route Reply := do
  expire taskId
  return .idle

def maxAutoRequeues : Nat := 10

def maxRequeuesReason : String := "max_requeues"

def failedAfterMaxRequeues (task : Loaded Task) (mission : Loaded Mission) : Route Unit := do
  update (.task task.1) task.2 (setTaskStatus .failed)
  update (.mission mission.1) mission.2 (setMissionStatus .failed)
  publishReason (some maxRequeuesReason) .taskFailed mission.2.tenantId (some mission.1) (some task.1)
    (some task.2.assignedAgentId)
  publishReason (some maxRequeuesReason) .missionFailed mission.2.tenantId (some mission.1) (some task.1)
    (some task.2.assignedAgentId)

def failAfterMaxRequeues (task : Loaded Task) : Route Unit := do
  let mission ← select (fun db => db.mission task.2.missionId)
  match mission with
  | none => throw (.unexpected "mission")
  | some mission =>
      match validateTaskTransition .running .failed, validateMissionTransition mission.status .failed with
      | .ok _, .ok _ => failedAfterMaxRequeues task (task.2.missionId, mission)
      | _, _ => return ()

def registerRecovery (taskId : Nat) : Route Bool := do
  let task ← select (fun db => db.task taskId)
  match task.filter (fun task => task.status = .running) with
  | none => return false
  | some task =>
      if task.retryCount ≥ maxAutoRequeues then do
        failAfterMaxRequeues (taskId, task)
        return false
      else do
        update (.task taskId) task (fun row => { row with retryCount := task.retryCount + 1 })
        owe taskId
        return true

def durableTask (db : Db) (task : Task) : Bool :=
  match ((db.agent task.assignedAgentId).bind Agent.activeVersionId).bind db.agentVersion with
  | some version => version.runtimeAdapter = customDurable
  | none => false

def requeueOrphan (taskId : Nat) : Route Unit := do
  let leased ← isLeased taskId
  if leased then return () else do
    let shouldRequeue ← getDbSession (registerRecovery taskId)
    if shouldRequeue then enqueueTask taskId else return ()

def requeueOrphans : List Nat → Route Unit
  | [] => return ()
  | taskId :: rest => do
      requeueOrphan taskId
      requeueOrphans rest

def requeueOrphanedRunningTasks : Route Reply := do
  let runningIds ← select (fun db =>
    (db.tasks.filter (fun task => task.2.status = .running ∧ durableTask db task.2)).map Prod.fst)
  requeueOrphans runningIds
  return .idle

end AiWorld.Api
