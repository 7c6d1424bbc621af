import AiWorld.Executor.TaskExecutor

set_option autoImplicit false

namespace AiWorld.Executor

open AiWorld.Concurrency AiWorld.Gateway

def executable (status : TaskStatus) : Bool := status = .queued ∨ status = .running

def executeAndCommit (deps : EngineDeps) (agent : Option AgentEnv) : Exec Unit := do
  executeTask deps agent
  sessionCommit []

-- The lease is held around the whole body; losing it cuts the attempt off.
def processTask (deps : EngineDeps) (agent : Option AgentEnv) : Exec Bool := do
  let db ← view
  if executable db.task.status then do
    tryCatch (executeAndCommit deps agent) (fun _ => sessionRollback)
    return true
  else return false

-- What else writes the task's row between two attempts: `retry_task`,
-- `register_recovery` and `cancel_mission`.
def retryTask (db : TaskDb) : TaskDb :=
  match validateTaskTransition db.task.status .queued with
  | .ok _ => setTaskStatus .queued db
  | .error _ => db

def maxRequeuesReason : String := "max_requeues"

def failAfterMaxRequeues (db : TaskDb) : TaskDb :=
  match validateTaskTransition .running .failed, validateMissionTransition db.mission.status .failed with
  | .ok _, .ok _ =>
      appendEvents [⟨.taskFailed, [("reason", maxRequeuesReason)]⟩, ⟨.missionFailed, [("reason", maxRequeuesReason)]⟩]
        (setMissionStatus .failed (setTaskStatus .failed db))
  | _, _ => db

def maxAutoRequeues : Nat := 10

def registerRecovery (db : TaskDb) : TaskDb :=
  if db.task.status = .running then
    if db.task.retryCount ≥ maxAutoRequeues then failAfterMaxRequeues db
    else setRetryCount (db.task.retryCount + 1) db
  else db

def cancelMission (db : TaskDb) : TaskDb :=
  match validateMissionTransition db.mission.status .cancelled with
  | .ok _ => appendEvents [⟨.missionCancelled, []⟩] (setMissionStatus .cancelled db)
  | .error _ => db

-- An attempt finds the agent as it is then and the circuit breaker of its worker. It
-- is cut off when its choices run out.
inductive TaskLabel where
  | attempt (agent : Option AgentEnv) (breaker : CircuitBreaker) (choices : List Choice)
  | retry
  | recover
  | cancel

def World.between (change : TaskDb → TaskDb) (w : World) : World :=
  { w with committed := change w.committed, session := change w.committed }

def runAttemptFrom (deps : EngineDeps) (agent : Option AgentEnv) (breaker : CircuitBreaker) (choices : List Choice)
    (w : World) : World :=
  (machine.drive 0 choices (processTask deps agent).run (w.rollsBack.breaks breaker)).2

def taskStep (deps : EngineDeps) (w : World) : TaskLabel → Option World
  | .attempt agent breaker choices => some (runAttemptFrom deps agent breaker choices w)
  | .retry => some (w.between retryTask)
  | .recover => some (w.between registerRecovery)
  | .cancel => some (w.between cancelMission)

-- A task as `start_mission` leaves it.
structure Fresh (db : TaskDb) : Prop where
  status : db.task.status = .queued
  output : db.task.outputArtifactId = none
  checkpoints : db.checkpoints = []
  invocations : db.invocations = []
  artifacts : db.artifacts = []

def startWorld (db : TaskDb) : World := { committed := db, session := db }

end AiWorld.Executor
