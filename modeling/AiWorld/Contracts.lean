set_option autoImplicit false

namespace AiWorld

inductive MissionStatus where
  | draft | ready | running | paused | failed | completed | cancelled
deriving DecidableEq, Repr

inductive TaskStatus where
  | queued | running | waiting | failed | completed | cancelled
deriving DecidableEq, Repr

inductive ModelInvocationStatus where
  | requested | completed | failed
deriving DecidableEq, Repr

inductive ArtifactType where
  | missionOutput | rawModelResponse
deriving DecidableEq, Repr

inductive EventType where
  | agentCreated | agentVersionCreated | agentActivated | agentSuspended
  | missionCreated | missionStarted | missionCompleted | missionFailed | missionCancelled
  | taskCreated | taskAssigned | taskStarted | taskRetryStarted | taskCompleted | taskFailed
  | runtimeCheckpointCreated | runtimeRecovered
  | modelRequested | modelCompleted | modelFailed
  | artifactCreated | budgetExceeded
deriving DecidableEq, Repr

def MissionStatus.value : MissionStatus → String
  | .draft => "draft"
  | .ready => "ready"
  | .running => "running"
  | .paused => "paused"
  | .failed => "failed"
  | .completed => "completed"
  | .cancelled => "cancelled"

def TaskStatus.value : TaskStatus → String
  | .queued => "queued"
  | .running => "running"
  | .waiting => "waiting"
  | .failed => "failed"
  | .completed => "completed"
  | .cancelled => "cancelled"

def ArtifactType.value : ArtifactType → String
  | .missionOutput => "mission_output"
  | .rawModelResponse => "raw_model_response"

structure InvalidTransition where
  entity : String
  current : String
  target : String
deriving DecidableEq, Repr

def InvalidTransition.message (error : InvalidTransition) : String :=
  "Invalid " ++ error.entity ++ " transition: " ++ error.current ++ " -> " ++ error.target

def missionTransitions : MissionStatus → List MissionStatus
  | .draft => [.ready, .cancelled]
  | .ready => [.running, .cancelled]
  | .running => [.paused, .completed, .failed, .cancelled]
  | .paused => [.running, .cancelled]
  | .failed => []
  | .completed => []
  | .cancelled => []

def taskTransitions : TaskStatus → List TaskStatus
  | .queued => [.running, .cancelled]
  | .running => [.waiting, .completed, .failed, .cancelled]
  | .waiting => [.running, .failed, .cancelled]
  | .failed => [.queued]
  | .completed => []
  | .cancelled => []

def validateMissionTransition (current target : MissionStatus) : Except InvalidTransition Unit :=
  if target ∈ missionTransitions current then .ok () else .error ⟨"mission", current.value, target.value⟩

def validateTaskTransition (current target : TaskStatus) : Except InvalidTransition Unit :=
  if target ∈ taskTransitions current then .ok () else .error ⟨"task", current.value, target.value⟩

theorem mission_transition_ok {current target : MissionStatus} (valid : validateMissionTransition current target = .ok ()) :
    target ∈ missionTransitions current := by
  by_cases member : target ∈ missionTransitions current
  · exact member
  · simp [validateMissionTransition, member] at valid

theorem task_transition_ok {current target : TaskStatus} (valid : validateTaskTransition current target = .ok ()) :
    target ∈ taskTransitions current := by
  by_cases member : target ∈ taskTransitions current
  · exact member
  · simp [validateTaskTransition, member] at valid

end AiWorld
