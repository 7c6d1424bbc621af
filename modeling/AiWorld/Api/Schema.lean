import AiWorld.Contracts
import AiWorld.Database.Server

set_option autoImplicit false

namespace AiWorld

inductive AgentLifecycleState where
  | draft | active | suspended
deriving DecidableEq, Repr

inductive ProjectStatus where
  | active | archived
deriving DecidableEq, Repr

inductive AgentRuntimeKind where
  | session | subagent
deriving DecidableEq, Repr

inductive AgentRuntimeOutcome where
  | completed | failed | abandoned
deriving DecidableEq, Repr

inductive AgentRuntimeCloseOutcome where
  | completed | failed
deriving DecidableEq, Repr

inductive AgentRuntimeClosedBy where
  | hook | sessionEnd | reaper
deriving DecidableEq, Repr

inductive AgentRuntimeReasonCode where
  | hookReported | sessionEnded | reapedStale
deriving DecidableEq, Repr

namespace Api

open AiWorld.Database

structure ModelPolicy where
  tenantId : Nat
  name : String
deriving DecidableEq, Repr

structure Agent where
  tenantId : Nat
  agentCode : String
  displayName : String
  lifecycleState : AgentLifecycleState
  activeVersionId : Option Nat
deriving DecidableEq, Repr

structure AgentVersion where
  agentId : Nat
  version : Nat
  runtimeAdapter : String
  modelPolicyId : Nat
deriving DecidableEq, Repr

structure Mission where
  tenantId : Nat
  missionCode : String
  assignedAgentId : Option Nat
  status : MissionStatus
deriving DecidableEq, Repr

structure Project where
  tenantId : Nat
  code : String
  status : ProjectStatus
deriving DecidableEq, Repr

structure MissionProject where
  tenantId : Nat
  projectId : Nat
deriving DecidableEq, Repr

structure Task where
  missionId : Nat
  assignedAgentId : Nat
  status : TaskStatus
  retryCount : Nat
  idempotencyKey : String
  outputArtifactId : Option Nat
deriving DecidableEq, Repr

structure Artifact where
  tenantId : Nat
  missionId : Nat
  taskId : Nat
  agentId : Nat
  agentVersionId : Nat
  artifactType : ArtifactType
  logicalOutputSlot : String
deriving DecidableEq, Repr

structure ModelInvocation where
  tenantId : Nat
  missionId : Nat
  taskId : Nat
  agentId : Nat
deriving DecidableEq, Repr

-- Of a checkpoint's state, the stage it records and, once the model has answered,
-- whether the answer passes `validate_mission_output`.
inductive CheckpointStage where
  | promptAssembled
  | modelResponded (valid : Bool)
deriving DecidableEq, Repr

structure RuntimeCheckpoint where
  missionId : Nat
  taskId : Nat
  agentId : Nat
  sequence : Nat
  stage : CheckpointStage
deriving DecidableEq, Repr

-- Of the payload, the reason a failure is recorded with.
structure AuditEvent where
  tenantId : Nat
  eventType : EventType
  missionId : Option Nat
  taskId : Option Nat
  agentId : Option Nat
  reason : Option String
deriving DecidableEq, Repr

structure AgentRoomAssignment where
  tenantId : Nat
  agentId : Nat
  floor : Nat
  roomIndex : Nat
  releasedAt : Option Nat
deriving DecidableEq, Repr

-- `outcome` holds the value of either outcome enumeration.
structure AgentRuntimeSession where
  tenantId : Nat
  kind : AgentRuntimeKind
  agentId : Option Nat
  missionId : Option Nat
  taskId : Option Nat
  externalSessionRef : String
  externalInstanceRef : Option String
  parentSessionId : Option Nat
  startedAt : Nat
  lastHeartbeatAt : Option Nat
  endedAt : Option Nat
  outcome : Option AgentRuntimeOutcome
deriving DecidableEq, Repr

structure AgentRuntimePersonaSlot where
  tenantId : Nat
  slot : Nat
  agentCode : String
deriving DecidableEq, Repr

structure AgentRuntimeClosure where
  tenantId : Nat
  runtimeSessionId : Nat
  taskId : Option Nat
  closedBy : AgentRuntimeClosedBy
  outcome : AgentRuntimeCloseOutcome
  reasonCode : AgentRuntimeReasonCode
  toolCallCount : Option Nat
  artifactId : Option Nat
  closedAt : Nat
  lateCloseAt : Option Nat
deriving DecidableEq, Repr

-- A row by its table and primary key.
inductive Key where
  | modelPolicy (id : Nat)
  | agent (id : Nat)
  | agentVersion (id : Nat)
  | mission (id : Nat)
  | project (id : Nat)
  | missionProject (missionId : Nat)
  | task (id : Nat)
  | artifact (id : Nat)
  | modelInvocation (id : Nat)
  | checkpoint (id : Nat)
  | event (id : Nat)
  | roomAssignment (id : Nat)
  | session (id : Nat)
  | personaSlot (id : Nat)
  | closure (id : Nat)
deriving DecidableEq, Repr

@[reducible] def Row : Key → Type
  | .modelPolicy _ => ModelPolicy
  | .agent _ => Agent
  | .agentVersion _ => AgentVersion
  | .mission _ => Mission
  | .project _ => Project
  | .missionProject _ => MissionProject
  | .task _ => Task
  | .artifact _ => Artifact
  | .modelInvocation _ => ModelInvocation
  | .checkpoint _ => RuntimeCheckpoint
  | .event _ => AuditEvent
  | .roomAssignment _ => AgentRoomAssignment
  | .session _ => AgentRuntimeSession
  | .personaSlot _ => AgentRuntimePersonaSlot
  | .closure _ => AgentRuntimeClosure

abbrev Db := AList Row

namespace Db

variable (db : Db)

def modelPolicy (id : Nat) : Option ModelPolicy := db.lookup (.modelPolicy id)
def agent (id : Nat) : Option Agent := db.lookup (.agent id)
def agentVersion (id : Nat) : Option AgentVersion := db.lookup (.agentVersion id)
def mission (id : Nat) : Option Mission := db.lookup (.mission id)
def project (id : Nat) : Option Project := db.lookup (.project id)
def missionProject (missionId : Nat) : Option MissionProject := db.lookup (.missionProject missionId)
def task (id : Nat) : Option Task := db.lookup (.task id)
def artifact (id : Nat) : Option Artifact := db.lookup (.artifact id)
def event (id : Nat) : Option AuditEvent := db.lookup (.event id)
def session (id : Nat) : Option AgentRuntimeSession := db.lookup (.session id)
def closure (id : Nat) : Option AgentRuntimeClosure := db.lookup (.closure id)

end Db

-- The unique constraints and unique indexes, partial ones included.
inductive Index where
  | agentCode (tenantId : Nat) (agentCode : String)
  | agentVersion (agentId version : Nat)
  | missionCode (missionCode : String)
  | projectCode (tenantId : Nat) (code : String)
  | idempotencyKey (idempotencyKey : String)
  | idempotentCommit (taskId : Nat) (artifactType : ArtifactType) (logicalOutputSlot : String)
  | checkpointSequence (taskId sequence : Nat)
  | activeRoom (tenantId floor roomIndex : Nat)
  | activeAgent (tenantId agentId : Nat)
  | sessionRef (tenantId : Nat) (externalSessionRef : String)
  | instanceRef (tenantId : Nat) (externalInstanceRef : String)
  | personaSlot (tenantId slot : Nat)
  | personaCode (tenantId : Nat) (agentCode : String)
  | runtimeSession (runtimeSessionId : Nat)
deriving DecidableEq, Repr

def indexed : (key : Key) → Row key → List Index
  | .agent _, row => [.agentCode row.tenantId row.agentCode]
  | .agentVersion _, row => [.agentVersion row.agentId row.version]
  | .mission _, row => [.missionCode row.missionCode]
  | .project _, row => [.projectCode row.tenantId row.code]
  | .task _, row => [.idempotencyKey row.idempotencyKey]
  | .artifact _, row => [.idempotentCommit row.taskId row.artifactType row.logicalOutputSlot]
  | .checkpoint _, row => [.checkpointSequence row.taskId row.sequence]
  | .roomAssignment _, row =>
      match row.releasedAt with
      | none => [.activeRoom row.tenantId row.floor row.roomIndex, .activeAgent row.tenantId row.agentId]
      | some _ => []
  | .session _, row =>
      match row.kind, row.externalInstanceRef with
      | .session, _ => [.sessionRef row.tenantId row.externalSessionRef]
      | .subagent, some ref => [.instanceRef row.tenantId ref]
      | .subagent, none => []
  | .personaSlot _, row => [.personaSlot row.tenantId row.slot, .personaCode row.tenantId row.agentCode]
  | .closure _, row => [.runtimeSession row.runtimeSessionId]
  | _, _ => []

-- The table a unique index is on.
def Index.on : Index → Key → Bool
  | .agentCode _ _, .agent _ => true
  | .agentVersion _ _, .agentVersion _ => true
  | .missionCode _, .mission _ => true
  | .projectCode _ _, .project _ => true
  | .idempotencyKey _, .task _ => true
  | .idempotentCommit _ _ _, .artifact _ => true
  | .checkpointSequence _ _, .checkpoint _ => true
  | .activeRoom _ _ _, .roomAssignment _ => true
  | .activeAgent _ _, .roomAssignment _ => true
  | .sessionRef _ _, .session _ => true
  | .instanceRef _ _, .session _ => true
  | .personaSlot _ _, .personaSlot _ => true
  | .personaCode _ _, .personaSlot _ => true
  | .runtimeSession _, .closure _ => true
  | _, _ => false

theorem indexed_on (key : Key) (row : Row key) (entry : Index) (listed : entry ∈ indexed key row) : entry.on key = true := by
  cases key with
  | roomAssignment id =>
      simp only [indexed] at listed
      split at listed
      next =>
        simp only [List.mem_cons, List.not_mem_nil, or_false] at listed
        rcases listed with rfl | rfl <;> rfl
      next => cases listed
  | session id =>
      simp only [indexed] at listed
      split at listed
      next => rw [List.mem_singleton.mp listed]; rfl
      next => rw [List.mem_singleton.mp listed]; rfl
      next => cases listed
  | personaSlot id =>
      simp only [indexed, List.mem_cons, List.not_mem_nil, or_false] at listed
      rcases listed with rfl | rfl <;> rfl
  | agent id => rw [List.mem_singleton.mp listed]; rfl
  | agentVersion id => rw [List.mem_singleton.mp listed]; rfl
  | mission id => rw [List.mem_singleton.mp listed]; rfl
  | project id => rw [List.mem_singleton.mp listed]; rfl
  | task id => rw [List.mem_singleton.mp listed]; rfl
  | artifact id => rw [List.mem_singleton.mp listed]; rfl
  | checkpoint id => rw [List.mem_singleton.mp listed]; rfl
  | closure id => rw [List.mem_singleton.mp listed]; rfl
  | _ => cases listed

def references : (key : Key) → Row key → List Key
  | .agent _, row => (row.activeVersionId.map Key.agentVersion).toList
  | .agentVersion _, row => [.agent row.agentId, .modelPolicy row.modelPolicyId]
  | .mission _, row => (row.assignedAgentId.map Key.agent).toList
  | .missionProject missionId, row => [.mission missionId, .project row.projectId]
  | .task _, row => [.mission row.missionId, .agent row.assignedAgentId]
  | .artifact _, row =>
      [.mission row.missionId, .task row.taskId, .agent row.agentId, .agentVersion row.agentVersionId]
  | .modelInvocation _, row => [.mission row.missionId, .task row.taskId, .agent row.agentId]
  | .checkpoint _, row => [.mission row.missionId, .task row.taskId, .agent row.agentId]
  | .event _, row =>
      (row.missionId.map Key.mission).toList ++ (row.taskId.map Key.task).toList ++ (row.agentId.map Key.agent).toList
  | .roomAssignment _, row => [.agent row.agentId]
  | .session _, row =>
      (row.agentId.map Key.agent).toList ++ (row.missionId.map Key.mission).toList ++
        (row.taskId.map Key.task).toList ++ (row.parentSessionId.map Key.session).toList
  | .closure _, row =>
      [.session row.runtimeSessionId] ++ (row.taskId.map Key.task).toList ++ (row.artifactId.map Key.artifact).toList
  | _, _ => []

-- CHECK and NOT NULL constraints, and the composite foreign key of `mission_projects`.
def valid : (key : Key) → Row key → Db → Bool
  | .missionProject _, row, db =>
      match db.project row.projectId with
      | some project => project.tenantId = row.tenantId
      | none => false
  | .roomAssignment _, row, _ => 1 ≤ row.floor ∧ 1 ≤ row.roomIndex ∧ row.roomIndex ≤ 4
  | .personaSlot _, row, _ => row.slot < 25
  | .closure _, row, _ => row.taskId.isSome
  | _, _, _ => true

def schema : Schema Row Index := ⟨indexed, references, valid⟩

namespace Db

variable (db : Db)

def modelPolicies : List (Nat × ModelPolicy) :=
  db.entries.filterMap (fun | ⟨.modelPolicy id, row⟩ => some (id, row) | _ => none)

def agents : List (Nat × Agent) := db.entries.filterMap (fun | ⟨.agent id, row⟩ => some (id, row) | _ => none)

def agentVersions : List (Nat × AgentVersion) :=
  db.entries.filterMap (fun | ⟨.agentVersion id, row⟩ => some (id, row) | _ => none)

def missions : List (Nat × Mission) := db.entries.filterMap (fun | ⟨.mission id, row⟩ => some (id, row) | _ => none)

def tasks : List (Nat × Task) := db.entries.filterMap (fun | ⟨.task id, row⟩ => some (id, row) | _ => none)

def artifacts : List (Nat × Artifact) := db.entries.filterMap (fun | ⟨.artifact id, row⟩ => some (id, row) | _ => none)

def checkpoints : List (Nat × RuntimeCheckpoint) :=
  db.entries.filterMap (fun | ⟨.checkpoint id, row⟩ => some (id, row) | _ => none)

def roomAssignments : List (Nat × AgentRoomAssignment) :=
  db.entries.filterMap (fun | ⟨.roomAssignment id, row⟩ => some (id, row) | _ => none)

def sessions : List (Nat × AgentRuntimeSession) :=
  db.entries.filterMap (fun | ⟨.session id, row⟩ => some (id, row) | _ => none)

def personaSlots : List (Nat × AgentRuntimePersonaSlot) :=
  db.entries.filterMap (fun | ⟨.personaSlot id, row⟩ => some (id, row) | _ => none)

def closures : List (Nat × AgentRuntimeClosure) :=
  db.entries.filterMap (fun | ⟨.closure id, row⟩ => some (id, row) | _ => none)

end Db

variable {α : Type}

-- The rows of a table are the ones stored under its keys.
theorem mem_table (pick : Sigma Row → Option α) (entry : α → Sigma Row)
    (inverse : ∀ stored value, pick stored = some value ↔ stored = entry value) (db : Db) (value : α) :
    value ∈ db.entries.filterMap pick ↔ db.lookup (entry value).1 = some (entry value).2 := by
  simp only [List.mem_filterMap, inverse, exists_eq_right]
  exact AList.mem_lookup_iff.symm

-- An id occurs once in a table.
theorem table_nodup (pick : Sigma Row → Option (Nat × α)) (entry : Nat × α → Sigma Row)
    (inverse : ∀ stored value, pick stored = some value ↔ stored = entry value)
    (keyed : ∀ one two, one.1 = two.1 → (entry one).1 = (entry two).1) (db : Db) :
    ((db.entries.filterMap pick).map Prod.fst).Nodup := by
  have pairs : (db.entries.filterMap pick).Nodup :=
    List.Nodup.filterMap (fun one two value first second =>
      ((inverse one value).mp first).trans ((inverse two value).mp second).symm) (List.NodupKeys.nodup db.nodupKeys)
  refine pairs.map_on (fun one first two second same => ?_)
  simp only [List.mem_filterMap, inverse, exists_eq_right] at first second
  have entries : entry one = entry two := List.NodupKeys.eq_of_fst_eq db.nodupKeys first second (keyed one two same)
  exact Option.some.inj (((inverse _ one).mpr rfl).symm.trans (entries ▸ (inverse _ two).mpr rfl))

theorem mem_agents (db : Db) (row : Nat × Agent) : row ∈ db.agents ↔ db.lookup (.agent row.1) = some row.2 :=
  mem_table _ (fun row : Nat × Agent => ⟨.agent row.1, row.2⟩)
    (by rintro ⟨key, stored⟩ ⟨id, row⟩; cases key <;> simp) db row

theorem mem_missions (db : Db) (row : Nat × Mission) : row ∈ db.missions ↔ db.lookup (.mission row.1) = some row.2 :=
  mem_table _ (fun row : Nat × Mission => ⟨.mission row.1, row.2⟩)
    (by rintro ⟨key, stored⟩ ⟨id, row⟩; cases key <;> simp) db row

theorem mem_tasks (db : Db) (row : Nat × Task) : row ∈ db.tasks ↔ db.lookup (.task row.1) = some row.2 :=
  mem_table _ (fun row : Nat × Task => ⟨.task row.1, row.2⟩)
    (by rintro ⟨key, stored⟩ ⟨id, row⟩; cases key <;> simp) db row

theorem mem_sessions (db : Db) (row : Nat × AgentRuntimeSession) : row ∈ db.sessions ↔ db.lookup (.session row.1) = some row.2 :=
  mem_table _ (fun row : Nat × AgentRuntimeSession => ⟨.session row.1, row.2⟩)
    (by rintro ⟨key, stored⟩ ⟨id, row⟩; cases key <;> simp) db row

theorem mem_persona_slots (db : Db) (row : Nat × AgentRuntimePersonaSlot) : row ∈ db.personaSlots ↔ db.lookup (.personaSlot row.1) = some row.2 :=
  mem_table _ (fun row : Nat × AgentRuntimePersonaSlot => ⟨.personaSlot row.1, row.2⟩)
    (by rintro ⟨key, stored⟩ ⟨id, row⟩; cases key <;> simp) db row

theorem mem_model_policies (db : Db) (row : Nat × ModelPolicy) : row ∈ db.modelPolicies ↔ db.lookup (.modelPolicy row.1) = some row.2 :=
  mem_table _ (fun row : Nat × ModelPolicy => ⟨.modelPolicy row.1, row.2⟩)
    (by rintro ⟨key, stored⟩ ⟨id, row⟩; cases key <;> simp) db row

theorem mem_artifacts (db : Db) (row : Nat × Artifact) : row ∈ db.artifacts ↔ db.lookup (.artifact row.1) = some row.2 :=
  mem_table _ (fun row : Nat × Artifact => ⟨.artifact row.1, row.2⟩)
    (by rintro ⟨key, stored⟩ ⟨id, row⟩; cases key <;> simp) db row

theorem mem_closures (db : Db) (row : Nat × AgentRuntimeClosure) : row ∈ db.closures ↔ db.lookup (.closure row.1) = some row.2 :=
  mem_table _ (fun row : Nat × AgentRuntimeClosure => ⟨.closure row.1, row.2⟩)
    (by rintro ⟨key, stored⟩ ⟨id, row⟩; cases key <;> simp) db row

end Api

end AiWorld
