import AiWorld.Api.Closure
import AiWorld.Api.Rooms
import AiWorld.Api.Worker

set_option autoImplicit false

namespace AiWorld.Api

open AiWorld.Concurrency

-- Everything that can happen: the routes, one turn of a worker's loop, the worker's
-- two sweeps, and Redis dropping a lease whose time is up.
inductive Request where
  | createAgent (user : User) (agentCode displayName : String) (payload : VersionPayload)
  | createAgentVersion (user : User) (agentId : Nat) (payload : VersionPayload)
  | activateAgent (user : User) (agentId versionId : Nat)
  | suspendAgent (user : User) (agentId : Nat)
  | listAgentRooms (user : User)
  | createMission (user : User) (assignedAgentId : Nat) (projectId : Option Nat)
  | updateMission (user : User) (missionId : Nat) (projectId : Option Nat)
  | startMission (user : User) (missionId : Nat)
  | cancelMission (user : User) (missionId : Nat)
  | retryTask (user : User) (taskId : Nat)
  | completeTaskExternal (user : User) (taskId : Nat) (parsed : Except String Unit)
  | failTaskExternal (user : User) (taskId : Nat)
  | registerSession (user : User) (externalSessionRef : String)
  | registerSubagent (user : User) (payload : SubagentPayload)
  | updateSession (user : User) (sessionId : Nat) (outcome : Option AgentRuntimeOutcome)
  | closeSubagentByRef (user : User) (externalInstanceRef : String) (payload : ClosePayload)
  | closeSubagentById (user : User) (sessionId : Nat) (payload : ClosePayload)
  | workerTurn
  | orphanSweep
  | reapSweep (reapWindow batchSize : Nat)
  | leaseExpiry (taskId : Nat)
deriving DecidableEq

def route : Request → Route Reply
  | .createAgent user agentCode displayName payload => getDbSession (createAgent user agentCode displayName payload)
  | .createAgentVersion user agentId payload => getDbSession (createAgentVersion user agentId payload)
  | .activateAgent user agentId versionId => getDbSession (activateAgent user agentId versionId)
  | .suspendAgent user agentId => getDbSession (suspendAgent user agentId)
  | .listAgentRooms user => getDbSession (listAgentRooms user)
  | .createMission user assignedAgentId projectId => getDbSession (createMissionRoute user assignedAgentId projectId)
  | .updateMission user missionId projectId => getDbSession (updateMission user missionId projectId)
  | .startMission user missionId => getDbSession (startMissionRoute user missionId)
  | .cancelMission user missionId => getDbSession (cancelMission user missionId)
  | .retryTask user taskId => getDbSession (retryTask user taskId)
  | .completeTaskExternal user taskId parsed => getDbSession (completeTaskExternal user taskId parsed)
  | .failTaskExternal user taskId => getDbSession (failTaskExternal user taskId)
  | .registerSession user ref => getDbSession (registerSession user ref)
  | .registerSubagent user payload => getDbSession (registerSubagent user payload)
  | .updateSession user sessionId outcome => getDbSession (updateSession user sessionId outcome)
  | .closeSubagentByRef user ref payload => getDbSession (closeSubagentByRef user ref payload)
  | .closeSubagentById user sessionId payload => getDbSession (closeSubagentById user sessionId payload)
  | .workerTurn => workerTurn
  | .orphanSweep => requeueOrphanedRunningTasks
  | .reapSweep reapWindow batchSize => getDbSession (runAgentRuntimeReapSweep reapWindow batchSize)
  | .leaseExpiry taskId => leaseExpiry taskId

def program (request : Request) : Proc apiSig (Except Failure Reply) := (route request).run

abbrev System := Pool apiSig Sys (Except Failure Reply) Request

abbrev Action := Label Choice Request

def lost : Except Failure Reply := .error (.unexpected "crash")

def step (system : System) (action : Action) : Option System := system.step machine program lost action

def System.db (system : System) : Db := system.shared.db

-- A system with no transaction under way.
def boot (db : Db) (nextId : Nat) (queue : List Nat) : System :=
  ⟨{ server := { db := db }, nextId := nextId, queue := queue }, []⟩

-- A small office to run the system in: one tenant with one durable agent.
def office : Db :=
  (((∅ : Db).insert (.modelPolicy 0) ⟨1, "default"⟩).insert (.agent 1) ⟨1, "AGT-1", "Agent", .active, some 2⟩).insert
    (.agentVersion 2) ⟨1, 1, customDurable, 0⟩

def member : User := ⟨7, 1⟩

def turns (pid count : Nat) : List Action := List.replicate count (.step pid {})

end AiWorld.Api
