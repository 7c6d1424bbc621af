import AiWorld.Api.Runtime

set_option autoImplicit false

namespace AiWorld.Api

open AiWorld.Database

def terminalTask (status : TaskStatus) : Bool := status = .completed ∨ status = .failed ∨ status = .cancelled

def closeTarget : AgentRuntimeCloseOutcome → TaskStatus
  | .completed => .completed
  | .failed => .failed

def closeValue : AgentRuntimeCloseOutcome → AgentRuntimeOutcome
  | .completed => .completed
  | .failed => .failed

def closingEvent (target : TaskStatus) : EventType := if target = .completed then .taskCompleted else .taskFailed

-- The hop to `running` that the transition table asks for, if any.
def hopToRunning (tenantId : Nat) (missionId : Option Nat) (target : TaskStatus) (task : Loaded Task) :
    Route (Loaded Task) :=
  match task.2.status, target with
  | .queued, _ => do
      validated (validateTaskTransition .queued .running)
      update (.task task.1) task.2 (setTaskStatus .running)
      publish .taskStarted tenantId missionId (some task.1) (some task.2.assignedAgentId)
      return (task.1, setTaskStatus .running task.2)
  | .waiting, .completed => do
      validated (validateTaskTransition .waiting .running)
      update (.task task.1) task.2 (setTaskStatus .running)
      return (task.1, setTaskStatus .running task.2)
  | _, _ => return task

def advanceOpenTask (tenantId : Nat) (missionId : Option Nat) (target : TaskStatus) (task : Loaded Task) : Route Unit := do
  let task ← hopToRunning tenantId missionId target task
  validated (validateTaskTransition task.2.status target)
  update (.task task.1) task.2 (setTaskStatus target)
  publish (closingEvent target) tenantId missionId (some task.1) (some task.2.assignedAgentId)

def advanceTask (tenantId : Nat) (missionId : Option Nat) (target : TaskStatus) : Option (Loaded Task) → Route Unit
  | none => return ()
  | some task => if terminalTask task.2.status then return () else advanceOpenTask tenantId missionId target task

def loadTask : Option Nat → Route (Option (Loaded Task))
  | none => return none
  | some taskId => select (fun db => (db.task taskId).map (Prod.mk taskId))

def getExistingClosure (runtimeSessionId : Nat) (db : Db) : Option (Loaded AgentRuntimeClosure) :=
  db.closures.find? (fun closure => closure.2.runtimeSessionId = runtimeSessionId)

structure ClosePayload where
  outcome : AgentRuntimeCloseOutcome
  reasonCode : AgentRuntimeReasonCode
  toolCallCount : Option Nat
deriving DecidableEq, Repr

def newClosure (tenantId runtimeSessionId : Nat) (taskId : Option Nat) (closedBy : AgentRuntimeClosedBy)
    (payload : ClosePayload) (closedAt : Nat) : AgentRuntimeClosure :=
  ⟨tenantId, runtimeSessionId, taskId, closedBy, payload.outcome, payload.reasonCode, payload.toolCallCount, none,
    closedAt, none⟩

def endColumns (time : Nat) (outcome : AgentRuntimeOutcome) (session : AgentRuntimeSession) : AgentRuntimeSession :=
  { session with endedAt := some time, outcome := some outcome }

def lateColumns (time : Nat) (closure : AgentRuntimeClosure) : AgentRuntimeClosure :=
  { closure with lateCloseAt := some time }

def lateClose (closedBy : AgentRuntimeClosedBy) (existing : Loaded AgentRuntimeClosure) : Route Unit :=
  if closedBy = .hook ∧ existing.2.closedBy = .reaper ∧ existing.2.lateCloseAt = none then do
    let time ← now
    update (.closure existing.1) existing.2 (lateColumns time)
  else return ()

def endRow (runtimeSessionId : Nat) (session : AgentRuntimeSession) (outcome : AgentRuntimeOutcome) : Route Unit := do
  let time ← now
  update (.session runtimeSessionId) session (endColumns time outcome)

def closeOpen (tenantId runtimeSessionId : Nat) (session : AgentRuntimeSession) (closedBy : AgentRuntimeClosedBy)
    (payload : ClosePayload) : Route (Option Nat × Bool) := do
  let task ← loadTask session.taskId
  let id ← newId
  let time ← now
  let inserted ← tryInsert (.closure id) (newClosure tenantId runtimeSessionId session.taskId closedBy payload time)
  if inserted then do
    advanceTask tenantId session.missionId (closeTarget payload.outcome) task
    endRow runtimeSessionId session (closeValue payload.outcome)
    return (some id, true)
  else do
    let existing ← select (getExistingClosure runtimeSessionId)
    match existing with
    | none => throw .integrity
    | some existing => return (some existing.1, false)

def closeLocked (tenantId runtimeSessionId : Nat) (session : AgentRuntimeSession) (closedBy : AgentRuntimeClosedBy)
    (payload : ClosePayload) : Route (Option Nat × Bool) := do
  let existing ← select (getExistingClosure runtimeSessionId)
  match existing with
  | some existing => do
      lateClose closedBy existing
      return (some existing.1, false)
  | none => closeOpen tenantId runtimeSessionId session closedBy payload

def closeTaskBody (tenantId runtimeSessionId : Nat) (closedBy : AgentRuntimeClosedBy) (payload : ClosePayload)
    (loaded : Option AgentRuntimeSession) : Route (Option Nat × Bool) := do
  let session ← selectForUpdate (.session runtimeSessionId) (fun session => session.tenantId = tenantId) loaded
  match session with
  | none => return (none, false)
  | some session => closeLocked tenantId runtimeSessionId session closedBy payload

-- `(closure, is_new)`, with the call noted for the history.
def closeTask (tenantId runtimeSessionId : Nat) (closedBy : AgentRuntimeClosedBy) (payload : ClosePayload)
    (loaded : Option AgentRuntimeSession) : Route (Option Nat × Bool) := do
  let before ← written
  let result ← closeTaskBody tenantId runtimeSessionId closedBy payload loaded
  let after ← written
  note ⟨runtimeSessionId, closedBy, result.2, after.drop before.length⟩
  return result

def sessionEndPayload : ClosePayload := ⟨.failed, .sessionEnded, none⟩

def closeSubagents (tenantId : Nat) : List Nat → Route Unit
  | [] => return ()
  | runtimeSessionId :: rest => do
      let _ ← closeTask tenantId runtimeSessionId .sessionEnd sessionEndPayload none
      closeSubagents tenantId rest

def openSubagents (parentId : Nat) (db : Db) : List Nat :=
  (db.sessions.filter (fun session => session.2.parentSessionId = some parentId ∧ session.2.endedAt = none)).map Prod.fst

def ignoreInvalidTransition (mission : Loaded Mission) : Failure → Route (Loaded Mission)
  | .invalidTransition _ => return mission
  | failure => throw failure

def completeMission (mission : Loaded Mission) : Route Unit :=
  if mission.2.status = .running then do
    let _ ← tryCatch (markMissionStatus mission .completed) (ignoreInvalidTransition mission)
    return ()
  else return ()

def completeSessionMission : Option Nat → Route Unit
  | none => return ()
  | some missionId => do
      let mission ← select (fun db => db.mission missionId)
      match mission with
      | none => return ()
      | some mission => completeMission (missionId, mission)

def endOpenSession (tenantId runtimeSessionId : Nat) (session : AgentRuntimeSession) (outcome : AgentRuntimeOutcome) :
    Route Unit := do
  let parentTask ← loadTask session.taskId
  advanceTask tenantId session.missionId .completed parentTask
  let subagents ← select (openSubagents runtimeSessionId)
  closeSubagents tenantId subagents
  completeSessionMission session.missionId
  endRow runtimeSessionId session outcome

-- `loaded` is the instance the caller's session already holds.
def endSession (tenantId runtimeSessionId : Nat) (outcome : AgentRuntimeOutcome) (loaded : Option AgentRuntimeSession) :
    Route Unit := do
  let session ← selectForUpdate (.session runtimeSessionId) (fun session => session.tenantId = tenantId) loaded
  match session with
  | none => return ()
  | some session =>
      match session.endedAt with
      | some _ => return ()
      | none => endOpenSession tenantId runtimeSessionId session outcome

def sessionOr404 (runtimeSessionId tenantId : Nat) : Route AgentRuntimeSession := do
  let session ← getTenantScoped (fun db => db.session runtimeSessionId) AgentRuntimeSession.tenantId tenantId
  match session with
  | none => throw (.http 404 "Runtime session not found.")
  | some session => return session

def updateSession (user : User) (runtimeSessionId : Nat) (outcome : Option AgentRuntimeOutcome) : Route Reply := do
  let session ← sessionOr404 runtimeSessionId user.tenantId
  match outcome with
  | none => do
      let time ← now
      update (.session runtimeSessionId) session (fun session => { session with lastHeartbeatAt := some time })
      return .ok runtimeSessionId
  | some outcome =>
      match session.kind with
      | .subagent => throw (.http 409 ("This is a subagent session; use POST .../subagents/\x7bref\x7d/close or " ++
          "POST .../sessions/\x7bid\x7d/close instead."))
      | .session => do
          endSession user.tenantId runtimeSessionId outcome (some session)
          return .ok runtimeSessionId

def closeSubagent (user : User) (session : Loaded AgentRuntimeSession) (payload : ClosePayload) : Route Reply := do
  let result ← closeTask user.tenantId session.1 .hook payload (some session.2)
  match result.1 with
  | none => throw (.http 404 "Runtime session not found.")
  | some closureId => return .ok closureId

def closeResolved (user : User) (session : Option (Loaded AgentRuntimeSession)) (payload : ClosePayload) : Route Reply :=
  match session with
  | none => throw (.http 404 "Runtime session not found.")
  | some session =>
      match session.2.kind with
      | .session => throw (.http 409
          "This is a session, not a subagent; use PATCH .../sessions/\x7bid\x7d to end it.")
      | .subagent => closeSubagent user session payload

def closeSubagentByRef (user : User) (ref : String) (payload : ClosePayload) : Route Reply := do
  let session ← select (fun db => db.sessions.find? (fun session =>
    session.2.tenantId = user.tenantId ∧ session.2.externalInstanceRef = some ref))
  closeResolved user session payload

def closeSubagentById (user : User) (runtimeSessionId : Nat) (payload : ClosePayload) : Route Reply := do
  let session ← getTenantScoped (fun db => db.session runtimeSessionId) AgentRuntimeSession.tenantId user.tenantId
  closeResolved user (session.map (Prod.mk runtimeSessionId)) payload

-- The joins of the reaper's queries up to `agent_versions`.
def externallyRun (db : Db) (session : AgentRuntimeSession) : Bool :=
  match ((((session.taskId.bind db.task).map Task.assignedAgentId).bind db.agent).bind Agent.activeVersionId).bind
      db.agentVersion with
  | some version => version.runtimeAdapter ≠ customDurable
  | none => false

def lastActivity (session : AgentRuntimeSession) : Nat := session.lastHeartbeatAt.getD session.startedAt

def parentActivity (db : Db) (session : AgentRuntimeSession) : Option Nat :=
  (session.parentSessionId.bind db.session).map (fun parent => max (lastActivity parent) parent.startedAt)

def staleSubagent (db : Db) (cutoff : Nat) (session : AgentRuntimeSession) : Bool :=
  session.kind = .subagent ∧ session.endedAt = none ∧ externallyRun db session ∧
    (parentActivity db session).any (fun activity => max (lastActivity session) activity < cutoff)

def staleSession (db : Db) (cutoff : Nat) (session : Loaded AgentRuntimeSession) : Bool :=
  session.2.kind = .session ∧ session.2.endedAt = none ∧ externallyRun db session.2 ∧
    lastActivity session.2 < cutoff ∧ openSubagents session.1 db = []

def sessionRows (rows : List (Sigma Row)) : List (Loaded AgentRuntimeSession) :=
  rows.filterMap (fun | ⟨.session id, row⟩ => some (id, row) | _ => none)

def reapPayload : ClosePayload := ⟨.failed, .reapedStale, none⟩

def reapSubagents : List (Loaded AgentRuntimeSession) → Nat → Route Nat
  | [], reaped => return reaped
  | session :: rest, reaped => do
      let result ← closeTask session.2.tenantId session.1 .reaper reapPayload none
      reapSubagents rest (if result.2 then reaped + 1 else reaped)

def reapSessions : List (Loaded AgentRuntimeSession) → Route Unit
  | [] => return ()
  | session :: rest => do
      endSession session.2.tenantId session.1 .abandoned none
      reapSessions rest

def givenOrNow : Option Nat → Route Nat
  | some time => return time
  | none => now

-- The number of subagents it has closed.
def reapStaleRuntimeSessions (reapWindow batchSize : Nat) (time : Option Nat) : Route Nat := do
  let time ← givenOrNow time
  let subagents ← selectSkipLocked (fun db =>
    (db.sessions.filter (fun session => staleSubagent db (time - reapWindow) session.2)).map
      (fun session => Key.session session.1)) batchSize
  let reaped ← reapSubagents (sessionRows subagents) 0
  let sessions ← selectSkipLocked (fun db =>
    (db.sessions.filter (fun session => staleSession db (time - reapWindow) session)).map
      (fun session => Key.session session.1)) batchSize
  reapSessions (sessionRows sessions)
  return reaped

def runAgentRuntimeReapSweep (reapWindow batchSize : Nat) : Route Reply := do
  let _ ← reapStaleRuntimeSessions reapWindow batchSize none
  return .idle

end AiWorld.Api
