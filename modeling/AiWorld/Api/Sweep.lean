import AiWorld.Api.Closure

set_option autoImplicit false

namespace AiWorld.Api

open AiWorld.Database

-- What closing makes of a task that some other path may have finished.
def settle (target : TaskStatus) (task : Task) : Task := if terminalTask task.status then task else setTaskStatus target task

theorem settle_settle {first : TaskStatus} (second : TaskStatus) (task : Task) (terminal : terminalTask first = true) :
    settle second (settle first task) = settle first task := by
  unfold settle
  by_cases final : terminalTask task.status = true
  · simp [final]
  · simp [final, setTaskStatus, terminal]

def holdsTask (sessions : List (Loaded AgentRuntimeSession)) (taskId : Nat) : Bool :=
  sessions.any (fun session => session.2.taskId = some taskId)

def holdsMission (sessions : List (Loaded AgentRuntimeSession)) (missionId : Nat) : Bool :=
  sessions.any (fun session => session.2.missionId = some missionId)

-- What a sweep makes of a task and of a mission, given the subagents it has closed and
-- the sessions it has ended.
def sweptTask (reaped ended : List (Loaded AgentRuntimeSession)) (taskId : Nat) (task : Task) : Task :=
  if holdsTask reaped taskId then settle .failed task else if holdsTask ended taskId then settle .completed task else task

def sweptMission (ended : List (Loaded AgentRuntimeSession)) (missionId : Nat) (mission : Mission) : Mission :=
  if holdsMission ended missionId ∧ mission.status = .running then setMissionStatus .completed mission else mission

-- The tables a sweep writes.
def swept : Key → Bool
  | .session _ | .task _ | .mission _ | .closure _ | .event _ => true
  | _ => false

structure Swept (start : Db) (reaped ended : List (Loaded AgentRuntimeSession)) (db : Db) : Prop where
  closed : ∀ session ∈ reaped, ∃ time, db.session session.1 = some (endColumns time .failed session.2)
  recorded : ∀ session ∈ reaped, ∃ id time,
    db.closure id = some (newClosure session.2.tenantId session.1 session.2.taskId .reaper reapPayload time)
  abandoned : ∀ session ∈ ended, ∃ time, db.session session.1 = some (endColumns time .abandoned session.2)
  spared : ∀ id, id ∉ reaped.map Prod.fst → id ∉ ended.map Prod.fst → db.session id = start.session id
  tasks : ∀ id, db.task id = (start.task id).map (sweptTask reaped ended id)
  missions : ∀ id, db.mission id = (start.mission id).map (sweptMission ended id)
  keptClosures : ∀ id row, start.closure id = some row → db.closure id = some row
  closures : ∀ id row, db.closure id = some row → start.closure id = some row ∨ row.runtimeSessionId ∈ reaped.map Prod.fst
  keptEvents : ∀ id row, start.event id = some row → db.event id = some row
  events : ∀ id row, db.event id = some row → start.event id = some row ∨
    ∃ taskId, row.taskId = some taskId ∧ (holdsTask reaped taskId || holdsTask ended taskId) = true
  rest : ∀ key, swept key = false → db.lookup key = start.lookup key

theorem swept_start (db : Db) : Swept db [] [] db where
  closed := fun _ member => nomatch member
  recorded := fun _ member => nomatch member
  abandoned := fun _ member => nomatch member
  spared := fun _ _ _ => rfl
  tasks := fun id => by cases db.task id <;> simp [sweptTask, holdsTask]
  missions := fun id => by cases db.mission id <;> simp [sweptMission, holdsMission]
  keptClosures := fun _ _ stored => stored
  closures := fun _ _ stored => .inl stored
  keptEvents := fun _ _ stored => stored
  events := fun _ _ stored => .inl stored
  rest := fun _ _ => rfl

-- One session ended with its task, and what it makes of the missions.
structure Ending (before after : Db) (session : Loaded AgentRuntimeSession) (outcome : AgentRuntimeOutcome) (target : TaskStatus)
    (change : Nat → Mission → Mission) : Prop where
  own : ∃ time, after.session session.1 = some (endColumns time outcome session.2)
  sessions : ∀ id, id ≠ session.1 → after.session id = before.session id
  tasks : ∀ id, after.task id = (before.task id).map (fun task => if session.2.taskId = some id then settle target task else task)
  missions : ∀ id, after.mission id = (before.mission id).map (change id)
  keptEvents : ∀ id row, before.event id = some row → after.event id = some row
  events : ∀ id row, after.event id = some row → before.event id = some row ∨
    ∃ taskId, row.taskId = some taskId ∧ session.2.taskId = some taskId
  rest : ∀ key, swept key = false → after.lookup key = before.lookup key

section
variable {start db after : Db} {reaped ended : List (Loaded AgentRuntimeSession)} {session : Loaded AgentRuntimeSession}

theorem holds_task_append (sessions : List (Loaded AgentRuntimeSession)) (session : Loaded AgentRuntimeSession) (taskId : Nat) :
    holdsTask (sessions ++ [session]) taskId = (holdsTask sessions taskId || decide (session.2.taskId = some taskId)) := by
  simp [holdsTask]

theorem swept_task_closed (taskId : Nat) (task : Task) :
    (if session.2.taskId = some taskId then settle .failed (sweptTask reaped [] taskId task) else sweptTask reaped [] taskId task) =
      sweptTask (reaped ++ [session]) [] taskId task := by
  have twice : settle .failed (settle .failed task) = settle .failed task := settle_settle .failed task rfl
  simp only [sweptTask, holds_task_append]
  by_cases own : session.2.taskId = some taskId <;> cases holdsTask reaped taskId <;> simp [own, holdsTask, twice]

theorem swept_task_ended (taskId : Nat) (task : Task) :
    (if session.2.taskId = some taskId then settle .completed (sweptTask reaped ended taskId task)
      else sweptTask reaped ended taskId task) = sweptTask reaped (ended ++ [session]) taskId task := by
  have failed : settle .completed (settle .failed task) = settle .failed task := settle_settle .completed task rfl
  have twice : settle .completed (settle .completed task) = settle .completed task := settle_settle .completed task rfl
  simp only [sweptTask, holds_task_append]
  by_cases own : session.2.taskId = some taskId <;> cases holdsTask reaped taskId <;> cases holdsTask ended taskId <;>
    simp [own, failed, twice]

def completedBy (session : AgentRuntimeSession) (missionId : Nat) (mission : Mission) : Mission :=
  if session.missionId = some missionId ∧ mission.status = .running then setMissionStatus .completed mission else mission

theorem swept_mission_ended (missionId : Nat) (mission : Mission) :
    completedBy session.2 missionId (sweptMission ended missionId mission) = sweptMission (ended ++ [session]) missionId mission := by
  have extends_ : holdsMission (ended ++ [session]) missionId =
      (holdsMission ended missionId || decide (session.2.missionId = some missionId)) := by simp [holdsMission]
  simp only [completedBy, sweptMission, extends_]
  by_cases own : session.2.missionId = some missionId <;> by_cases held : holdsMission ended missionId = true <;>
    by_cases running : mission.status = .running <;> simp [own, held, running, setMissionStatus]


theorem swept_close {closureId started : Nat} (swept : Swept start reaped [] db) (absent : session.1 ∉ reaped.map Prod.fst)
    (ending : Ending db after session .failed .failed (fun _ mission => mission)) (fresh : db.closure closureId = none)
    (recorded : after.closure closureId =
      some (newClosure session.2.tenantId session.1 session.2.taskId .reaper reapPayload started))
    (elsewhere : ∀ id, id ≠ closureId → after.closure id = db.closure id) :
    Swept start (reaped ++ [session]) [] after where
  closed := by
    intro other member
    rcases List.mem_append.mp member with old | now
    · obtain ⟨time, closed⟩ := swept.closed other old
      have different : other.1 ≠ session.1 := fun same => absent (same ▸ List.mem_map_of_mem old)
      exact ⟨time, (ending.sessions other.1 different).trans closed⟩
    · rw [List.mem_singleton.mp now]
      exact ending.own
  recorded := by
    intro other member
    rcases List.mem_append.mp member with old | now
    · obtain ⟨id, time, stored⟩ := swept.recorded other old
      have different : id ≠ closureId := by
        rintro rfl
        cases fresh.symm.trans stored
      exact ⟨id, time, (elsewhere id different).trans stored⟩
    · rw [List.mem_singleton.mp now]
      exact ⟨closureId, started, recorded⟩
  abandoned := fun _ member => nomatch member
  spared := by
    intro id outside _
    have split : id ∉ reaped.map Prod.fst ∧ id ≠ session.1 := by simpa [not_or] using outside
    exact (ending.sessions id split.2).trans (swept.spared id split.1 (fun member => nomatch member))
  tasks := by
    intro id
    rw [ending.tasks id, swept.tasks id, Option.map_map]
    exact congrArg (Option.map · (start.task id)) (funext (swept_task_closed id))
  missions := by
    intro id
    rw [ending.missions id, swept.missions id, Option.map_map]
    rfl
  keptClosures := by
    intro id row stored
    have before := swept.keptClosures id row stored
    have different : id ≠ closureId := by
      rintro rfl
      cases fresh.symm.trans before
    exact (elsewhere id different).trans before
  closures := by
    intro id row stored
    by_cases same : id = closureId
    · rw [same, recorded] at stored
      cases stored
      exact .inr (by simp [newClosure])
    · rw [elsewhere id same] at stored
      exact (swept.closures id row stored).imp (fun old => old) (fun old => by simp [old])
  keptEvents := fun id row stored => ending.keptEvents id row (swept.keptEvents id row stored)
  events := by
    intro id row stored
    rcases ending.events id row stored with old | ⟨taskId, named, own⟩
    · refine (swept.events id row old).imp (fun old => old) ?_
      rintro ⟨taskId, named, held⟩
      refine ⟨taskId, named, ?_⟩
      rw [holds_task_append]
      simp only [Bool.or_eq_true] at held ⊢
      exact held.imp .inl (fun held => held)
    · exact .inr ⟨taskId, named, by simp [holds_task_append, own]⟩
  rest := fun key untouched => (ending.rest key untouched).trans (swept.rest key untouched)

theorem swept_end (swept : Swept start reaped ended db) (live : session.1 ∉ reaped.map Prod.fst)
    (absent : session.1 ∉ ended.map Prod.fst) (ending : Ending db after session .abandoned .completed (completedBy session.2))
    (closures : ∀ id, after.closure id = db.closure id) : Swept start reaped (ended ++ [session]) after where
  closed := by
    intro other member
    obtain ⟨time, closed⟩ := swept.closed other member
    have different : other.1 ≠ session.1 := fun same => live (same ▸ List.mem_map_of_mem member)
    exact ⟨time, (ending.sessions other.1 different).trans closed⟩
  recorded := by
    intro other member
    obtain ⟨id, time, stored⟩ := swept.recorded other member
    exact ⟨id, time, (closures id).trans stored⟩
  abandoned := by
    intro other member
    rcases List.mem_append.mp member with old | now
    · obtain ⟨time, closed⟩ := swept.abandoned other old
      have different : other.1 ≠ session.1 := fun same => absent (same ▸ List.mem_map_of_mem old)
      exact ⟨time, (ending.sessions other.1 different).trans closed⟩
    · rw [List.mem_singleton.mp now]
      exact ending.own
  spared := by
    intro id outside apart
    have split : id ∉ ended.map Prod.fst ∧ id ≠ session.1 := by simpa [not_or] using apart
    exact (ending.sessions id split.2).trans (swept.spared id outside split.1)
  tasks := by
    intro id
    rw [ending.tasks id, swept.tasks id, Option.map_map]
    exact congrArg (Option.map · (start.task id)) (funext (swept_task_ended id))
  missions := by
    intro id
    rw [ending.missions id, swept.missions id, Option.map_map]
    exact congrArg (Option.map · (start.mission id)) (funext (swept_mission_ended id))
  keptClosures := fun id row stored => (closures id).trans (swept.keptClosures id row stored)
  closures := fun id row stored => swept.closures id row ((closures id).symm.trans stored)
  keptEvents := fun id row stored => ending.keptEvents id row (swept.keptEvents id row stored)
  events := by
    intro id row stored
    rcases ending.events id row stored with old | ⟨taskId, named, own⟩
    · refine (swept.events id row old).imp (fun old => old) ?_
      rintro ⟨taskId, named, held⟩
      refine ⟨taskId, named, ?_⟩
      rw [holds_task_append]
      simp only [Bool.or_eq_true] at held ⊢
      exact held.imp (fun held => held) .inl
    · exact .inr ⟨taskId, named, by simp [holds_task_append, own]⟩
  rest := fun key untouched => (ending.rest key untouched).trans (swept.rest key untouched)

end

end AiWorld.Api
