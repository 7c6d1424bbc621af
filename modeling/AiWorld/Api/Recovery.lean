import AiWorld.Api.Alone
import AiWorld.Api.MissionRuns

set_option autoImplicit false

namespace AiWorld.Api

open AiWorld.Concurrency AiWorld.Database

-- No transaction is under way, and the ids still to be drawn name no event.
structure Resting (s : Sys) : Prop where
  staged : ∀ pid, s.server.staged pid = []
  rows : ∀ key, s.server.rowLock key = none
  keys : ∀ key, s.server.keyLock key = none
  entries : ∀ entry, s.server.entryLock entry = none
  events : ∀ id, s.nextId ≤ id → s.db.event id = none

theorem resting_alone (s : Sys) (resting : Resting s) (pid : Nat) : Alone pid s.db s.db s.nextId s where
  rows := fun key => .inl (resting.rows key)
  keys := fun key => .inl (resting.keys key)
  entries := fun entry => .inl (resting.entries entry)
  view := by simp [Server.view, resting.staged pid, Sys.db]
  db := rfl
  nextId := rfl

theorem mission_fails_iff (status : MissionStatus) : validateMissionTransition status .failed = .ok () ↔ status = .running := by
  cases status <;> decide

section
variable {pid taskId : Nat} {task : Task} {mission : Mission} {s : Sys} {raised : Failure → Sys → Prop}

-- The two flushes and the two events of a task that is failed at the cap.
theorem fails_at_cap (alone : Alone pid s.db s.db s.nextId s) (events : ∀ id, s.nextId ≤ id → s.db.event id = none)
    (stored : s.db.task taskId = some task) (missionStored : s.db.mission task.missionId = some mission)
    (agentStored : (s.db.agent task.assignedAgentId).isSome = true) :
    Solo pid
      (fun _ t => ∃ seen nextId, Alone pid seen s.db nextId t ∧ seen.task taskId = some (setTaskStatus .failed task)) raised
      (failedAfterMaxRequeues (taskId, task) (task.missionId, mission)) s := by
  let failed : Db := s.db.insert (.task taskId) (setTaskStatus .failed task)
  let both : Db := failed.insert (.mission task.missionId) (setMissionStatus .failed mission)
  have bothMission : (both.mission task.missionId).isSome = true := by simp [both, Db.mission]
  have bothTask : both.task taskId = some (setTaskStatus .failed task) := by
    simp [both, failed, Db.task, AList.lookup_insert_ne]
  have bothAgent : (both.agent task.assignedAgentId).isSome = true := by
    simpa [both, failed, Db.agent, AList.lookup_insert_ne] using agentStored
  have bothEvents : ∀ id, s.nextId ≤ id → both.event id = none := fun id beyond => by
    simpa [both, failed, Db.event, AList.lookup_insert_ne] using events id beyond
  refine finishes_bind _ (alone_update (.task taskId) task alone stored) (fun _ t first => ?_)
  refine finishes_bind _ (alone_update (.mission task.missionId) mission first
    (by simpa [Db.mission, AList.lookup_insert_ne] using missionStored)) (fun _ t second => ?_)
  refine finishes_bind _ (alone_publish second (bothEvents s.nextId le_rfl) (by rintro _ ⟨⟩; exact bothMission)
    (by rw [bothTask]; rfl) bothAgent) (fun _ t third => ?_)
  refine finishes_weaken (alone_publish third ?_ ?_ ?_ ?_) (fun _ t last => ⟨_, _, last, ?_⟩)
    (fun _ _ holds => holds)
  · simpa [Db.event, AList.lookup_insert_ne] using events (s.nextId + 1) (by omega)
  · rintro _ ⟨⟩
    simp [Db.mission, AList.lookup_insert_ne]
  · simp [Db.task, AList.lookup_insert_ne]
  · simpa [Db.agent, AList.lookup_insert_ne] using agentStored
  · simp [Db.task, AList.lookup_insert_ne]

theorem refused_at_cap (alone : Alone pid s.db s.db s.nextId s) (refusal : mission.status ≠ .running)
    (missionStored : s.db.mission task.missionId = some mission) :
    Solo pid (fun _ t => Alone pid s.db s.db s.nextId t) raised (failAfterMaxRequeues (taskId, task)) s := by
  refine finishes_bind _ (alone_select _ alone) (fun found t holds => ?_)
  obtain ⟨rfl, still⟩ := holds
  simp only [missionStored]
  cases checked : validateMissionTransition mission.status .failed with
  | ok value => exact absurd ((mission_fails_iff _).mp checked) refusal
  | error error => exact finishes_pure _ t still

theorem failed_at_cap (alone : Alone pid s.db s.db s.nextId s) (events : ∀ id, s.nextId ≤ id → s.db.event id = none)
    (stored : s.db.task taskId = some task) (missionStored : s.db.mission task.missionId = some mission)
    (agentStored : (s.db.agent task.assignedAgentId).isSome = true) (running : mission.status = .running) :
    Solo pid
      (fun _ t => ∃ seen nextId, Alone pid seen s.db nextId t ∧ seen.task taskId = some (setTaskStatus .failed task)) raised
      (failAfterMaxRequeues (taskId, task)) s := by
  refine finishes_bind _ (alone_select _ alone) (fun found t holds => ?_)
  obtain ⟨rfl, still⟩ := holds
  simp only [missionStored, (mission_fails_iff _).mpr running]
  have same : t.db = s.db ∧ t.nextId = s.nextId := ⟨still.db, still.nextId⟩
  rw [← same.1, ← same.2] at still events
  rw [← same.1] at stored missionStored agentStored ⊢
  exact fails_at_cap still events stored missionStored agentStored

end

-- `register_recovery` on a running task at the cap, with the sweep's commit: the task
-- is failed if and only if its mission is running.
theorem recovery_at_cap_fails_iff_mission_running (s : Sys) (resting : Resting s) (pid taskId : Nat) (task : Task)
    (mission : Mission) (stored : s.db.task taskId = some task) (running : task.status = .running)
    (capped : maxAutoRequeues ≤ task.retryCount) (missionStored : s.db.mission task.missionId = some mission)
    (agentStored : (s.db.agent task.assignedAgentId).isSome = true) :
    Finishes machine pid anyChoice
      (fun requeue t => requeue = false ∧ ∃ row, t.db.task taskId = some row ∧
        (row.status = .failed ↔ mission.status = .running))
      (fun _ _ => False) (getDbSession (registerRecovery taskId)) s := by
  have alone := resting_alone s resting pid
  refine finishes_catch (fun _ _ => False) (finishes_bind (fun requeue t => requeue = false ∧
    ∃ seen nextId, Alone pid seen s.db nextId t ∧ ∃ row, seen.task taskId = some row ∧
      (row.status = .failed ↔ mission.status = .running)) ?_ (fun requeue t holds => ?_)) (fun _ _ impossible => impossible.elim)
  · refine finishes_bind _ (alone_select _ alone) (fun found t holds => ?_)
    obtain ⟨rfl, still⟩ := holds
    have picked : (s.db.task taskId).filter (fun task => task.status = .running) = some task := by
      simp [stored, running]
    simp only [picked, ge_iff_le, capped, if_true]
    have same : t.db = s.db ∧ t.nextId = s.nextId := ⟨still.db, still.nextId⟩
    by_cases open_ : mission.status = .running
    · refine finishes_bind (fun _ u => ∃ seen nextId, Alone pid seen s.db nextId u ∧
        seen.task taskId = some (setTaskStatus .failed task)) ?_ (fun _ u holds => ?_)
      · have events := resting.events
        rw [← same.1, ← same.2] at still events
        rw [← same.1] at stored missionStored agentStored ⊢
        exact failed_at_cap still events stored missionStored agentStored open_
      · obtain ⟨seen, nextId, after, failed⟩ := holds
        exact finishes_pure _ u ⟨rfl, seen, nextId, after, _, failed, by simp [setTaskStatus, open_]⟩
    · refine finishes_bind (fun _ u => Alone pid s.db s.db s.nextId u) ?_ (fun _ u after =>
        finishes_pure _ u ⟨rfl, s.db, s.nextId, after, task, stored, by simp [running, open_]⟩)
      rw [← same.1, ← same.2] at still ⊢
      exact refused_at_cap still open_ (by rw [same.1]; exact missionStored)
  · obtain ⟨rfl, seen, nextId, after, row, found, decided⟩ := holds
    refine finishes_bind _ (alone_commit after) (fun _ u committed => finishes_pure _ u ⟨rfl, row, ?_, decided⟩)
    rw [committed.db]
    exact found

-- A running task of a running mission at the cap.
def capped : Db :=
  (office.insert (.mission 3) ⟨1, "MSN-3", some 1, .running⟩).insert (.task 4) ⟨3, 1, .running, 10, "3:task:1", none⟩

theorem capped_task_is_failed :
    Finishes machine 0 anyChoice
      (fun requeue t => requeue = false ∧ ∃ row, t.db.task 4 = some row ∧
        (row.status = .failed ↔ MissionStatus.running = .running))
      (fun _ _ => False) (getDbSession (registerRecovery 4)) (boot capped 10 []).shared :=
  recovery_at_cap_fails_iff_mission_running (boot capped 10 []).shared
    ⟨fun _ => rfl, fun _ => rfl, fun _ => rfl, fun _ => rfl, fun _ _ => rfl⟩ 0 4 ⟨3, 1, .running, 10, "3:task:1", none⟩ ⟨1, "MSN-3", some 1, .running⟩ rfl rfl (by decide) rfl rfl

def sweep (pid count : Nat) : List Action := .arrive .orphanSweep :: turns pid count

-- The model call raises, so the attempt leaves the task running; the user cancels the
-- mission; ten sweeps count the orphan.
def orphaned : List Action :=
  launched ++ .arrive .workerTurn :: List.replicate 24 (.step 2 { outcome := .raised 0 }) ++
    .arrive (.cancelMission member 11) :: turns 3 6 ++ (List.range 10).flatMap (fun index => sweep (4 + index) 7)

def atCap (system : System) : Bool :=
  (system.db.task 13).any (fun row =>
    row.status = .running ∧ maxAutoRequeues ≤ row.retryCount ∧ durableTask system.db row ∧ system.shared.lease 13 = none)

def sweepIsOver (pid : Nat) (system : System) : Bool :=
  match system.procs[pid]? with
  | some (.orphanSweep, .ret (.ok .idle)) => true
  | _ => false

-- The next sweep finds the transition of the cancelled mission refused and leaves the
-- task as it is, and so will every later one.
theorem orphan_of_cancelled_mission_stays_running :
    ∃ system, Runs step Anything (boot office 10 []) orphaned system ∧ atCap system = true ∧
      ∃ later, Runs step Anything system (sweep 14 5) later ∧ sweepIsOver 14 later = true ∧ atCap later = true := by
  obtain ⟨system, run, shown⟩ := runs_exhibit step
    (fun system => atCap system &&
      (runLabels step system (sweep 14 5)).any (fun later => sweepIsOver 14 later && atCap later))
    (boot office 10 []) orphaned (by decide +kernel)
  have both : atCap system = true ∧
      (runLabels step system (sweep 14 5)).any (fun later => sweepIsOver 14 later && atCap later) = true := by
    simpa using shown
  obtain ⟨later, further, ended⟩ := runs_exhibit step (fun later => sweepIsOver 14 later && atCap later) system (sweep 14 5)
    both.2
  exact ⟨system, run, both.1, later, further, by simpa using ended⟩

end AiWorld.Api
