import AiWorld.Api.TaskLifecycle

set_option autoImplicit false

namespace AiWorld.Api

open AiWorld.Concurrency AiWorld.Database ArtifactService

variable {target : MissionStatus} {user : User} {agentId missionId parentId runtimeSessionId sequence taskId tenantId : Nat}
  {projectId : Option Nat} {external : ExternalTask} {persona : PersonaDefinition} {expired : Bool} {result : Option RunResult}
  {eventType : EventType} {ref : String} {payload : SubagentPayload} {task : Loaded Task} {session : AgentRuntimeSession}
  {outcome : AgentRuntimeOutcome} {mission : Loaded Mission} {existing : Option RuntimeCheckpoint}

-- The programs write missions and tasks as their rules allow, leave the pinned columns
-- alone and insert what they may: checked one function at a time, with what a
-- returned value says about the checks that came before it.
def programWrite (powers : Powers) (stmt : Stmt) : Prop :=
  missionWrite powers.worker stmt ∧ pinsColumns stmt ∧ inScope powers stmt ∧ taskWrite powers.worker stmt

abbrev Writes (powers : Powers) {α : Type} (post : α → Prop) (program : Route α) : Prop :=
  Issues (programWrite powers) post program

-- For a statement that neither changes a row nor inserts one with references inside a
-- tenant.
theorem plain : True ∧ True ∧ True ∧ True := ⟨trivial, trivial, trivial, trivial⟩

-- For an UPDATE that sets no pinned column.
theorem pinning {pins : Prop} (holds : pins) : True ∧ pins ∧ True ∧ True := ⟨trivial, holds, trivial, trivial⟩

abbrev Fine {α : Type} (_ : α) : Prop := True

abbrev Tame (powers : Powers) {α : Type} (program : Route α) : Prop := Writes powers Fine program

section
variable {powers : Powers} {α : Type}

theorem ask_writes (stmt : Stmt) (fine : programWrite powers stmt) : Tame powers (ask stmt) :=
  issues_ask (S := apiSig) stmt fine

theorem writes_done {value : α} : Tame powers (pure value) := issues_pure trivial

section
variable {β : Type} {post : β → Prop}

theorem writes_then {program : Route α} {follow : α → Route β} (first : Tame powers program)
    (second : ∀ {value}, Writes powers post (follow value)) : Writes powers post (program >>= follow) :=
  issues_bind first (fun _ _ => second)

theorem asks_then {stmt : Stmt} {follow : Ans stmt → Route β} (fine : programWrite powers stmt)
    (second : ∀ {answer}, Writes powers post (follow answer)) : Writes powers post (ask stmt >>= follow) :=
  writes_then (ask_writes stmt fine) second

theorem option_writes {program : Route (Option α)} {follow : Option α → Route β} (first : Tame powers program)
    (absent : Writes powers post (follow none)) (present : ∀ {row}, Writes powers post (follow (some row))) :
    Writes powers post (program >>= follow) := by
  refine issues_bind first (fun found _ => ?_)
  cases found with
  | none => exact absent
  | some row => exact present

theorem branch_writes {program : Route Bool} {follow : Bool → Route β} (first : Tame powers program)
    (yes : Writes powers post (follow true)) (no : Writes powers post (follow false)) : Writes powers post (program >>= follow) := by
  refine issues_bind first (fun answer _ => ?_)
  cases answer with
  | true => exact yes
  | false => exact no

end

theorem select_writes {query : Db → α} : Tame powers (select query) := asks_then plain writes_done

section
variable {β : Type} {post : β → Prop}

theorem selects_then {query : Db → α} {follow : α → Route β} (second : ∀ {value}, Writes powers post (follow value)) :
    Writes powers post (select query >>= follow) := writes_then select_writes second

theorem found_writes {query : Db → Option α} {follow : Option α → Route β} (absent : Writes powers post (follow none))
    (present : ∀ {row}, Writes powers post (follow (some row))) : Writes powers post (select query >>= follow) :=
  option_writes select_writes absent present

end

theorem insert_writes {key : Key} {row : Row key} (may : mayInsert powers key row) : Tame powers (insert key row) :=
  branch_writes (ask_writes _ ⟨trivial, trivial, may, trivial⟩) writes_done issues_throw

variable {missionId taskId agentId : Option Nat} {id : Nat}

theorem publish_reason_writes {reason : Option String} :
    Tame powers (publishReason reason eventType tenantId missionId taskId agentId) :=
  asks_then plain (insert_writes trivial)

theorem publish_writes : Tame powers (publish eventType tenantId missionId taskId agentId) :=
  publish_reason_writes

theorem publishes_then {missionId taskId agentId : Option Nat} {follow : Unit → Route α} {post : α → Prop}
    (second : ∀ {value}, Writes powers post (follow value)) :
    Writes powers post (publish eventType tenantId missionId taskId agentId >>= follow) :=
  writes_then publish_writes second

theorem rollback_writes (rolls : powers.rolls = true) : Tame powers rollback :=
  ask_writes _ ⟨trivial, trivial, rolls, trivial⟩

theorem session_writes (rolls : powers.rolls = true) {body : Route α} (writes : Tame powers body) : Tame powers (getDbSession body) :=
  issues_catch (writes_then writes (asks_then plain writes_done)) (fun _ => writes_then (rollback_writes rolls) issues_throw)

theorem validated_writes {checked : Except InvalidTransition Unit} :
    Writes powers (fun _ => checked = .ok ()) (validated checked) := by
  cases checked with
  | ok value => exact issues_pure rfl
  | error error => exact issues_throw

theorem refused_writes {post : α → Prop} (failure : Failure) : Writes powers post (refused failure) := by
  cases failure <;> exact issues_throw

-- A flush of a task that was loaded in a status with a transition.
theorem task_writes {task : Task} {columns : Task → Task} (pins : ∀ row, Pinned (.task id) row (columns row))
    (unfinished : finalTask task.status = false) : Tame powers (update (.task id) task columns) :=
  ask_writes _ ⟨trivial, pins, trivial, .inr unfinished⟩

theorem flush_writes {mission : Mission} (edge : Edge mission.status target) :
    Tame powers (update (.mission id) mission (setMissionStatus target)) :=
  ask_writes _ ⟨⟨target, fun _ => rfl, .inl edge⟩, fun _ => rfl, trivial, trivial⟩

theorem mark_mission_writes : Tame powers (markMissionStatus mission target) :=
  issues_bind validated_writes (fun _ valid => writes_then (flush_writes (.inl (mission_transition_ok valid))) writes_done)

theorem create_task_writes (free : powers.Free) : Tame powers (createTask mission) := by
  unfold createTask
  cases mission.2.assignedAgentId with
  | none => exact issues_throw
  | some agentId =>
      exact asks_then plain <| branch_writes (ask_writes _ ⟨trivial, trivial, free _ _ trivial, trivial⟩) (asks_then plain writes_done) issues_throw

theorem start_mission_writes (free : powers.Free) : Tame powers (startMission mission) :=
  branch_writes (ask_writes _ ⟨⟨fun _ wanted => wanted, fun _ => rfl⟩, fun _ => rfl, trivial, trivial⟩)
    (selects_then (create_task_writes free)) (found_writes issues_throw writes_done)

theorem create_mission_writes (free : powers.Free) {missionCode : String}
    {assignedAgentId : Option Nat} : Tame powers (createMission tenantId missionCode assignedAgentId) :=
  asks_then plain <| writes_then (insert_writes (free _ _ trivial)) writes_done

end

section
variable {powers : Powers}

theorem resolve_project_writes : Tame powers (resolveProjectLink projectId tenantId) := by
  cases projectId with
  | none => exact writes_done
  | some projectId =>
      refine found_writes issues_throw (fun {project} => ?_)
      cases archived : project.status with
      | active => simpa only [archived] using writes_done
      | archived => simpa only [archived] using issues_throw

theorem mission_or_404_writes : Tame powers (missionOr404 missionId tenantId) := found_writes issues_throw writes_done

theorem refuse_runtime_writes {detail : String} : Tame powers (refuseRuntimeMission missionId detail) :=
  branch_writes select_writes issues_throw writes_done

theorem active_version_writes : Tame powers (activeVersion agentId) := by
  refine issues_bind select_writes (fun agent _ => ?_)
  cases agent.bind Agent.activeVersionId with
  | none => exact writes_done
  | some versionId => exact select_writes

theorem create_mission_route_writes (free : powers.Free) {assignedAgentId : Nat} : Tame powers (createMissionRoute user assignedAgentId projectId) := by
  refine writes_then resolve_project_writes <| asks_then plain <| writes_then (create_mission_writes free) <|
    writes_then (?_ : Tame powers _) <| publishes_then writes_done
  cases projectId with
  | none => exact writes_done
  | some projectId => exact insert_writes (free _ _ trivial)

theorem update_mission_writes (free : powers.Free) : Tame powers (updateMission user missionId projectId) := by
  refine writes_then mission_or_404_writes <| writes_then resolve_project_writes <|
    issues_bind select_writes (fun link _ => writes_then (?_ : Tame powers _) writes_done)
  cases projectId with
  | none =>
      cases link with
      | none => exact writes_done
      | some link => exact ask_writes _ ⟨trivial, fun _ => trivial, trivial, trivial⟩
  | some projectId =>
      cases link with
      | none => exact insert_writes (free _ _ trivial)
      | some link => exact ask_writes _ ⟨trivial, fun _ => trivial, fun _ => free _ _ trivial, trivial⟩

theorem launch_writes {result : StartMissionResult} : Tame powers (launch user result) :=
  publishes_then <| publishes_then <| publishes_then <| asks_then plain <| asks_then plain <|
    option_writes active_version_writes writes_done (issues_ite (fun _ => ask_writes _ plain) (fun _ => writes_done))

theorem start_mission_route_writes (free : powers.Free) : Tame powers (startMissionRoute user missionId) :=
  writes_then mission_or_404_writes <| writes_then refuse_runtime_writes <|
    writes_then (issues_catch (start_mission_writes free) refused_writes) <|
    writes_then (issues_ite (fun _ => launch_writes) (fun _ => writes_done)) writes_done

theorem cancel_mission_writes : Tame powers (cancelMission user missionId) :=
  writes_then mission_or_404_writes <| writes_then refuse_runtime_writes <|
    writes_then (issues_catch mark_mission_writes refused_writes) <| publishes_then writes_done

theorem task_or_404_writes : Tame powers (taskOr404 taskId tenantId) := found_writes issues_throw writes_done

theorem retry_task_writes : Tame powers (retryTask user taskId) := by
  refine writes_then task_or_404_writes <| issues_bind active_version_writes (fun version _ => writes_then (?_ : Tame powers _) <|
    issues_bind (issues_catch validated_writes refused_writes) (fun _ valid =>
      writes_then (task_writes (fun _ => rfl) (transition_open valid)) <| asks_then plain writes_done))
  cases version with
  | none => exact issues_throw
  | some version => exact issues_ite (fun _ => writes_done) (fun _ => issues_throw)

theorem external_version_writes {agent : Option Agent} : Tame powers (externalVersion agent) := by
  unfold externalVersion
  cases agent.bind Agent.activeVersionId with
  | none => exact issues_throw
  | some versionId => exact found_writes issues_throw (issues_ite (fun _ => issues_throw) (fun _ => writes_done))

theorem load_external_writes : Tame powers (loadExternalTask taskId tenantId) := by
  refine writes_then task_or_404_writes <| issues_bind select_writes (fun mission _ => selects_then <|
    writes_then external_version_writes ?_)
  cases mission with
  | none => exact issues_throw
  | some mission => exact writes_done

theorem commit_artifact_writes {artifact : Artifact} (may : ∀ id, powers.inserts (.artifact id) artifact) :
    Tame powers (commitArtifact artifact) :=
  found_writes (asks_then plain <| issues_bind (ask_writes _ ⟨trivial, trivial, may _, trivial⟩) (fun _ _ =>
    issues_ite (fun _ => writes_done) (fun _ => issues_throw))) writes_done

theorem check_completable_writes :
    Writes powers (fun _ => Edge external.mission.2.status .completed ∧ finalTask external.task.2.status = false)
      (checkCompletable external) := by
  refine issues_bind (validated_writes) (fun _ valid => ?_)
  unfold validated
  cases checked : validateMissionTransition external.mission.2.status .completed with
  | ok value => exact issues_pure ⟨.inl (mission_transition_ok checked), transition_open valid⟩
  | error error => exact issues_throw

theorem complete_external_writes (free : powers.Free)
    {parsed : Except String Unit} : Tame powers (completeTaskExternal user taskId parsed) := by
  refine issues_bind load_external_writes (fun external _ =>
    issues_bind (issues_catch check_completable_writes refused_writes) (fun _ checked =>
      writes_then (?_ : Tame powers _) <| writes_then (task_writes (fun _ => rfl) checked.2) <| publishes_then <|
      issues_bind (commit_artifact_writes (fun _ => free _ _ trivial)) (fun committed _ =>
        writes_then (?_ : Tame powers _) <| writes_then (task_writes (fun _ => rfl) checked.2) <|
        publishes_then <| writes_then (flush_writes checked.1) <| publishes_then writes_done)))
  · cases parsed with
    | ok value => exact writes_done
    | error error => exact issues_throw
  · cases committed.2 with
    | true => exact publish_writes
    | false => exact writes_done

theorem start_external_writes : Tame powers (startExternal user external) := by
  unfold startExternal
  split
  next queued =>
    exact issues_bind validated_writes (fun _ _ =>
      writes_then (task_writes (fun _ => rfl) (by rw [queued]; rfl)) <| publishes_then writes_done)
  next => exact writes_done

theorem check_failable_writes :
    Writes powers (fun task => Edge external.mission.2.status .failed ∧ finalTask task.2.status = false)
      (startAndCheckFailable user external) :=
  writes_then start_external_writes <| issues_bind validated_writes (fun _ open_ =>
    issues_bind validated_writes (fun _ valid => issues_pure ⟨.inl (mission_transition_ok valid), transition_open open_⟩))

theorem fail_external_writes : Tame powers (failTaskExternal user taskId) :=
  writes_then load_external_writes <| issues_bind (issues_catch check_failable_writes refused_writes) (fun _ checked =>
    writes_then (task_writes (fun _ => rfl) checked.2) <| publishes_then <| writes_then (flush_writes checked.1) <|
    publishes_then writes_done)

end

-- The worker inserts rows of its own attempt.
structure Stamps (powers : Powers) (attempt : Attempt) : Prop where
  ledger : ∀ id, powers.inserts (.modelInvocation id)
    ⟨attempt.mission.2.tenantId, attempt.mission.1, attempt.task.1, attempt.agentId⟩
  artifact : ∀ id artifactType, powers.inserts (.artifact id) (attemptArtifact attempt artifactType)
  checkpoint : ∀ id sequence stage, powers.inserts (.checkpoint id)
    ⟨attempt.mission.1, attempt.task.1, attempt.agentId, sequence, stage⟩

section
variable {powers : Powers} {attempt : Attempt} (stamps : Stamps powers attempt)
include stamps

theorem ledger_row_writes : Tame powers (ledgerRow attempt) :=
  asks_then plain <| writes_then (insert_writes (stamps.ledger _)) <| asks_then plain <| asks_then (pinning (fun _ => rfl)) <| ask_writes _ plain

theorem ledger_rows_writes {count : Nat} : Tame powers (ledgerRows attempt count) := by
  induction count with
  | zero => exact writes_done
  | succ count ih => exact writes_then (ledger_row_writes stamps) ih

theorem save_checkpoint_writes {stage : CheckpointStage} :
    Tame powers (SqlCheckpointStore.save attempt sequence stage) :=
  asks_then plain <| writes_then (insert_writes (stamps.checkpoint _ _ _)) <| ask_writes _ plain

theorem call_model_writes : Tame powers (callModel attempt sequence) := by
  refine issues_bind (ask_writes _ plain) (fun outcome _ => ?_)
  cases outcome with
  | responded count valid => exact writes_then (ledger_rows_writes stamps) <| writes_then (save_checkpoint_writes stamps) writes_done
  | budgetExceeded count => exact writes_then (ledger_rows_writes stamps) issues_throw
  | modelGatewayError count => exact writes_then (ledger_rows_writes stamps) issues_throw
  | raised count => exact writes_then (ledger_rows_writes stamps) issues_throw

theorem execute_model_writes : Tame powers (executeModel attempt) :=
  selects_then <| writes_then (save_checkpoint_writes stamps) (call_model_writes stamps)

theorem run_model_writes : Tame powers (runModel attempt existing) := by
  cases existing with
  | none => exact publishes_then (execute_model_writes stamps)
  | some checkpoint =>
      refine publishes_then ?_
      unfold resumeModel
      cases checkpoint.stage with
      | promptAssembled => exact publishes_then (call_model_writes stamps)
      | modelResponded valid => exact writes_done

end

variable {powers : Powers} {request : Request}

theorem announce_if_writes {attempt : Attempt} {happened : Bool} :
    Tame powers (match happened with | true => announce attempt eventType | false => pure ()) := by
  cases happened with
  | true => exact publish_writes
  | false => exact writes_done

section
variable {powers : Powers} (works : powers.worker = true) (attempt : Attempt)
include works

theorem worker_flush_writes (edge : Edge .running target) :
    Tame powers (update (.mission attempt.mission.1) attempt.mission.2 (setMissionStatus target)) :=
  ask_writes _ ⟨⟨target, fun _ => rfl, .inr ⟨works, edge⟩⟩, fun _ => rfl, trivial, trivial⟩

theorem worker_task_writes {id : Nat} {loaded : Task} {columns : Task → Task} (pins : ∀ row, Pinned (.task id) row (columns row)) :
    Tame powers (update (.task id) loaded columns) :=
  ask_writes _ ⟨trivial, pins, trivial, .inl works⟩

theorem fail_writes : Tame powers (fail attempt) :=
  writes_then (worker_task_writes works (fun _ => rfl)) <| publishes_then <|
    writes_then (worker_flush_writes works attempt (by decide)) publish_writes

theorem fail_model_writes (failure : Failure) : Tame powers (failModel attempt failure) := by
  cases failure with
  | budgetExceeded => exact publishes_then <| writes_then (fail_writes works attempt) writes_done
  | modelGateway => exact publishes_then <| writes_then (fail_writes works attempt) writes_done
  | _ => exact issues_throw

theorem fail_repair_writes (failure : Failure) : Tame powers (failRepair attempt failure) := by
  cases failure with
  | budgetExceeded => exact writes_then (fail_writes works attempt) writes_done
  | modelGateway => exact writes_then (fail_writes works attempt) writes_done
  | _ => exact issues_throw

end

section
variable {powers : Powers} (works : powers.worker = true) {attempt : Attempt} (stamps : Stamps powers attempt)
include works stamps

theorem commit_output_writes : Tame powers (commitOutput attempt) :=
  writes_then (commit_artifact_writes (fun _ => stamps.artifact _ _)) <| writes_then announce_if_writes <|
    writes_then (worker_task_writes works (fun _ => rfl)) <| asks_then plain <| writes_then (worker_task_writes works (fun _ => rfl)) <|
    publishes_then <| writes_then (worker_flush_writes works attempt (by decide)) publish_writes

theorem after_repair_writes : Tame powers (afterRepair attempt result) := by
  cases result with
  | none => exact writes_done
  | some result =>
      exact publishes_then <| asks_then plain <| issues_ite (fun _ => commit_output_writes works stamps)
        (fun _ => writes_then (commit_artifact_writes (fun _ => stamps.artifact _ _)) (fail_writes works attempt))

theorem repair_writes : Tame powers (repair attempt) :=
  publishes_then <| writes_then (issues_catch (issues_map (execute_model_writes stamps)) (fail_repair_writes works attempt))
    (after_repair_writes works stamps)

theorem after_model_writes : Tame powers (afterModel attempt result) := by
  cases result with
  | none => exact writes_done
  | some result =>
      exact writes_then announce_if_writes <| publishes_then <| asks_then plain <|
        issues_ite (fun _ => commit_output_writes works stamps) (fun _ => repair_writes works stamps)

theorem run_attempt_writes : Tame powers (runAttempt attempt existing) :=
  writes_then (worker_task_writes works (fun _ => rfl)) <| publishes_then <|
    writes_then (issues_catch (issues_map (run_model_writes stamps)) (fail_model_writes works attempt))
      (after_model_writes works stamps)

end

section
variable {powers : Powers}

theorem execute_task_writes (works : powers.worker = true) (free : powers.Free) : Tame powers (executeTask task) := by
  refine asks_then plain <| issues_bind select_writes (fun mission _ => issues_bind select_writes (fun agent _ => ?_))
  cases mission with
  | none => exact issues_throw
  | some mission =>
      cases version : agent.bind Agent.activeVersionId with
      | none => exact issues_throw
      | some versionId =>
          exact selects_then (run_attempt_writes works
            ⟨fun _ => free _ _ trivial, fun _ _ => free _ _ trivial, fun _ _ _ => free _ _ trivial⟩)

theorem process_task_writes (works : powers.worker = true) (rolls : powers.rolls = true)
    (free : powers.Free) : Tame powers (processTask taskId) := by
  refine issues_bind (ask_writes _ plain) (fun _ _ => issues_ite (fun _ =>
    writes_then (issues_bind select_writes (fun task _ => ?_) : Tame powers _) (ask_writes _ plain)) (fun _ => writes_done))
  cases task.filter (fun task => executable task.status) with
  | none => exact writes_done
  | some task =>
      exact issues_catch (writes_then (execute_task_writes works free) (ask_writes _ plain)) (fun _ => rollback_writes rolls)

theorem worker_turn_writes (works : powers.worker = true) (rolls : powers.rolls = true)
    (free : powers.Free) : Tame powers workerTurn :=
  option_writes (ask_writes _ plain) writes_done (writes_then (process_task_writes works rolls free) writes_done)

theorem fail_after_requeues_writes {task : Loaded Task} (running : task.2.status = .running) :
    Tame powers (failAfterMaxRequeues task) := by
  refine found_writes issues_throw (fun {mission} => ?_)
  cases checked : validateMissionTransition mission.status .failed with
  | error error =>
      simp only [checked]
      exact writes_done
  | ok value =>
      simp only [checked]
      exact writes_then (task_writes (fun _ => rfl) (by rw [running]; rfl)) <|
        writes_then (flush_writes (.inl (mission_transition_ok checked))) <|
        writes_then publish_reason_writes publish_reason_writes

theorem register_recovery_writes : Tame powers (registerRecovery taskId) := by
  refine issues_bind select_writes (fun task _ => ?_)
  cases found : task.filter (fun task => task.status = .running) with
  | none => exact writes_done
  | some task =>
      have running : task.status = .running := by simpa using (Option.filter_eq_some_iff.mp found).2
      exact issues_ite (fun _ => writes_then (fail_after_requeues_writes running) writes_done)
        (fun _ => writes_then (task_writes (fun _ => rfl) (by rw [running]; rfl)) <| asks_then plain writes_done)

theorem requeue_orphans_writes (rolls : powers.rolls = true) {taskIds : List Nat} : Tame powers (requeueOrphans taskIds) := by
  induction taskIds with
  | nil => exact writes_done
  | cons taskId rest ih =>
      refine writes_then (?_ : Tame powers _) ih
      exact issues_bind (ask_writes _ plain) (fun _ _ => issues_ite (fun _ => writes_done) (fun _ =>
        issues_bind (session_writes rolls register_recovery_writes) (fun _ _ =>
          issues_ite (fun _ => ask_writes _ plain) (fun _ => writes_done))))

theorem orphan_sweep_writes (rolls : powers.rolls = true) : Tame powers requeueOrphanedRunningTasks :=
  selects_then <| writes_then (requeue_orphans_writes rolls) writes_done

end

section
variable {powers : Powers}

theorem allocate_writes (rolls : powers.rolls = true) {attempts : Nat} :
    Tame powers (allocate tenantId agentId attempts) := by
  induction attempts with
  | zero => exact writes_done
  | succ attempts ih =>
      exact found_writes (selects_then <| asks_then plain <| issues_bind (ask_writes _ plain) (fun _ _ =>
        issues_ite (fun _ => writes_done) (fun _ => writes_then (rollback_writes rolls) ih))) writes_done

theorem ensure_assignment_writes (rolls : powers.rolls = true) : Tame powers (ensureAssignment tenantId agentId) :=
  issues_catch (allocate_writes rolls) (fun _ => writes_done)

theorem release_assignment_writes : Tame powers (releaseAssignment tenantId agentId) :=
  issues_catch (found_writes writes_done (asks_then plain (ask_writes _ (pinning (fun _ => rfl))))) (fun _ => writes_done)

theorem try_room_writes {α : Type} {call : Route α} (writes : Tame powers call) :
    Tame powers (tryRoomAssignment call) :=
  issues_catch (writes_then writes writes_done) (fun _ => writes_done)

theorem require_policy_writes {modelPolicyId : Nat} :
    Tame powers (requireTenantModelPolicy modelPolicyId tenantId) := found_writes issues_throw writes_done

variable {payload : VersionPayload}

theorem create_agent_writes (rolls : powers.rolls = true) (free : powers.Free) {agentCode displayName : String} :
    Tame powers (createAgent user agentCode displayName payload) :=
  writes_then require_policy_writes <| asks_then plain <| writes_then (insert_writes trivial) <| asks_then plain <|
    writes_then (insert_writes (free _ _ trivial)) <| asks_then (pinning (fun _ => rfl)) <| publishes_then <| publishes_then <|
    writes_then (try_room_writes (ensure_assignment_writes rolls)) writes_done

theorem agent_or_404_writes : Tame powers (agentOr404 agentId tenantId) := found_writes issues_throw writes_done

theorem create_version_writes (free : powers.Free) : Tame powers (createAgentVersion user agentId payload) :=
  writes_then agent_or_404_writes <| writes_then require_policy_writes <| selects_then <| asks_then plain <|
    writes_then (insert_writes (free _ _ trivial)) <| publishes_then writes_done

theorem activate_agent_writes (rolls : powers.rolls = true) {versionId : Nat} :
    Tame powers (activateAgent user agentId versionId) := by
  refine issues_bind agent_or_404_writes (fun agent _ =>
    writes_then (issues_bind select_writes (fun version _ => ?_) : Tame powers _) <| asks_then (pinning (fun _ => rfl)) <|
    publishes_then <| writes_then (try_room_writes (ensure_assignment_writes rolls)) writes_done)
  cases version.filter (fun version => version.agentId = agent.1) with
  | none => exact issues_throw
  | some version => exact writes_done

theorem suspend_agent_writes : Tame powers (suspendAgent user agentId) :=
  writes_then agent_or_404_writes <| asks_then (pinning (fun _ => rfl)) <| writes_then (try_room_writes release_assignment_writes) <|
    publishes_then writes_done

theorem backfill_writes (rolls : powers.rolls = true) {agentIds : List Nat} :
    Tame powers (backfill tenantId agentIds) := by
  induction agentIds with
  | nil => exact writes_done
  | cons agentId rest ih => exact writes_then (ensure_assignment_writes rolls) ih

theorem list_rooms_writes (rolls : powers.rolls = true) : Tame powers (listAgentRooms user) :=
  selects_then <| selects_then <| writes_then (backfill_writes rolls) writes_done

end

section
variable {powers : Powers}

theorem read_loaded_writes : Tame powers (readLoaded expired) := by
  cases expired with
  | true => exact issues_throw
  | false => exact writes_done

theorem claim_slot_writes (rolls : powers.rolls = true) (agentCode : String) {attempts : Nat} (occupied : List Nat)
    (expired : Bool) : Tame powers (claimSlot tenantId agentCode attempts occupied expired) := by
  induction attempts generalizing occupied expired with
  | zero => exact issues_throw
  | succ attempts ih =>
      unfold claimSlot
      cases (List.range personaSlotCap).find? (fun slot => slot ∉ occupied) with
      | none => exact issues_throw
      | some slot =>
          exact asks_then plain <| issues_bind (ask_writes _ plain) (fun _ _ => issues_ite (fun _ => writes_done) (fun _ =>
            writes_then (rollback_writes rolls) <| found_writes (selects_then (ih _ true)) writes_done))

theorem create_persona_writes (free : powers.Free)
    {policyId : Nat} : Tame powers (createPersona tenantId persona policyId expired) :=
  asks_then plain <| writes_then (insert_writes trivial) <| writes_then read_loaded_writes <| asks_then plain <|
    writes_then (insert_writes (free _ _ trivial)) <| asks_then (pinning (fun _ => rfl)) writes_done

theorem resolve_policy_writes : Tame powers (resolveClaudeCodeExternalPolicy tenantId) :=
  found_writes issues_throw writes_done

theorem ensure_persona_writes (rolls : powers.rolls = true) (free : powers.Free) : Tame powers (ensurePersona tenantId persona) := by
  refine found_writes (writes_then resolve_policy_writes <| selects_then <|
    issues_bind (claim_slot_writes rolls _ _ _) (fun winner _ => ?_)) writes_done
  obtain ⟨found, expired⟩ := winner
  cases found with
  | some agent => exact writes_done
  | none => exact writes_then (create_persona_writes free) writes_done

theorem reread_session_writes (rolls : powers.rolls = true) {query : Db → Option (Loaded AgentRuntimeSession)} (failure : Failure) :
    Tame powers (rereadSession query failure) := by
  cases failure with
  | integrity => exact writes_then (rollback_writes rolls) <| found_writes issues_throw writes_done
  | _ => exact issues_throw

theorem guarded_writes {α : Type} {body : Route α} {reread : Failure → Route Reply} {follow : α → Route Reply}
    (first : Tame powers body) (handles : ∀ failure, Tame powers (reread failure))
    (second : ∀ value, Tame powers (follow value)) : Tame powers (guarded body reread follow) := by
  have caught : Tame powers (tryCatch (Sum.inl <$> body) (fun failure => Sum.inr <$> reread failure)) :=
    issues_catch (issues_map first) (fun failure => issues_map (handles failure))
  refine issues_bind caught (fun result _ => ?_)
  cases result with
  | inl value => exact second value
  | inr reply => exact writes_done

theorem create_session_writes (free : powers.Free) : Tame powers (createSession tenantId agentId ref) :=
  writes_then (create_mission_writes free) <| writes_then mark_mission_writes <| writes_then (start_mission_writes free) <|
    asks_then plain <| asks_then plain <| writes_then (insert_writes (free _ _ rfl)) writes_done

theorem register_session_writes (rolls : powers.rolls = true) (free : powers.Free) :
    Tame powers (registerSession user ref) :=
  found_writes (found_writes issues_throw (guarded_writes (create_session_writes free) (reread_session_writes rolls) (fun _ =>
    publishes_then <| publishes_then <| publishes_then <| publishes_then writes_done))) writes_done

theorem create_subagent_writes (free : powers.Free) : Tame powers (createSubagent tenantId agentId missionId parentId payload) :=
  asks_then plain <| writes_then (insert_writes (free _ _ trivial)) <| asks_then plain <| asks_then plain <|
    writes_then (insert_writes (free _ _ rfl)) writes_done

theorem register_under_writes (rolls : powers.rolls = true) (free : powers.Free) :
    Tame powers (registerUnder user payload parentId missionId) := by
  refine issues_bind (ensure_persona_writes rolls free) (fun ensured _ => ?_)
  obtain ⟨persona, expired⟩ := ensured
  have registering : Tame powers (guarded (createSubagent user.tenantId persona.1 missionId parentId payload)
      (rereadSession (getSubagent user.tenantId payload.externalInstanceRef))
      (publishSubagent user missionId persona.1 expired)) :=
    guarded_writes (create_subagent_writes free) (reread_session_writes rolls) (fun _ =>
      writes_then read_loaded_writes <| publishes_then <| publishes_then writes_done)
  unfold registerAs
  cases persona.2.lifecycleState with
  | suspended => exact issues_throw
  | draft => exact registering
  | active => exact registering

theorem register_subagent_writes (rolls : powers.rolls = true) (free : powers.Free) :
    Tame powers (registerSubagent user payload) := by
  refine found_writes (found_writes issues_throw (fun {parent} => ?_)) writes_done
  cases mission : parent.2.missionId with
  | none => simpa only [mission] using issues_throw
  | some missionId =>
      cases ended : parent.2.endedAt with
      | some time => simpa only [mission, ended] using issues_throw
      | none => simpa only [mission, ended] using register_under_writes rolls free

end

section
variable {powers : Powers}
variable {missionId : Option Nat} {target : TaskStatus} {closedBy : AgentRuntimeClosedBy} {payload : ClosePayload}
  {sessions : List (Loaded AgentRuntimeSession)}

theorem hop_writes : Tame powers (hopToRunning tenantId missionId target task) := by
  unfold hopToRunning
  split
  next queued =>
    exact issues_bind validated_writes (fun _ _ =>
      writes_then (task_writes (fun _ => rfl) (by rw [queued]; rfl)) <| publishes_then writes_done)
  next waiting =>
    exact issues_bind validated_writes (fun _ _ => writes_then (task_writes (fun _ => rfl) (by rw [waiting]; rfl)) writes_done)
  next => exact writes_done

theorem advance_task_writes {task : Option (Loaded Task)} :
    Tame powers (advanceTask tenantId missionId target task) := by
  cases task with
  | none => exact writes_done
  | some task =>
      exact issues_ite (fun _ => writes_done) (fun _ => writes_then hop_writes <| issues_bind validated_writes (fun _ valid =>
        writes_then (task_writes (fun _ => rfl) (transition_open valid)) publish_writes))

theorem load_task_writes {taskId : Option Nat} : Tame powers (loadTask taskId) := by
  cases taskId with
  | none => exact writes_done
  | some taskId => exact select_writes

theorem end_row_writes : Tame powers (endRow runtimeSessionId session outcome) :=
  asks_then plain (ask_writes _ (pinning (fun _ => rfl)))

theorem close_open_writes : Tame powers (closeOpen tenantId runtimeSessionId session closedBy payload) :=
  writes_then load_task_writes <| asks_then plain <| asks_then plain <| issues_bind (ask_writes _ plain) (fun _ _ => issues_ite
    (fun _ => writes_then advance_task_writes <| writes_then end_row_writes writes_done)
    (fun _ => found_writes issues_throw writes_done))

theorem close_task_writes (runtimeSessionId : Nat) (payload : ClosePayload) (loaded : Option AgentRuntimeSession) :
    Tame powers (closeTask tenantId runtimeSessionId closedBy payload loaded) := by
  refine asks_then plain <| writes_then (?_ : Tame powers _) <| asks_then plain <| asks_then plain writes_done
  exact option_writes (ask_writes _ plain) writes_done <| found_writes close_open_writes <|
    writes_then (issues_ite (fun _ => asks_then plain (ask_writes _ (pinning (fun _ => rfl)))) (fun _ => writes_done)) writes_done

theorem close_subagents_writes {runtimeSessionIds : List Nat} :
    Tame powers (closeSubagents tenantId runtimeSessionIds) := by
  induction runtimeSessionIds with
  | nil => exact writes_done
  | cons runtimeSessionId rest ih => exact writes_then (close_task_writes _ _ _) ih

theorem complete_mission_writes : Tame powers (completeMission mission) := by
  refine issues_ite (fun _ => writes_then (issues_catch mark_mission_writes (fun failure => ?_)) writes_done) (fun _ => writes_done)
  cases failure with
  | invalidTransition error => exact writes_done
  | _ => exact issues_throw

theorem complete_session_mission_writes : Tame powers (completeSessionMission missionId) := by
  cases missionId with
  | none => exact writes_done
  | some missionId => exact found_writes writes_done complete_mission_writes

theorem end_session_writes {loaded : Option AgentRuntimeSession} :
    Tame powers (endSession tenantId runtimeSessionId outcome loaded) := by
  refine option_writes (ask_writes _ plain) writes_done (fun {session} => ?_)
  cases ended : session.endedAt with
  | some time => simpa only [ended] using writes_done
  | none =>
      simp only [ended]
      exact writes_then load_task_writes <| writes_then advance_task_writes <| selects_then <|
        writes_then close_subagents_writes <| writes_then complete_session_mission_writes end_row_writes

theorem session_or_404_writes : Tame powers (sessionOr404 runtimeSessionId tenantId) :=
  found_writes issues_throw writes_done

theorem update_session_writes {outcome : Option AgentRuntimeOutcome} :
    Tame powers (updateSession user runtimeSessionId outcome) := by
  refine issues_bind session_or_404_writes (fun session _ => ?_)
  cases outcome with
  | none => exact asks_then plain <| asks_then (pinning (fun _ => rfl)) writes_done
  | some outcome =>
      cases kind : session.kind with
      | subagent => simpa only [kind] using issues_throw
      | session => exact writes_then end_session_writes writes_done

theorem close_resolved_writes {session : Option (Loaded AgentRuntimeSession)} :
    Tame powers (closeResolved user session payload) := by
  cases session with
  | none => exact issues_throw
  | some session =>
      cases kind : session.2.kind with
      | session => simpa only [closeResolved, kind] using issues_throw
      | subagent =>
          simp only [closeResolved, kind]
          refine issues_bind (close_task_writes _ _ _) (fun result _ => ?_)
          cases result.1 with
          | none => exact issues_throw
          | some closureId => exact writes_done

theorem reap_subagents_writes (reaped : Nat) : Tame powers (reapSubagents sessions reaped) := by
  induction sessions generalizing reaped with
  | nil => exact writes_done
  | cons session rest ih => exact writes_then (close_task_writes _ _ _) (ih _)

theorem reap_sessions_writes : Tame powers (reapSessions sessions) := by
  induction sessions with
  | nil => exact writes_done
  | cons session rest ih => exact writes_then end_session_writes ih

theorem reap_sweep_writes {reapWindow batchSize : Nat} : Tame powers (runAgentRuntimeReapSweep reapWindow batchSize) :=
  writes_then (asks_then plain <| asks_then plain <| writes_then (reap_subagents_writes _) <| asks_then plain <|
    writes_then reap_sessions_writes writes_done) writes_done

end

def powersOf (request : Request) : Powers where
  worker := isWorker request
  rolls := true
  inserts := fun _ _ => insertsOwned request = true

-- Powers that are enough for a request.
structure Powers.Suits (powers : Powers) (request : Request) : Prop where
  worker : powers.worker = isWorker request
  rolls : powers.rolls = true
  free : insertsOwned request = true → powers.Free

-- A route is a body in a session; the worker's loop, its sweep of orphans and the
-- expiry of a lease are not.
theorem session_route (suits : powers.Suits request) :
    (∃ body, route request = getDbSession body ∧ Tame powers body) ∨
      request = .workerTurn ∨ request = .orphanSweep ∨ ∃ taskId, request = .leaseExpiry taskId := by
  cases request with
  | createAgent user agentCode displayName payload => exact .inl ⟨_, rfl, create_agent_writes suits.rolls (suits.free rfl)⟩
  | createAgentVersion user agentId payload => exact .inl ⟨_, rfl, create_version_writes (suits.free rfl)⟩
  | activateAgent user agentId versionId => exact .inl ⟨_, rfl, activate_agent_writes suits.rolls⟩
  | suspendAgent user agentId => exact .inl ⟨_, rfl, suspend_agent_writes⟩
  | listAgentRooms user => exact .inl ⟨_, rfl, list_rooms_writes suits.rolls⟩
  | createMission user agentId projectId => exact .inl ⟨_, rfl, create_mission_route_writes (suits.free rfl)⟩
  | updateMission user missionId projectId => exact .inl ⟨_, rfl, update_mission_writes (suits.free rfl)⟩
  | startMission user missionId => exact .inl ⟨_, rfl, start_mission_route_writes (suits.free rfl)⟩
  | cancelMission user missionId => exact .inl ⟨_, rfl, cancel_mission_writes⟩
  | retryTask user taskId => exact .inl ⟨_, rfl, retry_task_writes⟩
  | completeTaskExternal user taskId parsed => exact .inl ⟨_, rfl, complete_external_writes (suits.free rfl)⟩
  | failTaskExternal user taskId => exact .inl ⟨_, rfl, fail_external_writes⟩
  | registerSession user ref => exact .inl ⟨_, rfl, register_session_writes suits.rolls (suits.free rfl)⟩
  | registerSubagent user payload => exact .inl ⟨_, rfl, register_subagent_writes suits.rolls (suits.free rfl)⟩
  | updateSession user sessionId outcome => exact .inl ⟨_, rfl, update_session_writes⟩
  | closeSubagentByRef user ref payload =>
      exact .inl ⟨_, rfl, selects_then close_resolved_writes⟩
  | closeSubagentById user sessionId payload =>
      exact .inl ⟨_, rfl, selects_then close_resolved_writes⟩
  | reapSweep reapWindow batchSize => exact .inl ⟨_, rfl, reap_sweep_writes⟩
  | workerTurn => exact .inr (.inl rfl)
  | orphanSweep => exact .inr (.inr (.inl rfl))
  | leaseExpiry taskId => exact .inr (.inr (.inr ⟨taskId, rfl⟩))

theorem suited_route_writes (powers : Powers) (suits : powers.Suits request) : Tame powers (route request) := by
  rcases session_route suits with ⟨body, inside, writes⟩ | rfl | rfl | ⟨taskId, rfl⟩
  · rw [inside]
    exact session_writes suits.rolls writes
  · exact worker_turn_writes suits.worker suits.rolls (suits.free rfl)
  · exact orphan_sweep_writes suits.rolls
  · exact asks_then plain writes_done

theorem powers_of_suits (request : Request) : (powersOf request).Suits request := ⟨rfl, rfl, fun owned _ _ _ => owned⟩

theorem route_session (request : Request) :
    (∃ body, route request = getDbSession body ∧ Writes (powersOf request) Fine body) ∨
      request = .workerTurn ∨ request = .orphanSweep ∨ ∃ taskId, request = .leaseExpiry taskId :=
  session_route (powers_of_suits request)

theorem route_writes : Writes (powersOf request) Fine (route request) :=
  suited_route_writes (powersOf request) (powers_of_suits request)

end AiWorld.Api
