import AiWorld.Executor.BudgetRun
import AiWorld.Executor.Deliver

set_option autoImplicit false

namespace AiWorld.Executor

open AiWorld.Concurrency AiWorld.Gateway ArtifactService

variable {data : List (String × String)} {eventType : EventType} {existing : Option Checkpoint} {taskTitle : String}
  {adapter : DurableAgentRuntimeAdapter} {context : RunContext} {result : RunResult}

section
variable {deps : EngineDeps} {w : World}

variable {error : String} {raised : Failure → World → Prop} {change : TaskDb → TaskDb}

-- An answer that is not valid leaves the task unanswered.
theorem invalid_unanswered {text : String} (answers : Answers text w.committed)
    (invalid : deps.validateMissionOutput text = .error error) : Unanswered deps w := by
  intro other answered
  obtain ⟨answersToo, title, valid⟩ := answered
  obtain rfl := answered_unique answers answersToo
  rw [invalid] at valid
  cases valid

-- Statements that change neither the checkpoints nor the artifacts, and complete no task.
def Quiet : Stmt → Prop
  | .stage change => Plain change ∧ ∀ db, Finished db → Finished (change db)
  | .commit notes => notes = []
  | _ => False

theorem quiet_notes : Scribbles Quiet where
  commit := rfl
  refused := fun _ => trivial
  events := fun events => ⟨append_events_plain events, fun _ finished => finished⟩
  running := ⟨set_task_status_plain _, fun db _ => not_completed_finished (by decide) db⟩
  retryCount := fun _ => ⟨⟨fun _ => rfl, fun _ => rfl⟩, fun _ finished => finished⟩

-- What is known of the committed checkpoints, with a session consistent with them.
structure Lingers (pre : World → Prop) : Prop where
  consistent : ∀ w, pre w → Consistent w
  same : ∀ w u, pre w → u.committed.checkpoints = w.committed.checkpoints → Consistent u → pre u

theorem quiet_keeps {pre : World → Prop} {program : Exec Unit} (lingers : Lingers pre) (confined : Confined Quiet program)
    (thrown : ∀ failure w, Consistent w → raised failure w) : Outputs deps pre program (fun _ => pre) raised := by
  have walk : Outputs deps pre program (fun _ w => True ∧ pre w) (fun _ => pre) := by
    refine confined_raises confined (fun stmt choice w quiet holds inv => ?_)
    have consistent := lingers.consistent w holds
    have commits : Moves (Delivered deps) (Settles deps) w (w.commits []) ∧ pre (w.commits []) :=
      ⟨outputs_moves_commit inv consistent rfl, lingers.same w _ holds consistent.checkpoints (consistent_commits consistent [])⟩
    cases stmt with
    | stage change =>
        exact ⟨outputs_moves_same inv rfl rfl rfl,
          lingers.same w _ holds rfl (consistent_stages consistent quiet.1 (quiet.2 _ consistent.completed))⟩
    | commit notes =>
        obtain rfl : notes = [] := quiet
        cases effect : choice.effect with
        | done => simpa only [perform, effect] using commits
        | refused =>
            simp only [perform, effect]
            exact ⟨outputs_moves_same inv rfl rfl rfl, lingers.same w _ holds rfl (consistent_rollsBack inv)⟩
        | unacknowledged => simpa only [perform, effect] using commits
    | _ => exact quiet.elim
  exact raises_weaken walk (fun _ holds => holds) (fun _ _ ended => ended.2)
    (fun failure w holds => thrown failure w (lingers.consistent w holds))

theorem ran_lingers : Lingers (Ran result) where
  consistent := fun _ ran => ran.1
  same := fun w u ran rows consistent => by
    have answers := ran.2
    unfold Answers at answers
    rw [← rows] at answers
    exact ⟨consistent, answers⟩

-- The attempt starts from what it found: a checkpoint to resume, or none.
def Found (deps : EngineDeps) (existing : Option Checkpoint) (w : World) : Prop :=
  match existing with
  | some checkpoint => At checkpoint w
  | none => Consistent w ∧ Unanswered deps w

theorem found_lingers : Lingers (Found deps existing) := by
  cases existing with
  | some checkpoint =>
      exact ⟨fun _ found => found.consistent, fun _ _ found rows consistent => ⟨consistent, by rw [rows]; exact found.latest⟩⟩
  | none =>
      exact ⟨fun _ found => found.1, fun _ _ found rows consistent =>
        ⟨consistent, fun text answered => found.2 text (answered_same rows.symm answered)⟩⟩

theorem fail_consistent {reason : String} :
    Outputs deps Consistent (fail reason) (fun _ => Committable deps) (fun _ _ => True) :=
  fail_output (fun _ consistent inv => consistent_committable inv consistent)

theorem output_course (adapter : DurableAgentRuntimeAdapter) (context : RunContext) :
    Course (Delivered adapter.deps) (Settles adapter.deps) Quiet adapter context (fun _ => Ran)
      (Found adapter.deps none) (Committable adapter.deps) (fun _ => Consistent) (fun _ _ => True) where
  notes := quiet_notes
  keeps := fun _ _ _ confined => quiet_keeps ran_lingers confined (fun _ _ _ => trivial)
  refuses := fun _ _ _ _ _ => trivial
  delivers := fun _ _ title valid => raises_before commit_output_output (fun _ ran => ⟨ran.1, ran.2, title, valid⟩)
  rejects := fun result _ _ invalid => raises_bind _
    (raises_before (commit_artifact_output context .rawModelResponse result.outputText)
      (fun _ ran => ⟨ran.1, invalid_unanswered ran.2 invalid⟩))
    (fun _ => fail_output (fun _ staged _ => staged.committable))
  invalid := fun _ _ _ invalid ran => ⟨ran.1, invalid_unanswered ran.2 invalid⟩
  asks := fun _ => quiet_keeps found_lingers (publish_notes quiet_notes) (fun _ _ _ => trivial)
  repairs := fun _ => execute_output
  reports := fun _ _ _ => quiet_keeps ⟨fun _ same => same, fun _ _ _ _ same => same⟩ (publish_notes quiet_notes)
    (fun _ _ _ => trivial)
  fails := fun _ _ _ => fail_consistent
  rethrows := fun _ _ _ => trivial

theorem run_model_output :
    Outputs deps (Found deps existing) (runModel adapter context existing) Ran (fun _ => Consistent) := by
  have keeps {program : Exec Unit} (confined : Confined Quiet program) :
      Outputs deps (Found deps existing) program (fun _ => Found deps existing) (fun _ => Consistent) :=
    quiet_keeps found_lingers confined (fun _ _ consistent => consistent)
  cases existing with
  | none => exact raises_bind _ (keeps (publish_notes quiet_notes)) (fun _ => execute_output)
  | some checkpoint =>
      exact raises_bind _ (keeps (publish_notes quiet_notes)) (fun _ =>
        raises_bind _ (keeps (announce_resume_notes quiet_notes)) (fun _ => resume_output))

theorem consistent_found (consistent : Consistent w) : Found deps (latestCheckpoint w.session.checkpoints) w := by
  cases latest : latestCheckpoint w.session.checkpoints with
  | some checkpoint =>
      rw [consistent.checkpoints] at latest
      exact ⟨consistent, latest⟩
  | none =>
      rw [consistent.checkpoints] at latest
      refine ⟨consistent, fun text answered => ?_⟩
      obtain ⟨⟨checkpoint, _, _, _, _, _, present, _⟩, _⟩ := answered
      rw [latest] at present
      cases present

theorem execute_task_output {agent : Option AgentEnv} :
    Outputs deps Consistent (executeTask deps agent) (fun _ => Committable deps) (fun _ _ => True) := by
  unfold executeTask runAttempt
  refine raises_bind (fun _ => Consistent) (raises_now (settles_refl deps) (fun _ _ consistent _ => consistent))
    (fun startedAt => ?_)
  refine raises_bind (fun db => Found deps (latestCheckpoint db.checkpoints))
    (view_output (fun _ consistent _ => consistent_found consistent)) (fun db => ?_)
  cases agent with
  | none => exact raises_throw _ (fun _ _ => trivial)
  | some agent =>
      refine raises_bind _ (quiet_keeps found_lingers (announce_start_notes quiet_notes) (fun _ _ _ => trivial)) (fun _ => ?_)
      exact course_closes (output_course ⟨deps, _⟩ _) run_model_output

theorem process_task_output (deps : EngineDeps) (agent : Option AgentEnv) :
    Outputs deps Consistent (processTask deps agent) (fun _ _ => True) (fun _ _ => True) := by
  unfold processTask executeAndCommit
  refine raises_bind (fun _ => Consistent) (view_output (fun _ consistent _ => consistent)) (fun db => ?_)
  split
  · refine raises_bind (fun _ _ => True) (raises_catch (fun _ _ => True) ?_ (fun _ => ?_))
      (fun _ => raises_pure _ (fun _ _ => trivial))
    · refine raises_bind _ (execute_task_output) (fun _ => raises_commit ?_ ?_)
      · intro w committable inv
        exact ⟨(committable_commits committable).1, trivial, trivial⟩
      · intro w _ inv
        exact ⟨outputs_moves_same inv rfl rfl rfl, trivial⟩
    · exact raises_weaken rollback_output (fun _ holds => holds) (fun _ _ _ => trivial) (fun _ _ holds => holds)
  · exact raises_pure _ (fun _ _ => trivial)

theorem between_output (inv : Delivered deps w) (plain : Plain change) (finished : ∀ db, Finished db → Finished (change db)) :
    Delivered deps (w.between change) ∧ Settles deps w (w.between change) := by
  have artifacts : (w.between change).committed.artifacts = w.committed.artifacts := plain.artifacts w.committed
  have checkpoints : (w.between change).committed.checkpoints = w.committed.checkpoints := plain.checkpoints w.committed
  refine ⟨⟨?_, ?_, ?_, finished _ inv.completed⟩, ?_, fun _ answered => answered_same checkpoints answered, fun _ _ => rfl⟩
  · rw [artifacts]; exact inv.slots
  · rw [artifacts]
    intro artifact present output
    obtain ⟨text, answered, holds⟩ := inv.outputs artifact present output
    exact ⟨text, answered_same checkpoints answered, holds⟩
  · rw [artifacts]; exact inv.single
  · rw [artifacts]; exact fun _ present => present

theorem retry_task_plain : Plain retryTask := by
  refine ⟨fun db => ?_, fun db => ?_⟩ <;> unfold retryTask <;> split <;> rfl

theorem retry_task_finished (db : TaskDb) (finished : Finished db) : Finished (retryTask db) := by
  unfold retryTask
  split
  · exact not_completed_finished (by decide) db
  · exact finished

theorem cancel_mission_plain : Plain cancelMission := by
  refine ⟨fun db => ?_, fun db => ?_⟩ <;> unfold cancelMission <;> split <;> rfl

theorem cancel_mission_finished (db : TaskDb) (finished : Finished db) : Finished (cancelMission db) := by
  unfold cancelMission
  split
  · exact finished
  · exact finished

theorem register_recovery_plain : Plain registerRecovery := by
  refine ⟨fun db => ?_, fun db => ?_⟩ <;> unfold registerRecovery failAfterMaxRequeues <;> repeat' split
  all_goals rfl

theorem register_recovery_finished (db : TaskDb) (finished : Finished db) : Finished (registerRecovery db) := by
  unfold registerRecovery failAfterMaxRequeues
  split
  · split
    · split
      · exact not_completed_finished (by decide) db
      · exact finished
    · exact finished
  · exact finished

theorem attempt_output (inv : Delivered deps w) (agent : Option AgentEnv) (breaker : CircuitBreaker)
    (choices : List Choice) : Delivered deps (runAttemptFrom deps agent breaker choices w) ∧
      Settles deps w (runAttemptFrom deps agent breaker choices w) := by
  have consistent : Consistent (w.rollsBack.breaks breaker) := ⟨rfl, rfl, inv.completed⟩
  have safe := process_task_output deps agent (w.rollsBack.breaks breaker) consistent
  obtain ⟨kept, settles, _⟩ := drive_safe (settles_refl deps) (settles_trans deps) 0 choices _
    (w.rollsBack.breaks breaker) inv safe
  exact ⟨kept, settles.artifacts, settles.answered, settles.silent⟩

theorem task_step_output (w u : World) (label : TaskLabel) (inv : Delivered deps w)
    (stepped : taskStep deps w label = some u) : Delivered deps u ∧ Settles deps w u := by
  cases label with
  | attempt agent breaker choices =>
      obtain rfl := Option.some.inj stepped
      exact attempt_output inv agent breaker choices
  | retry =>
      obtain rfl := Option.some.inj stepped
      exact between_output inv retry_task_plain retry_task_finished
  | recover =>
      obtain rfl := Option.some.inj stepped
      exact between_output inv register_recovery_plain register_recovery_finished
  | cancel =>
      obtain rfl := Option.some.inj stepped
      exact between_output inv cancel_mission_plain cancel_mission_finished

end

theorem start_output (deps : EngineDeps) (db : TaskDb) (fresh : Fresh db) : Delivered deps (startWorld db) := by
  have artifacts : (startWorld db).committed.artifacts = [] := fresh.artifacts
  have queued : (startWorld db).committed.task.status = .queued := fresh.status
  refine ⟨?_, ?_, ?_, ?_⟩
  · simp [artifacts]
  · simp [artifacts]
  · simp [artifacts]
  · simp [queued]

-- Any state a crash can leave is a state of a run, since an attempt may be cut off
-- after each of its statements.
theorem output_exactly_once (deps : EngineDeps) (db : TaskDb) (fresh : Fresh db) (labels : List TaskLabel) (w : World)
    (run : Runs (taskStep deps) Anything (startWorld db) labels w) :
    (∀ text, Answered deps text w.committed → ∀ later u, Runs (taskStep deps) Anything w later u →
      sentCount u.trace = sentCount w.trace) ∧
    (w.committed.artifacts.filter isOutput).length ≤ 1 ∧
    (∀ artifact ∈ w.committed.artifacts, isOutput artifact = true →
      (∃ text, Answered deps text w.committed ∧ Holds deps w.objects artifact text) ∧
      ∀ later u, Runs (taskStep deps) Anything w later u → artifact ∈ u.committed.artifacts) ∧
    (w.committed.task.status = .completed → ∃ artifact ∈ w.committed.artifacts, isOutput artifact = true ∧
      w.committed.task.outputArtifactId = some artifact.id) := by
  have inv : Delivered deps w := runs_invariant (Delivered deps)
    (fun s t label holds _ stepped => (task_step_output s t label holds stepped).1) run (start_output deps db fresh)
  have settles : ∀ later u, Runs (taskStep deps) Anything w later u → Settles deps w u := fun later u more =>
    runs_relates (Delivered deps) (Settles deps) (settles_refl deps) (settles_trans deps)
      (fun s t label holds _ stepped => task_step_output s t label holds stepped) more inv
  refine ⟨fun text answered later u more => (settles later u more).silent text answered, inv.single, ?_, inv.completed⟩
  intro artifact present output
  exact ⟨inv.outputs artifact present output, fun later u more => (settles later u more).artifacts artifact present⟩

-- The first attempt is cut off after its answer is committed, the second one delivers.
def Sample.answerThenCrash : List TaskLabel := [.attempt (some Sample.agent) {} (Sample.quietChoices 28 Sample.answer)]

def Sample.delivered : World :=
  (runLabels (taskStep Sample.deps) (startWorld Sample.db)
    (Sample.answerThenCrash ++ [.recover, .attempt (some Sample.agent) {} (Sample.quietChoices 40 Sample.answer)])).getD
      (startWorld Sample.db)

theorem output_exactly_once_delivered :
    (sentCount Sample.delivered.trace = 1 ∧ Sample.delivered.committed.task.status = .completed) ∧
    (Sample.delivered.committed.artifacts.filter isOutput).length ≤ 1 :=
  ⟨by decide +kernel, (output_exactly_once Sample.deps Sample.db ⟨rfl, rfl, rfl, rfl, rfl⟩
    (Sample.answerThenCrash ++ [.recover, .attempt (some Sample.agent) {} (Sample.quietChoices 40 Sample.answer)])
    Sample.delivered (runs_of_labels _ _ _ rfl)).2.1⟩

end AiWorld.Executor
