import Mathlib.Data.List.Perm.Subperm
import AiWorld.Executor.Attempts
import AiWorld.Executor.Bounding
import AiWorld.Executor.Course

set_option autoImplicit false

namespace AiWorld.Executor

open AiWorld.Concurrency AiWorld.Gateway ArtifactService

variable {change : TaskDb → TaskDb} {checkpoint : Checkpoint} {context : RunContext} {taskTitle text title : String}
  {adapter : DurableAgentRuntimeAdapter} {result : RunResult}

abbrev budgeted (policy : BudgetPolicy) : Contract machine Unit :=
  contract (fun w => Ledger w ∧ Ceilings policy w) (fun _ _ => True ∧ True)

abbrev Budgeted (policy : BudgetPolicy) {α : Type} (program : Exec α) : Prop := Keeps (budgeted policy) 0 () (Working policy) program

-- Staged writes that leave alone what the budget rests on.
structure Harmless (change : TaskDb → TaskDb) : Prop where
  invocations : ∀ db, (change db).invocations = db.invocations
  checkpoints : ∀ db, (change db).checkpoints = db.checkpoints
  policy : ∀ db, (change db).task.budgetPolicy = db.task.budgetPolicy

section
variable {policy : BudgetPolicy}

theorem policed_harmless {change : TaskDb → TaskDb} (harmless : Harmless change) {db : TaskDb} (policed : Policed policy db) :
    Policed policy (change db) where
  task := (harmless.policy db).trans policed.task
  checkpoints := by
    rw [harmless.checkpoints]
    exact policed.checkpoints

theorem budget_same {w u : World} (inv : Ledger w ∧ Ceilings policy w) (committed : u.committed = w.committed)
    (trace : u.trace = w.trace) (ids : w.nextId ≤ u.nextId) :
    Moves (fun w => Ledger w ∧ Ceilings policy w) (fun _ _ => True ∧ True) w u :=
  ⟨⟨ledger_same inv.1 (by rw [committed]) trace ids, ceilings_same inv.2 committed trace ids⟩, trivial, trivial⟩

theorem budget_commits {w : World} (inv : Ledger w ∧ Ceilings policy w) (working : Working policy w) :
    Moves (fun w => Ledger w ∧ Ceilings policy w) (fun _ _ => True ∧ True) w (w.commits []) := by
  have rows : (w.commits []).committed.invocations = w.committed.invocations := working.synced
  have trace : (w.commits []).trace = w.trace := by simp [World.commits]
  refine ⟨⟨ledger_same inv.1 rows trace le_rfl, ?_⟩, trivial, trivial⟩
  have ceilings := inv.2
  refine ⟨?_, ?_, ?_, ?_, ?_, working.policed⟩
  · rw [rows]; exact ceilings.fresh
  · rw [rows]; exact ceilings.calls
  · rw [rows, trace]; exact ceilings.cost
  · rw [rows, trace]; exact ceilings.spent
  · rw [trace]; exact ceilings.retries

-- Statements that leave alone what the budget rests on and send nothing.
def Sparing : Stmt → Prop
  | .stage change => Harmless change
  | .commit notes => notes = []
  | .send _ _ _ => False
  | _ => True

theorem sparing_delivers : Delivers Sparing where
  commit := rfl
  refused := fun _ => trivial
  events := fun _ => ⟨fun _ => rfl, fun _ => rfl, fun _ => rfl⟩
  running := ⟨fun _ => rfl, fun _ => rfl, fun _ => rfl⟩
  retryCount := fun _ => ⟨fun _ => rfl, fun _ => rfl, fun _ => rfl⟩
  view := trivial
  newId := trivial
  put := fun _ _ => trivial
  insert := fun _ => ⟨fun _ => rfl, fun _ => rfl, fun _ => rfl⟩
  owns := fun _ => ⟨fun _ => rfl, fun _ => rfl, fun _ => rfl⟩
  completes := ⟨fun _ => rfl, fun _ => rfl, fun _ => rfl⟩
  mission := fun _ => ⟨fun _ => rfl, fun _ => rfl, fun _ => rfl⟩

theorem perform_budgeted {w : World} {stmt : Stmt} (choice : Choice) (sparing : Sparing stmt) (working : Working policy w)
    (inv : Ledger w ∧ Ceilings policy w) :
    Moves (fun w => Ledger w ∧ Ceilings policy w) (fun _ _ => True ∧ True) w (perform stmt choice w).2 ∧
      Working policy (perform stmt choice w).2 := by
  have same {u : World} (session : u.session = w.session) (committed : u.committed = w.committed) (trace : u.trace = w.trace)
      (ids : w.nextId ≤ u.nextId) :
      Moves (fun w => Ledger w ∧ Ceilings policy w) (fun _ _ => True ∧ True) w u ∧ Working policy u := by
    refine ⟨budget_same inv committed trace ids, ?_, ?_⟩
    · unfold Synced
      rw [session, committed]
      exact working.synced
    · rw [session]; exact working.policed
  cases stmt with
  | stage change =>
      exact ⟨budget_same inv rfl rfl le_rfl, (sparing.invocations _).trans working.synced, policed_harmless sparing working.policed⟩
  | commit notes =>
      obtain rfl : notes = [] := sparing
      have commits := budget_commits inv working
      cases effect : choice.effect with
      | done => simpa only [perform, effect] using ⟨commits, rfl, working.policed⟩
      | refused => simpa only [perform, effect] using ⟨budget_same inv rfl rfl le_rfl, working_rollsBack inv.2⟩
      | unacknowledged => simpa only [perform, effect] using ⟨commits, rfl, working.policed⟩
  | rollback => exact ⟨budget_same inv rfl rfl le_rfl, working_rollsBack inv.2⟩
  | putObject key body =>
      simp only [perform]
      cases choice.effect with
      | done => exact same rfl rfl rfl le_rfl
      | refused => exact same rfl rfl rfl le_rfl
      | unacknowledged => exact same rfl rfl rfl le_rfl
  | view => exact same rfl rfl rfl le_rfl
  | newId => exact same rfl rfl rfl (Nat.le_succ _)
  | now => exact same rfl rfl rfl le_rfl
  | send attempt number request => exact sparing.elim
  | beforeCall provider => exact same rfl rfl rfl le_rfl
  | recordSuccess provider => exact same rfl rfl rfl le_rfl
  | recordFailure provider => exact same rfl rfl rfl le_rfl

theorem sparing_budgeted {α : Type} {program : Exec α} (confined : Confined Sparing program) : Budgeted policy program :=
  raises_weaken (confined_raises confined (fun _ choice _ sparing working inv => perform_budgeted choice sparing working inv))
    (fun _ working => working) (fun _ _ ended => ended.2) (fun _ _ working => working)

theorem commit_budgeted : Budgeted policy (sessionCommit []) := sparing_budgeted (commit_notes sparing_delivers.toTakesNotes)

theorem rollback_budgeted : Budgeted policy sessionRollback := sparing_budgeted (issues_ask (S := execSig) .rollback trivial)

theorem view_budgeted {post : TaskDb → World → Prop} {pre : World → Prop}
    (seen : ∀ w, pre w → post w.session w) {raised : Failure → World → Prop} :
    Raises (budgeted policy) 0 () pre view post raised :=
  raises_view (fun _ => ⟨trivial, trivial⟩) (fun w holds _ => seen w holds)

variable {assertion : World → Prop} {deps : EngineDeps} {existing : Option Checkpoint}

theorem view_kept : Keeps (budgeted policy) 0 () assertion view :=
  raises_view (fun _ => ⟨trivial, trivial⟩) (fun _ holds _ => holds)

theorem now_budgeted : Keeps (budgeted policy) 0 () assertion now :=
  raises_now (fun _ => ⟨trivial, trivial⟩) (fun _ _ holds _ => holds)

theorem generate_budgeted (gateway : ModelGateway) (request : ModelRequest) (usage : BudgetUsage) (isRetry : Bool)
    (ledger : SqlUsageProvider) :
    Raises (budgeted policy) 0 () (fun w => Working policy w ∧ Counts usage [] w.committed.invocations)
      (gateway.generate request policy usage isRetry (some ledger)) (fun _ => Working policy) (fun _ => Working policy) := by
  intro w holds
  have charged := generate_charges gateway request policy usage isRetry ledger w holds.1.synced
  have bounded := generate_bounded policy gateway request usage isRetry ledger w holds
  refine safe_weaken (fun result u both => ?_) _ w (safe_both _ w charged bounded)
  exact both.2

-- A checkpoint that may be saved or resumed under the task's policy.
def Own (policy : BudgetPolicy) (state : CheckpointState) : Prop :=
  ∀ system user hash provider model tokens own,
    state = .promptAssembled system user hash provider model tokens own → own = policy

theorem save_budgeted (own : Own policy checkpoint.state) :
    Raises (budgeted policy) 0 () (Working policy) (SqlCheckpointStore.save checkpoint)
      (fun saved w => saved = checkpoint ∧ Working policy w) (fun _ => Working policy) := by
  unfold SqlCheckpointStore.save
  refine raises_bind (fun _ => Working policy) view_kept (fun db => ?_)
  split
  · exact raises_bind (fun _ => Working policy) rollback_budgeted (fun _ => raises_throw _ (fun _ working => working))
  split
  · refine raises_bind (fun _ => Working policy) (raises_stage _ ?_)
      (fun _ => raises_bind (fun _ => Working policy) commit_budgeted
        (fun _ => raises_pure _ (fun _ working => ⟨rfl, working⟩)))
    intro w working inv
    refine ⟨budget_same inv rfl rfl le_rfl, working.synced, working.policed.task, ?_⟩
    intro other present
    rcases List.mem_append.mp present with old | added
    · exact working.policed.checkpoints other old
    · obtain rfl := List.mem_singleton.mp added
      exact own
  · exact raises_bind (fun _ => Working policy) rollback_budgeted (fun _ => raises_throw _ (fun _ working => working))

theorem call_model_budgeted {sequence : Nat} {request : ModelRequest} :
    Budgeted policy (adapter.callModelAndCheckpoint sequence request policy) := by
  unfold DurableAgentRuntimeAdapter.callModelAndCheckpoint
  refine raises_bind (fun usage w => Working policy w ∧ Counts usage [] w.committed.invocations) ?_ (fun usage => ?_)
  · unfold SqlUsageProvider.usageForTask
    refine raises_bind (fun db w => Working policy w ∧ db = w.session)
      (view_budgeted (fun _ working => ⟨working, rfl⟩)) (fun db => ?_)
    refine raises_bind (fun _ w => Working policy w ∧ db = w.session) now_budgeted (fun time => raises_pure _ ?_)
    intro w holds
    obtain ⟨working, rfl⟩ := holds
    have synced : w.session.invocations = w.committed.invocations := working.synced
    exact ⟨working, by simp [synced], by simp [synced], by simp [synced]⟩
  · refine raises_bind _ (generate_budgeted _ request usage false _) (fun outcome => ?_)
    refine raises_bind _ (save_budgeted ?_) (fun saved => raises_pure _ (fun _ holds => holds.2))
    intro system user hash provider model tokens own impossible
    cases impossible

theorem resume_budgeted (own : Own policy checkpoint.state) :
    Budgeted policy (adapter.resume checkpoint) := by
  unfold DurableAgentRuntimeAdapter.resume
  cases state : checkpoint.state with
  | modelResponded text provider model tokensIn tokensOut latency => exact keeps_pure
  | cancelled => exact keeps_throw
  | promptAssembled system user hash provider model tokens given =>
      obtain rfl := own system user hash provider model tokens given state
      exact call_model_budgeted

theorem execute_budgeted (same : context.budgetPolicy = policy) :
    Budgeted policy (adapter.execute context) := by
  have own : Own policy (adapter.promptState context) := by
    intro system user hash provider model tokens given state
    have fields := CheckpointState.promptAssembled.inj state
    exact fields.2.2.2.2.2.2.symm.trans same
  unfold DurableAgentRuntimeAdapter.execute SqlCheckpointStore.latestForTask
  refine raises_bind (fun _ => Working policy)
    (raises_bind (fun _ => Working policy) view_kept (fun _ => keeps_pure))
    (fun latest => ?_)
  refine raises_bind _ (save_budgeted own) (fun saved => ?_)
  intro w holds
  obtain ⟨rfl, working⟩ := holds
  exact resume_budgeted own w working

theorem budget_course (adapter : DurableAgentRuntimeAdapter) (same : context.budgetPolicy = policy) :
    Course (fun w => Ledger w ∧ Ceilings policy w) (fun _ _ => True ∧ True) Sparing adapter context (fun _ _ => Working policy)
      (Working policy) (Working policy) (fun _ => Working policy) (fun _ => Working policy) where
  notes := sparing_delivers.toTakesNotes
  keeps := fun _ _ _ confined => sparing_budgeted confined
  refuses := fun _ _ _ _ working => working
  delivers := fun _ _ _ _ => sparing_budgeted (commit_output_confined sparing_delivers _ _ _ _)
  rejects := fun _ _ _ _ => sparing_budgeted (reject_output_confined sparing_delivers ⟨fun _ => rfl, fun _ => rfl, fun _ => rfl⟩)
  invalid := fun _ _ _ _ working => working
  asks := fun _ => sparing_budgeted (publish_notes sparing_delivers.toTakesNotes)
  repairs := fun _ => execute_budgeted same
  reports := fun _ _ _ => sparing_budgeted (publish_notes sparing_delivers.toTakesNotes)
  fails := fun _ _ _ => sparing_budgeted (fail_notes sparing_delivers.toTakesNotes ⟨fun _ => rfl, fun _ => rfl, fun _ => rfl⟩
    ⟨fun _ => rfl, fun _ => rfl, fun _ => rfl⟩)
  rethrows := fun _ _ working => working

theorem run_model_budgeted (same : context.budgetPolicy = policy)
    (own : ∀ checkpoint, existing = some checkpoint → Own policy checkpoint.state) :
    Budgeted policy (runModel adapter context existing) := by
  have notes := sparing_delivers.toTakesNotes
  cases existing with
  | none => exact keeps_bind (sparing_budgeted (publish_notes notes)) (fun _ => execute_budgeted same)
  | some checkpoint =>
      exact keeps_bind (sparing_budgeted (publish_notes notes)) (fun _ =>
        keeps_bind (sparing_budgeted (announce_resume_notes notes)) (fun _ => resume_budgeted (own checkpoint rfl)))

theorem execute_task_budgeted {agent : Option AgentEnv} :
    Budgeted policy (executeTask deps agent) := by
  unfold executeTask runAttempt
  refine keeps_bind now_budgeted (fun startedAt => ?_)
  refine raises_bind (fun db w => Policed policy db ∧ Working policy w)
    (view_budgeted (fun _ working => ⟨working.policed, working⟩)) (fun db => ?_)
  rintro w ⟨policed, working⟩
  have same : ∀ agent, (runContext db agent).budgetPolicy = policy := fun _ => policed.task
  have own : ∀ checkpoint, latestCheckpoint db.checkpoints = some checkpoint → Own policy checkpoint.state :=
    fun checkpoint found => policed.checkpoints checkpoint (latest_member _ found)
  cases agent with
  | none => exact working
  | some agent =>
      exact keeps_bind (sparing_budgeted (announce_start_notes sparing_delivers.toTakesNotes)) (fun _ =>
        course_closes (budget_course _ (same agent)) (run_model_budgeted (same agent) own)) w working

theorem process_task_budgeted (deps : EngineDeps) (agent : Option AgentEnv) :
    Budgeted policy (processTask deps agent) := by
  unfold processTask executeAndCommit
  refine keeps_bind view_kept (fun db => ?_)
  split
  · exact keeps_bind (keeps_catch (keeps_bind (execute_task_budgeted) (fun _ => commit_budgeted))
      (fun _ => rollback_budgeted)) (fun _ => keeps_pure)
  · exact keeps_pure

theorem retry_task_harmless : Harmless retryTask := by
  refine ⟨fun db => ?_, fun db => ?_, fun db => ?_⟩ <;> unfold retryTask <;> split <;> rfl

theorem cancel_mission_harmless : Harmless cancelMission := by
  refine ⟨fun db => ?_, fun db => ?_, fun db => ?_⟩ <;> unfold cancelMission <;> split <;> rfl

theorem register_recovery_harmless : Harmless registerRecovery := by
  refine ⟨fun db => ?_, fun db => ?_, fun db => ?_⟩ <;> unfold registerRecovery failAfterMaxRequeues <;>
    repeat' split
  all_goals rfl

theorem between_budgeted {w : World} (inv : Ledger w ∧ Ceilings policy w)
    (harmless : Harmless change) : Ledger (w.between change) ∧ Ceilings policy (w.between change) := by
  have rows : (w.between change).committed.invocations = w.committed.invocations := harmless.invocations w.committed
  have ceilings := inv.2
  refine ⟨ledger_same inv.1 rows rfl le_rfl, ?_, ?_, ?_, ?_, ceilings.retries, policed_harmless harmless ceilings.policed⟩
  · rw [rows]; exact ceilings.fresh
  · rw [rows]; exact ceilings.calls
  · rw [rows]; exact ceilings.cost
  · rw [rows]; exact ceilings.spent

theorem attempt_budgeted {w : World} (deps : EngineDeps) (inv : Ledger w ∧ Ceilings policy w) (agent : Option AgentEnv)
    (breaker : CircuitBreaker) (choices : List Choice) :
    Ledger (runAttemptFrom deps agent breaker choices w) ∧ Ceilings policy (runAttemptFrom deps agent breaker choices w) := by
  have start : (budgeted policy).inv (w.rollsBack.breaks breaker) :=
    ⟨ledger_same inv.1 rfl rfl le_rfl, ceilings_same inv.2 rfl rfl le_rfl⟩
  have working : Working policy (w.rollsBack.breaks breaker) := ⟨rfl, inv.2.policed⟩
  have safe := process_task_budgeted deps agent (w.rollsBack.breaks breaker) working
  exact (drive_safe (fun _ => ⟨trivial, trivial⟩) (fun _ _ _ _ _ => ⟨trivial, trivial⟩) 0 choices _ _ start safe).1

theorem task_step_budgeted (deps : EngineDeps) (w u : World) (label : TaskLabel) (inv : Ledger w ∧ Ceilings policy w)
    (stepped : taskStep deps w label = some u) : Ledger u ∧ Ceilings policy u := by
  cases label with
  | attempt agent breaker choices =>
      obtain rfl := Option.some.inj stepped
      exact attempt_budgeted deps inv agent breaker choices
  | retry =>
      obtain rfl := Option.some.inj stepped
      exact between_budgeted inv retry_task_harmless
  | recover =>
      obtain rfl := Option.some.inj stepped
      exact between_budgeted inv register_recovery_harmless
  | cancel =>
      obtain rfl := Option.some.inj stepped
      exact between_budgeted inv cancel_mission_harmless

end

-- Every request has its own row, so there are at most as many requests as rows.
theorem ledger_sent_le_rows {w : World} (ledger : Ledger w) : sentCount w.trace ≤ w.committed.invocations.length := by
  have named : sentCount w.trace = (w.trace.filterMap sentId).length := by
    rw [List.length_filterMap_eq_countP]
    refine List.countP_congr (fun event present => ?_)
    cases event with
    | sent attempt number request outcome =>
        obtain ⟨id, rfl, _⟩ := ledger_sent_begun ledger present
        simp [isSend, sentId]
    | begun attempt => simp [isSend, sentId]
    | finished attempt => simp [isSend, sentId]
  have listed : w.trace.filterMap sentId ⊆ w.committed.invocations.map (fun row => row.id) := by
    intro id seen
    obtain ⟨event, present, same⟩ := List.mem_filterMap.mp seen
    cases event with
    | sent attempt number request outcome =>
        obtain ⟨other, rfl, begun⟩ := ledger_sent_begun ledger present
        obtain ⟨row, kept, sameId⟩ := ledger.begun other begun
        obtain rfl : other = id := Option.some.inj same
        exact sameId ▸ List.mem_map_of_mem kept
    | begun attempt => cases same
    | finished attempt => cases same
  have shorter := (List.subperm_of_subset ledger.once listed).length_le
  simpa [named] using shorter

theorem start_budgeted (db : TaskDb) (fresh : Fresh db) (nonNegative : db.task.budgetPolicy.NonNegative) :
    Ledger (startWorld db) ∧ Ceilings db.task.budgetPolicy (startWorld db) := by
  have rows : (startWorld db).committed.invocations = [] := fresh.invocations
  refine ⟨ledger_empty_trace _ rfl (by simp [rows]) (by simp [rows]), ?_, ?_, ?_, ?_, ?_, rfl, ?_⟩
  · simp [rows]
  · simpa [rows] using nonNegative.calls
  · simpa [rows, totalCost] using fun _ => nonNegative.cost
  · simp [startWorld, retriesSent]
  · simpa [startWorld, retriesSent] using nonNegative.retries
  · simp [startWorld, fresh.checkpoints]

theorem task_budget_ceilings (deps : EngineDeps) (db : TaskDb) (fresh : Fresh db)
    (nonNegative : db.task.budgetPolicy.NonNegative) (labels : List TaskLabel) (w : World)
    (run : Runs (taskStep deps) Anything (startWorld db) labels w) :
    (sentCount w.trace : Int) ≤ db.task.budgetPolicy.maxModelCalls ∧
    (retriesSent w.trace : Int) ≤ db.task.budgetPolicy.maxRetries ∧
    (Affordable w.trace → totalCost w.committed.invocations ≤ db.task.budgetPolicy.maxModelCostUsd) := by
  have inv := runs_invariant (fun w => Ledger w ∧ Ceilings db.task.budgetPolicy w)
    (fun s t label holds _ stepped => task_step_budgeted deps s t label holds stepped) run
    (start_budgeted db fresh nonNegative)
  obtain ⟨ledger, ceilings⟩ := inv
  have requests := ledger_sent_le_rows ledger
  have calls := ceilings.calls
  exact ⟨by omega, ceilings.retries, ceilings.cost⟩

namespace Sample

def deps : EngineDeps :=
  { modelGateway := gateway, bucket := "artifacts", budgetPolicyJson := fun _ => "policy", outputJsonSchema := "schema",
    validateMissionOutput := fun text => if text = "text" then .ok "title" else .error "not JSON" }

def agent : AgentEnv := ⟨4, 5, "prompt", "tools", "openai", "gpt-4o"⟩

-- A first attempt cut off after a timeout, then the sweep and a second attempt.
def crashAndResume : List TaskLabel :=
  [.attempt (some agent) {} (quietChoices 24 timeout), .recover, .attempt (some agent) {} (quietChoices 60 answer)]

def resumed : World := (runLabels (taskStep deps) (startWorld db) crashAndResume).getD (startWorld db)

end Sample

theorem task_budget_ceilings_resumed :
    sentCount Sample.resumed.trace = 2 ∧ (sentCount Sample.resumed.trace : Int) ≤ 6 :=
  ⟨by decide +kernel, (task_budget_ceilings Sample.deps Sample.db ⟨rfl, rfl, rfl, rfl, rfl⟩
    ⟨by decide +kernel, by decide, by decide, by decide, by decide⟩ Sample.crashAndResume Sample.resumed
    (runs_of_labels _ _ _ rfl)).1⟩

end AiWorld.Executor
