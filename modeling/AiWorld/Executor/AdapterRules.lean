import AiWorld.Executor.GatewayCalls
import AiWorld.Executor.Rules

set_option autoImplicit false

namespace AiWorld.Executor

open AiWorld.Concurrency AiWorld.Gateway

variable {checkpoint : Checkpoint} {policy : BudgetPolicy} {request : ModelRequest}

-- What a call of the gateway can do, for any assertion: it takes ids, moves the
-- breaker, rewrites the ledger's rows, commits them with its notes, and sends.
structure GatewayKeeps (inv : World → Prop) (promise : World → World → Prop) (assertion : World → Prop) : Prop where
  refl : ∀ w, promise w w
  takesId : ∀ w, assertion w → inv w → Moves inv promise w w.takesId ∧ assertion w.takesId
  breaks : ∀ w breaker, assertion w → inv w → Moves inv promise w (w.breaks breaker) ∧ assertion (w.breaks breaker)
  writes : ∀ w (rows : TaskDb → List ModelInvocation), assertion w → inv w →
    Moves inv promise w (w.stages (fun db => { db with invocations := rows db })) ∧
      assertion (w.stages (fun db => { db with invocations := rows db }))
  commits : ∀ w notes, sentCount notes = 0 → assertion w → inv w →
    Moves inv promise w (w.commits notes) ∧ assertion (w.commits notes)
  rollsBack : ∀ w, assertion w → inv w → Moves inv promise w w.rollsBack ∧ assertion w.rollsBack
  sends : ∀ w attempt number request outcome, assertion w → inv w →
    Moves inv promise w (w.sends (.sent attempt number request outcome)) ∧
      assertion (w.sends (.sent attempt number request outcome))

section
variable {inv : World → Prop} {promise : World → World → Prop} {assertion : World → Prop}

theorem gateway_perform (rules : GatewayKeeps inv promise assertion) {request : ModelRequest} {stmt : Stmt} (w : World)
    (choice : Choice) (allowed : GatewayStmt request stmt) (holds : assertion w) (kept : inv w) :
    Moves inv promise w (perform stmt choice w).2 ∧ assertion (perform stmt choice w).2 := by
  cases stmt with
  | view => exact ⟨⟨kept, rules.refl w⟩, holds⟩
  | stage change =>
      obtain ⟨rows, rfl⟩ := allowed
      exact rules.writes w rows holds kept
  | commit notes =>
      cases effect : choice.effect with
      | done => simpa only [perform, effect] using rules.commits w notes allowed holds kept
      | refused => simpa only [perform, effect] using rules.rollsBack w holds kept
      | unacknowledged => simpa only [perform, effect] using rules.commits w notes allowed holds kept
  | rollback => exact allowed.elim
  | newId => exact rules.takesId w holds kept
  | now => exact ⟨⟨kept, rules.refl w⟩, holds⟩
  | send attempt number asked => exact rules.sends w attempt number asked choice.outcome holds kept
  | putObject key body => exact allowed.elim
  | beforeCall provider => exact rules.breaks w _ holds kept
  | recordSuccess provider => exact rules.breaks w _ holds kept
  | recordFailure provider => exact rules.breaks w _ holds kept

theorem generate_raises (rules : GatewayKeeps inv promise assertion) {gateway : ModelGateway} {usage : BudgetUsage} {isRetry : Bool} {ledger : Option SqlUsageProvider} :
    Performs inv promise assertion (gateway.generate request policy usage isRetry ledger)
      (fun _ => assertion) (fun failure w => GatewayFailure True failure ∧ assertion w) := by
  have walk : Triple (contract inv promise) 0 () assertion (gateway.generate request policy usage isRetry ledger).run
      (fun result w => Outcomes (fun _ => True) (GatewayFailure True) result ∧ assertion w) := by
    refine triple_issues (alone_stable) ?_
      (generate_calls (serves_anything request))
    intro stmt w choice answer u allowed holds kept _ executed
    have result : perform stmt choice w = (answer, u) := Option.some.inj executed
    have moved := gateway_perform rules w choice allowed holds kept
    rw [result] at moved
    exact moved
  refine triple_weaken walk (fun _ holds => holds) (fun result w ended => ?_)
  cases result with
  | ok value => exact ended.2
  | error failure => exact ended

end

-- A contract about what is durable: the session, the ids and the breaker may change.
structure Durable (inv : World → Prop) (promise : World → World → Prop) : Prop where
  same : ∀ w u, inv w → u.committed = w.committed → u.objects = w.objects → u.trace = w.trace → Moves inv promise w u
  onward : ∀ w v u, v.committed = w.committed → v.objects = w.objects → v.trace = w.trace → promise w u → promise v u

def CheckpointState.isPrompt : CheckpointState → Bool
  | .promptAssembled _ _ _ _ _ _ _ => true
  | _ => false

def CheckpointState.isResponse : CheckpointState → Bool
  | .modelResponded _ _ _ _ _ _ => true
  | _ => false

def CheckpointState.holdsText (text : String) (state : CheckpointState) : Prop :=
  ∃ provider model tokensIn tokensOut latency, state = .modelResponded text provider model tokensIn tokensOut latency

def TaskDb.adds (checkpoint : Checkpoint) (db : TaskDb) : TaskDb := { db with checkpoints := db.checkpoints ++ [checkpoint] }

def World.saves (checkpoint : Checkpoint) (w : World) : World := (w.stages (TaskDb.adds checkpoint)).commits []

section
variable {inv pre : World → Prop} {promise : World → World → Prop} {thrown : Failure → World → Prop}

theorem durable_view {post : TaskDb → World → Prop} (durable : Durable inv promise)
    (after : ∀ w, pre w → inv w → post w.session w) : Performs inv promise pre view post thrown :=
  raises_perform .view (fun w _ before holds => ⟨durable.same w w holds rfl rfl rfl, after w before holds⟩)

theorem durable_now {post : ℚ → World → Prop} (durable : Durable inv promise)
    (after : ∀ w time, pre w → inv w → post time w) : Performs inv promise pre now post thrown :=
  raises_perform .now (fun w choice before holds => ⟨durable.same w w holds rfl rfl rfl, after w choice.time before holds⟩)

variable {post : Unit → World → Prop}

theorem durable_stage (durable : Durable inv promise) {change : TaskDb → TaskDb}
    (after : ∀ w, pre w → inv w → post () (w.stages change)) :
    Performs inv promise pre (stage change) post thrown :=
  raises_stage change (fun w before holds => ⟨durable.same w _ holds rfl rfl rfl, after w before holds⟩)

theorem durable_rollback (durable : Durable inv promise) (after : ∀ w, pre w → inv w → post () w.rollsBack) :
    Performs inv promise pre sessionRollback post thrown :=
  raises_perform .rollback (fun w _ before holds => ⟨durable.same w _ holds rfl rfl rfl, after w before holds⟩)

theorem durable_commit (durable : Durable inv promise)
    (done : ∀ w, pre w → inv w → Moves inv promise w (w.commits []) ∧ post () (w.commits []) ∧
      thrown (.unexpected "commit failed") (w.commits []))
    (refused : ∀ w, pre w → inv w → thrown (.unexpected "commit failed") w.rollsBack) :
    Performs inv promise pre (sessionCommit []) post thrown :=
  raises_commit done (fun w before holds => ⟨durable.same w _ holds rfl rfl rfl, refused w before holds⟩)

-- Saving a row: it is taken, refused, or added and committed.
theorem durable_save (durable : Durable inv promise) {post : Checkpoint → World → Prop}
    (taken : ∀ w, pre w → inv w → w.session.checkpoints.any (fun row => row.sequence = checkpoint.sequence) = true →
      thrown (.unexpected "uq_checkpoints_task_sequence") w.rollsBack)
    (saved : ∀ w, pre w → inv w → w.session.checkpoints.any (fun row => row.sequence = checkpoint.sequence) = false →
      Moves inv promise w (w.saves checkpoint) ∧ post checkpoint (w.saves checkpoint) ∧
        thrown (.unexpected "commit failed") (w.saves checkpoint))
    (refused : ∀ w message, pre w → inv w → message ≠ "uq_checkpoints_task_sequence" →
      thrown (.unexpected message) w.rollsBack) :
    Performs inv promise pre (SqlCheckpointStore.save checkpoint) post thrown := by
  unfold SqlCheckpointStore.save
  refine raises_bind (fun db w => db = w.session ∧ pre w) (durable_view durable (fun w before _ => ⟨rfl, before⟩)) (fun db => ?_)
  split
  · rename_i same
    refine raises_bind (fun _ w => thrown (.unexpected "uq_checkpoints_task_sequence") w) (durable_rollback durable ?_)
      (fun _ => raises_throw _ (fun _ holds => holds))
    rintro w ⟨rfl, before⟩ holds
    exact taken w before holds same
  split
  · rename_i different _
    refine raises_bind (fun _ u => ∃ w, pre w ∧ inv w ∧ w.session = db ∧ u = w.stages (TaskDb.adds checkpoint))
      (durable_stage durable ?_) (fun _ => ?_)
    · rintro w ⟨rfl, before⟩ holds
      exact ⟨w, before, holds, rfl, rfl⟩
    refine raises_bind (fun _ => post checkpoint) (durable_commit durable ?_ ?_) (fun _ => raises_pure _ (fun _ holds => holds))
    · rintro u ⟨w, before, holds, rfl, rfl⟩ _
      obtain ⟨moved, after, failed⟩ := saved w before holds (by simpa using different)
      exact ⟨⟨moved.1, durable.onward w _ _ rfl rfl rfl moved.2⟩, after, failed⟩
    · rintro u ⟨w, before, holds, rfl, rfl⟩ _
      exact refused w "commit failed" before holds (by decide)
  · refine raises_bind (fun _ w => thrown (.unexpected "unsupported Unicode escape sequence") w) (durable_rollback durable ?_)
      (fun _ => raises_throw _ (fun _ holds => holds))
    rintro w ⟨rfl, before⟩ holds
    exact refused w _ before holds (by decide)

end

-- What the adapter needs of an assertion about the latest checkpoint.
structure AdapterRules (inv : World → Prop) (promise : World → World → Prop) (latest : Checkpoint → World → Prop)
    (thrown : Failure → World → Prop) : Prop where
  durable : Durable inv promise
  gateway : ∀ checkpoint, checkpoint.state.isPrompt = true → GatewayKeeps inv promise (latest checkpoint)
  fails : ∀ checkpoint failure w, checkpoint.state.isPrompt = true → GatewayFailure True failure → latest checkpoint w →
    thrown failure w
  answers : ∀ checkpoint response, checkpoint.state.isPrompt = true →
    Raises (contract inv promise) 0 () (latest checkpoint)
      (SqlCheckpointStore.save ⟨checkpoint.sequence + 1, DurableAgentRuntimeAdapter.respondedState response⟩)
      (fun saved w => saved.state = DurableAgentRuntimeAdapter.respondedState response ∧ latest saved w) thrown
  cancelled : ∀ checkpoint w, checkpoint.state = .cancelled → latest checkpoint w →
    thrown (.unexpected "Unknown checkpoint stage 'cancelled'; cannot resume.") w

section
variable {inv : World → Prop} {promise : World → World → Prop} {latest : Checkpoint → World → Prop}
  {thrown : Failure → World → Prop}

-- A run of the model ends with its text in the latest checkpoint.
def Answering (latest : Checkpoint → World → Prop) (result : RunResult) (w : World) : Prop :=
  result.finalCheckpoint.state.holdsText result.outputText ∧ latest result.finalCheckpoint w

variable {adapter : DurableAgentRuntimeAdapter}

theorem call_model_rule (rules : AdapterRules inv promise latest thrown) (prompts : checkpoint.state.isPrompt = true) :
    Performs inv promise (latest checkpoint)
      (adapter.callModelAndCheckpoint checkpoint.sequence request policy) (Answering latest) thrown := by
  unfold DurableAgentRuntimeAdapter.callModelAndCheckpoint SqlUsageProvider.usageForTask
  refine raises_bind (fun _ => latest checkpoint) ?_ (fun usage => ?_)
  · refine raises_bind (fun _ => latest checkpoint) (durable_view rules.durable (fun _ holds _ => holds)) (fun db => ?_)
    exact raises_bind (fun _ => latest checkpoint) (durable_now rules.durable (fun _ _ holds _ => holds))
      (fun _ => raises_pure _ (fun _ holds => holds))
  refine raises_bind (fun _ => latest checkpoint) (raises_weaken
    (generate_raises (rules.gateway checkpoint prompts)) (fun _ holds => holds)
    (fun _ _ holds => holds) (fun failure w raised => rules.fails checkpoint failure w prompts raised.1 raised.2))
    (fun outcome => ?_)
  refine raises_bind _ (rules.answers checkpoint outcome.response prompts) (fun saved => raises_pure _ (fun w holds => ?_))
  exact ⟨⟨_, _, _, _, _, holds.1⟩, holds.2⟩

theorem resume_rule (rules : AdapterRules inv promise latest thrown) (checkpoint : Checkpoint) :
    Performs inv promise (latest checkpoint) (adapter.resume checkpoint) (Answering latest) thrown := by
  unfold DurableAgentRuntimeAdapter.resume
  cases state : checkpoint.state with
  | modelResponded text provider model tokensIn tokensOut latency =>
      exact raises_pure _ (fun _ holds => ⟨⟨_, _, _, _, _, state⟩, holds⟩)
  | promptAssembled system user hash provider model tokens policy =>
      exact call_model_rule rules (by simp [state, CheckpointState.isPrompt])
  | cancelled => exact raises_throw _ (fun w holds => rules.cancelled checkpoint w state holds)

-- `execute` from a precondition under which the prompt can be saved.
theorem execute_rule (rules : AdapterRules inv promise latest thrown)
    {context : RunContext} {pre : World → Prop} (middle : Option Checkpoint → World → Prop)
    (sees : ∀ w, pre w → inv w → middle (latestCheckpoint w.session.checkpoints) w)
    (asks : ∀ found, Performs inv promise (middle found)
    (SqlCheckpointStore.save ⟨DurableAgentRuntimeAdapter.nextSequence found, adapter.promptState context⟩) latest thrown) :
    Performs inv promise pre (adapter.execute context) (Answering latest) thrown := by
  unfold DurableAgentRuntimeAdapter.execute SqlCheckpointStore.latestForTask
  refine raises_bind middle ?_ (fun found => raises_bind _ (asks found) (fun saved => resume_rule rules saved))
  exact raises_bind (fun db w => middle (latestCheckpoint db.checkpoints) w) (durable_view rules.durable sees)
    (fun db => raises_pure _ (fun _ holds => holds))

end

end AiWorld.Executor
