import AiWorld.Executor.BudgetRun
import AiWorld.Executor.OutputRun

set_option autoImplicit false

namespace AiWorld.Executor

open AiWorld.Concurrency AiWorld.Gateway

variable {checkpoint : Checkpoint} {request : ModelRequest} {adapter : DurableAgentRuntimeAdapter}

-- The rows of a task in the order of their commits.
structure Numbered (rows : List Checkpoint) : Prop where
  sequences : rows.map (fun row => row.sequence) = List.range' 1 rows.length
  follows : ∀ row ∈ rows, row.state.isResponse = true →
    ∃ prompt ∈ rows, prompt.state.isPrompt = true ∧ row.sequence = prompt.sequence + 1

variable {rows : List Checkpoint} {fresh : Checkpoint}

theorem numbered_bounds (numbered : Numbered rows) {row : Checkpoint} (present : row ∈ rows) :
    1 ≤ row.sequence ∧ row.sequence ≤ rows.length := by
  have listed : row.sequence ∈ List.range' 1 rows.length := by
    rw [← numbered.sequences]
    exact List.mem_map_of_mem present
  have bounds := List.mem_range'_1.mp listed
  omega

-- The two ways of computing the next number agree: the highest one is the count.
theorem numbered_latest (numbered : Numbered rows) {latest : Checkpoint} (found : latestCheckpoint rows = some latest) :
    latest.sequence = rows.length := by
  have present := latest_member latest found
  have some : 0 < rows.length := List.length_pos_of_mem present
  have last : rows.length ∈ rows.map (fun row => row.sequence) := by
    rw [numbered.sequences, List.mem_range'_1]
    omega
  obtain ⟨row, listed, same⟩ := List.mem_map.mp last
  have below := latest_upper latest found row listed
  have bounds := numbered_bounds numbered present
  omega

theorem numbered_next (numbered : Numbered rows) :
    DurableAgentRuntimeAdapter.nextSequence (latestCheckpoint rows) = rows.length + 1 := by
  cases found : latestCheckpoint rows with
  | none => simp [DurableAgentRuntimeAdapter.nextSequence, latest_none rows found]
  | some latest => simp [DurableAgentRuntimeAdapter.nextSequence, numbered_latest numbered found]

-- What a new row must meet: the next number, and a prompt before an answer.
structure Next (checkpoint : Checkpoint) (rows : List Checkpoint) : Prop where
  sequence : checkpoint.sequence = rows.length + 1
  follows : checkpoint.state.isResponse = true → ∃ prompt, latestCheckpoint rows = some prompt ∧ prompt.state.isPrompt = true

theorem numbered_append (numbered : Numbered rows) (next : Next fresh rows) : Numbered (rows ++ [fresh]) := by
  refine ⟨?_, fun row present answers => ?_⟩
  · simp only [List.map_append, numbered.sequences, List.map_cons, List.map_nil, next.sequence, List.length_append,
      List.length_cons, List.length_nil]
    rw [List.range'_concat]
    simp [Nat.add_comm]
  · rcases List.mem_append.mp present with old | added
    · obtain ⟨prompt, listed, rest⟩ := numbered.follows row old answers
      exact ⟨prompt, List.mem_append_left _ listed, rest⟩
    · obtain rfl := List.mem_singleton.mp added
      obtain ⟨prompt, found, prompts⟩ := next.follows answers
      refine ⟨prompt, List.mem_append_left _ (latest_member prompt found), prompts, ?_⟩
      rw [next.sequence, numbered_latest numbered found]

theorem next_fresh (numbered : Numbered rows) (next : Next fresh rows) :
    rows.any (fun row => row.sequence = fresh.sequence) = false := by
  rw [List.any_eq_false]
  intro row present same
  have bounds := numbered_bounds numbered present
  have number := next.sequence
  simp only [decide_eq_true_eq] at same
  omega

theorem next_latest (numbered : Numbered rows) (next : Next fresh rows) : latestCheckpoint (rows ++ [fresh]) = some fresh :=
  latest_append (fun row present => by
    have bounds := numbered_bounds numbered present
    have number := next.sequence
    omega)

def InOrder (w : World) : Prop := Numbered w.committed.checkpoints

abbrev numbering : Contract machine Unit := contract InOrder (fun _ _ => True)

-- The session has no checkpoint of its own.
def Aligned (w : World) : Prop := w.session.checkpoints = w.committed.checkpoints

structure Latest (checkpoint : Checkpoint) (w : World) : Prop where
  aligned : Aligned w
  numbered : Numbered w.committed.checkpoints
  latest : latestCheckpoint w.committed.checkpoints = some checkpoint

def uqCheckpoints : Failure := .unexpected "uq_checkpoints_task_sequence"

-- How a call of the adapter may end badly: by anything but the unique index.
def Excused (failure : Failure) (w : World) : Prop := failure ≠ uqCheckpoints ∧ Aligned w

theorem gateway_failure_excused {failure : Failure} (raised : GatewayFailure True failure) : failure ≠ uqCheckpoints := by
  rintro rfl
  exact absurd raised.1 (by decide)

theorem gateway_keeps_latest (checkpoint : Checkpoint) :
    GatewayKeeps InOrder (fun _ _ => True) (Latest checkpoint) where
  refl := fun _ => trivial
  takesId := fun _ holds inv => ⟨⟨inv, trivial⟩, holds.aligned, inv, holds.latest⟩
  breaks := fun _ _ holds inv => ⟨⟨inv, trivial⟩, holds.aligned, inv, holds.latest⟩
  writes := fun _ _ holds inv => ⟨⟨inv, trivial⟩, holds.aligned, inv, holds.latest⟩
  commits := by
    intro w notes _ holds inv
    have same : (w.commits notes).committed.checkpoints = w.committed.checkpoints := holds.aligned
    have kept : InOrder (w.commits notes) := by
      unfold InOrder
      rw [same]
      exact inv
    refine ⟨⟨kept, trivial⟩, rfl, kept, ?_⟩
    rw [same]
    exact holds.latest
  rollsBack := fun _ holds inv => ⟨⟨inv, trivial⟩, rfl, inv, holds.latest⟩
  sends := fun _ _ _ _ _ holds inv => ⟨⟨inv, trivial⟩, holds.aligned, inv, holds.latest⟩

theorem numbers_durable : Durable InOrder (fun _ _ => True) where
  same := fun w u inv committed _ _ => by
    refine ⟨?_, trivial⟩
    unfold InOrder
    rw [committed]
    exact inv
  onward := fun _ _ _ _ _ _ _ => trivial

-- A row that fits may be added: its number is free, so the unique index stays silent.
structure Fits (checkpoint : Checkpoint) (w : World) : Prop where
  aligned : Aligned w
  numbered : Numbered w.committed.checkpoints
  next : Next checkpoint w.committed.checkpoints

theorem save_numbers {checkpoint : Checkpoint} {pre : World → Prop} {post : Checkpoint → World → Prop}
    (ready : ∀ w, pre w → Fits checkpoint w) (after : ∀ w, Latest checkpoint w → post checkpoint w) :
    Raises numbering 0 () pre (SqlCheckpointStore.save checkpoint) post Excused := by
  refine durable_save numbers_durable ?_ ?_ ?_
  · intro w before _ taken
    have fits := ready w before
    rw [show w.session.checkpoints = w.committed.checkpoints from fits.aligned, next_fresh fits.numbered fits.next] at taken
    cases taken
  · intro w before inv _
    have fits := ready w before
    have rows : (w.saves checkpoint).committed.checkpoints = w.committed.checkpoints ++ [checkpoint] :=
      congrArg (· ++ [checkpoint]) fits.aligned
    have kept : InOrder (w.saves checkpoint) := by
      unfold InOrder
      rw [rows]
      exact numbered_append inv fits.next
    refine ⟨⟨kept, trivial⟩, after _ ⟨rfl, kept, ?_⟩, by decide, rfl⟩
    rw [rows]
    exact next_latest inv fits.next
  · intro w message _ _ other
    refine ⟨fun same => other ?_, rfl⟩
    exact Failure.unexpected.inj same

theorem adapter_numbers : AdapterRules InOrder (fun _ _ => True) Latest Excused where
  durable := numbers_durable
  gateway := fun checkpoint _ => gateway_keeps_latest checkpoint
  fails := fun _ failure _ _ raised holds => ⟨gateway_failure_excused raised, holds.aligned⟩
  answers := by
    intro checkpoint response prompts
    refine save_numbers (fun w holds => ⟨holds.aligned, holds.numbered, ?_, fun _ => ⟨checkpoint, holds.latest, prompts⟩⟩)
      (fun _ holds => ⟨rfl, holds⟩)
    -- The stored prompt is the latest row, so the number after its own is the next one.
    exact congrArg (· + 1) (numbered_latest holds.numbered holds.latest)
  cancelled := fun _ _ _ holds => ⟨by decide, holds.aligned⟩

theorem resume_numbers : Raises numbering 0 () (Latest checkpoint) (adapter.resume checkpoint) (fun _ => Aligned) Excused :=
  raises_weaken (resume_rule adapter_numbers checkpoint) (fun _ holds => holds)
    (fun _ _ answering => answering.2.aligned) (fun _ _ raised => raised)

theorem execute_numbers {context : RunContext} :
    Raises numbering 0 () Aligned (adapter.execute context) (fun _ => Aligned) Excused := by
  refine raises_weaken (execute_rule adapter_numbers
    (fun found => Fits ⟨DurableAgentRuntimeAdapter.nextSequence found, adapter.promptState context⟩)
    (fun w aligned inv => ?_) (fun found => save_numbers (fun _ fits => fits) (fun _ holds => holds)))
    (fun _ aligned => aligned) (fun _ _ answering => answering.2.aligned) (fun _ _ raised => raised)
  refine ⟨aligned, inv, ?_, fun answers => absurd answers Bool.false_ne_true⟩
  rw [show w.session.checkpoints = w.committed.checkpoints from aligned]
  exact numbered_next inv

-- A program that sends nothing but one request.
def SendsOnly (request : ModelRequest) : Stmt → Prop
  | .send _ _ asked => asked = request
  | .commit notes => sentCount notes = 0
  | _ => True

def Asked (request : ModelRequest) (before after : World) : Prop :=
  ∃ added, after.trace = before.trace ++ added ∧
    ∀ attempt number asked outcome, .sent attempt number asked outcome ∈ added → asked = request

theorem asked_same {request : ModelRequest} {w u : World} (same : u.trace = w.trace) : Asked request w u :=
  ⟨[], by simp [same], by simp⟩

theorem asked_trans {request : ModelRequest} (w u v : World) (first : Asked request w u) (second : Asked request u v) :
    Asked request w v := by
  obtain ⟨added, trace, sends⟩ := first
  obtain ⟨more, traceToo, sendsToo⟩ := second
  refine ⟨added ++ more, by rw [traceToo, trace, List.append_assoc], fun attempt number asked outcome listed => ?_⟩
  rcases List.mem_append.mp listed with early | late
  · exact sends attempt number asked outcome early
  · exact sendsToo attempt number asked outcome late

theorem perform_asked {request : ModelRequest} {stmt : Stmt} (choice : Choice) (w : World) (allowed : SendsOnly request stmt) :
    Asked request w (perform stmt choice w).2 := by
  have commits (notes : List Event) (quiet : sentCount notes = 0) : Asked request w (w.commits notes) := by
    refine ⟨notes, rfl, fun attempt number asked outcome listed => ?_⟩
    exact absurd rfl (List.countP_eq_zero.mp quiet _ listed)
  cases stmt with
  | commit notes =>
      cases effect : choice.effect with
      | done => simpa only [perform, effect] using commits notes allowed
      | refused =>
          simp only [perform, effect]
          exact asked_same rfl
      | unacknowledged => simpa only [perform, effect] using commits notes allowed
  | send attempt number asked =>
      obtain rfl : asked = request := allowed
      exact ⟨[_], rfl, fun _ _ other _ listed => by
        cases List.mem_singleton.mp listed
        rfl⟩
  | putObject key body =>
      cases effect : choice.effect with
      | done =>
          simp only [perform, effect]
          exact asked_same rfl
      | refused =>
          simp only [perform, effect]
          exact asked_same rfl
      | unacknowledged =>
          simp only [perform, effect]
          exact asked_same rfl
  | view => exact asked_same rfl
  | stage change => exact asked_same rfl
  | rollback => exact asked_same rfl
  | newId => exact asked_same rfl
  | now => exact asked_same rfl
  | beforeCall provider => exact asked_same rfl
  | recordSuccess provider => exact asked_same rfl
  | recordFailure provider => exact asked_same rfl

theorem drive_asked {α : Type} {request : ModelRequest} (program : Exec α) (sends : Issues (SendsOnly request) (fun _ => True) program)
    (choices : List Choice) (w : World) : Asked request w (machine.drive 0 choices program.run w).2 := by
  have walk : Triple (contract (fun _ => True) (Asked request)) 0 () (fun _ => True) program.run
      (fun result _ => Returned (fun _ => True) result ∧ True) := by
    refine triple_issues (alone_stable) ?_ sends
    intro stmt s choice answer t allowed _ _ _ executed
    have result : perform stmt choice s = (answer, t) := Option.some.inj executed
    have asked := perform_asked choice s allowed
    rw [result] at asked
    exact ⟨⟨trivial, asked⟩, trivial⟩
  exact (drive_safe (fun _ => asked_same rfl) asked_trans 0 choices _ w trivial (walk w trivial)).2.1

theorem save_sends_only : Issues (SendsOnly request) (fun _ => True) (SqlCheckpointStore.save checkpoint) := by
  have rolls : Issues (SendsOnly request) (fun _ => True) sessionRollback := issues_ask (S := execSig) .rollback trivial
  have commits : Issues (SendsOnly request) (fun _ => True) (sessionCommit []) := by
    refine issues_bind (issues_ask (S := execSig) (.commit []) rfl) (fun (acknowledged : Bool) _ => ?_)
    cases acknowledged with
    | true => exact issues_pure trivial
    | false => exact issues_throw
  refine issues_bind (issues_ask (S := execSig) .view trivial) (fun (db : TaskDb) _ => ?_)
  refine issues_ite (fun _ => ?_) (fun _ => issues_ite (fun _ => ?_) (fun _ => ?_))
  · exact issues_bind rolls (fun _ _ => issues_throw)
  · exact issues_bind (issues_ask (S := execSig) (.stage _) trivial) (fun _ _ =>
      issues_bind commits (fun _ _ => issues_pure trivial))
  · exact issues_bind rolls (fun _ _ => issues_throw)

theorem gateway_stmt_sends_only (stmt : Stmt) (allowed : GatewayStmt request stmt) : SendsOnly request stmt := by
  cases stmt with
  | send attempt number asked => exact allowed
  | commit notes => exact allowed
  | _ => trivial

theorem call_model_sends_only (adapter : DurableAgentRuntimeAdapter) (sequence : Nat) (request : ModelRequest)
    (policy : BudgetPolicy) :
    Issues (SendsOnly request) (fun _ => True) (adapter.callModelAndCheckpoint sequence request policy) := by
  have reads : Issues (SendsOnly request) (fun _ => True) adapter.usageProvider.usageForTask :=
    issues_bind (issues_ask (S := execSig) .view trivial) (fun _ _ =>
      issues_bind (issues_ask (S := execSig) .now trivial) (fun _ _ => issues_pure trivial))
  refine issues_bind reads (fun usage _ => ?_)
  refine issues_bind (utters_weaken (gateway_stmt_sends_only) (fun _ _ fits => fits) (fun _ holds => holds)
    (fun _ _ => trivial) (generate_calls (serves_anything request))) (fun outcome _ => ?_)
  exact issues_bind (save_sends_only) (fun _ _ => issues_pure trivial)

-- The request and the budget stored in a `prompt_assembled` row.
def storedRequest : CheckpointState → Option (ModelRequest × BudgetPolicy)
  | .promptAssembled systemPrompt userPrompt _ provider model maxOutputTokens budgetPolicy =>
      some ({ provider := provider, model := model, systemPrompt := systemPrompt, userPrompt := userPrompt,
              maxOutputTokens := maxOutputTokens }, budgetPolicy)
  | _ => none

theorem resume_stored (adapter : DurableAgentRuntimeAdapter) (checkpoint : Checkpoint) (request : ModelRequest)
    (policy : BudgetPolicy) (stored : storedRequest checkpoint.state = some (request, policy)) :
    adapter.resume checkpoint = adapter.callModelAndCheckpoint checkpoint.sequence request policy := by
  unfold DurableAgentRuntimeAdapter.resume
  cases state : checkpoint.state with
  | promptAssembled system user hash provider model tokens own =>
      simp only [state, storedRequest, Option.some.injEq, Prod.mk.injEq] at stored
      obtain ⟨rfl, rfl⟩ := stored
      rfl
  | modelResponded text provider model tokensIn tokensOut latency => simp [state, storedRequest] at stored
  | cancelled => simp [state, storedRequest] at stored

-- Calls of the adapter on one task, each with the clock, commits and provider answers
-- it meets, cut off when they run out. Between two calls the caller writes and
-- commits other rows, or a new process goes on.
inductive AdapterLabel where
  | execute (usageProvider : SqlUsageProvider) (context : RunContext) (choices : List Choice)
  | resume (usageProvider : SqlUsageProvider) (choices : List Choice)
  | write (change : TaskDb → TaskDb)
  | commit (choice : Choice)
  | restart (breaker : CircuitBreaker)

def afterCall (called : Proc execSig (Except Failure RunResult) × World) : World :=
  match called.1 with
  | .ret _ => called.2
  | .act _ _ => called.2.rollsBack

def callExecute (deps : EngineDeps) (usageProvider : SqlUsageProvider) (context : RunContext) (choices : List Choice)
    (w : World) : Proc execSig (Except Failure RunResult) × World :=
  machine.drive 0 choices (DurableAgentRuntimeAdapter.execute ⟨deps, usageProvider⟩ context).run w

def callResume (deps : EngineDeps) (usageProvider : SqlUsageProvider) (checkpoint : Checkpoint) (choices : List Choice)
    (w : World) : Proc execSig (Except Failure RunResult) × World :=
  machine.drive 0 choices (DurableAgentRuntimeAdapter.resume ⟨deps, usageProvider⟩ checkpoint).run w

def adapterStep (deps : EngineDeps) (w : World) : AdapterLabel → Option World
  | .execute usageProvider context choices => some (afterCall (callExecute deps usageProvider context choices w))
  | .resume usageProvider choices => (latestCheckpoint w.committed.checkpoints).map (fun checkpoint =>
      afterCall (callResume deps usageProvider checkpoint choices w))
  | .write change => some (w.stages (fun db => { change db with checkpoints := db.checkpoints }))
  | .commit choice => some (perform (.commit []) choice w).2
  | .restart breaker => some (w.rollsBack.breaks breaker)

-- Between two calls.
structure Resting (w : World) : Prop where
  numbered : InOrder w
  aligned : Aligned w

theorem call_rests {w : World} {program : Exec RunResult} (choices : List Choice) (resting : Resting w)
    (safe : Safe numbering 0 () (Ending (fun _ => Aligned) Excused) program.run w) :
    Resting (afterCall (machine.drive 0 choices program.run w)) ∧
      ∀ failure u, machine.drive 0 choices program.run w = (.ret (.error failure), u) → failure ≠ uqCheckpoints := by
  obtain ⟨numbered, _, ended⟩ := drive_safe (fun _ => trivial) (fun _ _ _ _ _ => trivial) 0 choices program.run w
    resting.numbered safe
  constructor
  · unfold afterCall
    split
    · rename_i result finished
      have holds := ended result finished
      cases result with
      | ok value => exact ⟨numbered, holds⟩
      | error failure => exact ⟨numbered, holds.2⟩
    · exact ⟨numbered, rfl⟩
  · intro failure u finished
    have holds := ended (.error failure) (by rw [finished])
    exact holds.1

theorem execute_rests (deps : EngineDeps) {w : World} (resting : Resting w) (usageProvider : SqlUsageProvider)
    (context : RunContext) (choices : List Choice) :
    Resting (afterCall (callExecute deps usageProvider context choices w)) ∧
      ∀ failure u, callExecute deps usageProvider context choices w = (.ret (.error failure), u) → failure ≠ uqCheckpoints :=
  call_rests choices resting (execute_numbers w resting.aligned)

theorem resume_rests (deps : EngineDeps) {w : World} (resting : Resting w) (usageProvider : SqlUsageProvider)
    (checkpoint : Checkpoint) (found : latestCheckpoint w.committed.checkpoints = some checkpoint) (choices : List Choice) :
    Resting (afterCall (callResume deps usageProvider checkpoint choices w)) ∧
      ∀ failure u, callResume deps usageProvider checkpoint choices w = (.ret (.error failure), u) → failure ≠ uqCheckpoints :=
  call_rests choices resting (resume_numbers w ⟨resting.aligned, resting.numbered, found⟩)

theorem adapter_step_rests (deps : EngineDeps) (w u : World) (label : AdapterLabel) (resting : Resting w)
    (stepped : adapterStep deps w label = some u) : Resting u := by
  cases label with
  | execute usageProvider context choices =>
      obtain rfl := Option.some.inj stepped
      exact (execute_rests deps resting usageProvider context choices).1
  | resume usageProvider choices =>
      obtain ⟨checkpoint, found, rfl⟩ := Option.map_eq_some_iff.mp stepped
      exact (resume_rests deps resting usageProvider checkpoint found choices).1
  | write change =>
      obtain rfl := Option.some.inj stepped
      exact ⟨resting.numbered, resting.aligned⟩
  | commit choice =>
      obtain rfl := Option.some.inj stepped
      have commits : Resting (w.commits []) :=
        ⟨show Numbered w.session.checkpoints from resting.aligned ▸ resting.numbered, rfl⟩
      have rolls : Resting w.rollsBack := ⟨resting.numbered, rfl⟩
      cases effect : choice.effect with
      | done => simpa only [perform, effect] using commits
      | refused => simpa only [perform, effect] using rolls
      | unacknowledged => simpa only [perform, effect] using commits
  | restart breaker =>
      obtain rfl := Option.some.inj stepped
      exact ⟨resting.numbered, rfl⟩

theorem checkpoint_numbering (deps : EngineDeps) (db : TaskDb) (fresh : db.checkpoints = []) (labels : List AdapterLabel)
    (w : World) (run : Runs (adapterStep deps) Anything (startWorld db) labels w) :
    (w.committed.checkpoints.map (fun row => row.sequence) = List.range' 1 w.committed.checkpoints.length) ∧
    (∀ row ∈ w.committed.checkpoints, row.state.isResponse = true →
      ∃ prompt ∈ w.committed.checkpoints, prompt.state.isPrompt = true ∧ row.sequence = prompt.sequence + 1) ∧
    (∀ usageProvider context choices failure u,
      callExecute deps usageProvider context choices w = (.ret (.error failure), u) → failure ≠ uqCheckpoints) ∧
    ∀ checkpoint, latestCheckpoint w.committed.checkpoints = some checkpoint → ∀ usageProvider choices,
      (∀ failure u, callResume deps usageProvider checkpoint choices w = (.ret (.error failure), u) → failure ≠ uqCheckpoints) ∧
      ∀ request budget, storedRequest checkpoint.state = some (request, budget) →
        DurableAgentRuntimeAdapter.resume ⟨deps, usageProvider⟩ checkpoint =
          DurableAgentRuntimeAdapter.callModelAndCheckpoint ⟨deps, usageProvider⟩ checkpoint.sequence request budget ∧
        Asked request w (callResume deps usageProvider checkpoint choices w).2 := by
  have start : Resting (startWorld db) := by
    refine ⟨?_, rfl⟩
    unfold InOrder startWorld
    rw [fresh]
    exact ⟨rfl, by simp⟩
  have resting : Resting w := runs_invariant Resting
    (fun s t label holds _ stepped => adapter_step_rests deps s t label holds stepped) run start
  refine ⟨resting.numbered.sequences, resting.numbered.follows, fun usageProvider context choices =>
    (execute_rests deps resting usageProvider context choices).2, fun checkpoint found usageProvider choices =>
    ⟨(resume_rests deps resting usageProvider checkpoint found choices).2, fun request budget stored => ?_⟩⟩
  have same := resume_stored ⟨deps, usageProvider⟩ checkpoint request budget stored
  refine ⟨same, ?_⟩
  unfold callResume
  rw [same]
  exact drive_asked _ (call_model_sends_only ⟨deps, usageProvider⟩ checkpoint.sequence request budget) choices w

def Sample.usageProvider : SqlUsageProvider := ⟨1, 2, 3, 4, 0⟩

-- A prompt cut off before its answer, a resume that gets one, and a repair prompt.
def Sample.adapterCalls : List AdapterLabel :=
  [.execute Sample.usageProvider (runContext Sample.db Sample.agent) (Sample.quietChoices 9 Sample.answer), .restart {},
    .resume Sample.usageProvider (Sample.quietChoices 30 Sample.answer),
    .execute Sample.usageProvider (runContext Sample.db Sample.agent) (Sample.quietChoices 9 Sample.answer)]

theorem checkpoint_numbering_resumed :
    ∃ w : World, w.committed.checkpoints.map (fun row => (row.sequence, row.state.isPrompt)) = [(1, true), (2, false), (3, true)] ∧
      w.committed.checkpoints.map (fun row => row.sequence) = List.range' 1 w.committed.checkpoints.length := by
  obtain ⟨w, run, shown⟩ := runs_exhibit (adapterStep Sample.deps)
    (fun w => decide (w.committed.checkpoints.map (fun row => (row.sequence, row.state.isPrompt)) =
      [(1, true), (2, false), (3, true)])) (startWorld Sample.db) Sample.adapterCalls (by decide +kernel)
  exact ⟨w, of_decide_eq_true shown, (checkpoint_numbering Sample.deps Sample.db rfl Sample.adapterCalls w run).1⟩

end AiWorld.Executor
