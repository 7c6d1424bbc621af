import AiWorld.Concurrency.Completes
import AiWorld.Executor.Checkpoints
import AiWorld.Executor.RawResponse
import AiWorld.Executor.SingleRepair

set_option autoImplicit false

namespace AiWorld.Executor

open AiWorld.Concurrency AiWorld.Gateway ArtifactService

variable {error text title : String} {choice : Choice} {checkpoint : Checkpoint} {failure : Failure} {result : RunResult}
  {context : RunContext} {usageProvider : SqlUsageProvider} {adapter : DurableAgentRuntimeAdapter}

-- A text the schema takes, whether it ends up as an output or as a rejected response.
structure Digestible (deps : EngineDeps) (taskTitle text : String) : Prop where
  storable : text.toList.contains (Char.ofNat 0) = false
  validates : deps.validatorRaises text = none
  output : ∀ title, deps.validateMissionOutput text = .ok title → titleError title = none
  rejected : ∀ error, deps.validateMissionOutput text = .error error → titleError (taskTitle ++ " (invalid output)") = none

-- Every operation succeeds, and the provider fails or answers with such a text.
structure Benign (deps : EngineDeps) (taskTitle : String) (choice : Choice) : Prop where
  effect : choice.effect = .done
  outcome : ∀ response, choice.outcome = .response response → Digestible deps taskTitle response.text

def Fed (deps : EngineDeps) (taskTitle : String) : (stmt : Stmt) → Ans stmt → Prop
  | .commit _, acknowledged => acknowledged = true
  | .send _ _ _, outcome => ∀ response, outcome = .response response → Digestible deps taskTitle response.text
  | _, _ => True

section
variable {deps : EngineDeps} {taskTitle : String} {w : World} {rows : List Checkpoint}

theorem perform_commits (benign : Benign deps taskTitle choice) (notes : List Event) :
    perform (.commit notes) choice w = (true, w.commits notes) := by
  simp only [perform, benign.effect]
  rfl

theorem perform_fed (stmt : Stmt) (benign : Benign deps taskTitle choice) :
    Fed deps taskTitle stmt (perform stmt choice w).1 := by
  cases stmt with
  | commit notes =>
      rw [perform_commits benign]
      rfl
  | send attempt number request => exact benign.outcome
  | _ => trivial

abbrev Ends {α : Type} (deps : EngineDeps) (taskTitle : String) (post : α → World → Prop) (raised : Failure → World → Prop)
    (program : Exec α) (w : World) : Prop :=
  Finishes machine 0 (Benign deps taskTitle) post raised program w

variable {raised : Failure → World → Prop} {α : Type} {program : Exec α}

theorem ends_perform {stmt : Stmt} {post : Ans stmt → World → Prop}
    (after : ∀ choice, Benign deps taskTitle choice → post (perform stmt choice w).1 (perform stmt choice w).2) :
    Ends deps taskTitle post raised (ask stmt) w :=
  finishes_ask (S := execSig) (M := machine) stmt post w
    (fun choice benign => ⟨_, _, rfl, after choice benign⟩)

theorem ends_utters {post : α → Prop} {thrown : Failure → Prop}
    (utters : Utters (S := execSig) Uncheckpointed (Fed deps taskTitle) post thrown program) (holds : Rows rows w) :
    Ends deps taskTitle (fun value u => post value ∧ Rows rows u) (fun failure u => thrown failure ∧ Rows rows u) program w := by
  refine completes_weaken (fun result u ended => ?_) program.run w (completes_replies (M := machine)
    (fun stmt choice s allowed benign before => ⟨_, _, rfl, perform_fed stmt benign,
      perform_rows choice allowed before⟩) program.run w utters holds)
  cases result with
  | ok value => exact ended
  | error failure => exact ended

-- Notes never raise here.
def never (_ : Failure) : Prop := False

theorem fed_notes : TakesNotes Uncheckpointed (Fed deps taskTitle) never where
  commit := trivial
  refused := fun impossible => absurd impossible Bool.false_ne_true
  events := fun _ _ => rfl
  running := fun _ => rfl
  retryCount := fun _ _ => rfl

theorem ends_notes (notes : Notes Uncheckpointed (Fed deps taskTitle) never program) (holds : Rows rows w) :
    Ends deps taskTitle (fun _ => Rows rows) raised program w :=
  finishes_weaken (ends_utters notes holds) (fun _ _ ended => ended.2) (fun _ _ ended => ended.1.elim)

theorem stage_ends {change : TaskDb → TaskDb} : Ends deps taskTitle (fun _ u => u = w.stages change) raised (stage change) w :=
  ends_perform (fun _ _ => rfl)

theorem commit_ends : Ends deps taskTitle (fun _ u => u = w.commits []) raised (sessionCommit []) w := by
  refine finishes_bind (fun (acknowledged : Bool) u => acknowledged = true ∧ u = w.commits [])
    (ends_perform (fun choice benign => ?_)) ?_
  · rw [perform_commits benign]
    exact ⟨rfl, rfl⟩
  · rintro acknowledged u ⟨rfl, rfl⟩
    exact finishes_pure _ _ rfl

theorem save_ends (checkpoint : Checkpoint) (holds : Rows rows w) (numbered : Numbered rows) (next : Next checkpoint rows)
    (storable : checkpoint.state.storable = true) :
    Ends deps taskTitle (fun saved u => saved = checkpoint ∧ Rows (rows ++ [checkpoint]) u) raised
      (SqlCheckpointStore.save checkpoint) w := by
  unfold SqlCheckpointStore.save
  refine finishes_bind (fun db u => db = w.session ∧ u = w) (ends_perform (fun _ _ => ⟨rfl, rfl⟩)) ?_
  rintro db u ⟨rfl, rfl⟩
  have free : ¬ u.session.checkpoints.any (fun row => row.sequence = checkpoint.sequence) = true := by
    rw [holds.session, next_fresh numbered next]
    decide
  rw [if_neg free, if_pos storable]
  refine finishes_bind (fun _ v => v = u.stages (TaskDb.adds checkpoint)) (stage_ends) ?_
  rintro _ v rfl
  refine finishes_bind (fun _ v => v = u.saves checkpoint) commit_ends ?_
  rintro _ v rfl
  have grown : u.session.checkpoints ++ [checkpoint] = rows ++ [checkpoint] := by rw [holds.session]
  exact finishes_pure _ _ ⟨rfl, grown, grown⟩

-- The rows of a task whose model has just answered with a text that can be handled.
def Digested (deps : EngineDeps) (taskTitle : String) (result : RunResult) (w : World) : Prop :=
  Digestible deps taskTitle result.outputText ∧ ∃ rows, Rows rows w ∧ Numbered rows

-- What the executor handles inline.
def Handles (failure : Failure) (w : World) : Prop := failure.handled = true ∧ ∃ rows, Rows rows w

theorem gateway_stmt_uncheckpointed (request : ModelRequest) (stmt : Stmt) (allowed : GatewayStmt request stmt) :
    Uncheckpointed stmt := by
  cases stmt with
  | stage change =>
      obtain ⟨ledger, rfl⟩ := allowed
      exact fun _ => rfl
  | _ => trivial

theorem gateway_failure_handled (raised : GatewayFailure False failure) : failure.handled = true := by
  cases failure with
  | unexpected message => exact raised.2.elim
  | _ => rfl

theorem call_model_ends (holds : Rows rows w) (numbered : Numbered rows) (latest : latestCheckpoint rows = some checkpoint)
    (prompts : checkpoint.state.isPrompt = true) {request : ModelRequest} {policy : BudgetPolicy} :
    Ends deps taskTitle (Digested deps taskTitle) Handles (adapter.callModelAndCheckpoint checkpoint.sequence request policy) w := by
  have serves : Serves request (Fed deps taskTitle) (fun response => Digestible deps taskTitle response.text) False :=
    ⟨fun _ impossible => absurd impossible Bool.false_ne_true, fun _ _ response given => given response rfl⟩
  have reads : Notes Uncheckpointed (Fed deps taskTitle) never adapter.usageProvider.usageForTask := by
    refine utters_bind (utters_ask (S := execSig) .view trivial) (fun _ _ => ?_)
    exact utters_bind (utters_ask (S := execSig) .now trivial) (fun _ _ => utters_pure trivial)
  refine finishes_bind (fun _ => Rows rows) (ends_notes reads holds) (fun usage u before => ?_)
  refine finishes_bind (fun outcome v => Digestible deps taskTitle outcome.response.text ∧ Rows rows v) ?_ ?_
  · refine finishes_weaken (ends_utters (utters_weaken (gateway_stmt_uncheckpointed request) (fun _ _ fits => fits)
      (fun _ holds => holds) (fun _ raised => raised)
      (generate_calls serves)) before)
      (fun _ _ ended => ended) (fun failure v ended => ⟨gateway_failure_handled ended.1, rows, ended.2⟩)
  rintro outcome v ⟨digestible, kept⟩
  have next : Next ⟨checkpoint.sequence + 1, DurableAgentRuntimeAdapter.respondedState outcome.response⟩ rows :=
    ⟨congrArg (· + 1) (numbered_latest numbered latest), fun _ => ⟨checkpoint, latest, prompts⟩⟩
  have storable : (DurableAgentRuntimeAdapter.respondedState outcome.response).storable = true := by
    simp only [DurableAgentRuntimeAdapter.respondedState, CheckpointState.storable, digestible.storable]
    rfl
  refine finishes_bind _ (save_ends _ kept numbered next storable) (fun saved u ended => finishes_pure _ _ ?_)
  exact ⟨digestible, _, ended.2, numbered_append numbered next⟩

-- A checkpoint an attempt can resume from.
def Resumes (deps : EngineDeps) (taskTitle : String) : CheckpointState → Prop
  | .modelResponded text _ _ _ _ _ => Digestible deps taskTitle text
  | .promptAssembled _ _ _ _ _ _ _ => True
  | .cancelled => False

theorem resume_ends (holds : Rows rows w) (numbered : Numbered rows) (latest : latestCheckpoint rows = some checkpoint)
    (resumes : Resumes deps taskTitle checkpoint.state) :
    Ends deps taskTitle (Digested deps taskTitle) Handles (adapter.resume checkpoint) w := by
  unfold DurableAgentRuntimeAdapter.resume
  cases state : checkpoint.state with
  | modelResponded text provider model tokensIn tokensOut latency =>
      rw [state] at resumes
      exact finishes_pure _ _ ⟨resumes, rows, holds, numbered⟩
  | promptAssembled system user hash provider model tokens policy =>
      exact call_model_ends holds numbered latest (by simp [state, CheckpointState.isPrompt])
  | cancelled =>
      rw [state] at resumes
      exact resumes.elim

theorem execute_ends (holds : Rows rows w) (numbered : Numbered rows) :
    Ends deps taskTitle (Digested deps taskTitle) Handles (adapter.execute context) w := by
  unfold DurableAgentRuntimeAdapter.execute SqlCheckpointStore.latestForTask
  refine finishes_bind (fun found u => found = latestCheckpoint rows ∧ Rows rows u) ?_ ?_
  · refine finishes_bind (fun db u => db = w.session ∧ u = w) (ends_perform (fun _ _ => ⟨rfl, rfl⟩)) ?_
    rintro db u ⟨rfl, rfl⟩
    exact finishes_pure _ _ ⟨by rw [holds.session], holds⟩
  rintro found u ⟨rfl, kept⟩
  have next : Next ⟨DurableAgentRuntimeAdapter.nextSequence (latestCheckpoint rows), adapter.promptState context⟩ rows :=
    ⟨numbered_next numbered, fun answers => absurd answers Bool.false_ne_true⟩
  refine finishes_bind _ (save_ends _ kept numbered next rfl) ?_
  rintro saved v ⟨rfl, grown⟩
  exact resume_ends grown (numbered_append numbered next) (next_latest numbered next) trivial

-- The session's task has come to one of its two ends.
def Concluded (w : World) : Prop := w.session.task.status = .completed ∨ w.session.task.status = .failed

-- How a guarded run of the model comes out: with a result to go on with, or handled.
def Proceeds (deps : EngineDeps) (taskTitle : String) : Option RunResult → World → Prop
  | none, w => Concluded w
  | some result, w => Digested deps taskTitle result w

theorem fail_ends {reason : String} : Ends deps taskTitle (fun _ => Concluded) raised (fail reason) w := by
  refine finishes_bind _ (stage_ends) (fun _ _ first => finishes_bind _ (stage_ends) (fun _ _ second => ?_))
  refine finishes_bind _ (stage_ends) (fun _ _ third => finishes_weaken (stage_ends) ?_ (fun _ _ thrown => thrown))
  rintro _ u rfl
  subst third second first
  exact .inr rfl

theorem fail_model_ends (handled : failure.handled = true) :
    Ends deps taskTitle (Proceeds deps taskTitle) raised (failModel failure) w := by
  cases failure with
  | budgetExceeded reason attempts =>
      exact finishes_bind _ (stage_ends) (fun _ _ _ => finishes_bind _ (fail_ends) (fun _ u settled => finishes_pure _ u settled))
  | modelGateway message attempts =>
      exact finishes_bind _ (stage_ends) (fun _ _ _ => finishes_bind _ (fail_ends) (fun _ u settled => finishes_pure _ u settled))
  | unexpected message => exact absurd handled Bool.false_ne_true

theorem fail_repair_ends (handled : failure.handled = true) :
    Ends deps taskTitle (Proceeds deps taskTitle) raised (failRepair failure) w := by
  cases failure with
  | budgetExceeded reason attempts => exact finishes_bind _ (fail_ends) (fun _ u settled => finishes_pure _ u settled)
  | modelGateway message attempts => exact finishes_bind _ (fail_ends) (fun _ u settled => finishes_pure _ u settled)
  | unexpected message => exact absurd handled Bool.false_ne_true

-- The look before the upload and the look before the INSERT see the same rows, since
-- nothing is staged between them.
theorem commit_artifact_ends {artifactType : ArtifactType} {content mimeType : String} (fits : titleError title = none) :
    Ends deps taskTitle (fun _ _ => True) raised (commitArtifact deps context artifactType title content mimeType) w := by
  refine finishes_bind (fun db u => db = w.session ∧ u = w) (ends_perform (fun _ _ => ⟨rfl, rfl⟩)) ?_
  rintro db u ⟨rfl, rfl⟩
  cases found : findCommitted u.session.artifacts artifactType primarySlot with
  | some existing => exact finishes_pure _ _ trivial
  | none =>
      refine finishes_bind (fun (stored : Bool) v => stored = true ∧ v.session = u.session)
        (ends_perform (fun choice benign => ?_)) ?_
      · simp only [perform, benign.effect]
        exact ⟨trivial, rfl⟩
      rintro stored v ⟨rfl, same⟩
      refine finishes_bind (fun _ x => x.session = u.session) (ends_perform (fun _ _ => same)) (fun id x kept => ?_)
      refine finishes_bind (fun db _ => db = u.session) (ends_perform (fun _ _ => kept)) ?_
      rintro db y rfl
      have holds : titleError (uploadedArtifact deps context artifactType title content mimeType id).title = none := fits
      have free : findCommitted u.session.artifacts (uploadedArtifact deps context artifactType title content mimeType id).artifactType
          (uploadedArtifact deps context artifactType title content mimeType id).logicalOutputSlot = none := found
      rw [holds, free]
      exact finishes_bind _ (stage_ends) (fun _ _ _ => finishes_pure _ _ trivial)

theorem commit_output_ends (fits : titleError title = none) :
    Ends deps taskTitle (fun _ => Concluded) raised (commitOutput deps context title text) w := by
  refine finishes_bind _ (commit_artifact_ends fits) (fun committed u _ => ?_)
  refine finishes_bind (fun _ _ => True) ?_ (fun _ _ _ => finishes_bind _ (stage_ends) (fun _ _ _ => ?_))
  · cases committed.2 with
    | true => exact finishes_weaken (stage_ends) (fun _ _ _ => trivial) (fun _ _ thrown => thrown)
    | false => exact finishes_pure _ _ trivial
  refine finishes_bind _ commit_ends (fun _ _ _ => finishes_bind _ (stage_ends) (fun _ _ first => ?_))
  refine finishes_bind _ (stage_ends) (fun _ _ second => finishes_bind _ (stage_ends) (fun _ _ third => ?_))
  refine finishes_weaken (stage_ends) ?_ (fun _ _ thrown => thrown)
  rintro _ u rfl
  subst third second first
  exact .inl rfl

theorem reject_output_ends (fits : titleError (taskTitle ++ " (invalid output)") = none) :
    Ends deps taskTitle (fun _ => Concluded) raised (rejectOutput deps context taskTitle text error) w :=
  finishes_bind _ (commit_artifact_ends fits) (fun _ _ _ => fail_ends)

theorem validate_ends {text : String} (digestible : Digestible deps taskTitle text) :
    Ends deps taskTitle (fun parsed u => parsed = deps.validateMissionOutput text ∧ u = w) raised
      (validateMissionOutput deps text) w := by
  unfold validateMissionOutput
  rw [digestible.validates]
  exact finishes_pure _ _ ⟨rfl, rfl⟩

theorem after_repair_ends (digested : Digested deps taskTitle result w) :
    Ends deps taskTitle (fun _ => Concluded) raised (afterRepair deps context taskTitle result) w := by
  obtain ⟨digestible, rows, holds, _⟩ := digested
  refine finishes_bind _ (ends_notes (commit_completed_notes fed_notes) holds) (fun _ _ _ => ?_)
  refine finishes_bind _ (validate_ends digestible) ?_
  rintro parsed u ⟨rfl, rfl⟩
  cases parsed : deps.validateMissionOutput result.outputText with
  | ok title => exact commit_output_ends (digestible.output title parsed)
  | error error => exact reject_output_ends (digestible.rejected error parsed)

theorem repair_ends (holds : Rows rows w) (numbered : Numbered rows) :
    Ends deps taskTitle (fun _ => Concluded) raised (repair ⟨deps, usageProvider⟩ context taskTitle error) w := by
  refine finishes_bind _ (ends_notes (publish_notes fed_notes) holds) (fun _ u kept => ?_)
  refine finishes_bind (Proceeds deps taskTitle) (finishes_catch Handles ?_ ?_) (fun result v after => ?_)
  · exact finishes_map (execute_ends kept numbered)
  · exact fun failure v handles => fail_repair_ends handles.1
  · cases result with
    | none => exact finishes_pure _ _ after
    | some result => exact after_repair_ends after

theorem after_model_ends (digested : Digested deps taskTitle result w) :
    Ends deps taskTitle (fun _ => Concluded) raised (afterModel ⟨deps, usageProvider⟩ context taskTitle result) w := by
  obtain ⟨digestible, rows, holds, numbered⟩ := digested
  refine finishes_bind _ (ends_notes (publish_completed_notes fed_notes) holds) (fun _ _ first => ?_)
  refine finishes_bind _ (ends_notes (publish_notes fed_notes) first) (fun _ _ second => ?_)
  refine finishes_bind _ (ends_notes (commit_notes fed_notes) second) (fun _ _ third => ?_)
  refine finishes_bind _ (validate_ends digestible) ?_
  rintro parsed u ⟨rfl, rfl⟩
  cases parsed : deps.validateMissionOutput result.outputText with
  | ok title => exact commit_output_ends (digestible.output title parsed)
  | error error => exact repair_ends third numbered

theorem run_model_ends (holds : Rows rows w) (numbered : Numbered rows)
    (resumes : ∀ checkpoint, latestCheckpoint rows = some checkpoint → Resumes deps taskTitle checkpoint.state) :
    Ends deps taskTitle (Digested deps taskTitle) Handles (runModel ⟨deps, usageProvider⟩ context (latestCheckpoint rows)) w := by
  cases latest : latestCheckpoint rows with
  | none =>
      exact finishes_bind _ (ends_notes (publish_notes fed_notes) holds)
        (fun _ _ kept => execute_ends kept numbered)
  | some checkpoint =>
      refine finishes_bind _ (ends_notes (publish_notes fed_notes) holds) (fun _ _ first => ?_)
      exact finishes_bind _ (ends_notes (announce_resume_notes fed_notes) first)
        (fun _ _ second => resume_ends second numbered latest (resumes checkpoint latest))

end

-- A task an attempt can be begun on: nothing but what earlier attempts stored, and no
-- stored text that the schema would refuse.
structure Attemptable (deps : EngineDeps) (w : World) : Prop where
  clean : w.session = w.committed
  numbered : Numbered w.committed.checkpoints
  resumes : ∀ checkpoint, latestCheckpoint w.committed.checkpoints = some checkpoint →
    Resumes deps w.committed.task.title checkpoint.state

theorem execute_task_ends {raised : Failure → World → Prop} {deps : EngineDeps} {w : World} (agent : AgentEnv)
    (attemptable : Attemptable deps w) :
    Ends deps w.committed.task.title (fun _ => Concluded) raised (executeTask deps (some agent)) w := by
  have holds : Rows w.committed.checkpoints w := ⟨congrArg TaskDb.checkpoints attemptable.clean, rfl⟩
  have title : w.session.task.title = w.committed.task.title := congrArg (fun db => db.task.title) attemptable.clean
  refine finishes_bind (fun _ u => u = w) (ends_perform (fun _ _ => rfl)) ?_
  rintro startedAt u rfl
  refine finishes_bind (fun db v => db = u.session ∧ v = u) (ends_perform (fun _ _ => ⟨rfl, rfl⟩)) ?_
  rintro db v ⟨rfl, rfl⟩
  refine finishes_bind _ (ends_notes (announce_start_notes fed_notes) holds) (fun _ x kept => ?_)
  refine finishes_bind (Proceeds deps v.committed.task.title) (finishes_catch Handles ?_ ?_) (fun result y after => ?_)
  · rw [holds.session]
    exact finishes_map (run_model_ends kept attemptable.numbered attemptable.resumes)
  · exact fun failure y handles => fail_model_ends handles.1
  · cases result with
    | none => exact finishes_pure _ _ after
    | some result =>
        rw [title]
        exact after_model_ends after

namespace Sample

-- Every operation succeeds and every answer is `text`.
def ending (deps : EngineDeps) (db : TaskDb) (text : String) : Option (Except Failure Unit) × TaskStatus :=
  let ended := machine.drive 0 (quietChoices 40 (replies text)) (executeAndCommit deps (some agent)).run (startWorld db)
  (ended.1.done, ended.2.committed.task.status)

def letters (count : Nat) : String := String.ofList (List.replicate count 'a')

def longTitled : EngineDeps := { deps with validateMissionOutput := fun _ => .ok (letters 256) }

end Sample

end AiWorld.Executor
