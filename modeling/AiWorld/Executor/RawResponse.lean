import AiWorld.Executor.Bookkeeping
import AiWorld.Executor.ExactlyOnce

set_option autoImplicit false

namespace AiWorld.Executor

open AiWorld.Concurrency AiWorld.Gateway ArtifactService

variable {mimeType taskTitle text title : String} {adapter : DurableAgentRuntimeAdapter} {context : RunContext}
  {rows : List Checkpoint}

def isRaw (artifact : Artifact) : Bool := artifact.artifactType = .rawModelResponse

def rejection (error : String) : AuditEvent :=
  ⟨.taskFailed, [("reason", "Output failed validation even after repair: " ++ error)]⟩

-- What a rejected `text` leaves behind, against the attempt's starting world: the
-- reason, and the raw artifact, which is the earlier one or a new one of this text.
structure Preserves (deps : EngineDeps) (start : World) (artifacts : List Artifact) (objects : List (String × String))
    (text : String) : Prop where
  raw : ∃ artifact ∈ artifacts, isRaw artifact = true
  same : (∀ artifact ∈ artifacts, isRaw artifact = true → Holds deps objects artifact text) ↔
    ∀ artifact ∈ start.committed.artifacts, isRaw artifact = true → Holds deps start.objects artifact text

structure Verdict (deps : EngineDeps) (start : World) (db : TaskDb) (objects : List (String × String)) (text : String) :
    Prop where
  reason : ∃ error, deps.validateMissionOutput text = .error error ∧ rejection error ∈ db.events
  preserves : Preserves deps start db.artifacts objects text

-- A task failed with an answer as its last word was rejected.
def Upholds (deps : EngineDeps) (start : World) (db : TaskDb) (objects : List (String × String)) : Prop :=
  db.task.status = .failed → ∀ text, Answers text db → Verdict deps start db objects text

section
variable {deps : EngineDeps} {start w : World}

abbrev preserving (deps : EngineDeps) (start : World) : Contract machine Unit :=
  contract (fun w => Upholds deps start w.committed w.objects) (fun _ _ => True)

abbrev Upkeeps (deps : EngineDeps) (start : World) {α : Type} (pre : World → Prop) (program : Exec α) (post : α → World → Prop)
    (raised : Failure → World → Prop) : Prop := Raises (preserving deps start) 0 () pre program post raised

theorem preserves_durable : Durable (fun w => Upholds deps start w.committed w.objects) (fun _ _ => True) where
  same := fun w u inv committed objects _ => by
    refine ⟨?_, trivial⟩
    dsimp only
    rw [committed, objects]
    exact inv
  onward := fun _ _ _ _ _ _ _ => trivial

-- The attempt is under way and has touched neither artifacts nor objects.
structure UnderWay (start : World) (rows : List Checkpoint) (w : World) : Prop where
  session : w.session.task.status ≠ .failed
  committed : w.committed.task.status ≠ .failed
  artifacts : w.session.artifacts = start.committed.artifacts
  stored : w.committed.artifacts = start.committed.artifacts
  objects : w.objects = start.objects
  rows : Rows rows w

variable {objects : List (String × String)} {α : Type} {program : Exec α} {error : String}

theorem unfailed_upholds {db : TaskDb} (unfailed : db.task.status ≠ .failed) :
    Upholds deps start db objects := fun failed => absurd failed unfailed

-- Statements that leave the artifacts and the checkpoints alone and fail nothing.
def Noting : Stmt → Prop
  | .stage change => ∀ db, (change db).artifacts = db.artifacts ∧ (change db).checkpoints = db.checkpoints ∧
      (db.task.status ≠ .failed → (change db).task.status ≠ .failed)
  | .putObject _ _ => False
  | _ => True

theorem noting_takes_notes : Scribbles Noting where
  commit := trivial
  refused := fun _ => trivial
  events := fun _ _ => ⟨rfl, rfl, fun same => same⟩
  running := fun _ => ⟨rfl, rfl, fun _ => by simp [setTaskStatus]⟩
  retryCount := fun _ _ => ⟨rfl, rfl, fun same => same⟩

theorem perform_under_way {rows : List Checkpoint} (stmt : Stmt) (choice : Choice) (allowed : Noting stmt)
    (holds : UnderWay start rows w) : UnderWay start rows (perform stmt choice w).2 := by
  have commits (notes : List Event) : UnderWay start rows (w.commits notes) :=
    ⟨holds.session, holds.session, holds.artifacts, holds.artifacts, holds.objects, holds.rows.session, holds.rows.session⟩
  have rolls : UnderWay start rows w.rollsBack :=
    ⟨holds.committed, holds.committed, holds.stored, holds.stored, holds.objects, holds.rows.committed, holds.rows.committed⟩
  have same {u : World} (session : u.session = w.session) (committed : u.committed = w.committed)
      (objects : u.objects = w.objects) : UnderWay start rows u := by
    refine ⟨?_, ?_, ?_, ?_, objects.trans holds.objects, ?_, ?_⟩
    · rw [session]; exact holds.session
    · rw [committed]; exact holds.committed
    · rw [session]; exact holds.artifacts
    · rw [committed]; exact holds.stored
    · rw [session]; exact holds.rows.session
    · rw [committed]; exact holds.rows.committed
  cases stmt with
  | stage change =>
      obtain ⟨artifacts, checkpoints, unfailed⟩ := allowed w.session
      exact ⟨unfailed holds.session, holds.committed, artifacts.trans holds.artifacts, holds.stored, holds.objects,
        checkpoints.trans holds.rows.session, holds.rows.committed⟩
  | commit notes =>
      cases effect : choice.effect with
      | done => simpa only [perform, effect] using commits notes
      | refused => simpa only [perform, effect] using rolls
      | unacknowledged => simpa only [perform, effect] using commits notes
  | rollback => exact rolls
  | putObject key body => exact allowed.elim
  | view => exact holds
  | newId => exact same rfl rfl rfl
  | now => exact holds
  | send attempt number request => exact same rfl rfl rfl
  | beforeCall provider => exact same rfl rfl rfl
  | recordSuccess provider => exact same rfl rfl rfl
  | recordFailure provider => exact same rfl rfl rfl

theorem under_way_raises {post : α → Prop} {rows : List Checkpoint} (confined : Issues Noting post program) :
    Upkeeps deps start (UnderWay start rows) program (fun value w => post value ∧ UnderWay start rows w)
      (fun _ => UnderWay start rows) := by
  refine confined_raises confined (fun stmt choice w allowed holds _ => ?_)
  have after := perform_under_way stmt choice allowed holds
  exact ⟨⟨unfailed_upholds after.committed, trivial⟩, after⟩

-- The latest row of an attempt under way.
def Heard (start : World) (checkpoint : Checkpoint) (w : World) : Prop :=
  ∃ rows, UnderWay start rows w ∧ latestCheckpoint rows = some checkpoint

-- A failure the executor handles comes while a prompt is the latest row.
def Broke (start : World) (failure : Failure) (w : World) : Prop :=
  ∃ rows, UnderWay start rows w ∧
    (failure.handled = true → ∃ checkpoint, latestCheckpoint rows = some checkpoint ∧ checkpoint.state.isPrompt = true)

variable {checkpoint : Checkpoint}

theorem save_heard {pre : World → Prop} {post : Checkpoint → World → Prop}
    (ready : ∀ w, pre w → ∃ rows, UnderWay start rows w ∧ ∀ row ∈ rows, row.sequence < checkpoint.sequence)
    (after : ∀ w, Heard start checkpoint w → post checkpoint w) :
    Upkeeps deps start pre (SqlCheckpointStore.save checkpoint) post (Broke start) := by
  have rolls (w : World) (message : String) (before : pre w) : Broke start (.unexpected message) w.rollsBack := by
    obtain ⟨rows, holds, _⟩ := ready w before
    exact ⟨rows, perform_under_way .rollback {} trivial holds, fun handled => absurd handled Bool.false_ne_true⟩
  refine durable_save preserves_durable (fun w before _ _ => rolls w _ before) ?_
    (fun w message before _ _ => rolls w message before)
  intro w before _ _
  obtain ⟨rows, holds, newer⟩ := ready w before
  have grown : w.session.checkpoints ++ [checkpoint] = rows ++ [checkpoint] := by rw [holds.rows.session]
  have saved : UnderWay start (rows ++ [checkpoint]) (w.saves checkpoint) :=
    ⟨holds.session, holds.session, holds.artifacts, holds.artifacts, holds.objects, grown, grown⟩
  exact ⟨⟨unfailed_upholds saved.committed, trivial⟩, after _ ⟨_, saved, latest_append newer⟩,
    _, saved, fun handled => absurd handled Bool.false_ne_true⟩

theorem gateway_keeps_heard (checkpoint : Checkpoint) :
    GatewayKeeps (fun w => Upholds deps start w.committed w.objects) (fun _ _ => True) (Heard start checkpoint) := by
  have moves {w : World} (stmt : Stmt) (choice : Choice) (allowed : Noting stmt) (heard : Heard start checkpoint w) :
      Moves (fun w => Upholds deps start w.committed w.objects) (fun _ _ => True) w (perform stmt choice w).2 ∧
        Heard start checkpoint (perform stmt choice w).2 := by
    obtain ⟨rows, holds, latest⟩ := heard
    have after := perform_under_way stmt choice allowed holds
    exact ⟨⟨unfailed_upholds after.committed, trivial⟩, rows, after, latest⟩
  constructor
  · exact fun _ => trivial
  · exact fun w heard _ => moves .newId {} trivial heard
  · intro w breaker heard _
    obtain ⟨rows, holds, latest⟩ := heard
    have after : UnderWay start rows (w.breaks breaker) :=
      ⟨holds.session, holds.committed, holds.artifacts, holds.stored, holds.objects, holds.rows.session, holds.rows.committed⟩
    exact ⟨⟨unfailed_upholds after.committed, trivial⟩, rows, after, latest⟩
  · exact fun w rows heard _ => moves (.stage _) {} (fun _ => ⟨rfl, rfl, fun same => same⟩) heard
  · exact fun w notes _ heard _ => moves (.commit notes) {} trivial heard
  · exact fun w heard _ => moves .rollback {} trivial heard
  · exact fun w attempt number request outcome heard _ =>
      moves (.send attempt number request) { outcome := outcome } trivial heard

theorem adapter_heard : AdapterRules (fun w => Upholds deps start w.committed w.objects) (fun _ _ => True) (Heard start)
    (Broke start) where
  durable := preserves_durable
  gateway := fun checkpoint _ => gateway_keeps_heard checkpoint
  fails := fun checkpoint _ _ prompts _ ⟨rows, holds, latest⟩ => ⟨rows, holds, fun _ => ⟨checkpoint, latest, prompts⟩⟩
  answers := by
    intro checkpoint response _
    refine save_heard (fun w heard => ?_) (fun _ heard => ⟨rfl, heard⟩)
    obtain ⟨rows, holds, latest⟩ := heard
    refine ⟨rows, holds, fun row present => ?_⟩
    have below := latest_upper checkpoint latest row present
    change row.sequence < checkpoint.sequence + 1
    omega
  cancelled := fun _ _ _ ⟨rows, holds, _⟩ => ⟨rows, holds, fun handled => absurd handled Bool.false_ne_true⟩

theorem execute_heard :
    Upkeeps deps start (fun w => ∃ rows, UnderWay start rows w) (adapter.execute context)
      (Answering (Heard start)) (Broke start) := by
  refine execute_rule adapter_heard (fun found w => ∃ rows, UnderWay start rows w ∧
    ∀ row ∈ rows, row.sequence < DurableAgentRuntimeAdapter.nextSequence found) (fun w holds _ => ?_)
    (fun found => save_heard (fun _ holds => holds) (fun _ heard => heard))
  obtain ⟨rows, holds⟩ := holds
  rw [holds.rows.session]
  exact ⟨rows, holds, next_newer⟩

-- The session may be committed as it stands.
def Closable (deps : EngineDeps) (start w : World) : Prop := Upholds deps start w.session w.objects

-- A task that fails while the model is asked leaves no answer as its last word.
theorem asking_closable {rows : List Checkpoint} (holds : UnderWay start rows w)
    (latest : latestCheckpoint rows = some checkpoint) (prompts : checkpoint.state.isPrompt = true) (reason : String) :
    Closable deps start (w.stages (failedWith reason)) := by
  intro _ text answers
  obtain ⟨other, provider, model, tokensIn, tokensOut, latency, found, state⟩ := answers
  have listed : latestCheckpoint w.session.checkpoints = some other := found
  rw [holds.rows.session, latest] at listed
  obtain rfl := Option.some.inj listed
  rw [state] at prompts
  cases prompts

variable {failure : Failure}

theorem broke_events (broke : Broke start failure w) (events : List AuditEvent) :
    Broke start failure (w.stages (appendEvents events)) := by
  obtain ⟨rows, holds, asked⟩ := broke
  exact ⟨rows, perform_under_way (.stage _) {} (noting_takes_notes.events events) holds, asked⟩

theorem fail_broke (handled : failure.handled = true) {reason : String} {thrown : Failure → World → Prop} :
    Upkeeps deps start (Broke start failure) (fail reason) (fun _ => Closable deps start) thrown :=
  fail_rule preserves_durable (fun w broke _ => by
    obtain ⟨rows, holds, asked⟩ := broke
    obtain ⟨checkpoint, latest, prompts⟩ := asked handled
    exact asking_closable holds latest prompts reason)

-- Delivering an output fails nothing.
structure Unfailed (w : World) : Prop where
  session : w.session.task.status ≠ .failed
  committed : w.committed.task.status ≠ .failed

def Unfailing : Stmt → Prop
  | .stage change => ∀ db, db.task.status ≠ .failed → (change db).task.status ≠ .failed
  | _ => True

theorem unfailing_delivers : Delivers Unfailing where
  commit := trivial
  refused := fun _ => trivial
  events := fun _ _ same => same
  running := fun _ _ => by simp [setTaskStatus]
  retryCount := fun _ _ same => same
  view := trivial
  newId := trivial
  put := fun _ _ => trivial
  insert := fun _ _ same => same
  owns := fun _ _ same => same
  completes := fun _ _ => by simp [setTaskStatus]
  mission := fun _ _ same => same

theorem perform_unfailed {stmt : Stmt} (choice : Choice) (allowed : Unfailing stmt) (unfailed : Unfailed w) :
    Unfailed (perform stmt choice w).2 := by
  cases stmt with
  | stage change => exact ⟨allowed w.session unfailed.session, unfailed.committed⟩
  | commit notes =>
      cases effect : choice.effect with
      | done => simpa only [perform, effect] using (⟨unfailed.session, unfailed.session⟩ : Unfailed (w.commits notes))
      | refused => simpa only [perform, effect] using (⟨unfailed.committed, unfailed.committed⟩ : Unfailed w.rollsBack)
      | unacknowledged => simpa only [perform, effect] using (⟨unfailed.session, unfailed.session⟩ : Unfailed (w.commits notes))
  | rollback => exact ⟨unfailed.committed, unfailed.committed⟩
  | putObject key body =>
      cases effect : choice.effect with
      | done => simpa only [perform, effect] using (⟨unfailed.session, unfailed.committed⟩ : Unfailed (w.stores key body))
      | refused => simpa only [perform, effect] using unfailed
      | unacknowledged =>
          simpa only [perform, effect] using (⟨unfailed.session, unfailed.committed⟩ : Unfailed (w.stores key body))
  | view => exact unfailed
  | newId => exact ⟨unfailed.session, unfailed.committed⟩
  | now => exact unfailed
  | send attempt number request => exact ⟨unfailed.session, unfailed.committed⟩
  | beforeCall provider => exact ⟨unfailed.session, unfailed.committed⟩
  | recordSuccess provider => exact ⟨unfailed.session, unfailed.committed⟩
  | recordFailure provider => exact ⟨unfailed.session, unfailed.committed⟩

theorem heard_unfailed (heard : Heard start checkpoint w) : Unfailed w := by
  obtain ⟨rows, holds, _⟩ := heard
  exact ⟨holds.session, holds.committed⟩

theorem commit_output_preserves :
    Upkeeps deps start Unfailed (commitOutput deps context title text) (fun _ => Closable deps start)
      (fun _ _ => True) := by
  refine raises_weaken (confined_raises (commit_output_confined unfailing_delivers deps context title text)
    (fun stmt choice w allowed unfailed _ => ?_)) (fun _ unfailed => unfailed)
    (fun _ _ holds => unfailed_upholds holds.2.session) (fun _ _ _ => trivial)
  have after := perform_unfailed choice allowed unfailed
  exact ⟨⟨unfailed_upholds after.committed, trivial⟩, after⟩

-- The text is the latest answer, and the raw artifact is staged.
structure Staging (deps : EngineDeps) (start : World) (text : String) (w : World) : Prop where
  answers : Answers text w.session
  preserves : Preserves deps start w.session.artifacts w.objects text

variable {result : RunResult}

theorem heard_answers (answering : Answering (Heard start) result w) : Answers result.outputText w.session := by
  obtain ⟨⟨provider, model, tokensIn, tokensOut, latency, state⟩, rows, holds, latest⟩ := answering
  refine ⟨_, _, _, _, _, _, ?_, state⟩
  rw [holds.rows.session]
  exact latest

theorem raw_typed {artifacts : List Artifact} (slots : ∀ artifact ∈ artifacts, artifact.logicalOutputSlot = primarySlot)
    (missing : findCommitted artifacts .rawModelResponse primarySlot = none) :
    ∀ artifact ∈ artifacts, isRaw artifact = false := by
  intro artifact present
  simpa [isRaw] using find_committed_none slots missing artifact present

theorem preserves_earlier {artifacts : List Artifact} {text : String} {existing : Artifact}
    (artifactsSame : artifacts = start.committed.artifacts)
    (found : findCommitted artifacts .rawModelResponse primarySlot = some existing) :
    Preserves deps start artifacts start.objects text := by
  obtain ⟨present, typed⟩ := find_committed_some found
  refine ⟨⟨existing, present, by simp [isRaw, typed]⟩, ?_⟩
  rw [artifactsSame]

theorem preserves_new {text : String} {artifact : Artifact} (none : ∀ other ∈ start.committed.artifacts, isRaw other = false)
    (raw : isRaw artifact = true) (holds : Holds deps objects artifact text) :
    Preserves deps start (start.committed.artifacts ++ [artifact]) objects text := by
  refine ⟨⟨artifact, by simp, raw⟩, ?_⟩
  constructor
  · intro _ other present typed
    exact absurd typed (by simp [none other present])
  · intro _ other present typed
    rcases List.mem_append.mp present with old | added
    · exact absurd typed (by simp [none other old])
    · obtain rfl := List.mem_singleton.mp added
      exact holds

-- The text is in the object store and no raw artifact is there yet.
structure Uploading (deps : EngineDeps) (start : World) (context : RunContext) (text : String) (w : World) : Prop where
  unfailed : w.committed.task.status ≠ .failed
  artifacts : w.session.artifacts = start.committed.artifacts
  answers : Answers text w.session
  none : ∀ other ∈ start.committed.artifacts, isRaw other = false
  stored : w.objects.lookup (storageKey context .rawModelResponse primarySlot (deps.modelGateway.sha256Hex text)) = some text

theorem insert_raw_preserves {id : Nat} :
    Upkeeps deps start (Uploading deps start context text)
      (insertArtifact (uploadedArtifact deps context .rawModelResponse title text mimeType id))
      (fun _ => Staging deps start text) (fun _ _ => True) := by
  unfold insertArtifact
  refine raises_bind (fun _ => Uploading deps start context text) (durable_view preserves_durable (fun _ holds _ => holds))
    (fun db => ?_)
  split
  · exact raises_throw _ (fun _ _ => trivial)
  split
  · exact raises_throw _ (fun _ _ => trivial)
  refine raises_bind (fun _ => Staging deps start text) (durable_stage preserves_durable (fun w uploading _ => ?_))
    (fun _ => raises_pure _ (fun _ staging => staging))
  refine ⟨uploading.answers, ?_⟩
  simp only [World.stages, uploading.artifacts]
  exact preserves_new uploading.none rfl ⟨rfl, _, rfl, uploading.stored⟩

theorem commit_raw_preserves (slots : ∀ artifact ∈ start.committed.artifacts, artifact.logicalOutputSlot = primarySlot) :
    Upkeeps deps start (fun w => ∃ rows, UnderWay start rows w ∧ Answers text w.session)
      (commitArtifact deps context .rawModelResponse title text mimeType) (fun _ => Staging deps start text)
      (fun _ _ => True) := by
  unfold commitArtifact uploadAndInsert
  refine raises_bind (fun db w => db = w.session ∧ ∃ rows, UnderWay start rows w ∧ Answers text w.session)
    (durable_view preserves_durable (fun _ holds _ => ⟨rfl, holds⟩)) (fun db => ?_)
  cases found : findCommitted db.artifacts .rawModelResponse primarySlot with
  | some existing =>
      refine raises_pure _ (fun w seen => ?_)
      obtain ⟨rfl, rows, holds, answers⟩ := seen
      refine ⟨answers, ?_⟩
      rw [holds.objects]
      exact preserves_earlier holds.artifacts found
  | none =>
      refine raises_bind (fun stored w => stored = true → Uploading deps start context text w) (raises_put ?_ ?_)
        (fun stored => ?_)
      · rintro w answer ⟨rfl, rows, holds, answers⟩ _
        rw [holds.artifacts] at found
        exact ⟨⟨unfailed_upholds holds.committed, trivial⟩, fun _ => ⟨holds.committed, holds.artifacts, answers,
          raw_typed slots found, by simp [World.stores]⟩⟩
      · exact fun _ _ _ => ⟨trivial, fun impossible => absurd impossible (by decide)⟩
      cases stored with
      | false => exact raises_throw _ (fun _ _ => trivial)
      | true =>
          refine raises_bind (fun _ => Uploading deps start context text) (raises_newId (fun w uploading inv => ?_))
            (fun id => insert_raw_preserves)
          have holds := uploading rfl
          exact ⟨preserves_durable.same w _ inv rfl rfl rfl, holds.unfailed, holds.artifacts, holds.answers, holds.none,
            holds.stored⟩

theorem staging_closable {text : String} (staging : Staging deps start text w)
    (invalid : deps.validateMissionOutput text = .error error) :
    Closable deps start (w.stages (failedWith ("Output failed validation even after repair: " ++ error))) := by
  intro _ other answers
  obtain rfl : text = other := answered_unique staging.answers answers
  exact ⟨⟨error, invalid, by simp [World.stages, failedWith, appendEvents, setMissionStatus, rejection]⟩, staging.preserves⟩

theorem reject_output_preserves (slots : ∀ artifact ∈ start.committed.artifacts, artifact.logicalOutputSlot = primarySlot)
    (invalid : deps.validateMissionOutput text = .error error) :
    Upkeeps deps start (fun w => ∃ rows, UnderWay start rows w ∧ Answers text w.session)
      (rejectOutput deps context taskTitle text error) (fun _ => Closable deps start) (fun _ _ => True) :=
  raises_bind _ (commit_raw_preserves slots)
    (fun _ => fail_rule preserves_durable (fun _ staging _ => staging_closable staging invalid))

theorem answering_keeps (confined : Confined Noting program) :
    Upkeeps deps start (Answering (Heard start) result) program (fun _ => Answering (Heard start) result)
      (fun _ _ => True) := by
  rintro w ⟨state, rows, holds, latest⟩
  refine safe_weaken (fun ending u ended => ?_) program.run w (under_way_raises confined w holds)
  cases ending with
  | ok value => exact ⟨state, rows, ended.2, latest⟩
  | error failure => exact trivial

theorem answering_under_way (answering : Answering (Heard start) result w) :
    ∃ rows, UnderWay start rows w ∧ Answers result.outputText w.session := by
  have answers := heard_answers answering
  obtain ⟨_, rows, holds, _⟩ := answering
  exact ⟨rows, holds, answers⟩

theorem preserves_course (slots : ∀ artifact ∈ start.committed.artifacts, artifact.logicalOutputSlot = primarySlot)
    (adapter : DurableAgentRuntimeAdapter) (context : RunContext) :
    Course (fun w => Upholds adapter.deps start w.committed w.objects) (fun _ _ => True) Noting adapter context
      (fun _ => Answering (Heard start)) (fun w => ∃ rows, UnderWay start rows w) (Closable adapter.deps start) (Broke start)
      (fun _ _ => True) where
  notes := noting_takes_notes
  keeps := fun _ _ _ confined => answering_keeps confined
  refuses := fun _ _ _ _ _ => trivial
  delivers := fun _ _ _ _ => raises_before commit_output_preserves (fun _ answering => heard_unfailed answering.2)
  rejects := fun _ _ _ invalid => raises_before (reject_output_preserves slots invalid) (fun _ => answering_under_way)
  invalid := fun _ _ _ _ answering => (answering_under_way answering).imp (fun _ holds => holds.1)
  asks := fun _ => raises_exists (fun rows => raises_weaken (under_way_raises (publish_notes noting_takes_notes))
    (fun _ holds => holds) (fun _ _ ended => ⟨rows, ended.2⟩) (fun _ _ _ => trivial))
  repairs := fun _ => execute_heard
  reports := fun _ _ _ => durable_stage preserves_durable (fun _ broke _ => broke_events broke _)
  fails := fun _ _ handled => fail_broke handled
  rethrows := fun _ _ _ => trivial

theorem run_model_preserves :
    Upkeeps deps start (UnderWay start rows) (runModel adapter context (latestCheckpoint rows))
      (Answering (Heard start)) (Broke start) := by
  have publishes (eventType : EventType) (data : List (String × String)) :
      Upkeeps deps start (UnderWay start rows) (publish eventType data) (fun _ => UnderWay start rows)
        (Broke start) :=
    durable_stage preserves_durable (fun w holds _ => perform_under_way (.stage _) {} (noting_takes_notes.events _) holds)
  cases found : latestCheckpoint rows with
  | none =>
      exact raises_bind _ (publishes _ _) (fun _ => raises_weaken (execute_heard)
        (fun w holds => ⟨rows, holds⟩) (fun _ _ answering => answering) (fun _ _ broke => broke))
  | some checkpoint =>
      refine raises_bind _ (publishes _ _) (fun _ => ?_)
      refine raises_bind (fun _ => UnderWay start rows) ?_ (fun _ => raises_weaken (resume_rule adapter_heard checkpoint)
        (fun w holds => ⟨rows, holds, found⟩) (fun _ _ answering => answering) (fun _ _ broke => broke))
      unfold announceResume
      split
      · exact publishes _ _
      · exact raises_pure _ (fun _ holds => holds)

theorem execute_task_preserves (slots : ∀ artifact ∈ start.committed.artifacts, artifact.logicalOutputSlot = primarySlot)
    {agent : Option AgentEnv} :
    Upkeeps deps start (UnderWay start rows) (executeTask deps agent) (fun _ => Closable deps start)
      (fun _ _ => True) := by
  unfold executeTask runAttempt
  refine raises_bind (fun _ => UnderWay start rows) (durable_now preserves_durable (fun _ _ holds _ => holds))
    (fun startedAt => ?_)
  refine raises_bind (fun db w => db.checkpoints = rows ∧ UnderWay start rows w)
    (durable_view preserves_durable (fun _ holds _ => ⟨holds.rows.session, holds⟩)) (fun db => ?_)
  cases agent with
  | none => exact raises_throw _ (fun _ _ => trivial)
  | some agent =>
      rintro w ⟨rfl, holds⟩
      refine raises_bind (fun _ => UnderWay start db.checkpoints) (raises_weaken
        (under_way_raises (announce_start_notes noting_takes_notes)) (fun _ holds => holds)
        (fun _ _ ended => ended.2) (fun _ _ _ => trivial)) (fun _ => ?_) w holds
      exact course_closes (preserves_course slots ⟨deps, _⟩ _) run_model_preserves

theorem process_task_preserves (slots : ∀ artifact ∈ start.committed.artifacts, artifact.logicalOutputSlot = primarySlot)
    (unfailed : start.committed.task.status ≠ .failed) (same : start.session = start.committed) (agent : Option AgentEnv) :
    Upkeeps deps start (fun w => w = start) (processTask deps agent) (fun _ _ => True) (fun _ _ => True) := by
  unfold processTask executeAndCommit
  refine raises_bind (fun _ => UnderWay start start.committed.checkpoints)
    (durable_view preserves_durable (fun w begins _ => ?_)) (fun db => ?_)
  · subst begins
    exact ⟨by rw [same]; exact unfailed, unfailed, by rw [same], rfl, rfl, by rw [same], rfl⟩
  split
  · refine raises_bind (fun _ _ => True) (raises_catch (fun _ _ => True) ?_
      (fun _ => durable_rollback preserves_durable (fun _ _ _ => trivial))) (fun _ => raises_pure _ (fun _ _ => trivial))
    exact raises_bind _ (execute_task_preserves slots) (fun _ => durable_commit preserves_durable
      (fun w closable _ => ⟨⟨closable, trivial⟩, trivial, trivial⟩) (fun _ _ _ => trivial))
  · exact raises_pure _ (fun _ _ => trivial)

end

-- The attempt from `w` to `u` failed the task, and the model's last word was `text`.
structure FailsAnswered (w u : World) (text : String) : Prop where
  before : w.committed.task.status ≠ .failed
  after : u.committed.task.status = .failed
  answers : Answers text u.committed

theorem raw_response_preserved_iff (deps : EngineDeps) (db : TaskDb) (fresh : Fresh db) (labels : List TaskLabel) (w u : World)
    (run : Runs (taskStep deps) Anything (startWorld db) labels w) (agent : Option AgentEnv) (breaker : CircuitBreaker)
    (choices : List Choice) (attempted : taskStep deps w (.attempt agent breaker choices) = some u) (text : String)
    (fails : FailsAnswered w u text) :
    (∃ error, deps.validateMissionOutput text = .error error ∧ rejection error ∈ u.committed.events) ∧
    (∃ artifact ∈ u.committed.artifacts, isRaw artifact = true) ∧
    ((∀ artifact ∈ u.committed.artifacts, isRaw artifact = true → Holds deps u.objects artifact text) ↔
      ∀ artifact ∈ w.committed.artifacts, isRaw artifact = true → Holds deps w.objects artifact text) := by
  have delivered : Delivered deps w := runs_invariant (Delivered deps)
    (fun s t label holds _ stepped => (task_step_output s t label holds stepped).1) run (start_output deps db fresh)
  obtain rfl := Option.some.inj attempted
  have begins : Upholds deps (w.rollsBack.breaks breaker) w.committed w.objects := unfailed_upholds fails.before
  have slots : ∀ artifact ∈ (w.rollsBack.breaks breaker).committed.artifacts, artifact.logicalOutputSlot = primarySlot :=
    delivered.slots
  have walk : Raises (preserving deps (w.rollsBack.breaks breaker)) 0 () (fun v => v = w.rollsBack.breaks breaker)
      (processTask deps agent) (fun _ _ => True) (fun _ _ => True) := process_task_preserves slots fails.before rfl agent
  have upholds := (drive_safe (fun _ => trivial) (fun _ _ _ _ _ => trivial) 0 choices _ (w.rollsBack.breaks breaker) begins
    (walk _ rfl)).1
  have verdict := upholds fails.after text fails.answers
  exact ⟨verdict.reason, verdict.preserves.raw, verdict.preserves.same⟩

def lastAnswer (db : TaskDb) : Option String :=
  match latestCheckpoint db.checkpoints with
  | some ⟨_, .modelResponded text _ _ _ _ _⟩ => some text
  | _ => none

theorem last_answer_answers {db : TaskDb} (last : lastAnswer db = some text) : Answers text db := by
  unfold lastAnswer at last
  split at last
  · rename_i sequence answer provider model tokensIn tokensOut latency latest
    obtain rfl := Option.some.inj last
    exact ⟨_, provider, model, tokensIn, tokensOut, latency, latest, rfl⟩
  · cases last

def Sample.replies (text : String) : ProviderOutcome := .response ⟨text, 5, 7, 20, "openai", "gpt-4o", false⟩

def Sample.attemptSaying (text : String) : TaskLabel :=
  .attempt (some Sample.agent) {} (Sample.quietChoices 90 (Sample.replies text))

-- The attempt from `w` fails on `text`, with a raw artifact that has, or has not, its hash.
def Sample.failsOn (text : String) (kept : Bool) (w : World) : Bool :=
  decide (w.committed.task.status ≠ .failed) && (taskStep Sample.deps w (Sample.attemptSaying text)).any (fun u =>
    decide (u.committed.task.status = .failed) && decide (lastAnswer u.committed = some text) &&
      u.committed.artifacts.any (fun artifact => isRaw artifact && (decide (artifact.contentHash = text) == kept)))

theorem Sample.fails_on {text : String} {kept : Bool} {w : World} (shown : Sample.failsOn text kept w = true) :
    ∃ u, taskStep Sample.deps w (Sample.attemptSaying text) = some u ∧ FailsAnswered w u text ∧
      ∃ artifact ∈ u.committed.artifacts, isRaw artifact = true ∧ (artifact.contentHash = text ↔ kept = true) := by
  unfold Sample.failsOn at shown
  simp only [Bool.and_eq_true, decide_eq_true_eq, Option.any_eq_true, List.any_eq_true, beq_iff_eq] at shown
  obtain ⟨before, u, stepped, ⟨after, last⟩, artifact, present, raw, same⟩ := shown
  refine ⟨u, stepped, ⟨before, after, last_answer_answers last⟩, artifact, present, raw, ?_⟩
  rw [← same, decide_eq_true_iff]

-- A first rejection keeps its text.
theorem first_rejection_preserved :
    ∃ (u : World) (artifact : Artifact), artifact ∈ u.committed.artifacts ∧ isRaw artifact = true ∧
      Holds Sample.deps u.objects artifact "garbage" := by
  obtain ⟨w, run, shown⟩ := runs_exhibit (taskStep Sample.deps) (Sample.failsOn "garbage" true) (startWorld Sample.db) []
    (by decide +kernel)
  have none : ∀ artifact ∈ w.committed.artifacts, isRaw artifact = true → Holds Sample.deps w.objects artifact "garbage" := by
    cases run
    simp [startWorld, Sample.db]
  obtain ⟨u, stepped, fails, _⟩ := Sample.fails_on shown
  obtain ⟨_, ⟨artifact, present, raw⟩, preserved⟩ := raw_response_preserved_iff Sample.deps Sample.db ⟨rfl, rfl, rfl, rfl, rfl⟩ []
    w u run _ _ _ stepped "garbage" fails
  exact ⟨u, artifact, present, raw, preserved.mpr none artifact present raw⟩

-- After an operator's retry the second rejection finds the artifact of the first.
theorem second_rejection_lost :
    Fresh Sample.db ∧ ∃ w u : World, Runs (taskStep Sample.deps) Anything (startWorld Sample.db)
      [Sample.attemptSaying "garbage", .retry] w ∧ taskStep Sample.deps w (Sample.attemptSaying "rubbish") = some u ∧
      FailsAnswered w u "rubbish" ∧
      ∃ artifact ∈ u.committed.artifacts, isRaw artifact = true ∧ ¬ Holds Sample.deps u.objects artifact "rubbish" := by
  refine ⟨⟨rfl, rfl, rfl, rfl, rfl⟩, ?_⟩
  obtain ⟨w, run, shown⟩ := runs_exhibit (taskStep Sample.deps) (Sample.failsOn "rubbish" false) (startWorld Sample.db)
    [Sample.attemptSaying "garbage", .retry] (by decide +kernel)
  obtain ⟨u, stepped, fails, artifact, present, raw, differs⟩ := Sample.fails_on shown
  exact ⟨w, u, run, stepped, fails, artifact, present, raw, fun holds => absurd (differs.mp holds.hash) (by decide)⟩

end AiWorld.Executor
