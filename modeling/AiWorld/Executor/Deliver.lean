import AiWorld.Executor.OutputRun

set_option autoImplicit false

namespace AiWorld.Executor

open AiWorld.Concurrency AiWorld.Gateway ArtifactService

variable {change : TaskDb → TaskDb} {context : RunContext} {text title : String}

-- What the session must meet for its final commit.
structure Committable (deps : EngineDeps) (w : World) : Prop where
  delivery : Delivery deps w.objects w.session
  checkpoints : w.session.checkpoints = w.committed.checkpoints
  artifacts : ∀ artifact ∈ w.committed.artifacts, artifact ∈ w.session.artifacts

-- A staged write that touches neither checkpoints nor artifacts.
structure Plain (change : TaskDb → TaskDb) : Prop where
  checkpoints : ∀ db, (change db).checkpoints = db.checkpoints
  artifacts : ∀ db, (change db).artifacts = db.artifacts

def Finished (db : TaskDb) : Prop :=
  db.task.status = .completed → ∃ artifact ∈ db.artifacts, isOutput artifact = true ∧
    db.task.outputArtifactId = some artifact.id

section
variable {deps : EngineDeps} {w : World}

theorem consistent_committable (inv : Delivered deps w) (consistent : Consistent w) : Committable deps w := by
  refine ⟨⟨?_, ?_, ?_, consistent.completed⟩, consistent.checkpoints, ?_⟩
  · rw [consistent.artifacts]; exact inv.slots
  · rw [consistent.artifacts]
    intro artifact present output
    obtain ⟨text, answered, holds⟩ := inv.outputs artifact present output
    exact ⟨text, answered_same consistent.checkpoints answered, holds⟩
  · rw [consistent.artifacts]; exact inv.single
  · rw [consistent.artifacts]; exact fun _ present => present

theorem committable_commits (committable : Committable deps w) :
    Moves (Delivered deps) (Settles deps) w (w.commits []) ∧ Consistent (w.commits []) := by
  refine ⟨⟨committable.delivery, committable.artifacts, ?_, ?_⟩, rfl, rfl, committable.delivery.completed⟩
  · exact fun text answered => answered_same committable.checkpoints answered
  · intro text _
    simp [sentCount, World.commits]

theorem committable_stages {change : TaskDb → TaskDb} (committable : Committable deps w) (plain : Plain change)
    (finished : Finished (change w.session)) : Committable deps (w.stages change) := by
  have delivery := committable.delivery
  have artifacts : (w.stages change).session.artifacts = w.session.artifacts := plain.artifacts w.session
  have checkpoints : (w.stages change).session.checkpoints = w.session.checkpoints := plain.checkpoints w.session
  refine ⟨⟨?_, ?_, ?_, finished⟩, checkpoints.trans committable.checkpoints, ?_⟩
  · rw [artifacts]; exact delivery.slots
  · rw [artifacts]
    intro artifact present output
    obtain ⟨text, answered, holds⟩ := delivery.outputs artifact present output
    exact ⟨text, answered_same checkpoints answered, holds⟩
  · rw [artifacts]; exact delivery.single
  · rw [artifacts]; exact committable.artifacts

theorem consistent_stages {change : TaskDb → TaskDb} (consistent : Consistent w) (plain : Plain change)
    (finished : Finished (change w.session)) : Consistent (w.stages change) :=
  ⟨(plain.checkpoints _).trans consistent.checkpoints, (plain.artifacts _).trans consistent.artifacts, finished⟩

theorem set_task_status_plain (status : TaskStatus) : Plain (setTaskStatus status) := ⟨fun _ => rfl, fun _ => rfl⟩

theorem set_mission_status_plain (status : MissionStatus) : Plain (setMissionStatus status) := ⟨fun _ => rfl, fun _ => rfl⟩

theorem not_completed_finished {status : TaskStatus} (other : status ≠ .completed) (db : TaskDb) :
    Finished (setTaskStatus status db) := fun same => absurd same other

theorem append_events_plain (events : List AuditEvent) : Plain (appendEvents events) := ⟨fun _ => rfl, fun _ => rfl⟩

variable {eventType : EventType} {raised : Failure → World → Prop} {artifactType : ArtifactType} {mimeType : String}

theorem publish_output (assertion : World → Prop) (data : List (String × String))
    (kept : ∀ w events, assertion w → assertion (w.stages (appendEvents events))) :
    Outputs deps assertion (publish eventType data) (fun _ => assertion) raised :=
  raises_stage _ (fun w holds inv => ⟨outputs_moves_same inv rfl rfl rfl, kept w _ holds⟩)

theorem stage_committable (plain : Plain change) (finished : ∀ db, Finished db → Finished (change db)) :
    Outputs deps (Committable deps) (stage change) (fun _ => Committable deps) raised :=
  raises_stage _ (fun _ committable inv => ⟨outputs_moves_same inv rfl rfl rfl,
    committable_stages committable plain (finished _ committable.delivery.completed)⟩)

theorem announce_committable {data : List (String × String)} :
    Outputs deps (Committable deps) (publish eventType data) (fun _ => Committable deps) raised :=
  publish_output _ _ (fun _ _ committable =>
    committable_stages committable (append_events_plain _) committable.delivery.completed)

theorem fail_output {pre : World → Prop} (ready : ∀ w, pre w → Delivered deps w → Committable deps w) {reason : String} :
    Outputs deps pre (fail reason) (fun _ => Committable deps) raised := by
  unfold fail
  refine raises_bind (fun _ => Committable deps) (raises_stage _ ?_) (fun _ => ?_)
  · intro w holds inv
    exact ⟨outputs_moves_same inv rfl rfl rfl, committable_stages (ready w holds inv) (set_task_status_plain _)
      (not_completed_finished (by decide) w.session)⟩
  refine raises_bind _ (announce_committable) (fun _ => ?_)
  exact raises_bind _ (stage_committable (set_mission_status_plain _) (fun _ finished => finished))
    (fun _ => announce_committable)

-- What an artifact of this type may be committed for.
def Purpose (deps : EngineDeps) (text : String) (db : TaskDb) : ArtifactType → Prop
  | .missionOutput => Answered deps text db
  | .rawModelResponse => ∀ other, ¬ Answered deps other db

theorem find_committed_some {artifacts : List Artifact} {slot : String} {artifact : Artifact}
    (found : findCommitted artifacts artifactType slot = some artifact) :
    artifact ∈ artifacts ∧ artifact.artifactType = artifactType := by
  have matching := List.find?_some found
  simp only [decide_eq_true_eq] at matching
  exact ⟨List.mem_of_find?_eq_some found, matching.1⟩

theorem find_committed_none {artifacts : List Artifact}
    (slots : ∀ artifact ∈ artifacts, artifact.logicalOutputSlot = primarySlot)
    (missing : findCommitted artifacts artifactType primarySlot = none) :
    ∀ artifact ∈ artifacts, artifact.artifactType ≠ artifactType := by
  intro artifact present same
  have differs := List.find?_eq_none.mp missing artifact present
  simp [same, slots artifact present] at differs

theorem no_output_yet {text : String} (inv : Delivered deps w) (consistent : Consistent w)
    (purpose : Purpose deps text w.committed artifactType)
    (missing : findCommitted w.session.artifacts artifactType primarySlot = none) :
    ∀ artifact ∈ w.committed.artifacts, isOutput artifact = false := by
  cases artifactType with
  | missionOutput =>
      rw [consistent.artifacts] at missing
      intro artifact present
      simpa [isOutput] using find_committed_none inv.slots missing artifact present
  | rawModelResponse => exact no_output_unanswered inv purpose

-- The artifact of a purpose, staged next to the ones already there.
structure Staged (deps : EngineDeps) (artifactType : ArtifactType) (artifact : Artifact) (w : World) : Prop where
  committable : Committable deps w
  present : artifact ∈ w.session.artifacts
  typed : artifact.artifactType = artifactType

theorem insert_committable {text : String} (artifact : Artifact) (inv : Delivered deps w) (consistent : Consistent w)
    (purpose : Purpose deps text w.committed artifact.artifactType)
    (none : ∀ other ∈ w.committed.artifacts, isOutput other = false)
    (slot : artifact.logicalOutputSlot = primarySlot) (holds : Holds deps w.objects artifact text) :
    Staged deps artifact.artifactType artifact
      (w.stages (fun db => { db with artifacts := db.artifacts ++ [artifact] })) := by
  have before := consistent_committable inv consistent
  have earlier : ∀ other ∈ w.session.artifacts, isOutput other = false := by
    rw [consistent.artifacts]
    exact none
  have filtered : w.session.artifacts.filter isOutput = [] := by
    rw [List.filter_eq_nil_iff]
    intro other present
    simp [earlier other present]
  refine ⟨⟨⟨?_, ?_, ?_, ?_⟩, before.checkpoints, ?_⟩, by simp [World.stages], rfl⟩
  · intro other present
    rcases List.mem_append.mp present with old | added
    · exact before.delivery.slots other old
    · obtain rfl := List.mem_singleton.mp added
      exact slot
  · intro other present output
    rcases List.mem_append.mp present with old | added
    · exact absurd output (by simp [earlier other old])
    · obtain rfl := List.mem_singleton.mp added
      have typed : other.artifactType = .missionOutput := by simpa [isOutput] using output
      rw [typed] at purpose
      exact ⟨text, answered_same consistent.checkpoints purpose, holds⟩
  · simp only [World.stages, List.filter_append, filtered, List.nil_append]
    exact List.length_filter_le _ _
  · intro completed
    obtain ⟨other, present, output, same⟩ := before.delivery.completed completed
    exact ⟨other, List.mem_append_left _ present, output, same⟩
  · intro other present
    exact List.mem_append_left _ (before.artifacts other present)

-- The content is in the object store and no output is committed.
structure Uploaded (deps : EngineDeps) (context : RunContext) (artifactType : ArtifactType) (text : String) (w : World) :
    Prop where
  consistent : Consistent w
  purpose : Purpose deps text w.committed artifactType
  none : ∀ other ∈ w.committed.artifacts, isOutput other = false
  stored : w.objects.lookup (storageKey context artifactType primarySlot (deps.modelGateway.sha256Hex text)) = some text

theorem insert_artifact_output {id : Nat} :
    Outputs deps (Uploaded deps context artifactType text)
      (insertArtifact (uploadedArtifact deps context artifactType title text mimeType id))
      (fun committed => Staged deps artifactType committed.1) (fun _ _ => True) := by
  unfold insertArtifact
  refine raises_bind (fun db w => db = w.session ∧ Uploaded deps context artifactType text w ∧ Committable deps w)
    (view_output (fun w uploaded inv => ⟨rfl, uploaded, consistent_committable inv uploaded.consistent⟩)) (fun seen => ?_)
  split
  · exact raises_throw _ (fun _ _ => trivial)
  split
  · exact raises_throw _ (fun _ _ => trivial)
  refine raises_bind (fun _ => Staged deps artifactType (uploadedArtifact deps context artifactType title text mimeType id))
    (raises_stage _ ?_) (fun _ => raises_pure _ (fun _ staged => staged))
  intro w holds inv
  obtain ⟨_, uploaded, _⟩ := holds
  exact ⟨outputs_moves_same inv rfl rfl rfl,
    insert_committable (uploadedArtifact deps context artifactType title text mimeType id) inv uploaded.consistent
      uploaded.purpose uploaded.none rfl ⟨rfl, _, rfl, uploaded.stored⟩⟩

theorem commit_artifact_output (context : RunContext) (artifactType : ArtifactType) (text : String) :
    Outputs deps (fun w => Consistent w ∧ Purpose deps text w.committed artifactType)
      (commitArtifact deps context artifactType title text mimeType)
      (fun committed => Staged deps artifactType committed.1) (fun _ _ => True) := by
  unfold commitArtifact uploadAndInsert
  refine raises_bind (fun db w => db = w.session ∧ Consistent w ∧ Purpose deps text w.committed artifactType ∧
    Committable deps w)
    (view_output (fun w holds inv => ⟨rfl, holds.1, holds.2, consistent_committable inv holds.1⟩)) (fun db => ?_)
  cases found : findCommitted db.artifacts artifactType primarySlot with
  | some existing =>
      refine raises_pure _ (fun w holds => ?_)
      obtain ⟨rfl, _, _, committable⟩ := holds
      exact ⟨committable, (find_committed_some found).1, (find_committed_some found).2⟩
  | none =>
      refine raises_bind (fun stored w => stored = true → Uploaded deps context artifactType text w)
        (raises_put ?_ ?_) (fun stored => ?_)
      · intro w answer holds inv
        obtain ⟨rfl, consistent, purpose, _⟩ := holds
        have none := no_output_yet inv consistent purpose found
        exact ⟨outputs_moves_store inv none _ _, fun _ => ⟨⟨consistent.checkpoints, consistent.artifacts,
          consistent.completed⟩, purpose, none, by simp [World.stores]⟩⟩
      · intro w holds inv
        exact ⟨settles_refl deps w, fun impossible => absurd impossible (by decide)⟩
      cases stored with
      | false => exact raises_throw _ (fun _ _ => trivial)
      | true =>
          refine raises_bind (fun _ => Uploaded deps context artifactType text) (raises_newId ?_)
            (fun id => insert_artifact_output)
          intro w holds inv
          have uploaded := holds rfl
          have consistent := uploaded.consistent
          exact ⟨outputs_moves_same inv rfl rfl rfl, ⟨consistent.checkpoints, consistent.artifacts, consistent.completed⟩,
            uploaded.purpose, uploaded.none, uploaded.stored⟩

-- The output's row is staged or committed, and the task points at it.
structure Owned (deps : EngineDeps) (artifact : Artifact) (w : World) : Prop where
  staged : Staged deps .missionOutput artifact w
  owner : w.session.task.outputArtifactId = some artifact.id

theorem staged_events {artifact : Artifact} (staged : Staged deps artifactType artifact w) (events : List AuditEvent) :
    Staged deps artifactType artifact (w.stages (appendEvents events)) :=
  ⟨committable_stages staged.committable (append_events_plain _) staged.committable.delivery.completed, staged.present,
    staged.typed⟩

theorem owned_finished {artifact : Artifact} (owned : Owned deps artifact w) (status : TaskStatus) :
    Finished (setTaskStatus status w.session) :=
  fun _ => ⟨artifact, owned.staged.present, by simp [isOutput, owned.staged.typed], owned.owner⟩

theorem commit_output_output :
    Outputs deps (fun w => Consistent w ∧ Answered deps text w.committed)
      (commitOutput deps context title text) (fun _ => Committable deps) (fun _ _ => True) := by
  unfold commitOutput
  refine raises_bind _ (commit_artifact_output context .missionOutput text) (fun committed => ?_)
  refine raises_bind (fun _ => Staged deps .missionOutput committed.1) ?_ (fun _ => ?_)
  · cases committed.2 with
    | true => exact publish_output (Staged deps .missionOutput committed.1) _ (fun _ events staged => staged_events staged events)
    | false => exact raises_pure _ (fun _ staged => staged)
  refine raises_bind (fun _ => Owned deps committed.1) (raises_stage _ ?_) (fun _ => ?_)
  · intro w staged inv
    have output : isOutput committed.1 = true := by simp [isOutput, staged.typed]
    exact ⟨outputs_moves_same inv rfl rfl rfl, ⟨committable_stages staged.committable ⟨fun _ => rfl, fun _ => rfl⟩
      (fun _ => ⟨committed.1, staged.present, output, rfl⟩), staged.present, staged.typed⟩, rfl⟩
  refine raises_bind (fun _ => Owned deps committed.1) (raises_commit ?_ ?_) (fun _ => ?_)
  · intro w owned inv
    obtain ⟨moved, consistent⟩ := committable_commits owned.staged.committable
    exact ⟨moved, ⟨⟨consistent_committable moved.1 consistent, owned.staged.present, owned.staged.typed⟩, owned.owner⟩, trivial⟩
  · intro w _ inv
    exact ⟨outputs_moves_same inv rfl rfl rfl, trivial⟩
  refine raises_bind (fun _ => Committable deps) (raises_stage _ ?_) (fun _ => ?_)
  · intro w owned inv
    exact ⟨outputs_moves_same inv rfl rfl rfl,
      committable_stages owned.staged.committable (set_task_status_plain _) (owned_finished owned .completed)⟩
  refine raises_bind _ (announce_committable) (fun _ => ?_)
  exact raises_bind _ (stage_committable (set_mission_status_plain _) (fun _ finished => finished))
    (fun _ => announce_committable)

end

end AiWorld.Executor
