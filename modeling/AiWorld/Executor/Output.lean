import AiWorld.Executor.Attempts
import AiWorld.Executor.Rules

set_option autoImplicit false

namespace AiWorld.Executor

open AiWorld.Concurrency AiWorld.Gateway ArtifactService

-- The model has answered with `text`, and nothing was asked after that.
def Answers (text : String) (db : TaskDb) : Prop :=
  ∃ checkpoint provider model tokensIn tokensOut latency, latestCheckpoint db.checkpoints = some checkpoint ∧
    checkpoint.state = .modelResponded text provider model tokensIn tokensOut latency

def Answered (deps : EngineDeps) (text : String) (db : TaskDb) : Prop :=
  Answers text db ∧ ∃ title, deps.validateMissionOutput text = .ok title

def isOutput (artifact : Artifact) : Bool := artifact.artifactType = .missionOutput

structure Holds (deps : EngineDeps) (objects : List (String × String)) (artifact : Artifact) (text : String) : Prop where
  hash : artifact.contentHash = deps.modelGateway.sha256Hex text
  body : ∃ key, artifact.storageUri = storageUri deps key ∧ objects.lookup key = some text

structure Delivery (deps : EngineDeps) (objects : List (String × String)) (db : TaskDb) : Prop where
  slots : ∀ artifact ∈ db.artifacts, artifact.logicalOutputSlot = primarySlot
  outputs : ∀ artifact ∈ db.artifacts, isOutput artifact = true →
    ∃ text, Answered deps text db ∧ Holds deps objects artifact text
  single : (db.artifacts.filter isOutput).length ≤ 1
  completed : db.task.status = .completed →
    ∃ artifact ∈ db.artifacts, isOutput artifact = true ∧ db.task.outputArtifactId = some artifact.id

def Delivered (deps : EngineDeps) (w : World) : Prop := Delivery deps w.objects w.committed

-- Nothing committed is lost, and no request is sent once a valid answer is committed.
structure Settles (deps : EngineDeps) (before after : World) : Prop where
  artifacts : ∀ artifact ∈ before.committed.artifacts, artifact ∈ after.committed.artifacts
  answered : ∀ text, Answered deps text before.committed → Answered deps text after.committed
  silent : ∀ text, Answered deps text before.committed → sentCount after.trace = sentCount before.trace

theorem settles_refl (deps : EngineDeps) (w : World) : Settles deps w w :=
  ⟨fun _ present => present, fun _ answered => answered, fun _ _ => rfl⟩

theorem settles_trans (deps : EngineDeps) (w u v : World) (first : Settles deps w u) (second : Settles deps u v) :
    Settles deps w v where
  artifacts := fun artifact present => second.artifacts artifact (first.artifacts artifact present)
  answered := fun text answered => second.answered text (first.answered text answered)
  silent := fun text answered => (second.silent text (first.answered text answered)).trans (first.silent text answered)

abbrev outputting (deps : EngineDeps) : Contract machine Unit := contract (Delivered deps) (Settles deps)

abbrev Outputs (deps : EngineDeps) {α : Type} (pre : World → Prop) (program : Exec α) (post : α → World → Prop)
    (raised : Failure → World → Prop) : Prop := Raises (outputting deps) 0 () pre program post raised

-- The session agrees with the database on what the output rests on.
structure Consistent (w : World) : Prop where
  checkpoints : w.session.checkpoints = w.committed.checkpoints
  artifacts : w.session.artifacts = w.committed.artifacts
  completed : w.session.task.status = .completed →
    ∃ artifact ∈ w.session.artifacts, isOutput artifact = true ∧ w.session.task.outputArtifactId = some artifact.id

def Unanswered (deps : EngineDeps) (w : World) : Prop := ∀ text, ¬ Answered deps text w.committed

section
variable {deps : EngineDeps} {w u : World}
variable {text : String} {db : TaskDb}

theorem answered_same {other : TaskDb} (same : other.checkpoints = db.checkpoints) (answered : Answered deps text db) :
    Answered deps text other := by
  unfold Answered Answers at answered ⊢
  rw [same]
  exact answered

theorem answered_unique {other : String} (one : Answers text db) (two : Answers other db) : text = other := by
  obtain ⟨checkpoint, _, _, _, _, _, found, state⟩ := one
  obtain ⟨again, _, _, _, _, _, foundAgain, stateAgain⟩ := two
  obtain rfl : checkpoint = again := Option.some.inj (found.symm.trans foundAgain)
  exact (CheckpointState.modelResponded.inj (state.symm.trans stateAgain)).1

theorem outputs_moves_same (inv : Delivered deps w) (committed : u.committed = w.committed) (objects : u.objects = w.objects)
    (trace : u.trace = w.trace) : Moves (Delivered deps) (Settles deps) w u := by
  refine ⟨?_, ?_, ?_, ?_⟩
  · unfold Delivered
    rw [committed, objects]
    exact inv
  · rw [committed]; exact fun _ present => present
  · rw [committed]; exact fun _ answered => answered
  · rw [trace]; exact fun _ _ => rfl

-- A commit whose notes start no request.
theorem outputs_moves_commit (inv : Delivered deps w) (consistent : Consistent w) {notes : List Event}
    (quiet : sentCount notes = 0) : Moves (Delivered deps) (Settles deps) w (w.commits notes) := by
  have checkpoints : (w.commits notes).committed.checkpoints = w.committed.checkpoints := consistent.checkpoints
  have artifacts : (w.commits notes).committed.artifacts = w.committed.artifacts := consistent.artifacts
  refine ⟨⟨?_, ?_, ?_, consistent.completed⟩, ?_, ?_, ?_⟩
  · rw [artifacts]; exact inv.slots
  · rw [artifacts]
    intro artifact present output
    obtain ⟨text, answered, holds⟩ := inv.outputs artifact present output
    exact ⟨text, answered_same checkpoints answered, holds⟩
  · rw [artifacts]; exact inv.single
  · rw [artifacts]; exact fun _ present => present
  · exact fun text answered => answered_same checkpoints answered
  · intro text _
    have silent : List.countP isSend notes = 0 := quiet
    simp [sentCount, World.commits, List.countP_append, silent]

theorem consistent_commits (consistent : Consistent w) (notes : List Event) : Consistent (w.commits notes) :=
  ⟨rfl, rfl, consistent.completed⟩

theorem consistent_rollsBack (inv : Delivered deps w) : Consistent w.rollsBack := ⟨rfl, rfl, inv.completed⟩

theorem no_output_unanswered (inv : Delivered deps w) (unanswered : Unanswered deps w) :
    ∀ artifact ∈ w.committed.artifacts, isOutput artifact = false := by
  intro artifact present
  by_contra output
  obtain ⟨text, answered, _⟩ := inv.outputs artifact present (by simpa using output)
  exact unanswered text answered

-- Objects may be written while there is no output yet.
theorem outputs_moves_store (inv : Delivered deps w) (none : ∀ artifact ∈ w.committed.artifacts, isOutput artifact = false)
    (key body : String) : Moves (Delivered deps) (Settles deps) w (w.stores key body) := by
  refine ⟨⟨inv.slots, ?_, inv.single, inv.completed⟩, settles_refl deps w |>.artifacts, fun _ answered => answered,
    fun _ _ => rfl⟩
  intro artifact present output
  exact absurd output (by simp [none artifact present])

end

end AiWorld.Executor
