import AiWorld.Executor.AdapterRules
import AiWorld.Executor.Output

set_option autoImplicit false

namespace AiWorld.Executor

open AiWorld.Concurrency AiWorld.Gateway ArtifactService

variable {adapter : DurableAgentRuntimeAdapter}

section
variable {deps : EngineDeps}

theorem outputs_durable : Durable (Delivered deps) (Settles deps) where
  same := fun _ _ inv committed objects trace => outputs_moves_same inv committed objects trace
  onward := fun w v u committed _ trace settles => by
    refine ⟨?_, ?_, ?_⟩
    · rw [committed]; exact settles.artifacts
    · rw [committed]; exact settles.answered
    · rw [committed, trace]; exact settles.silent

-- The latest committed checkpoint is `checkpoint`.
structure At (checkpoint : Checkpoint) (w : World) : Prop where
  consistent : Consistent w
  latest : latestCheckpoint w.committed.checkpoints = some checkpoint

variable {checkpoint : Checkpoint} {pre : World → Prop} {raised : Failure → World → Prop}

theorem asking_unanswered {w : World} (there : At checkpoint w) (asks : checkpoint.state.isPrompt = true) :
    Unanswered deps w := by
  intro text answered
  obtain ⟨⟨other, provider, model, tokensIn, tokensOut, latency, found, state⟩, _⟩ := answered
  obtain rfl : checkpoint = other := Option.some.inj (there.latest.symm.trans found)
  rw [state] at asks
  cases asks

theorem gateway_keeps_asking (checkpoint : Checkpoint) (asks : checkpoint.state.isPrompt = true) :
    GatewayKeeps (Delivered deps) (Settles deps) (At checkpoint) where
  refl := settles_refl deps
  takesId := fun _ there inv => ⟨outputs_moves_same inv rfl rfl rfl,
    ⟨there.consistent.checkpoints, there.consistent.artifacts, there.consistent.completed⟩, there.latest⟩
  breaks := fun _ _ there inv => ⟨outputs_moves_same inv rfl rfl rfl,
    ⟨there.consistent.checkpoints, there.consistent.artifacts, there.consistent.completed⟩, there.latest⟩
  writes := fun _ _ there inv => ⟨outputs_moves_same inv rfl rfl rfl,
    ⟨there.consistent.checkpoints, there.consistent.artifacts, there.consistent.completed⟩, there.latest⟩
  commits := by
    intro w notes quiet there inv
    have same : (w.commits notes).committed.checkpoints = w.committed.checkpoints := there.consistent.checkpoints
    refine ⟨outputs_moves_commit inv there.consistent quiet, consistent_commits there.consistent notes, ?_⟩
    rw [same]
    exact there.latest
  rollsBack := fun _ there inv => ⟨outputs_moves_same inv rfl rfl rfl, consistent_rollsBack inv, there.latest⟩
  sends := by
    intro w attempt number request outcome there inv
    have unanswered : Unanswered deps w := asking_unanswered there asks
    refine ⟨⟨inv, fun _ present => present, fun _ answered => answered, fun text answered => ?_⟩,
      ⟨there.consistent.checkpoints, there.consistent.artifacts, there.consistent.completed⟩, there.latest⟩
    exact absurd answered (unanswered text)

theorem view_output {post : TaskDb → World → Prop} (seen : ∀ w, pre w → Delivered deps w → post w.session w) :
    Outputs deps pre view post raised :=
  durable_view outputs_durable seen

theorem rollback_output : Outputs deps pre sessionRollback (fun _ => Consistent) raised :=
  durable_rollback outputs_durable (fun _ _ inv => consistent_rollsBack inv)

-- A row with a new highest number may be added while the task is unanswered.
structure Addable (deps : EngineDeps) (checkpoint : Checkpoint) (w : World) : Prop where
  consistent : Consistent w
  unanswered : Unanswered deps w
  newer : ∀ other ∈ w.committed.checkpoints, other.sequence < checkpoint.sequence

theorem addable_saves {w : World} (addable : Addable deps checkpoint w) (inv : Delivered deps w) :
    Moves (Delivered deps) (Settles deps) w (w.saves checkpoint) ∧ At checkpoint (w.saves checkpoint) := by
  have consistent := addable.consistent
  have rows : (w.saves checkpoint).committed.artifacts = w.committed.artifacts := consistent.artifacts
  have none := no_output_unanswered inv addable.unanswered
  have latest : latestCheckpoint (w.saves checkpoint).committed.checkpoints = some checkpoint := by
    change latestCheckpoint (w.session.checkpoints ++ [checkpoint]) = some checkpoint
    rw [consistent.checkpoints]
    exact latest_append addable.newer
  refine ⟨⟨⟨?_, ?_, ?_, consistent.completed⟩, ?_, fun text answered => absurd answered (addable.unanswered text),
    fun text answered => absurd answered (addable.unanswered text)⟩, ⟨rfl, rfl, consistent.completed⟩, latest⟩
  · rw [rows]; exact inv.slots
  · rw [rows]
    intro artifact present output
    exact absurd output (by simp [none artifact present])
  · rw [rows]; exact inv.single
  · rw [rows]; exact fun _ present => present

theorem save_output {post : Checkpoint → World → Prop} (ready : ∀ w, pre w → Addable deps checkpoint w)
    (after : ∀ w, At checkpoint w → post checkpoint w) :
    Outputs deps pre (SqlCheckpointStore.save checkpoint) post (fun _ => Consistent) := by
  refine durable_save outputs_durable (fun w _ inv _ => consistent_rollsBack inv) ?_
    (fun w _ _ inv _ => consistent_rollsBack inv)
  intro w before inv _
  obtain ⟨moved, there⟩ := addable_saves (ready w before) inv
  exact ⟨moved, after _ there, there.consistent⟩

theorem adapter_output : AdapterRules (Delivered deps) (Settles deps) At (fun _ => Consistent) where
  durable := outputs_durable
  gateway := gateway_keeps_asking
  fails := fun _ _ _ _ _ there => there.consistent
  answers := by
    intro checkpoint response prompts
    refine save_output (fun w there => ⟨there.consistent, asking_unanswered there prompts, fun other present => ?_⟩)
      (fun _ there => ⟨rfl, there⟩)
    have below := latest_upper _ there.latest other present
    change other.sequence < checkpoint.sequence + 1
    omega
  cancelled := fun _ _ _ there => there.consistent

-- A run of the model ends with its text in the latest checkpoint.
def Ran (result : RunResult) (w : World) : Prop := Consistent w ∧ Answers result.outputText w.committed

theorem answering_ran (result : RunResult) (w : World) (answering : Answering At result w) : Ran result w := by
  obtain ⟨⟨provider, model, tokensIn, tokensOut, latency, state⟩, there⟩ := answering
  exact ⟨there.consistent, _, _, _, _, _, _, there.latest, state⟩

theorem resume_output : Outputs deps (At checkpoint) (adapter.resume checkpoint) Ran (fun _ => Consistent) :=
  raises_weaken (resume_rule adapter_output checkpoint) (fun _ there => there) answering_ran
    (fun _ _ consistent => consistent)

theorem next_newer {rows : List Checkpoint} (other : Checkpoint) (present : other ∈ rows) :
    other.sequence < DurableAgentRuntimeAdapter.nextSequence (latestCheckpoint rows) := by
  cases found : latestCheckpoint rows with
  | none => simp [latest_none rows found] at present
  | some newest =>
      have below := latest_upper newest found other present
      simp only [DurableAgentRuntimeAdapter.nextSequence]
      omega

theorem execute_output {context : RunContext} :
    Outputs deps (fun w => Consistent w ∧ Unanswered deps w) (adapter.execute context) Ran
      (fun _ => Consistent) := by
  refine raises_weaken (execute_rule adapter_output
    (fun found => Addable deps ⟨DurableAgentRuntimeAdapter.nextSequence found, adapter.promptState context⟩)
    (fun w holds _ => ?_) (fun found => save_output (fun _ addable => addable) (fun _ there => there)))
    (fun _ holds => holds) answering_ran (fun _ _ consistent => consistent)
  rw [holds.1.checkpoints]
  exact ⟨holds.1, holds.2, next_newer⟩

end

end AiWorld.Executor
