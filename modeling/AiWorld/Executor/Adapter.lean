import AiWorld.Executor.Gateway

set_option autoImplicit false

namespace AiWorld.Executor

open AiWorld.Concurrency AiWorld.Gateway

variable {checkpoints : List Checkpoint}

-- The engine's collaborators. JSON renderings, the hash and the two stages of
-- `validate_mission_output` (JSON, then the schema) are taken as given functions;
-- of a valid output only the title is read. The validator catches two exceptions
-- only, so for some texts it raises.
structure EngineDeps where
  modelGateway : ModelGateway
  bucket : String
  budgetPolicyJson : BudgetPolicy → String
  outputJsonSchema : String
  validateMissionOutput : String → Except String String
  validatorRaises : String → Option String := fun _ => none

structure RunContext where
  tenantId : Nat
  missionId : Nat
  taskId : Nat
  agentId : Nat
  agentVersionId : Nat
  systemPrompt : String
  missionObjective : String
  taskInstructions : String
  toolPolicyJson : String
  budgetPolicy : BudgetPolicy
  availableContext : String
  modelProvider : String
  modelName : String

def systemBasePolicy : String :=
  "You are operating inside Daythree AI World, a governed AI agent runtime. " ++
  "You must only use the tools explicitly listed under TOOL POLICY. Never invent " ++
  "evidence or claim access to information you were not given. If required " ++
  "information is unavailable, say so explicitly rather than guessing. Your final " ++
  "answer MUST be a single JSON object that validates against the OUTPUT CONTRACT " ++
  "schema below, and nothing else — no prose before or after the JSON."

structure PromptAssembly where
  systemPrompt : String
  userPrompt : String
  assembledPromptHash : String

def assemblePrompt (deps : EngineDeps) (context : RunContext) : PromptAssembly :=
  let systemPrompt := "\n\n".intercalate
    ["SYSTEM BASE POLICY:\n" ++ systemBasePolicy,
      "AGENT VERSION PROMPT:\n" ++ context.systemPrompt,
      "TOOL POLICY:\n" ++ context.toolPolicyJson,
      "BUDGET POLICY:\n" ++ deps.budgetPolicyJson context.budgetPolicy,
      "OUTPUT CONTRACT (JSON Schema — your final answer must validate against this):\n" ++ deps.outputJsonSchema]
  let userPrompt := "\n\n".intercalate
    ["MISSION OBJECTIVE:\n" ++ context.missionObjective,
      "TASK INSTRUCTIONS:\n" ++ context.taskInstructions,
      "AVAILABLE CONTEXT:\n" ++ context.availableContext]
  let sha256Hex := deps.modelGateway.sha256Hex
  ⟨systemPrompt, userPrompt, sha256Hex (sha256Hex systemPrompt ++ sha256Hex userPrompt)⟩

def latestCheckpoint : List Checkpoint → Option Checkpoint
  | [] => none
  | first :: rest =>
      match latestCheckpoint rest with
      | none => some first
      | some best => if first.sequence ≤ best.sequence then some best else some first

theorem latest_member (latest : Checkpoint) (found : latestCheckpoint checkpoints = some latest) : latest ∈ checkpoints := by
  induction checkpoints generalizing latest with
  | nil => cases found
  | cons first rest ih =>
      cases best : latestCheckpoint rest with
      | none =>
          obtain rfl : first = latest := by simpa [latestCheckpoint, best] using found
          exact List.mem_cons_self
      | some newest =>
          by_cases older : first.sequence ≤ newest.sequence
          · obtain rfl : newest = latest := by simpa [latestCheckpoint, best, older] using found
            exact List.mem_cons_of_mem _ (ih newest best)
          · obtain rfl : first = latest := by simpa [latestCheckpoint, best, older] using found
            exact List.mem_cons_self

theorem latest_none (checkpoints : List Checkpoint) (missing : latestCheckpoint checkpoints = none) : checkpoints = [] := by
  cases checkpoints with
  | nil => rfl
  | cons first rest =>
      cases best : latestCheckpoint rest with
      | none => simp [latestCheckpoint, best] at missing
      | some newest =>
          by_cases older : first.sequence ≤ newest.sequence
          · simp [latestCheckpoint, best, older] at missing
          · simp [latestCheckpoint, best, older] at missing

theorem latest_upper (latest : Checkpoint) (found : latestCheckpoint checkpoints = some latest) :
    ∀ checkpoint ∈ checkpoints, checkpoint.sequence ≤ latest.sequence := by
  induction checkpoints generalizing latest with
  | nil => simp
  | cons first rest ih =>
      cases best : latestCheckpoint rest with
      | none =>
          obtain rfl : first = latest := by simpa [latestCheckpoint, best] using found
          simp [latest_none rest best]
      | some newest =>
          have below := ih newest best
          by_cases older : first.sequence ≤ newest.sequence
          · obtain rfl : newest = latest := by simpa [latestCheckpoint, best, older] using found
            simpa [older] using below
          · obtain rfl : first = latest := by simpa [latestCheckpoint, best, older] using found
            intro checkpoint present
            rcases List.mem_cons.mp present with rfl | later
            · exact le_rfl
            · have := below checkpoint later
              omega

theorem latest_append {checkpoints : List Checkpoint} {fresh : Checkpoint}
    (newer : ∀ checkpoint ∈ checkpoints, checkpoint.sequence < fresh.sequence) :
    latestCheckpoint (checkpoints ++ [fresh]) = some fresh := by
  induction checkpoints with
  | nil => rfl
  | cons first rest ih =>
      have later := ih (fun checkpoint present => newer checkpoint (List.mem_cons_of_mem _ present))
      have below := (newer first List.mem_cons_self).le
      simp [latestCheckpoint, later, below]

-- JSONB has no NUL character.
def CheckpointState.storable : CheckpointState → Bool
  | .modelResponded rawResponseText _ _ _ _ _ => !rawResponseText.toList.contains (Char.ofNat 0)
  | _ => true

namespace SqlCheckpointStore

-- The unique index on (task_id, checkpoint_sequence) makes the commit raise, and so
-- does the JSONB column.
def save (checkpoint : Checkpoint) : Exec Checkpoint := do
  let db ← view
  if db.checkpoints.any (fun row => row.sequence = checkpoint.sequence) then do
    sessionRollback
    throw (.unexpected "uq_checkpoints_task_sequence")
  else if checkpoint.state.storable then do
    stage (fun db => { db with checkpoints := db.checkpoints ++ [checkpoint] })
    sessionCommit []
    return checkpoint
  else do
    sessionRollback
    throw (.unexpected "unsupported Unicode escape sequence")

def latestForTask : Exec (Option Checkpoint) := do
  let db ← view
  return latestCheckpoint db.checkpoints

end SqlCheckpointStore

structure RunResult where
  outputText : String
  modelTelemetry : Option ModelInvocationTelemetry
  finalCheckpoint : Checkpoint

structure DurableAgentRuntimeAdapter where
  deps : EngineDeps
  usageProvider : SqlUsageProvider

namespace DurableAgentRuntimeAdapter

def respondedState (response : ModelResponse) : CheckpointState :=
  .modelResponded response.text response.provider response.model response.inputTokens response.outputTokens
    response.latencyMs

-- The model call behind a `prompt_assembled` checkpoint, given by its fields.
def callModelAndCheckpoint (adapter : DurableAgentRuntimeAdapter) (sequence : Nat) (request : ModelRequest)
    (budgetPolicy : BudgetPolicy) : Exec RunResult := do
  let usage ← adapter.usageProvider.usageForTask
  let outcome ← adapter.deps.modelGateway.generate request budgetPolicy usage false (some adapter.usageProvider)
  let responseCheckpoint ← SqlCheckpointStore.save ⟨sequence + 1, respondedState outcome.response⟩
  return ⟨outcome.response.text, some outcome.telemetry, responseCheckpoint⟩

def nextSequence : Option Checkpoint → Nat
  | some latest => latest.sequence + 1
  | none => 1

def promptState (adapter : DurableAgentRuntimeAdapter) (context : RunContext) : CheckpointState :=
  let assembly := assemblePrompt adapter.deps context
  .promptAssembled assembly.systemPrompt assembly.userPrompt assembly.assembledPromptHash context.modelProvider
    context.modelName context.budgetPolicy.maxOutputTokens context.budgetPolicy

def resume (adapter : DurableAgentRuntimeAdapter) (checkpoint : Checkpoint) : Exec RunResult :=
  match checkpoint.state with
  | .modelResponded rawResponseText _ _ _ _ _ => return ⟨rawResponseText, none, checkpoint⟩
  | .promptAssembled systemPrompt userPrompt _ provider model maxOutputTokens budgetPolicy =>
      adapter.callModelAndCheckpoint checkpoint.sequence
        { provider := provider, model := model, systemPrompt := systemPrompt, userPrompt := userPrompt,
          maxOutputTokens := maxOutputTokens } budgetPolicy
  | .cancelled => throw (.unexpected "Unknown checkpoint stage 'cancelled'; cannot resume.")

-- `execute` calls the model from the checkpoint it has just saved, as `resume` does
-- from the one it is given.
def execute (adapter : DurableAgentRuntimeAdapter) (context : RunContext) : Exec RunResult := do
  let latest ← SqlCheckpointStore.latestForTask
  let promptCheckpoint ← SqlCheckpointStore.save ⟨nextSequence latest, adapter.promptState context⟩
  adapter.resume promptCheckpoint

end DurableAgentRuntimeAdapter

end AiWorld.Executor
