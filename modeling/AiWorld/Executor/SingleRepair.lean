import AiWorld.Executor.BudgetRun
import AiWorld.Executor.Output

set_option autoImplicit false

namespace AiWorld.Executor

open AiWorld.Concurrency AiWorld.Gateway ArtifactService

variable {w : World} {rows : List Checkpoint} {deps : EngineDeps} {bound : Nat} {adapter : DurableAgentRuntimeAdapter}
  {context : RunContext} {taskTitle : String}

def promptCount (rows : List Checkpoint) : Nat := rows.countP (fun row => row.state.isPrompt)

-- One prompt, and one repair re-prompt.
def RepairedOnce (w : World) : Prop := promptCount w.committed.checkpoints ≤ 2

abbrev repairing : Contract machine Unit := contract RepairedOnce (fun _ _ => True)

theorem repairs_durable : Durable RepairedOnce (fun _ _ => True) where
  same := fun w u inv committed _ _ => by
    refine ⟨?_, trivial⟩
    unfold RepairedOnce
    rw [committed]
    exact inv
  onward := fun _ _ _ _ _ _ _ => trivial

def Uncheckpointed : Stmt → Prop
  | .stage change => ∀ db, (change db).checkpoints = db.checkpoints
  | _ => True

theorem uncheckpointed_delivers : Delivers Uncheckpointed where
  commit := trivial
  refused := fun _ => trivial
  events := fun _ _ => rfl
  running := fun _ => rfl
  retryCount := fun _ _ => rfl
  view := trivial
  newId := trivial
  put := fun _ _ => trivial
  insert := fun _ _ => rfl
  owns := fun _ _ => rfl
  completes := fun _ => rfl
  mission := fun _ _ => rfl

theorem perform_rows {rows : List Checkpoint} {stmt : Stmt} (choice : Choice) (allowed : Uncheckpointed stmt)
    (holds : Rows rows w) : Rows rows (perform stmt choice w).2 := by
  have commits (notes : List Event) : Rows rows (w.commits notes) := ⟨holds.session, holds.session⟩
  have rolls : Rows rows w.rollsBack := ⟨holds.committed, holds.committed⟩
  cases stmt with
  | stage change => exact ⟨(allowed w.session).trans holds.session, holds.committed⟩
  | commit notes =>
      cases effect : choice.effect with
      | done => simpa only [perform, effect] using commits notes
      | refused => simpa only [perform, effect] using rolls
      | unacknowledged => simpa only [perform, effect] using commits notes
  | rollback => exact rolls
  | putObject key body =>
      have stored : Rows rows (w.stores key body) := ⟨holds.session, holds.committed⟩
      cases effect : choice.effect with
      | done => simpa only [perform, effect] using stored
      | refused => simpa only [perform, effect] using holds
      | unacknowledged => simpa only [perform, effect] using stored
  | view => exact holds
  | newId => exact ⟨holds.session, holds.committed⟩
  | now => exact holds
  | send attempt number request => exact ⟨holds.session, holds.committed⟩
  | beforeCall provider => exact ⟨holds.session, holds.committed⟩
  | recordSuccess provider => exact ⟨holds.session, holds.committed⟩
  | recordFailure provider => exact ⟨holds.session, holds.committed⟩

variable {α : Type} {post : α → Prop} {program : Exec α}

theorem rows_keep {rows : List Checkpoint} (confined : Issues Uncheckpointed post program) :
    Raises repairing 0 () (Rows rows) program (fun value w => post value ∧ Rows rows w) (fun _ => Rows rows) := by
  refine confined_raises confined (fun stmt choice w allowed holds inv => ?_)
  have after := perform_rows choice allowed holds
  refine ⟨⟨?_, trivial⟩, after⟩
  unfold RepairedOnce at inv ⊢
  rw [after.committed, ← holds.committed]
  exact inv

-- At most `bound` prompts so far.
def Within (bound : Nat) (w : World) : Prop := ∃ rows, Rows rows w ∧ promptCount rows ≤ bound

theorem within_raises {bound : Nat} (confined : Issues Uncheckpointed post program) :
    Raises repairing 0 () (Within bound) program (fun value w => post value ∧ Within bound w) (fun _ => Within bound) := by
  rintro w ⟨rows, holds, few⟩
  refine safe_weaken (fun result u ended => ?_) program.run w (rows_keep confined w holds)
  cases result with
  | ok value => exact ⟨ended.1, rows, ended.2, few⟩
  | error failure => exact ⟨rows, ended, few⟩

theorem within_keep {bound : Nat} (confined : Confined Uncheckpointed program) : Keeps repairing 0 () (Within bound) program :=
  raises_weaken (within_raises confined) (fun _ within => within) (fun _ _ holds => holds.2)
    (fun _ _ within => within)

theorem within_weaken {bound more : Nat} (less : bound ≤ more) (within : Within bound w) : Within more w := by
  obtain ⟨rows, holds, few⟩ := within
  exact ⟨rows, holds, few.trans less⟩

theorem within_rollsBack (inv : RepairedOnce w) : Within 2 w.rollsBack := ⟨_, ⟨rfl, rfl⟩, inv⟩

-- A row that adds `extra` prompts may be saved while there is room for it.
theorem save_repairs {checkpoint : Checkpoint} {extra : Nat} (adds : promptCount [checkpoint] = extra)
    (room : bound + extra ≤ 2) :
    Raises repairing 0 () (Within bound) (SqlCheckpointStore.save checkpoint)
      (fun saved w => saved = checkpoint ∧ Within (bound + extra) w) (fun _ => Within 2) := by
  refine durable_save repairs_durable (fun w _ inv _ => within_rollsBack inv) ?_
    (fun w _ _ inv _ => within_rollsBack inv)
  rintro w ⟨rows, holds, few⟩ _ _
  have after : Rows (rows ++ [checkpoint]) (w.saves checkpoint) := by
    have grown : w.session.checkpoints ++ [checkpoint] = rows ++ [checkpoint] := by rw [holds.session]
    exact ⟨grown, grown⟩
  have count : promptCount (rows ++ [checkpoint]) ≤ bound + extra := by
    have split : promptCount (rows ++ [checkpoint]) = promptCount rows + promptCount [checkpoint] := List.countP_append
    omega
  refine ⟨⟨?_, trivial⟩, ⟨rfl, _, after, count⟩, _, after, count.trans room⟩
  unfold RepairedOnce
  rw [after.committed]
  exact count.trans room

theorem gateway_keeps_within (bound : Nat) : GatewayKeeps RepairedOnce (fun _ _ => True) (Within bound) := by
  have moves {w u : World} (rows : List Checkpoint) (inv : RepairedOnce w) (before : Rows rows w) (after : Rows rows u)
      (few : promptCount rows ≤ bound) : Moves RepairedOnce (fun _ _ => True) w u ∧ Within bound u := by
    refine ⟨⟨?_, trivial⟩, rows, after, few⟩
    unfold RepairedOnce at inv ⊢
    rw [after.committed, ← before.committed]
    exact inv
  constructor
  · exact fun _ => trivial
  · rintro w ⟨rows, holds, few⟩ inv
    exact moves rows inv holds ⟨holds.session, holds.committed⟩ few
  · rintro w breaker ⟨rows, holds, few⟩ inv
    exact moves rows inv holds ⟨holds.session, holds.committed⟩ few
  · rintro w ledger ⟨rows, holds, few⟩ inv
    exact moves rows inv holds ⟨holds.session, holds.committed⟩ few
  · rintro w notes _ ⟨rows, holds, few⟩ inv
    exact moves rows inv holds ⟨holds.session, holds.session⟩ few
  · rintro w ⟨rows, holds, few⟩ inv
    exact moves rows inv holds ⟨holds.committed, holds.committed⟩ few
  · rintro w attempt number request outcome ⟨rows, holds, few⟩ inv
    exact moves rows inv holds ⟨holds.session, holds.committed⟩ few

-- The adapter adds a prompt in `execute` only; an answer is none.
theorem adapter_repairs (room : bound ≤ 2) :
    AdapterRules RepairedOnce (fun _ _ => True) (fun _ => Within bound) (fun _ => Within 2) where
  durable := repairs_durable
  gateway := fun _ _ => gateway_keeps_within bound
  fails := fun _ _ w _ _ within => within_weaken room within
  answers := fun checkpoint response _ => raises_weaken
    (save_repairs rfl room)
    (fun _ within => within) (fun _ _ holds => ⟨by rw [holds.1], holds.2⟩) (fun _ _ within => within)
  cancelled := fun _ w _ within => within_weaken room within

theorem execute_repairs (room : bound + 1 ≤ 2) :
    Raises repairing 0 () (Within bound) (adapter.execute context) (fun _ => Within (bound + 1)) (fun _ => Within 2) :=
  raises_weaken (execute_rule (adapter_repairs room) (fun _ => Within bound)
      (fun _ within _ => within) (fun _ => raises_weaken (save_repairs rfl room)
        (fun _ within => within) (fun _ _ holds => holds.2) (fun _ _ within => within)))
    (fun _ within => within) (fun _ _ answering => answering.2) (fun _ _ within => within)

-- The text of a run is valid.
def Valid (deps : EngineDeps) (text : String) : Prop := ∃ title, deps.validateMissionOutput text = .ok title

-- What an attempt may go on with: one prompt so far, or an answer that needs no repair.
def Modelled (deps : EngineDeps) (result : RunResult) (w : World) : Prop :=
  Within 1 w ∨ (Within 2 w ∧ Valid deps result.outputText)

theorem modelled_within {deps : EngineDeps} {result : RunResult} (modelled : Modelled deps result w) : Within 2 w := by
  rcases modelled with one | ⟨two, _⟩
  · exact within_weaken (by decide) one
  · exact two

theorem modelled_keep {deps : EngineDeps} {result : RunResult} (confined : Confined Uncheckpointed program) :
    Raises repairing 0 () (Modelled deps result) program (fun _ => Modelled deps result) (fun _ => Within 2) := by
  rintro w (one | ⟨two, valid⟩)
  · refine safe_weaken (fun ending u ended => ?_) program.run w (within_keep confined w one)
    cases ending with
    | ok value => exact .inl ended
    | error failure => exact within_weaken (by decide) ended
  · refine safe_weaken (fun ending u ended => ?_) program.run w (within_keep confined w two)
    cases ending with
    | ok value => exact .inr ⟨ended, valid⟩
    | error failure => exact ended

def Modelling (deps : EngineDeps) : Bool → RunResult → World → Prop
  | false, result, w => Modelled deps result w
  | true, _, w => Within 2 w

theorem modelling_within {repaired : Bool} {result : RunResult} (modelling : Modelling deps repaired result w) : Within 2 w := by
  cases repaired with
  | false => exact modelled_within modelling
  | true => exact modelling

theorem repair_course (adapter : DurableAgentRuntimeAdapter) (context : RunContext) :
    Course RepairedOnce (fun _ _ => True) Uncheckpointed adapter context (Modelling adapter.deps) (Within 1) (Within 2)
      (fun _ => Within 2) (fun _ => Within 2) where
  notes := uncheckpointed_delivers.toTakesNotes
  keeps := fun repaired _ _ confined => by
    cases repaired with
    | false => exact modelled_keep confined
    | true => exact within_keep confined
  refuses := fun _ _ _ _ modelling => modelling_within modelling
  delivers := fun _ _ _ _ => raises_before (within_keep (commit_output_confined uncheckpointed_delivers _ _ _ _))
    (fun _ modelling => modelling_within modelling)
  rejects := fun _ _ _ _ => within_keep (reject_output_confined uncheckpointed_delivers (fun _ => rfl))
  invalid := fun _ _ _ invalid modelled => by
    obtain one | ⟨_, title, valid⟩ := modelled
    · exact one
    · rw [invalid] at valid
      cases valid
  asks := fun _ => raises_weaken (within_keep (publish_notes uncheckpointed_delivers.toTakesNotes)) (fun _ within => within)
    (fun _ _ within => within) (fun _ _ within => within_weaken (by decide) within)
  repairs := fun _ => execute_repairs (by decide)
  reports := fun _ _ _ => within_keep (publish_notes uncheckpointed_delivers.toTakesNotes)
  fails := fun _ _ _ => within_keep (fail_notes uncheckpointed_delivers.toTakesNotes (fun _ => rfl) (fun _ => rfl))
  rethrows := fun _ _ within => within

-- The rows an attempt may start from: the repair prompt is not there yet, or the
-- latest answer is valid.
def Resumable (deps : EngineDeps) (rows : List Checkpoint) : Prop :=
  promptCount rows ≤ 1 ∨ ∃ checkpoint text, latestCheckpoint rows = some checkpoint ∧ checkpoint.state.holdsText text ∧
    Valid deps text

theorem run_model_repairs {usageProvider : SqlUsageProvider} (few : promptCount rows ≤ 2) (resumable : Resumable deps rows) :
    Raises repairing 0 () (Rows rows) (runModel ⟨deps, usageProvider⟩ context (latestCheckpoint rows)) (Modelled deps)
      (fun _ => Within 2) := by
  have notes := uncheckpointed_delivers.toTakesNotes
  have notes_keep {α : Type} {program : Exec α} (confined : Confined Uncheckpointed program) :
      Raises repairing 0 () (Rows rows) program (fun _ => Rows rows) (fun _ => Within 2) :=
    raises_weaken (rows_keep confined) (fun _ holds => holds) (fun _ _ holds => holds.2)
      (fun _ _ holds => ⟨rows, holds, few⟩)
  cases found : latestCheckpoint rows with
  | none =>
      refine raises_bind _ (notes_keep (publish_notes notes)) (fun _ => ?_)
      refine raises_weaken (execute_repairs (by decide)) (fun w holds => ⟨rows, holds, ?_⟩)
        (fun _ _ within => .inl within) (fun _ _ within => within)
      simp [latest_none rows found, promptCount]
  | some checkpoint =>
      refine raises_bind _ (notes_keep (publish_notes notes)) (fun _ => ?_)
      refine raises_bind _ (notes_keep (announce_resume_notes notes)) (fun _ => ?_)
      rcases resumable with one | ⟨other, text, latest, ⟨provider, model, tokensIn, tokensOut, latency, state⟩, valid⟩
      · exact raises_weaken (resume_rule (adapter_repairs (by decide)) checkpoint)
          (fun w holds => ⟨rows, holds, one⟩) (fun _ _ answering => .inl answering.2) (fun _ _ within => within)
      · -- The answer is replayed, so no other text can come back.
        obtain rfl : checkpoint = other := Option.some.inj (found.symm.trans latest)
        unfold DurableAgentRuntimeAdapter.resume
        rw [state]
        exact raises_pure _ (fun w holds => .inr ⟨⟨rows, holds, few⟩, valid⟩)

theorem execute_task_repairs {agent : Option AgentEnv} (few : promptCount rows ≤ 2) (resumable : Resumable deps rows) :
    Raises repairing 0 () (Rows rows) (executeTask deps agent) (fun _ => Within 2) (fun _ => Within 2) := by
  have notes := uncheckpointed_delivers.toTakesNotes
  unfold executeTask runAttempt
  refine raises_bind (fun _ => Rows rows) (durable_now repairs_durable (fun _ _ holds _ => holds)) (fun startedAt => ?_)
  refine raises_bind (fun db w => db.checkpoints = rows ∧ Rows rows w)
    (durable_view repairs_durable (fun _ holds _ => ⟨holds.session, holds⟩)) (fun db => ?_)
  cases agent with
  | none => exact raises_throw _ (fun w holds => ⟨rows, holds.2, few⟩)
  | some agent =>
      rintro w ⟨rfl, holds⟩
      refine raises_bind (fun _ => Rows db.checkpoints) (raises_weaken
        (rows_keep (announce_start_notes notes)) (fun _ holds => holds) (fun _ _ holds => holds.2)
        (fun _ _ holds => ⟨_, holds, few⟩)) (fun _ => ?_) w holds
      exact course_closes (repair_course ⟨deps, _⟩ _) (run_model_repairs few resumable)

theorem process_task_repairs (deps : EngineDeps) (agent : Option AgentEnv) (w : World) (few : RepairedOnce w)
    (resumable : executable w.committed.task.status = true → Resumable deps w.committed.checkpoints)
    (same : w.session = w.committed) :
    Raises repairing 0 () (fun u => u = w) (processTask deps agent) (fun _ _ => True) (fun _ _ => True) := by
  have notes := uncheckpointed_delivers.toTakesNotes
  unfold processTask executeAndCommit
  refine raises_bind (fun db u => db = w.committed ∧ Rows w.committed.checkpoints u)
    (durable_view repairs_durable (fun u start _ => ?_)) (fun db => ?_)
  · subst start
    exact ⟨same, congrArg TaskDb.checkpoints same, rfl⟩
  split
  · rename_i runs
    refine raises_bind (fun _ _ => True) (raises_catch (fun _ _ => True) ?_
      (fun _ => durable_rollback repairs_durable (fun _ _ _ => trivial))) (fun _ => raises_pure _ (fun _ _ => trivial))
    rintro u ⟨rfl, holds⟩
    exact raises_bind (fun _ => Within 2) (raises_weaken (execute_task_repairs few (resumable runs))
        (fun _ holds => holds) (fun _ _ within => within) (fun _ _ _ => trivial))
      (fun _ => raises_weaken (within_keep (commit_notes notes)) (fun _ within => within) (fun _ _ _ => trivial)
        (fun _ _ _ => trivial)) u holds
  · exact raises_pure _ (fun _ _ => trivial)

-- Automatic resumes only, and none after the repair prompt was committed unless a
-- valid answer was committed too.
def RepairUnused (deps : EngineDeps) (w : World) : TaskLabel → Prop
  | .attempt _ _ _ => executable w.committed.task.status = true → Resumable deps w.committed.checkpoints
  | .retry => False
  | .recover => True
  | .cancel => True

theorem between_repairs {w : World} (inv : RepairedOnce w) (change : TaskDb → TaskDb)
    (plain : ∀ db, (change db).checkpoints = db.checkpoints) : RepairedOnce (w.between change) := by
  unfold RepairedOnce at inv ⊢
  rw [show (w.between change).committed.checkpoints = w.committed.checkpoints from plain w.committed]
  exact inv

theorem task_step_repairs (deps : EngineDeps) (w u : World) (label : TaskLabel) (inv : RepairedOnce w)
    (met : RepairUnused deps w label) (stepped : taskStep deps w label = some u) : RepairedOnce u := by
  cases label with
  | attempt agent breaker choices =>
      obtain rfl := Option.some.inj stepped
      have safe := process_task_repairs deps agent (w.rollsBack.breaks breaker) inv met rfl _ rfl
      exact (drive_safe (fun _ => trivial) (fun _ _ _ _ _ => trivial) 0 choices _ (w.rollsBack.breaks breaker) inv safe).1
  | retry => exact met.elim
  | recover =>
      obtain rfl := Option.some.inj stepped
      refine between_repairs inv registerRecovery (fun db => ?_)
      unfold registerRecovery failAfterMaxRequeues
      repeat' split
      all_goals rfl
  | cancel =>
      obtain rfl := Option.some.inj stepped
      refine between_repairs inv cancelMission (fun db => ?_)
      unfold cancelMission
      split <;> rfl

theorem repaired_at_most_once (deps : EngineDeps) (db : TaskDb) (fresh : Fresh db) (labels : List TaskLabel) (w : World)
    (run : Runs (taskStep deps) (RepairUnused deps) (startWorld db) labels w) :
    promptCount w.committed.checkpoints ≤ 2 := by
  have start : RepairedOnce (startWorld db) := by
    unfold RepairedOnce startWorld
    rw [fresh.checkpoints]
    decide
  exact runs_invariant RepairedOnce (fun s t label holds met stepped => task_step_repairs deps s t label holds met stepped) run
    start

def Sample.garbage : ProviderOutcome := .response ⟨"garbage", 5, 7, 20, "openai", "gpt-4o", false⟩

def isAutomatic : TaskLabel → Bool
  | .retry => false
  | _ => true

-- An attempt cut off after `count` statements, the sweep, and the attempt that resumes it.
def Sample.cutAndResumed (count : Nat) : List TaskLabel :=
  [.attempt (some Sample.agent) {} (Sample.quietChoices count Sample.garbage), .recover,
    .attempt (some Sample.agent) {} (Sample.quietChoices 90 Sample.garbage)]

-- Cut off before its repair, the task is repaired once.
theorem repaired_once_after_first_crash :
    ∃ w : World, w.committed.task.status = .failed ∧ promptCount w.committed.checkpoints ≤ 2 := by
  have checks (w : World) (label : TaskLabel)
      (met : (isAutomatic label && promptCount w.committed.checkpoints ≤ 1) = true) : RepairUnused Sample.deps w label := by
    simp only [Bool.and_eq_true, decide_eq_true_eq] at met
    cases label with
    | attempt agent breaker choices => exact fun _ => .inl met.2
    | retry => exact absurd met.1 (by decide)
    | recover => trivial
    | cancel => trivial
  obtain ⟨w, run, shown⟩ := checked_exhibit (taskStep Sample.deps) _ checks (fun w => w.committed.task.status = .failed)
    (startWorld Sample.db) (Sample.cutAndResumed 12) (by decide +kernel)
  exact ⟨w, of_decide_eq_true shown, repaired_at_most_once Sample.deps Sample.db ⟨rfl, rfl, rfl, rfl, rfl⟩ _ w run⟩

-- Cut off after its repair prompt, it is repaired again.
theorem repaired_twice_after_repair_crash :
    Fresh Sample.db ∧ ∃ w : World, Runs (taskStep Sample.deps) (fun _ label => isAutomatic label = true) (startWorld Sample.db)
      (Sample.cutAndResumed 42) w ∧ promptCount w.committed.checkpoints = 3 := by
  refine ⟨⟨rfl, rfl, rfl, rfl, rfl⟩, ?_⟩
  obtain ⟨w, run, shown⟩ := checked_exhibit (taskStep Sample.deps) (fun _ label => isAutomatic label) (fun _ _ met => met)
    (fun w => promptCount w.committed.checkpoints = 3) (startWorld Sample.db) (Sample.cutAndResumed 42) (by decide +kernel)
  exact ⟨w, run, of_decide_eq_true shown⟩

end AiWorld.Executor
