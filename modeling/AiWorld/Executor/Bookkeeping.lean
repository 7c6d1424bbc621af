import AiWorld.Executor.AdapterRules

set_option autoImplicit false

namespace AiWorld.Executor

open AiWorld.Concurrency AiWorld.Gateway ArtifactService

variable {reason : String} {telemetry : Option ModelInvocationTelemetry}

-- The committed rows are `rows`, and the session sees the same.
structure Rows (rows : List Checkpoint) (w : World) : Prop where
  session : w.session.checkpoints = rows
  committed : w.committed.checkpoints = rows

-- The statements `execute_task` issues around the adapter, as a class a program may
-- be confined to: the ones that only take notes, and the ones that deliver an output.
structure TakesNotes (allowed : Stmt → Prop) (given : ∀ stmt, Ans stmt → Prop) (thrown : Failure → Prop) : Prop where
  commit : allowed (.commit [])
  refused : given (.commit []) false → thrown (.unexpected "commit failed")
  events : ∀ events, allowed (.stage (appendEvents events))
  running : allowed (.stage (setTaskStatus .running))
  retryCount : ∀ count, allowed (.stage (setRetryCount count))

section
variable {allowed : Stmt → Prop} {given : ∀ stmt, Ans stmt → Prop} {thrown : Failure → Prop}

abbrev Notes {α : Type} (allowed : Stmt → Prop) (given : ∀ stmt, Ans stmt → Prop) (thrown : Failure → Prop)
    (program : Exec α) : Prop :=
  Utters (S := execSig) allowed given (fun _ => True) thrown program

theorem stage_notes (change : TaskDb → TaskDb) (fine : allowed (.stage change)) : Notes allowed given thrown (stage change) :=
  utters_weaken (fun _ fine => fine) (fun _ _ fits => fits) (fun _ _ => trivial) (fun _ raised => raised)
    (utters_ask (S := execSig) (.stage change) fine)

theorem publish_notes (notes : TakesNotes allowed given thrown) {eventType : EventType} {data : List (String × String)} :
    Notes allowed given thrown (publish eventType data) :=
  stage_notes _ (notes.events _)

theorem commit_notes (notes : TakesNotes allowed given thrown) : Notes allowed given thrown (sessionCommit []) := by
  refine utters_bind (utters_ask (S := execSig) (.commit []) notes.commit) (fun (acknowledged : Bool) fits => ?_)
  cases acknowledged with
  | true => exact utters_pure trivial
  | false => exact utters_throw (notes.refused fits)

theorem announce_start_notes (notes : TakesNotes allowed given thrown) {task : TaskRow} {existing : Option Checkpoint} :
    Notes allowed given thrown (announceStart task existing) := by
  refine utters_bind (stage_notes _ notes.running) (fun _ _ => utters_ite (fun _ => ?_) (fun _ => ?_))
  · exact publish_notes notes
  · exact utters_bind (stage_notes _ (notes.retryCount _)) (fun _ _ => publish_notes notes)

theorem publish_completed_notes (notes : TakesNotes allowed given thrown) :
    Notes allowed given thrown (publishCompleted telemetry) := by
  cases telemetry with
  | none => exact utters_pure trivial
  | some telemetry => exact publish_notes notes

theorem commit_completed_notes (notes : TakesNotes allowed given thrown) :
    Notes allowed given thrown (commitCompleted telemetry) := by
  cases telemetry with
  | none => exact utters_pure trivial
  | some telemetry => exact utters_bind (publish_notes notes) (fun _ _ => commit_notes notes)

theorem announce_resume_notes (notes : TakesNotes allowed given thrown) {checkpoint : Checkpoint} :
    Notes allowed given thrown (announceResume checkpoint) := by
  unfold announceResume
  split
  · exact publish_notes notes
  · exact utters_pure trivial

theorem fail_notes (notes : TakesNotes allowed given thrown) (fails : allowed (.stage (setTaskStatus .failed)))
    (mission : allowed (.stage (setMissionStatus .failed))) : Notes allowed given thrown (fail reason) :=
  utters_bind (stage_notes _ fails) (fun _ _ => utters_bind (publish_notes notes) (fun _ _ =>
    utters_bind (stage_notes _ mission) (fun _ _ => publish_notes notes)))

end

structure Delivers (allowed : Stmt → Prop) : Prop extends TakesNotes allowed (fun _ _ => True) (fun _ => True) where
  view : allowed .view
  newId : allowed .newId
  put : ∀ key body, allowed (.putObject key body)
  insert : ∀ artifact, allowed (.stage (fun db => { db with artifacts := db.artifacts ++ [artifact] }))
  owns : ∀ id, allowed (.stage (setOutputArtifact id))
  completes : allowed (.stage (setTaskStatus .completed))
  mission : ∀ status, allowed (.stage (setMissionStatus status))

section
variable {allowed : Stmt → Prop}

abbrev Confined {α : Type} (allowed : Stmt → Prop) (program : Exec α) : Prop := Issues allowed (fun _ => True) program

abbrev Scribbles (allowed : Stmt → Prop) : Prop := TakesNotes allowed (fun _ _ => True) (fun _ => True)

theorem commit_artifact_confined (delivers : Delivers allowed) (deps : EngineDeps) (context : RunContext)
    (artifactType : ArtifactType) (title content mimeType : String) :
    Confined allowed (commitArtifact deps context artifactType title content mimeType) := by
  have sees : Confined allowed view := issues_ask (S := execSig) .view delivers.view
  refine issues_bind sees (fun db _ => ?_)
  split
  · exact issues_pure trivial
  refine issues_bind (issues_ask (S := execSig) (.putObject _ _) (delivers.put _ _)) (fun (stored : Bool) _ => ?_)
  cases stored with
  | false => exact issues_throw
  | true =>
      refine issues_bind (issues_ask (S := execSig) .newId delivers.newId) (fun id _ => issues_bind sees (fun seen _ => ?_))
      split
      · exact issues_throw
      split
      · exact issues_throw
      · exact issues_bind (stage_notes _ (delivers.insert _)) (fun _ _ => issues_pure trivial)

theorem commit_output_confined (delivers : Delivers allowed) (deps : EngineDeps) (context : RunContext) (title text : String) :
    Confined allowed (commitOutput deps context title text) := by
  have notes := delivers.toTakesNotes
  refine issues_bind (commit_artifact_confined delivers deps context _ _ _ _) (fun committed _ => ?_)
  have announces : Confined allowed (publishCreated committed.1 committed.2) := by
    cases committed.2 with
    | true => exact publish_notes notes
    | false => exact issues_pure trivial
  refine issues_bind announces (fun _ _ => issues_bind (stage_notes _ (delivers.owns _)) (fun _ _ => ?_))
  refine issues_bind (commit_notes notes) (fun _ _ => issues_bind (stage_notes _ delivers.completes) (fun _ _ => ?_))
  refine issues_bind (publish_notes notes) (fun _ _ => issues_bind (stage_notes _ (delivers.mission _)) (fun _ _ => ?_))
  exact publish_notes notes

theorem reject_output_confined (delivers : Delivers allowed) (fails : allowed (.stage (setTaskStatus .failed))) {deps : EngineDeps}
    {context : RunContext} {taskTitle text error : String} : Confined allowed (rejectOutput deps context taskTitle text error) :=
  issues_bind (commit_artifact_confined delivers deps context _ _ _ _) (fun _ _ =>
    fail_notes delivers.toTakesNotes fails (delivers.mission _))

end

section
variable {inv : World → Prop} {promise : World → World → Prop} {assertion : World → Prop} {allowed : Stmt → Prop}

-- A confined program keeps every assertion its statements keep.
theorem confined_raises {α : Type} {post : α → Prop} {program : Exec α} (confined : Issues allowed post program)
    (performs : ∀ stmt choice w, allowed stmt → assertion w → inv w →
      Moves inv promise w (perform stmt choice w).2 ∧ assertion (perform stmt choice w).2) :
    Performs inv promise assertion program (fun value w => post value ∧ assertion w) (fun _ => assertion) := by
  have walk : Triple (contract inv promise) 0 () assertion program.run (fun result w => Returned post result ∧ assertion w) := by
    refine triple_issues (alone_stable) ?_ confined
    intro stmt w choice answer u fine holds kept _ executed
    have result : perform stmt choice w = (answer, u) := Option.some.inj executed
    have moved := performs stmt choice w fine holds kept
    rw [result] at moved
    exact moved
  refine triple_weaken walk (fun _ holds => holds) (fun result w ended => ?_)
  cases result with
  | ok value => exact ended
  | error failure => exact ended.2

def failedWith (reason : String) (db : TaskDb) : TaskDb :=
  appendEvents [⟨.missionFailed, [("reason", reason)]⟩]
    (setMissionStatus .failed (appendEvents [⟨.taskFailed, [("reason", reason)]⟩] (setTaskStatus .failed db)))

theorem fail_rule (durable : Durable inv promise) {pre : World → Prop} {post : Unit → World → Prop}
    {thrown : Failure → World → Prop} (after : ∀ w, pre w → inv w → post () (w.stages (failedWith reason))) :
    Performs inv promise pre (fail reason) post thrown := by
  let noted (db : TaskDb) : TaskDb := appendEvents [⟨.taskFailed, [("reason", reason)]⟩] (setTaskStatus .failed db)
  unfold fail publish
  refine raises_bind (fun _ u => ∃ w, pre w ∧ inv w ∧ u = w.stages (setTaskStatus .failed))
    (durable_stage durable (fun w before holds => ⟨w, before, holds, rfl⟩)) (fun _ => ?_)
  refine raises_bind (fun _ u => ∃ w, pre w ∧ inv w ∧ u = w.stages noted) (durable_stage durable ?_) (fun _ => ?_)
  · rintro u ⟨w, before, holds, rfl⟩ _
    exact ⟨w, before, holds, rfl⟩
  refine raises_bind (fun _ u => ∃ w, pre w ∧ inv w ∧ u = w.stages (fun db => setMissionStatus .failed (noted db)))
    (durable_stage durable ?_) (fun _ => durable_stage durable ?_)
  · rintro u ⟨w, before, holds, rfl⟩ _
    exact ⟨w, before, holds, rfl⟩
  · rintro u ⟨w, before, holds, rfl⟩ _
    exact after w before holds

end

end AiWorld.Executor
