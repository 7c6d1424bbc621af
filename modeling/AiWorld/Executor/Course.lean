import AiWorld.Executor.Bookkeeping

set_option autoImplicit false

namespace AiWorld.Executor

open AiWorld.Concurrency AiWorld.Gateway

def Failure.handled : Failure → Bool
  | .unexpected _ => false
  | _ => true

-- Where an attempt is once the model is called, as a proof about it sees it: an answer
-- to the first prompt or to the repair, an answer to repair, a call that broke, and the
-- end; and what each part of `execute_task` takes to what.
structure Course (inv : World → Prop) (promise : World → World → Prop) (allowed : Stmt → Prop)
    (adapter : DurableAgentRuntimeAdapter) (context : RunContext) (ran : Bool → RunResult → World → Prop)
    (unfit closed : World → Prop) (broke raised : Failure → World → Prop) : Prop where
  notes : Scribbles allowed
  keeps : ∀ repaired result (program : Exec Unit), Confined allowed program →
    Performs inv promise (ran repaired result) program (fun _ => ran repaired result) raised
  refuses : ∀ repaired result message w, ran repaired result w → raised (.unexpected message) w
  delivers : ∀ repaired result title, adapter.deps.validateMissionOutput result.outputText = .ok title →
    Performs inv promise (ran repaired result) (commitOutput adapter.deps context title result.outputText) (fun _ => closed) raised
  rejects : ∀ result taskTitle error, adapter.deps.validateMissionOutput result.outputText = .error error →
    Performs inv promise (ran true result) (rejectOutput adapter.deps context taskTitle result.outputText error)
      (fun _ => closed) raised
  invalid : ∀ result error w, adapter.deps.validateMissionOutput result.outputText = .error error → ran false result w → unfit w
  asks : ∀ data, Performs inv promise unfit (publish .modelRequested data) (fun _ => unfit) raised
  repairs : ∀ instructions, Performs inv promise unfit (adapter.execute { context with taskInstructions := instructions })
    (ran true) broke
  reports : ∀ failure eventType data, Performs inv promise (broke failure) (publish eventType data) (fun _ => broke failure) raised
  fails : ∀ failure reason, failure.handled = true → Performs inv promise (broke failure) (fail reason) (fun _ => closed) raised
  rethrows : ∀ message w, broke (.unexpected message) w → raised (.unexpected message) w

-- Without a result the attempt is over; with one the model has answered.
def Told (ran : RunResult → World → Prop) (closed : World → Prop) : Option RunResult → World → Prop
  | none, w => closed w
  | some result, w => ran result w

section
variable {inv : World → Prop} {promise : World → World → Prop} {allowed : Stmt → Prop} {adapter : DurableAgentRuntimeAdapter}
  {context : RunContext} {ran : Bool → RunResult → World → Prop} {unfit closed found : World → Prop}
  {broke raised : Failure → World → Prop} {result : RunResult} {taskTitle : String}
  (course : Course inv promise allowed adapter context ran unfit closed broke raised)

include course

theorem course_fails {told : RunResult → World → Prop} {failure : Failure} {reason : String} (handled : failure.handled = true) :
    Performs inv promise (broke failure) (do fail reason; return none) (Told told closed) raised :=
  raises_bind _ (course.fails failure reason handled) (fun _ => raises_pure _ (fun _ ended => ended))

theorem course_fail_model (failure : Failure) :
    Performs inv promise (broke failure) (failModel failure) (Told (ran false) closed) raised := by
  cases failure with
  | budgetExceeded reason attempts => exact raises_bind _ (course.reports _ _ _) (fun _ => course_fails course rfl)
  | modelGateway message attempts => exact raises_bind _ (course.reports _ _ _) (fun _ => course_fails course rfl)
  | unexpected message => exact raises_throw _ (course.rethrows message)

theorem course_fail_repair (failure : Failure) :
    Performs inv promise (broke failure) (failRepair failure) (Told (ran true) closed) raised := by
  cases failure with
  | budgetExceeded reason attempts => exact course_fails course rfl
  | modelGateway message attempts => exact course_fails course rfl
  | unexpected message => exact raises_throw _ (course.rethrows message)

theorem course_after_repair :
    Performs inv promise (ran true result) (afterRepair adapter.deps context taskTitle result) (fun _ => closed) raised := by
  unfold afterRepair
  refine raises_bind _ (course.keeps _ _ _ (commit_completed_notes course.notes)) (fun _ => ?_)
  refine raises_bind _ (raises_validate (course.refuses _ _)) (fun parsed => raises_fact (fun checked => ?_))
  cases parsed with
  | ok title => exact course.delivers _ _ _ checked
  | error error => exact course.rejects _ _ _ checked

theorem course_repair {error : String} :
    Performs inv promise unfit (repair adapter context taskTitle error) (fun _ => closed) raised := by
  unfold repair
  refine raises_bind _ (course.asks _) (fun _ => ?_)
  refine raises_bind (Told (ran true) closed) (raises_catch _ (raises_map some (course.repairs _)) (course_fail_repair course))
    (fun result => ?_)
  cases result with
  | none => exact raises_pure _ (fun _ ended => ended)
  | some result => exact course_after_repair course

theorem course_after_model :
    Performs inv promise (ran false result) (afterModel adapter context taskTitle result) (fun _ => closed) raised := by
  unfold afterModel
  refine raises_bind _ (course.keeps _ _ _ (publish_completed_notes course.notes)) (fun _ => ?_)
  refine raises_bind _ (course.keeps _ _ _ (publish_notes course.notes)) (fun _ => ?_)
  refine raises_bind _ (course.keeps _ _ _ (commit_notes course.notes)) (fun _ => ?_)
  refine raises_bind _ (raises_validate (course.refuses _ _)) (fun parsed => raises_fact (fun checked => ?_))
  cases parsed with
  | ok title => exact course.delivers _ _ _ checked
  | error error => exact raises_before (course_repair course) (fun w => course.invalid result error w checked)

-- From the announced attempt to its end, once the model's run is known.
theorem course_closes {existing : Option Checkpoint} {title : String}
    (runs : Performs inv promise found (runModel adapter context existing) (ran false) broke) :
    Performs inv promise found (do
      let result ← tryCatch (some <$> runModel adapter context existing) failModel
      match result with
      | none => return ()
      | some result => afterModel adapter context title result) (fun _ => closed) raised := by
  refine raises_bind (Told (ran false) closed) (raises_catch _ (raises_map some runs) (course_fail_model course)) (fun result => ?_)
  cases result with
  | none => exact raises_pure _ (fun _ ended => ended)
  | some result => exact course_after_model course

end

end AiWorld.Executor
