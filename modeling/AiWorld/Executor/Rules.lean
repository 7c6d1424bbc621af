import AiWorld.Concurrency.Raise
import AiWorld.Executor.TaskExecutor

set_option autoImplicit false

namespace AiWorld.Executor

open AiWorld.Concurrency AiWorld.Gateway

variable {provider : String}

abbrev contract (inv : World → Prop) (promise : World → World → Prop) : Contract machine Unit := alone machine inv promise

-- What the contract asks of a single step, so that a program cut off anywhere
-- leaves a state that meets it.
def Moves (inv : World → Prop) (promise : World → World → Prop) (before after : World) : Prop :=
  inv after ∧ promise before after

abbrev Performs (inv : World → Prop) (promise : World → World → Prop) {α : Type} (pre : World → Prop) (program : Exec α)
    (post : α → World → Prop) (raised : Failure → World → Prop) : Prop := Raises (contract inv promise) 0 () pre program post raised

section
variable {inv pre : World → Prop} {promise : World → World → Prop} {raised : Failure → World → Prop}

theorem raises_perform (stmt : Stmt) {post : Ans stmt → World → Prop}
    (performs : ∀ w choice, pre w → inv w → Moves inv promise w (perform stmt choice w).2 ∧
      post (perform stmt choice w).1 (perform stmt choice w).2) :
    Performs inv promise pre (ask stmt) post raised := by
  refine raises_ask (S := execSig) (M := machine) stmt post (alone_stable) ?_
  intro w choice answer u before holds _ executed
  have result : perform stmt choice w = (answer, u) := Option.some.inj executed
  have moved := performs w choice before holds
  rw [result] at moved
  exact moved

theorem raises_view {post : TaskDb → World → Prop} (refl : ∀ w, promise w w)
    (after : ∀ w, pre w → inv w → post w.session w) :
    Performs inv promise pre view post raised :=
  raises_perform .view (fun w _ before holds => ⟨⟨holds, refl w⟩, after w before holds⟩)

theorem raises_now {post : ℚ → World → Prop} (refl : ∀ w, promise w w)
    (after : ∀ w time, pre w → inv w → post time w) :
    Performs inv promise pre now post raised :=
  raises_perform .now (fun w choice before holds => ⟨⟨holds, refl w⟩, after w choice.time before holds⟩)

variable {post : Unit → World → Prop}

theorem raises_stage (change : TaskDb → TaskDb)
    (after : ∀ w, pre w → inv w → Moves inv promise w (w.stages change) ∧ post () (w.stages change)) :
    Performs inv promise pre (stage change) post raised :=
  raises_perform (.stage change) (fun w _ before holds => after w before holds)

theorem raises_newId {post : Nat → World → Prop}
    (after : ∀ w, pre w → inv w → Moves inv promise w w.takesId ∧ post w.nextId w.takesId) :
    Performs inv promise pre newId post raised :=
  raises_perform .newId (fun w _ before holds => after w before holds)

theorem raises_send {attempt : Option Nat} {number : Nat} {request : ModelRequest} {post : ProviderOutcome → World → Prop}
    (after : ∀ w outcome, pre w → inv w → Moves inv promise w (w.sends (.sent attempt number request outcome)) ∧
      post outcome (w.sends (.sent attempt number request outcome))) :
    Performs inv promise pre (send attempt number request) post raised :=
  raises_perform (.send attempt number request) (fun w choice before holds => after w choice.outcome before holds)

theorem raises_commit {notes : List Event}
    (done : ∀ w, pre w → inv w → Moves inv promise w (w.commits notes) ∧ post () (w.commits notes) ∧
      raised (.unexpected "commit failed") (w.commits notes))
    (refused : ∀ w, pre w → inv w → Moves inv promise w w.rollsBack ∧ raised (.unexpected "commit failed") w.rollsBack) :
    Performs inv promise pre (sessionCommit notes) post raised := by
  refine raises_bind (fun (acknowledged : Bool) w => Ending post raised
    (if acknowledged then .ok () else .error (.unexpected "commit failed")) w) (raises_perform (.commit notes) ?_) ?_
  · intro w choice before holds
    cases effect : choice.effect with
    | done =>
        simp only [perform, effect]
        exact ⟨(done w before holds).1, (done w before holds).2.1⟩
    | refused =>
        simp only [perform, effect]
        exact refused w before holds
    | unacknowledged =>
        simp only [perform, effect]
        exact ⟨(done w before holds).1, (done w before holds).2.2⟩
  · intro acknowledged
    cases acknowledged with
    | true => exact fun _ holds => holds
    | false => exact fun _ holds => holds

theorem raises_put {key body : String} {post : Bool → World → Prop}
    (stored : ∀ w answer, pre w → inv w → Moves inv promise w (w.stores key body) ∧ post answer (w.stores key body))
    (refused : ∀ w, pre w → inv w → promise w w ∧ post false w) :
    Performs inv promise pre (putObject key body) post raised :=
  raises_perform (.putObject key body) (fun w choice before holds => by
    cases effect : choice.effect with
    | done => simpa only [perform, effect] using stored w true before holds
    | refused => simpa only [perform, effect] using ⟨⟨holds, (refused w before holds).1⟩, (refused w before holds).2⟩
    | unacknowledged => simpa only [perform, effect] using stored w false before holds)

theorem raises_beforeCall {post : Option ℚ → World → Prop}
    (after : ∀ w breaker answer, pre w → inv w → Moves inv promise w (w.breaks breaker) ∧ post answer (w.breaks breaker)) :
    Performs inv promise pre (beforeCall provider) post raised :=
  raises_perform (.beforeCall provider) (fun w _ before holds => after w _ _ before holds)

theorem raises_recordSuccess
    (after : ∀ w breaker, pre w → inv w → Moves inv promise w (w.breaks breaker) ∧ post () (w.breaks breaker)) :
    Performs inv promise pre (recordSuccess provider) post raised :=
  raises_perform (.recordSuccess provider) (fun w _ before holds => after w _ before holds)

theorem raises_recordFailure
    (after : ∀ w breaker, pre w → inv w → Moves inv promise w (w.breaks breaker) ∧ post () (w.breaks breaker)) :
    Performs inv promise pre (recordFailure provider) post raised :=
  raises_perform (.recordFailure provider) (fun w _ before holds => after w _ before holds)

theorem raises_validate {deps : EngineDeps} {text : String} (thrown : ∀ message w, pre w → raised (.unexpected message) w) :
    Performs inv promise pre (validateMissionOutput deps text)
      (fun parsed w => deps.validateMissionOutput text = parsed ∧ pre w) raised := by
  unfold validateMissionOutput
  cases deps.validatorRaises text with
  | some message => exact raises_throw _ (fun w before => thrown message w before)
  | none => exact raises_pure _ (fun _ before => ⟨rfl, before⟩)

end

end AiWorld.Executor
