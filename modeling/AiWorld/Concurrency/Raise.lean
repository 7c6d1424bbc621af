import AiWorld.Concurrency.Rely

set_option autoImplicit false

namespace AiWorld.Concurrency

section
variable {S : Sig} {χ σ Req ε α β : Type} {M : Machine S χ σ}

-- Programs that may raise: one assertion for a normal return and one for an
-- exception.
def Ending (post : α → σ → Prop) (raised : ε → σ → Prop) : Except ε α → σ → Prop
  | .ok value, s => post value s
  | .error failure, s => raised failure s

def Raises (D : Contract M Req) (pid : Nat) (request : Req) (pre : σ → Prop) (program : ExceptT ε (Proc S) α)
    (post : α → σ → Prop) (raised : ε → σ → Prop) : Prop :=
  Triple D pid request pre program.run (Ending post raised)

variable {D : Contract M Req} {pid : Nat} {request : Req}
variable {pre assertion : σ → Prop} {post : α → σ → Prop} {raised : ε → σ → Prop} {program : ExceptT ε (Proc S) α}
  {follow : α → ExceptT ε (Proc S) β} {handler : ε → ExceptT ε (Proc S) α} {fact : Prop}

theorem raises_pure (value : α) (holds : ∀ s, pre s → post value s) : Raises D pid request pre (pure value) post raised :=
  holds

theorem raises_done {value : α} : Raises D pid request pre (pure value) (fun _ => pre) raised := fun _ holds => holds

theorem raises_throw (failure : ε) (holds : ∀ s, pre s → raised failure s) :
    Raises D pid request pre (throw failure : ExceptT ε (Proc S) α) post raised :=
  holds

theorem raises_bind (middle : α → σ → Prop) {post : β → σ → Prop} (first : Raises D pid request pre program middle raised)
    (second : ∀ value, Raises D pid request (middle value) (follow value) post raised) :
    Raises D pid request pre (program >>= follow) post raised := by
  refine triple_bind first (fun result => ?_)
  cases result with
  | ok value => exact second value
  | error failure => exact fun _ holds => holds

theorem raises_map {post : β → σ → Prop} (change : α → β)
    (first : Raises D pid request pre program (fun value => post (change value)) raised) :
    Raises D pid request pre (change <$> program) post raised := by
  refine triple_bind first (fun result => ?_)
  cases result with
  | ok value => exact fun _ holds => holds
  | error failure => exact fun _ holds => holds

theorem raises_catch (middle : ε → σ → Prop) (first : Raises D pid request pre program post middle)
    (second : ∀ failure, Raises D pid request (middle failure) (handler failure) post raised) :
    Raises D pid request pre (tryCatch program handler) post raised := by
  refine triple_bind first (fun result => ?_)
  cases result with
  | ok value => exact fun _ holds => holds
  | error failure => exact second failure

theorem raises_ask (stmt : S.Stmt) (post : S.Ans stmt → σ → Prop)
    (stable : Stable D pid pre)
    (executes : ∀ s choice answer t, pre s → D.inv s → D.guard pid request stmt s →
      M.exec pid stmt choice s = some (answer, t) → D.guarantee pid s t ∧ post answer t) :
    Raises D pid request pre (ExceptT.lift (Proc.ask stmt)) post raised :=
  triple_act stmt post stable executes (fun _ _ holds => holds)

theorem raises_weaken {strongPre : σ → Prop} {strongPost : α → σ → Prop} {strongRaised : ε → σ → Prop}
    (triple : Raises D pid request pre program strongPost strongRaised) (before : ∀ s, strongPre s → pre s)
    (after : ∀ value s, strongPost value s → post value s) (thrown : ∀ failure s, strongRaised failure s → raised failure s) :
    Raises D pid request strongPre program post raised :=
  triple_weaken triple before (fun result s holds => by
    cases result with
    | ok value => exact after value s holds
    | error failure => exact thrown failure s holds)

theorem raises_before {strongPre : σ → Prop} (triple : Raises D pid request pre program post raised)
    (before : ∀ s, strongPre s → pre s) : Raises D pid request strongPre program post raised := fun s holds => triple s (before s holds)

theorem raises_exists {ι : Type} {pre : ι → σ → Prop} (each : ∀ index, Raises D pid request (pre index) program post raised) :
    Raises D pid request (fun s => ∃ index, pre index s) program post raised :=
  fun s ⟨index, holds⟩ => each index s holds

-- A fact that does not depend on the state.
theorem raises_given (known : ∀ s, pre s → fact) (given : fact → Raises D pid request pre program post raised) :
    Raises D pid request pre program post raised :=
  fun s holds => given (known s holds) s holds

theorem raises_fact (given : fact → Raises D pid request pre program post raised) :
    Raises D pid request (fun s => fact ∧ pre s) program post raised :=
  fun s ⟨known, holds⟩ => given known s holds

-- One assertion that the program keeps, however it ends.
def Keeps (D : Contract M Req) (pid : Nat) (request : Req) (assertion : σ → Prop) (program : ExceptT ε (Proc S) α) : Prop :=
  Raises D pid request assertion program (fun _ => assertion) (fun _ => assertion)

theorem keeps_pure {value : α} : Keeps D pid request assertion (pure value : ExceptT ε (Proc S) α) :=
  fun _ holds => holds

theorem keeps_throw {failure : ε} : Keeps D pid request assertion (throw failure : ExceptT ε (Proc S) α) :=
  fun _ holds => holds

theorem keeps_bind (first : Keeps D pid request assertion program)
    (second : ∀ value, Keeps D pid request assertion (follow value)) : Keeps D pid request assertion (program >>= follow) :=
  raises_bind _ first second

theorem keeps_catch (first : Keeps D pid request assertion program)
    (second : ∀ failure, Keeps D pid request assertion (handler failure)) :
    Keeps D pid request assertion (tryCatch program handler) :=
  raises_catch _ first second

end

section
variable {S : Sig} {ε α β : Type} {allowed : S.Stmt → Prop}

def Outcomes (post : α → Prop) (thrown : ε → Prop) : Except ε α → Prop
  | .ok value => post value
  | .error failure => thrown failure

-- The statements a program that may raise can issue, the values it can return and
-- the exceptions it can raise, as long as its answers are the given ones.
def Utters (allowed : S.Stmt → Prop) (given : ∀ stmt, S.Ans stmt → Prop) (post : α → Prop) (thrown : ε → Prop)
    (program : ExceptT ε (Proc S) α) : Prop :=
  program.run.Replies allowed given (Outcomes post thrown)

section
variable {given : ∀ stmt, S.Ans stmt → Prop} {thrown : ε → Prop}
variable {post : α → Prop} {program : ExceptT ε (Proc S) α}

theorem utters_pure {value : α} (holds : post value) :
    Utters allowed given post thrown (pure value : ExceptT ε (Proc S) α) := holds

theorem utters_throw {failure : ε} (holds : thrown failure) :
    Utters allowed given post thrown (throw failure : ExceptT ε (Proc S) α) := holds

theorem utters_ask (stmt : S.Stmt) (fine : allowed stmt) :
    Utters allowed given (given stmt) thrown (ExceptT.lift (Proc.ask stmt) : ExceptT ε (Proc S) (S.Ans stmt)) :=
  ⟨fine, fun _ fits => fits⟩

theorem utters_lift {program : Proc S α} (replies : program.Replies allowed given post) :
    Utters allowed given post thrown (ExceptT.lift program : ExceptT ε (Proc S) α) :=
  Proc.replies_bind _ replies (fun _ holds => holds)

theorem utters_weaken {weaker : S.Stmt → Prop} {fewer : ∀ stmt, S.Ans stmt → Prop} {weakPost : α → Prop} {milder : ε → Prop}
    (fine : ∀ stmt, allowed stmt → weaker stmt) (fits : ∀ stmt answer, fewer stmt answer → given stmt answer)
    (returned : ∀ value, post value → weakPost value) (raised : ∀ failure, thrown failure → milder failure)
    (utters : Utters allowed given post thrown program) : Utters weaker fewer weakPost milder program :=
  Proc.replies_weaken fine fits (fun result holds => by
    cases result with
    | ok value => exact returned value holds
    | error failure => exact raised failure holds) utters

theorem utters_bind {middle : α → Prop} {post : β → Prop} {follow : α → ExceptT ε (Proc S) β}
    (first : Utters allowed given middle thrown program)
    (second : ∀ value, middle value → Utters allowed given post thrown (follow value)) :
    Utters allowed given post thrown (program >>= follow) := by
  refine Proc.replies_bind _ first (fun result returned => ?_)
  cases result with
  | ok value => exact second value returned
  | error failure => exact returned

theorem utters_ite {condition : Prop} [Decidable condition] {yes no : ExceptT ε (Proc S) α}
    (first : condition → Utters allowed given post thrown yes) (second : ¬ condition → Utters allowed given post thrown no) :
    Utters allowed given post thrown (if condition then yes else no) := by
  by_cases holds : condition
  · simpa only [if_pos holds] using first holds
  · simpa only [if_neg holds] using second holds

theorem utters_map {post : β → Prop} (change : α → β)
    (first : Utters allowed given (fun value => post (change value)) thrown program) :
    Utters allowed given post thrown (change <$> program) := by
  refine Proc.replies_bind _ first (fun result returned => ?_)
  cases result with
  | ok value => exact returned
  | error failure => exact returned

theorem utters_catch {middle : ε → Prop} {handler : ε → ExceptT ε (Proc S) α}
    (first : Utters allowed given post middle program)
    (second : ∀ failure, middle failure → Utters allowed given post thrown (handler failure)) :
    Utters allowed given post thrown (tryCatch program handler) := by
  refine Proc.replies_bind _ first (fun result returned => ?_)
  cases result with
  | ok value => exact returned
  | error failure => exact second failure returned

end

abbrev Returned (post : α → Prop) : Except ε α → Prop := Outcomes post (fun _ => True)

-- The same when nothing is said of the exceptions.
def Issues (allowed : S.Stmt → Prop) (post : α → Prop) (program : ExceptT ε (Proc S) α) : Prop :=
  Utters allowed (fun _ _ => True) post (fun _ => True) program

variable {post : α → Prop} {program : ExceptT ε (Proc S) α}

theorem issues_pure {value : α} (holds : post value) :
    Issues allowed post (pure value : ExceptT ε (Proc S) α) := utters_pure holds

theorem issues_throw {failure : ε} : Issues allowed post (throw failure : ExceptT ε (Proc S) α) :=
  utters_throw trivial

theorem issues_ask (stmt : S.Stmt) (fine : allowed stmt) :
    Issues allowed (fun _ => True) (ExceptT.lift (Proc.ask stmt) : ExceptT ε (Proc S) (S.Ans stmt)) := utters_ask stmt fine

theorem issues_lift {program : Proc S α} (issues : program.Issues allowed post) :
    Issues allowed post (ExceptT.lift program : ExceptT ε (Proc S) α) := utters_lift issues

theorem issues_weaken {weaker : S.Stmt → Prop} (fine : ∀ stmt, allowed stmt → weaker stmt)
    (issues : Issues allowed post program) : Issues weaker post program :=
  utters_weaken fine (fun _ _ fits => fits) (fun _ holds => holds) (fun _ _ => trivial) issues

theorem issues_bind {middle : α → Prop} {post : β → Prop} {follow : α → ExceptT ε (Proc S) β}
    (first : Issues allowed middle program) (second : ∀ value, middle value → Issues allowed post (follow value)) :
    Issues allowed post (program >>= follow) :=
  utters_bind first second

theorem issues_ite {condition : Prop} [Decidable condition] {yes no : ExceptT ε (Proc S) α}
    (first : condition → Issues allowed post yes) (second : ¬ condition → Issues allowed post no) :
    Issues allowed post (if condition then yes else no) := utters_ite first second

theorem issues_map {post : β → Prop} {change : α → β} (first : Issues allowed (fun value => post (change value)) program) :
    Issues allowed post (change <$> program) :=
  utters_map change first

theorem issues_catch {handler : ε → ExceptT ε (Proc S) α} (first : Issues allowed post program)
    (second : ∀ failure, Issues allowed post (handler failure)) :
    Issues allowed post (tryCatch program handler) := utters_catch first (fun failure _ => second failure)

end

section
variable {S : Sig} {χ σ α : Type} {M : Machine S χ σ}

-- A program that runs alone: nobody interferes, and what it promises of each of
-- its steps is all that is known when it is cut off.
def alone (M : Machine S χ σ) (inv : σ → Prop) (promise : σ → σ → Prop) : Contract M Unit where
  guard := fun _ _ _ _ => True
  inv := inv
  rely := fun _ s t => s = t
  guarantee := fun _ s t => inv t ∧ promise s t
  rely_refl := fun _ _ => rfl
  rely_trans := fun _ _ _ _ first second => first.trans second
  keeps_inv := fun _ _ _ _ kept => kept.1

variable {inv : σ → Prop} {promise : σ → σ → Prop} {pid : Nat} {post : α → σ → Prop}

theorem alone_stable {assertion : σ → Prop} : Stable (alone M inv promise) pid assertion := by
  rintro s t holds rfl _
  exact holds

theorem safe_both {other : σ → Prop} {further : σ → σ → Prop} {also : α → σ → Prop} (program : Proc S α) (s : σ)
    (first : Safe (alone M inv promise) pid () post program s) (second : Safe (alone M other further) pid () also program s) :
    Safe (alone M (fun s => inv s ∧ other s) (fun s t => promise s t ∧ further s t)) pid ()
      (fun value s => post value s ∧ also value s) program s := by
  induction program generalizing s with
  | ret value => exact ⟨first, second⟩
  | act stmt next ih =>
      intro t same holds _ choice answer u executed
      obtain ⟨⟨kept, promised⟩, rest⟩ := first t same holds.1 trivial choice answer u executed
      obtain ⟨⟨keptToo, promisedToo⟩, restToo⟩ := second t same holds.2 trivial choice answer u executed
      exact ⟨⟨⟨kept, keptToo⟩, promised, promisedToo⟩, ih answer u rest restToo⟩

theorem drive_safe (refl : ∀ s, promise s s) (trans : ∀ s t u, promise s t → promise t u → promise s u) (pid : Nat)
    (choices : List χ) (program : Proc S α) (s : σ) (start : inv s) (safe : Safe (alone M inv promise) pid () post program s) :
    inv (M.drive pid choices program s).2 ∧ promise s (M.drive pid choices program s).2 ∧
      ∀ value, (M.drive pid choices program s).1 = .ret value → post value (M.drive pid choices program s).2 := by
  induction choices generalizing program s with
  | nil =>
      refine ⟨start, refl s, fun value returned => ?_⟩
      obtain rfl : program = .ret value := returned
      exact safe
  | cons choice rest ih =>
      cases program with
      | ret value =>
          refine ⟨start, refl s, fun other returned => ?_⟩
          obtain rfl : value = other := by simpa [Machine.drive] using returned
          exact safe
      | act stmt next =>
          cases executed : M.exec pid stmt choice s with
          | none => simpa only [Machine.drive, executed] using ih (.act stmt next) s start safe
          | some result =>
              obtain ⟨answer, t⟩ := result
              obtain ⟨⟨kept, promised⟩, continues⟩ := safe s rfl start trivial choice answer t executed
              obtain ⟨later, further, returns⟩ := ih (next answer) t kept continues
              simp only [Machine.drive, executed]
              exact ⟨later, trans s t _ promised further, returns⟩

end

end AiWorld.Concurrency
