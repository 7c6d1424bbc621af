import AiWorld.Concurrency.Raise

set_option autoImplicit false

namespace AiWorld.Concurrency

section
variable {S : Sig} {χ σ α β : Type} (M : Machine S χ σ) (pid : Nat) (may : χ → Prop)

-- The program, run alone under choices that may be made, is never blocked and ends in
-- a state with the postcondition.
def Completes (post : α → σ → Prop) : Proc S α → σ → Prop
  | .ret value, s => post value s
  | .act stmt next, s => ∀ choice, may choice →
      ∃ answer t, M.exec pid stmt choice s = some (answer, t) ∧ Completes post (next answer) t

variable {M pid may}
variable {post : α → σ → Prop} {program : Proc S α}

theorem completes_weaken {weak : α → σ → Prop} (weaker : ∀ value s, post value s → weak value s) (program : Proc S α) (s : σ)
    (completes : Completes M pid may post program s) : Completes M pid may weak program s := by
  induction program generalizing s with
  | ret value => exact weaker value s completes
  | act stmt next ih =>
      intro choice allowed
      obtain ⟨answer, t, executed, rest⟩ := completes choice allowed
      exact ⟨answer, t, executed, ih answer t rest⟩

theorem completes_bind {middle : α → σ → Prop} {post : β → σ → Prop} (follow : α → Proc S β) (s : σ)
    (first : Completes M pid may middle program s)
    (second : ∀ value t, middle value t → Completes M pid may post (follow value) t) :
    Completes M pid may post (program >>= follow) s := by
  induction program generalizing s with
  | ret value => exact second value s first
  | act stmt next ih =>
      intro choice allowed
      obtain ⟨answer, t, executed, rest⟩ := first choice allowed
      exact ⟨answer, t, executed, ih answer t rest⟩

-- A program whose statements can always be executed, with answers of one kind, ends
-- as it does under such answers.
theorem completes_replies {allowed : S.Stmt → Prop} {given : ∀ stmt, S.Ans stmt → Prop} {post : α → Prop} {assertion : σ → Prop}
    (executes : ∀ stmt choice s, allowed stmt → may choice → assertion s →
      ∃ answer t, M.exec pid stmt choice s = some (answer, t) ∧ given stmt answer ∧ assertion t)
    (program : Proc S α) (s : σ) (replies : program.Replies allowed given post) (holds : assertion s) :
    Completes M pid may (fun value t => post value ∧ assertion t) program s := by
  induction program generalizing s with
  | ret value => exact ⟨replies, holds⟩
  | act stmt next ih =>
      intro choice allows
      obtain ⟨answer, t, executed, fits, kept⟩ := executes stmt choice s replies.1 allows holds
      exact ⟨answer, t, executed, ih answer t (replies.2 answer fits) kept⟩

-- What every statement keeps, the whole program keeps.
theorem completes_keeps {kept : σ → Prop}
    (keeps : ∀ stmt choice s answer t, kept s → M.exec pid stmt choice s = some (answer, t) → kept t) (s : σ)
    (completes : Completes M pid may post program s) (holds : kept s) :
    Completes M pid may (fun value t => post value t ∧ kept t) program s := by
  induction program generalizing s with
  | ret value => exact ⟨completes, holds⟩
  | act stmt next ih =>
      intro choice allowed
      obtain ⟨answer, t, executed, rest⟩ := completes choice allowed
      exact ⟨answer, t, executed, ih answer t rest (keeps stmt choice s answer t holds executed)⟩

theorem completes_and {other : α → σ → Prop} (s : σ) (first : Completes M pid may post program s)
    (second : Completes M pid may other program s) :
    Completes M pid may (fun value t => post value t ∧ other value t) program s := by
  induction program generalizing s with
  | ret value => exact ⟨first, second⟩
  | act stmt next ih =>
      intro choice allowed
      obtain ⟨answer, t, executed, rest⟩ := first choice allowed
      obtain ⟨answerToo, u, executedToo, restToo⟩ := second choice allowed
      cases executed.symm.trans executedToo
      exact ⟨answer, t, executed, ih answer t rest restToo⟩

-- However the choices go on, the program is over after finitely many of them.
theorem completes_drive (program : Proc S α) (s : σ) (completes : Completes M pid may post program s) (choices : Nat → χ)
    (allowed : ∀ index, may (choices index)) :
    ∃ count value t, M.drive pid ((List.range count).map choices) program s = (.ret value, t) ∧ post value t := by
  induction program generalizing s choices with
  | ret value => exact ⟨0, value, s, rfl, completes⟩
  | act stmt next ih =>
      obtain ⟨answer, t, executed, rest⟩ := completes (choices 0) (allowed 0)
      obtain ⟨count, value, u, driven, holds⟩ := ih answer t rest (fun index => choices (index + 1)) (fun _ => allowed _)
      refine ⟨count + 1, value, u, ?_, holds⟩
      rw [List.range_succ_eq_map, List.map_cons, List.map_map]
      simp only [Machine.drive, executed]
      exact driven

end

section
variable {S : Sig} {χ σ ε α β : Type} (M : Machine S χ σ) (pid : Nat) (may : χ → Prop)

-- The same of a program that may raise.
abbrev Finishes (post : α → σ → Prop) (raised : ε → σ → Prop) (program : ExceptT ε (Proc S) α) (s : σ) : Prop :=
  Completes M pid may (Ending post raised) program.run s

variable {M pid may}
variable {post : α → σ → Prop} {raised : ε → σ → Prop} {s : σ} {program : ExceptT ε (Proc S) α}

theorem finishes_pure (value : α) (s : σ) (holds : post value s) :
    Finishes M pid may post raised (pure value) s := holds

theorem finishes_throw {failure : ε} (holds : raised failure s) :
    Finishes M pid may post raised (throw failure : ExceptT ε (Proc S) α) s := holds

theorem finishes_bind (middle : α → σ → Prop) {post : β → σ → Prop} {follow : α → ExceptT ε (Proc S) β}
    (first : Finishes M pid may middle raised program s)
    (second : ∀ value t, middle value t → Finishes M pid may post raised (follow value) t) :
    Finishes M pid may post raised (program >>= follow) s := by
  refine completes_bind _ s first (fun result t holds => ?_)
  cases result with
  | ok value => exact second value t holds
  | error failure => exact holds

theorem finishes_map {post : β → σ → Prop} {change : α → β}
    (first : Finishes M pid may (fun value => post (change value)) raised program s) :
    Finishes M pid may post raised (change <$> program) s := by
  refine completes_bind _ s first (fun result t holds => ?_)
  cases result with
  | ok value => exact holds
  | error failure => exact holds

theorem finishes_catch (middle : ε → σ → Prop) {handler : ε → ExceptT ε (Proc S) α}
    (first : Finishes M pid may post middle program s)
    (second : ∀ failure t, middle failure t → Finishes M pid may post raised (handler failure) t) :
    Finishes M pid may post raised (tryCatch program handler) s := by
  refine completes_bind _ s first (fun result t holds => ?_)
  cases result with
  | ok value => exact holds
  | error failure => exact second failure t holds

theorem finishes_ask (stmt : S.Stmt) (post : S.Ans stmt → σ → Prop) (s : σ)
    (executes : ∀ choice, may choice → ∃ answer t, M.exec pid stmt choice s = some (answer, t) ∧ post answer t) :
    Finishes M pid may post raised (ExceptT.lift (Proc.ask stmt) : ExceptT ε (Proc S) (S.Ans stmt)) s := executes

theorem finishes_keeps {kept : σ → Prop}
    (keeps : ∀ stmt choice s answer t, kept s → M.exec pid stmt choice s = some (answer, t) → kept t)
    (finishes : Finishes M pid may post raised program s) (holds : kept s) :
    Finishes M pid may (fun value t => post value t ∧ kept t) raised program s :=
  completes_weaken (fun result t ended => by
    cases result with
    | ok value => exact ended
    | error failure => exact ended.1) program.run s (completes_keeps keeps s finishes holds)

theorem finishes_weaken {strongPost : α → σ → Prop} {strongRaised : ε → σ → Prop}
    (finishes : Finishes M pid may strongPost strongRaised program s) (after : ∀ value t, strongPost value t → post value t)
    (thrown : ∀ failure t, strongRaised failure t → raised failure t) : Finishes M pid may post raised program s :=
  completes_weaken (fun result t holds => by
    cases result with
    | ok value => exact after value t holds
    | error failure => exact thrown failure t holds) program.run s finishes

end

end AiWorld.Concurrency
