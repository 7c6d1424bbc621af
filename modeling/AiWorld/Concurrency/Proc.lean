import AiWorld.Concurrency.Runs

set_option autoImplicit false

namespace AiWorld.Concurrency

-- A statement is one atomic exchange with the shared state. The type of its
-- answer depends on the statement alone.
structure Sig where
  Stmt : Type
  Ans : Stmt → Type

inductive Proc (S : Sig) (α : Type) : Type where
  | ret (value : α)
  | act (stmt : S.Stmt) (next : S.Ans stmt → Proc S α)

namespace Proc

variable {S : Sig} {α β : Type}

def bind : Proc S α → (α → Proc S β) → Proc S β
  | .ret value, follow => follow value
  | .act stmt next, follow => .act stmt (fun answer => (next answer).bind follow)

instance : Monad (Proc S) where
  pure := .ret
  bind := bind

def ask (stmt : S.Stmt) : Proc S (S.Ans stmt) := .act stmt .ret

def done : Proc S α → Option α
  | .ret value => some value
  | .act _ _ => none

theorem ret_of_done (program : Proc S α) {value : α} (ended : program.done = some value) : program = .ret value := by
  cases program with
  | ret own => exact congrArg Proc.ret (Option.some.inj ended)
  | act stmt next => cases ended

-- Every statement the program can issue, as long as its answers are the given ones,
-- is allowed, and so is every value it can return.
def Replies (allowed : S.Stmt → Prop) (given : ∀ stmt, S.Ans stmt → Prop) (post : α → Prop) : Proc S α → Prop
  | .ret value => post value
  | .act stmt next => allowed stmt ∧ ∀ answer, given stmt answer → (next answer).Replies allowed given post

-- The same whatever it is answered.
abbrev Issues (allowed : S.Stmt → Prop) (post : α → Prop) (program : Proc S α) : Prop :=
  program.Replies allowed (fun _ _ => True) post

section
variable {allowed : S.Stmt → Prop} {given : ∀ stmt, S.Ans stmt → Prop}
variable {program : Proc S α}

theorem replies_bind {middle : α → Prop} {post : β → Prop} (follow : α → Proc S β)
    (first : program.Replies allowed given middle)
    (second : ∀ value, middle value → (follow value).Replies allowed given post) :
    (program.bind follow).Replies allowed given post := by
  induction program with
  | ret value => exact second value first
  | act stmt next ih => exact ⟨first.1, fun answer fits => ih answer (first.2 answer fits)⟩

theorem replies_weaken {weaker : S.Stmt → Prop} {fewer : ∀ stmt, S.Ans stmt → Prop} {post weakPost : α → Prop}
    (fine : ∀ stmt, allowed stmt → weaker stmt) (fits : ∀ stmt answer, fewer stmt answer → given stmt answer)
    (holds : ∀ value, post value → weakPost value) (replies : program.Replies allowed given post) :
    program.Replies weaker fewer weakPost := by
  induction program with
  | ret value => exact holds value replies
  | act stmt next ih => exact ⟨fine stmt replies.1, fun answer fit => ih answer (replies.2 answer (fits stmt answer fit))⟩

end

theorem bind_ret_right (program : Proc S α) : (program >>= Proc.ret) = program := by
  induction program with
  | ret value => rfl
  | act stmt next ih => exact congrArg (Proc.act stmt) (funext ih)

end Proc

-- A machine answers a statement of process `pid` under the scheduler's choice,
-- or leaves the process blocked. `crash` is what the death of a process does to the
-- shared state.
structure Machine (S : Sig) (χ σ : Type) where
  exec : Nat → (stmt : S.Stmt) → χ → σ → Option (S.Ans stmt × σ)
  crash : Nat → σ → σ

section
variable {S : Sig} {χ σ α : Type}

-- A program alone: one choice a statement. When the choices run out the program
-- is cut off where it stands, which is how a crash is modelled.
def Machine.drive (M : Machine S χ σ) (pid : Nat) : List χ → Proc S α → σ → Proc S α × σ
  | [], program, s => (program, s)
  | _ :: _, .ret value, s => (.ret value, s)
  | choice :: rest, .act stmt next, s =>
      match M.exec pid stmt choice s with
      | none => M.drive pid rest (.act stmt next) s
      | some (answer, t) => M.drive pid rest (next answer) t

end

section
variable {S : Sig} {χ σ ρ Req : Type}

structure Pool (S : Sig) (σ ρ Req : Type) where
  shared : σ
  procs : List (Req × Proc S ρ)

inductive Label (χ Req : Type) where
  | arrive (request : Req)
  | step (pid : Nat) (choice : χ)
  | crash (pid : Nat)

-- A process that crashes in the middle of its program is left with the result `lost`.
def Pool.step (M : Machine S χ σ) (program : Req → Proc S ρ) (lost : ρ) (pool : Pool S σ ρ Req) :
    Label χ Req → Option (Pool S σ ρ Req)
  | .arrive request => some ⟨pool.shared, pool.procs ++ [(request, program request)]⟩
  | .step pid choice =>
      match pool.procs[pid]? with
      | some (request, .act stmt next) =>
          (M.exec pid stmt choice pool.shared).map
            (fun (answer, t) => ⟨t, pool.procs.set pid (request, next answer)⟩)
      | _ => none
  | .crash pid =>
      match pool.procs[pid]? with
      | some (request, .act _ _) => some ⟨M.crash pid pool.shared, pool.procs.set pid (request, .ret lost)⟩
      | _ => none

-- Everything a step of the pool can be.
inductive Pool.Took (M : Machine S χ σ) (program : Req → Proc S ρ) (lost : ρ) (pool : Pool S σ ρ Req) :
    Label χ Req → Pool S σ ρ Req → Prop where
  | arrive (request : Req) : Took M program lost pool (.arrive request) ⟨pool.shared, pool.procs ++ [(request, program request)]⟩
  | step (pid : Nat) (choice : χ) (request : Req) (stmt : S.Stmt) (rest : S.Ans stmt → Proc S ρ) (answer : S.Ans stmt) (after : σ)
      (entry : pool.procs[pid]? = some (request, .act stmt rest)) (executed : M.exec pid stmt choice pool.shared = some (answer, after)) :
      Took M program lost pool (.step pid choice) ⟨after, pool.procs.set pid (request, rest answer)⟩
  | crash (pid : Nat) (request : Req) (stmt : S.Stmt) (rest : S.Ans stmt → Proc S ρ)
      (entry : pool.procs[pid]? = some (request, .act stmt rest)) :
      Took M program lost pool (.crash pid) ⟨M.crash pid pool.shared, pool.procs.set pid (request, .ret lost)⟩

variable {M : Machine S χ σ} {program : Req → Proc S ρ} {lost : ρ} {arrives : Req → Prop}
  {guard : Nat → Req → S.Stmt → σ → Prop} {mayCrash : Nat → σ → Prop} {pool : Pool S σ ρ Req}

theorem Pool.step_took (pool next : Pool S σ ρ Req) (label : Label χ Req)
    (stepped : pool.step M program lost label = some next) : pool.Took M program lost label next := by
  cases label with
  | arrive request =>
      cases stepped
      exact .arrive request
  | step pid choice =>
      cases entry : pool.procs[pid]? with
      | none => simp [Pool.step, entry] at stepped
      | some found =>
          obtain ⟨request, body⟩ := found
          cases body with
          | ret value => simp [Pool.step, entry] at stepped
          | act stmt rest =>
              simp only [Pool.step, entry] at stepped
              obtain ⟨⟨answer, after⟩, executed, rfl⟩ := Option.map_eq_some_iff.mp stepped
              exact .step pid choice request stmt rest answer after entry executed
  | crash pid =>
      cases entry : pool.procs[pid]? with
      | none => simp [Pool.step, entry] at stepped
      | some found =>
          obtain ⟨request, body⟩ := found
          cases body with
          | ret value => simp [Pool.step, entry] at stepped
          | act stmt rest =>
              simp only [Pool.step, entry] at stepped
              cases stepped
              exact .crash pid request stmt rest entry

theorem Pool.step_enabled (pool : Pool S σ ρ Req) (pid : Nat) (choice : χ) (request : Req) (stmt : S.Stmt)
    (rest : S.Ans stmt → Proc S ρ) (entry : pool.procs[pid]? = some (request, .act stmt rest)) :
    (pool.step M program lost (.step pid choice)).isSome = true ∨ M.exec pid stmt choice pool.shared = none := by
  cases executed : M.exec pid stmt choice pool.shared with
  | none => exact .inr rfl
  | some outcome => exact .inl (by simp [Pool.step, entry, executed])

-- The condition on a step: which requests may arrive, what must hold of the shared
-- state when a process of a request issues a statement, and when a process may crash.
def Pool.Meets (arrives : Req → Prop) (guard : Nat → Req → S.Stmt → σ → Prop) (mayCrash : Nat → σ → Prop)
    (pool : Pool S σ ρ Req) : Label χ Req → Prop
  | .arrive request => arrives request
  | .step pid _ => ∀ request stmt next, pool.procs[pid]? = some (request, .act stmt next) →
      guard pid request stmt pool.shared
  | .crash pid => mayCrash pid pool.shared

theorem Pool.meets_weaken {more : Req → Prop} {often : Nat → σ → Prop} {label : Label χ Req}
    (joins : ∀ request, arrives request → more request) (dies : ∀ pid s, mayCrash pid s → often pid s)
    (met : pool.Meets arrives guard mayCrash label) : pool.Meets more guard often label := by
  cases label with
  | arrive request => exact joins request met
  | step pid choice => exact met
  | crash pid => exact dies pid _ met

theorem Pool.meets_always (joins : ∀ request, arrives request) (free : ∀ pid request stmt s, guard pid request stmt s)
    (dies : ∀ pid s, mayCrash pid s) (pool : Pool S σ ρ Req) (label : Label χ Req) : pool.Meets arrives guard mayCrash label := by
  cases label with
  | arrive request => exact joins request
  | step pid choice => exact fun request stmt _ _ => free pid request stmt _
  | crash pid => exact dies pid _

def Pool.checks (arrives : Req → Bool) (guard : Nat → Req → S.Stmt → σ → Bool) (mayCrash : Nat → σ → Bool)
    (pool : Pool S σ ρ Req) : Label χ Req → Bool
  | .arrive request => arrives request
  | .step pid _ =>
      match pool.procs[pid]? with
      | some (request, .act stmt _) => guard pid request stmt pool.shared
      | _ => true
  | .crash pid => mayCrash pid pool.shared

theorem Pool.meets_of_checks (arrives : Req → Bool) (guard : Nat → Req → S.Stmt → σ → Bool) (mayCrash : Nat → σ → Bool)
    (pool : Pool S σ ρ Req) (label : Label χ Req) (checked : pool.checks arrives guard mayCrash label = true) :
    pool.Meets (fun request => arrives request = true) (fun pid request stmt s => guard pid request stmt s = true)
      (fun pid s => mayCrash pid s = true) label := by
  cases label with
  | arrive request => exact checked
  | step pid choice =>
      intro request stmt next entry
      simpa only [Pool.checks, entry] using checked
  | crash pid => exact checked

-- The request of a process and what it has returned, to be evaluated.
def Pool.answer (pool : Pool S σ ρ Req) (pid : Nat) : Option (Req × Option ρ) :=
  pool.procs[pid]?.map (fun entry => (entry.1, entry.2.done))

theorem Pool.ended_of_answer {pid : Nat} {request : Req} {value : ρ} (answers : pool.answer pid = some (request, some value)) :
    pool.procs[pid]? = some (request, .ret value) := by
  obtain ⟨⟨owner, program⟩, present, same⟩ := Option.map_eq_some_iff.mp answers
  obtain ⟨rfl, ended⟩ := Prod.mk.inj same
  rw [present, Proc.ret_of_done program ended]

end

end AiWorld.Concurrency
