import AiWorld.Concurrency.Proc

set_option autoImplicit false

namespace AiWorld.Concurrency

variable {pid : Nat}

section
variable {S : Sig} {χ σ Req : Type}

-- Rely and guarantee of every process, around one invariant of the shared state.
structure Contract (M : Machine S χ σ) (Req : Type) where
  guard : Nat → Req → S.Stmt → σ → Prop
  inv : σ → Prop
  rely : Nat → σ → σ → Prop
  guarantee : Nat → σ → σ → Prop
  rely_refl : ∀ pid s, rely pid s s
  rely_trans : ∀ pid s t u, rely pid s t → rely pid t u → rely pid s u
  keeps_inv : ∀ pid s t, inv s → guarantee pid s t → inv t

-- Contracts that fit together. `idle pid` says that nothing of the shared state
-- belongs to `pid` yet.
structure Discipline (M : Machine S χ σ) (Req : Type) extends Contract M Req where
  mayCrash : Nat → σ → Prop
  idle : Nat → σ → Prop
  crashes : ∀ pid s, inv s → mayCrash pid s → guarantee pid s (M.crash pid s)
  others : ∀ pid other s t, pid ≠ other → inv s → guarantee other s t → rely pid s t
  keeps_idle : ∀ pid other s t, pid ≠ other → idle pid s → guarantee other s t → idle pid t

-- What a step promises when each process promises just what the others rely on.
def Promised (inv : σ → Prop) (promise : σ → σ → Prop) (rely : Nat → σ → σ → Prop) (idle : Nat → σ → Prop) (pid : Nat)
    (s t : σ) : Prop :=
  inv t ∧ promise s t ∧ ∀ other, other ≠ pid → rely other s t ∧ (idle other s → idle other t)

def Discipline.ofRely (M : Machine S χ σ) (guard : Nat → Req → S.Stmt → σ → Prop) (mayCrash : Nat → σ → Prop)
    (inv : σ → Prop) (promise : σ → σ → Prop) (rely : Nat → σ → σ → Prop) (idle : Nat → σ → Prop)
    (refl : ∀ pid s, rely pid s s) (trans : ∀ pid s t u, rely pid s t → rely pid t u → rely pid s u)
    (crashes : ∀ pid s, inv s → mayCrash pid s → Promised inv promise rely idle pid s (M.crash pid s)) :
    Discipline M Req where
  guard := guard
  inv := inv
  rely := rely
  guarantee := Promised inv promise rely idle
  rely_refl := refl
  rely_trans := trans
  keeps_inv := fun _ _ _ _ kept => kept.1
  mayCrash := mayCrash
  idle := idle
  crashes := crashes
  others := fun pid _ _ _ different _ kept => (kept.2.2 pid different).1
  keeps_idle := fun pid _ _ _ different before kept => (kept.2.2 pid different).2 before

end

section
variable {S : Sig} {χ σ Req α β : Type} {M : Machine S χ σ} (D : Contract M Req) (pid : Nat) (request : Req)

-- The program meets its guarantee at every statement, however the others have
-- moved within its rely, and ends in a state with the postcondition.
def Safe (post : α → σ → Prop) : Proc S α → σ → Prop
  | .ret value, s => post value s
  | .act stmt next, s => ∀ t, D.rely pid s t → D.inv t → D.guard pid request stmt t →
      ∀ choice answer u, M.exec pid stmt choice t = some (answer, u) →
        D.guarantee pid t u ∧ Safe post (next answer) u

def Triple (pre : σ → Prop) (program : Proc S α) (post : α → σ → Prop) : Prop :=
  ∀ s, pre s → Safe D pid request post program s

def Stable (assertion : σ → Prop) : Prop := ∀ s t, assertion s → D.rely pid s t → D.inv t → assertion t

variable {D pid request}

theorem safe_weaken {weak strong : α → σ → Prop} (stronger : ∀ value s, strong value s → weak value s)
    (program : Proc S α) (s : σ) (safe : Safe D pid request strong program s) : Safe D pid request weak program s := by
  induction program generalizing s with
  | ret value => exact stronger value s safe
  | act stmt next ih =>
      intro t moved inv met choice answer u executed
      obtain ⟨promised, rest⟩ := safe t moved inv met choice answer u executed
      exact ⟨promised, ih answer u rest⟩

variable {middle post : α → σ → Prop} {program : Proc S α} {pre : σ → Prop}

theorem safe_bind {post : β → σ → Prop} (follow : α → Proc S β) (s : σ) (first : Safe D pid request middle program s)
    (second : ∀ value t, middle value t → Safe D pid request post (follow value) t) :
    Safe D pid request post (program >>= follow) s := by
  induction program generalizing s with
  | ret value => exact second value s first
  | act stmt next ih =>
      intro t moved inv met choice answer u executed
      obtain ⟨promised, rest⟩ := first t moved inv met choice answer u executed
      exact ⟨promised, ih answer u rest⟩

theorem safe_act_rely {stmt : S.Stmt} (next : S.Ans stmt → Proc S α) (s t : σ)
    (safe : Safe D pid request post (.act stmt next) s) (moved : D.rely pid s t) : Safe D pid request post (.act stmt next) t :=
  fun u further inv met choice answer v executed =>
    safe u (D.rely_trans pid s t u moved further) inv met choice answer v executed

theorem safe_rely (kept : ∀ value, Stable D pid (post value)) {s t : σ} (safe : Safe D pid request post program s)
    (moved : D.rely pid s t) (inv : D.inv t) : Safe D pid request post program t := by
  cases program with
  | ret value => exact kept value s t safe moved inv
  | act stmt next => exact safe_act_rely next s t safe moved

theorem triple_act (stmt : S.Stmt) {next : S.Ans stmt → Proc S α}
    (middle : S.Ans stmt → σ → Prop) (stable : Stable D pid pre)
    (executes : ∀ s choice answer t, pre s → D.inv s → D.guard pid request stmt s →
      M.exec pid stmt choice s = some (answer, t) → D.guarantee pid s t ∧ middle answer t)
    (rest : ∀ answer, Triple D pid request (middle answer) (next answer) post) :
    Triple D pid request pre (.act stmt next) post := by
  intro s before t moved inv met choice answer u executed
  obtain ⟨promised, after⟩ := executes t choice answer u (stable s t before moved inv) inv met executed
  exact ⟨promised, rest answer u after⟩

theorem triple_bind {post : β → σ → Prop} {follow : α → Proc S β} (first : Triple D pid request pre program middle)
    (second : ∀ value, Triple D pid request (middle value) (follow value) post) :
    Triple D pid request pre (program >>= follow) post :=
  fun s before => safe_bind follow s (first s before) (fun value t holds => second value t holds)

theorem triple_weaken {strongPre : σ → Prop} {strongPost : α → σ → Prop}
    (triple : Triple D pid request pre program strongPost) (before : ∀ s, strongPre s → pre s)
    (after : ∀ value s, strongPost value s → post value s) : Triple D pid request strongPre program post :=
  fun s holds => safe_weaken after program s (triple s (before s holds))

-- A program all of whose statements keep an assertion keeps it, with no need to
-- follow its control flow.
theorem triple_issues {assertion : σ → Prop} {allowed : S.Stmt → Prop} (stable : Stable D pid assertion)
    (executes : ∀ stmt s choice answer t, allowed stmt → assertion s → D.inv s → D.guard pid request stmt s →
      M.exec pid stmt choice s = some (answer, t) → D.guarantee pid s t ∧ assertion t)
    {post : α → Prop} (issues : program.Issues allowed post) :
    Triple D pid request assertion program (fun value s => post value ∧ assertion s) := by
  induction program with
  | ret value => exact fun _ holds => ⟨issues, holds⟩
  | act stmt next ih =>
      intro s before t moved inv met choice answer u executed
      obtain ⟨promised, after⟩ :=
        executes stmt t choice answer u issues.1 (stable s t before moved inv) inv met executed
      exact ⟨promised, ih answer (issues.2 answer trivial) u after⟩

end

section
variable {S : Sig} {χ σ ρ Req α : Type} {M : Machine S χ σ} (D : Discipline M Req)

-- What a pool keeps while each of its programs meets its own triple.
structure Sound (post : Nat → Req → ρ → σ → Prop) (pool : Pool S σ ρ Req) : Prop where
  inv : D.inv pool.shared
  safe : ∀ pid request program, pool.procs[pid]? = some (request, program) →
    Safe D.toContract pid request (post pid request) program pool.shared
  idle : ∀ pid, pool.procs.length ≤ pid → D.idle pid pool.shared

variable {D}

def StepGuarantee (D : Discipline M Req) (before after : σ) : Label χ Req → Prop
  | .arrive _ => after = before
  | .step pid _ => D.guarantee pid before after
  | .crash pid => D.guarantee pid before after

variable {post : Nat → Req → ρ → σ → Prop} {pool next later : Pool S σ ρ Req} {program : Req → Proc S ρ} {lost : ρ}
  {arrives : Req → Prop} {labels : List (Label χ Req)} {ok : Pool S σ ρ Req → Label χ Req → Prop}

-- One process has moved to a state its own program is safe in; the others have not.
theorem sound_set (kept : ∀ pid request value, Stable D.toContract pid (post pid request value)) {request : Req}
    {before after : Proc S ρ} {t : σ} (sound : Sound D post pool) (entry : pool.procs[pid]? = some (request, before))
    (promised : D.guarantee pid pool.shared t) (continues : Safe D.toContract pid request (post pid request) after t) :
    Sound D post ⟨t, pool.procs.set pid (request, after)⟩ := by
  have bound : pid < pool.procs.length := (List.getElem?_eq_some_iff.mp entry).1
  have invAfter := D.keeps_inv pid pool.shared t sound.inv promised
  refine ⟨invAfter, ?_, ?_⟩
  · intro other otherRequest otherBody present
    by_cases same : other = pid
    · subst other
      rw [List.getElem?_set_self bound] at present
      cases present
      exact continues
    · rw [List.getElem?_set_ne (Ne.symm same)] at present
      exact safe_rely (kept other otherRequest) (sound.safe other otherRequest otherBody present)
        (D.others other pid pool.shared t same sound.inv promised) invAfter
  · intro other far
    have different : other ≠ pid := by simp at far; omega
    exact D.keeps_idle other pid pool.shared t different (sound.idle other (by simpa using far)) promised

theorem pool_step_sound
    (kept : ∀ pid request value, Stable D.toContract pid (post pid request value))
    (starts : ∀ pid request s, arrives request → D.inv s → D.idle pid s →
      Safe D.toContract pid request (post pid request) (program request) s)
    (ends : ∀ pid request s, D.inv s → D.mayCrash pid s → post pid request lost (M.crash pid s))
    (pool next : Pool S σ ρ Req) (label : Label χ Req) (sound : Sound D post pool)
    (met : pool.Meets arrives D.guard D.mayCrash label) (stepped : pool.step M program lost label = some next) :
    Sound D post next ∧ StepGuarantee D pool.shared next.shared label := by
  cases pool.step_took next label stepped with
  | arrive request =>
      refine ⟨⟨sound.inv, ?_, ?_⟩, rfl⟩
      · intro pid other body present
        rcases Nat.lt_or_ge pid pool.procs.length with old | fresh
        · exact sound.safe pid other body (by simpa [List.getElem?_append_left old] using present)
        · obtain ⟨-, rfl, rfl⟩ : pid - pool.procs.length = 0 ∧ request = other ∧ program request = body := by
            simpa [List.getElem?_append_right fresh, List.getElem?_singleton] using present
          exact starts pid request pool.shared met sound.inv (sound.idle pid fresh)
      · intro pid far
        exact sound.idle pid (by simp at far; omega)
  | step pid choice request stmt rest answer after entry executed =>
      obtain ⟨promised, continues⟩ := sound.safe pid request _ entry pool.shared (D.rely_refl pid pool.shared) sound.inv
        (met request stmt rest entry) choice answer after executed
      exact ⟨sound_set kept sound entry promised continues, promised⟩
  | crash pid request stmt rest entry =>
      have promised := D.crashes pid pool.shared sound.inv met
      exact ⟨sound_set kept sound entry promised (ends pid request _ sound.inv met), promised⟩

theorem runs_sound
    (kept : ∀ pid request value, Stable D.toContract pid (post pid request value))
    (starts : ∀ pid request s, arrives request → D.inv s → D.idle pid s →
      Safe D.toContract pid request (post pid request) (program request) s)
    (ends : ∀ pid request s, D.inv s → D.mayCrash pid s → post pid request lost (M.crash pid s))
        (run : Runs (Pool.step M program lost) (Pool.Meets arrives D.guard D.mayCrash) pool labels next)
    (sound : Sound D post pool) : Sound D post next :=
  runs_invariant (Sound D post)
    (fun s t label holds met stepped => (pool_step_sound kept starts ends s t label holds met stepped).1) run sound

theorem sound_start (s : σ) (inv : D.inv s) (idle : ∀ pid, D.idle pid s) : Sound D post ⟨s, []⟩ :=
  ⟨inv, fun _ _ _ present => by simp at present, fun pid _ => idle pid⟩

theorem step_ret_stays {label : Label χ Req} {request : Req} {value : ρ}
    (ended : pool.procs[pid]? = some (request, .ret value)) (stepped : pool.step M program lost label = some next) :
    next.procs[pid]? = some (request, .ret value) := by
  have bound : pid < pool.procs.length := (List.getElem?_eq_some_iff.mp ended).1
  have elsewhere : ∀ other owner stmt rest, pool.procs[other]? = some (owner, .act stmt rest) → other ≠ pid := by
    rintro other owner stmt rest entry rfl
    cases ended.symm.trans entry
  cases pool.step_took next label stepped with
  | arrive fresh => rwa [List.getElem?_append_left bound]
  | step other choice owner stmt rest answer after entry executed =>
      rwa [List.getElem?_set_ne (elsewhere other owner stmt rest entry)]
  | crash other owner stmt rest entry => rwa [List.getElem?_set_ne (elsewhere other owner stmt rest entry)]

theorem runs_ret_stays (run : Runs (Pool.step M program lost) ok pool labels later) {request : Req} {value : ρ}
    (ended : pool.procs[pid]? = some (request, .ret value)) : later.procs[pid]? = some (request, .ret value) := by
  induction run with
  | nil => exact ended
  | cons s t u label rest _ stepped _ ih => exact ih (step_ret_stays ended stepped)

-- A process that has crashed has ended with nothing to show for it.
theorem runs_crashed (run : Runs (Pool.step M program lost) ok pool labels later) (crashed : Label.crash pid ∈ labels) :
    ∃ request, later.procs[pid]? = some (request, .ret lost) := by
  induction run with
  | nil => simp at crashed
  | cons s t u label rest _ stepped tail ih =>
      rcases List.mem_cons.mp crashed with rfl | afterwards
      · cases s.step_took t _ stepped with
        | crash _ request stmt next entry =>
            have bound : pid < s.procs.length := (List.getElem?_eq_some_iff.mp entry).1
            exact ⟨request, runs_ret_stays tail (List.getElem?_set_self bound)⟩
      · exact ih afterwards

theorem runs_request_stays (run : Runs (Pool.step M program lost) ok pool labels later) (pid : Nat) (request : Req)
    (body : Proc S ρ) (entry : pool.procs[pid]? = some (request, body)) :
    ∃ further, later.procs[pid]? = some (request, further) := by
  induction run generalizing body with
  | nil => exact ⟨body, entry⟩
  | cons s t u label rest _ stepped _ ih =>
      have bound : pid < s.procs.length := (List.getElem?_eq_some_iff.mp entry).1
      have next : ∃ further, t.procs[pid]? = some (request, further) := by
        cases s.step_took t label stepped with
        | arrive fresh => exact ⟨body, by rwa [List.getElem?_append_left bound]⟩
        | step other choice owner stmt follow answer after acting executed =>
            by_cases same : other = pid
            · subst other
              cases entry.symm.trans acting
              exact ⟨_, List.getElem?_set_self bound⟩
            · exact ⟨body, (List.getElem?_set_ne same).trans entry⟩
        | crash other owner stmt follow acting =>
            by_cases same : other = pid
            · subst other
              cases entry.symm.trans acting
              exact ⟨_, List.getElem?_set_self bound⟩
            · exact ⟨body, (List.getElem?_set_ne same).trans entry⟩
      obtain ⟨further, after⟩ := next
      exact ih further after

-- At every step of a run, the processes are ones of its end.
theorem runs_known (run : Runs (Pool.step M program lost) ok pool labels later) :
    Runs (Pool.step M program lost) (fun s label => ok s label ∧ ∀ (pid : Nat) request body, s.procs[pid]? = some (request, body) →
      ∃ further, later.procs[pid]? = some (request, further)) pool labels later := by
  induction run with
  | nil s => exact .nil s
  | cons s t u label rest met stepped tail ih =>
      exact .cons s t u label rest ⟨met, fun pid request body entry =>
        runs_request_stays (.cons s t u label rest met stepped tail) pid request body entry⟩ stepped ih

-- A process that has arrived on a run arrived with its own program, as the last one.
theorem runs_entered (run : Runs (Pool.step M program lost) ok pool labels later) (pid : Nat) (request : Req)
    (body : Proc S ρ) (absent : pool.procs.length ≤ pid) (present : later.procs[pid]? = some (request, body)) :
    ∃ front back before, labels = front ++ .arrive request :: back ∧ Runs (Pool.step M program lost) ok pool front before ∧
      before.procs.length = pid ∧ ok before (.arrive request) ∧
      Runs (Pool.step M program lost) ok ⟨before.shared, before.procs ++ [(request, program request)]⟩ back later := by
  induction run with
  | nil s => simp [List.getElem?_eq_none absent] at present
  | cons s t u label rest met stepped tail ih =>
      have later : t.procs.length ≤ pid → ∃ front back before, label :: rest = front ++ .arrive request :: back ∧
          Runs (Pool.step M program lost) ok s front before ∧ before.procs.length = pid ∧ ok before (.arrive request) ∧
          Runs (Pool.step M program lost) ok ⟨before.shared, before.procs ++ [(request, program request)]⟩ back u := fun still => by
        obtain ⟨front, back, before, split, reached, last, joins, after⟩ := ih still present
        exact ⟨label :: front, back, before, congrArg (label :: ·) split, .cons s t before label front met stepped reached, last,
          joins, after⟩
      cases s.step_took t label stepped with
      | arrive fresh =>
          rcases Nat.eq_or_lt_of_le absent with here | beyond
          · obtain ⟨further, same⟩ := runs_request_stays tail pid fresh (program fresh) (by simp [← here])
            cases same.symm.trans present
            exact ⟨[], rest, s, rfl, .nil s, here, met, tail⟩
          · exact later (by simpa using Nat.succ_le_of_lt beyond)
      | step other choice owner stmt next answer after entry executed => exact later (by simpa using absent)
      | crash other owner stmt next entry => exact later (by simpa using absent)

-- A process whose first part is under way, and that is over at the end of a run without
-- having crashed on it, passed a state in which that part had just ended, with its own
-- postcondition, which need not be stable.
theorem runs_passes
    (kept : ∀ pid request value, Stable D.toContract pid (post pid request value))
    (starts : ∀ pid request s, arrives request → D.inv s → D.idle pid s →
      Safe D.toContract pid request (post pid request) (program request) s)
    (ends : ∀ pid request s, D.inv s → D.mayCrash pid s → post pid request lost (M.crash pid s))
    (pid : Nat) (request : Req) (mine : α → σ → Prop) (follow : α → Proc S ρ) (result : ρ)
    (run : Runs (Pool.step M program lost) (Pool.Meets arrives D.guard D.mayCrash) pool labels later)
    (sound : Sound D post pool) (first : Proc S α) (entry : pool.procs[pid]? = some (request, first >>= follow))
    (safe : Safe D.toContract pid request mine first pool.shared) (alive : Label.crash pid ∉ labels)
    (ended : later.procs[pid]? = some (request, .ret result)) :
    ∃ front back between value, labels = front ++ back ∧
      Runs (Pool.step M program lost) (Pool.Meets arrives D.guard D.mayCrash) pool front between ∧
      Runs (Pool.step M program lost) (Pool.Meets arrives D.guard D.mayCrash) between back later ∧
      between.procs[pid]? = some (request, follow value) ∧ mine value between.shared := by
  induction run generalizing first with
  | nil s =>
      cases first with
      | ret value => exact ⟨[], [], s, value, rfl, .nil s, .nil s, entry, safe⟩
      | act stmt next => cases entry.symm.trans ended
  | cons s t u label rest met stepped tail ih =>
      cases first with
      | ret value => exact ⟨[], label :: rest, s, value, rfl, .nil s, .cons s t u label rest met stepped tail, entry, safe⟩
      | act stmt next =>
          obtain ⟨soundAfter, promised⟩ := pool_step_sound kept starts ends s t label sound met stepped
          have onwards : ∃ continued, t.procs[pid]? = some (request, continued >>= follow) ∧
              Safe D.toContract pid request mine continued t.shared := by
            cases s.step_took t label stepped with
            | arrive fresh =>
                refine ⟨.act stmt next, ?_, safe⟩
                rwa [List.getElem?_append_left (List.getElem?_eq_some_iff.mp entry).1]
            | step other choice owner issued others answer after acting executed =>
                by_cases same : other = pid
                · subst other
                  cases entry.symm.trans acting
                  obtain ⟨-, continues⟩ := safe s.shared (D.rely_refl pid s.shared) sound.inv
                    (met request stmt _ entry) choice answer after executed
                  exact ⟨next answer, List.getElem?_set_self (List.getElem?_eq_some_iff.mp entry).1, continues⟩
                · refine ⟨.act stmt next, (List.getElem?_set_ne same).trans entry, ?_⟩
                  exact safe_act_rely next s.shared after safe
                    (D.others pid other s.shared after (Ne.symm same) sound.inv promised)
            | crash other owner issued others acting =>
                have same : other ≠ pid := by
                  rintro rfl
                  exact alive List.mem_cons_self
                refine ⟨.act stmt next, (List.getElem?_set_ne same).trans entry, ?_⟩
                exact safe_act_rely next s.shared _ safe (D.others pid other s.shared _ (Ne.symm same) sound.inv promised)
          obtain ⟨continued, entryAfter, safeAfter⟩ := onwards
          obtain ⟨front, back, between, value, split, before, after, passes, holds⟩ := ih soundAfter continued entryAfter safeAfter
            (fun member => alive (List.mem_cons_of_mem _ member)) ended
          exact ⟨label :: front, back, between, value, congrArg (label :: ·) split, .cons s t between label front met stepped before,
            after, passes, holds⟩

theorem runs_delivers
    (kept : ∀ pid request value, Stable D.toContract pid (post pid request value))
    (starts : ∀ pid request s, arrives request → D.inv s → D.idle pid s →
      Safe D.toContract pid request (post pid request) (program request) s)
    (ends : ∀ pid request s, D.inv s → D.mayCrash pid s → post pid request lost (M.crash pid s))
    (pid : Nat) (request : Req) (mine : ρ → σ → Prop) (value : ρ)
    (run : Runs (Pool.step M program lost) (Pool.Meets arrives D.guard D.mayCrash) pool labels later)
    (sound : Sound D post pool) (body : Proc S ρ) (entry : pool.procs[pid]? = some (request, body))
    (safe : Safe D.toContract pid request mine body pool.shared) (alive : Label.crash pid ∉ labels)
    (ended : later.procs[pid]? = some (request, .ret value)) :
    ∃ front back between, labels = front ++ back ∧
      Runs (Pool.step M program lost) (Pool.Meets arrives D.guard D.mayCrash) pool front between ∧
      Runs (Pool.step M program lost) (Pool.Meets arrives D.guard D.mayCrash) between back later ∧
      mine value between.shared := by
  obtain ⟨front, back, between, result, split, before, after, passes, holds⟩ := runs_passes kept starts ends pid request mine Proc.ret
    value run sound body (by rwa [Proc.bind_ret_right]) safe alive ended
  cases (runs_ret_stays after passes).symm.trans ended
  exact ⟨front, back, between, split, before, after, holds⟩

end

end AiWorld.Concurrency
