import AiWorld.Api.Growth
import AiWorld.Api.Ruled
import AiWorld.Api.TaskRuns

set_option autoImplicit false

namespace AiWorld.Api

open AiWorld.Concurrency AiWorld.Database

variable {stmt : Stmt} {t s : Sys} {pid : Nat} {choice : Choice}

-- Every event the process has put on the stream is committed.
def nothingPending (pid : Nat) (s : Sys) : Bool :=
  s.stream.all (fun entry => entry.1 ≠ pid || (s.db.event entry.2).isSome)

-- No transaction is rolled back with an event of its own on the stream, and no audit
-- row is refused.
def eventsHold (pid : Nat) (_ : Request) (stmt : Stmt) (s : Sys) : Bool :=
  match stmt with
  | .db .rollback => nothingPending pid s
  | .db (.insert (.event id) row) => schema.accepts (.event id) row (s.server.view pid)
  | _ => true

-- An event on the stream is visible to the process that announced it.
def Announced (s : Sys) : Prop := ∀ entry ∈ s.stream, Seen entry.1 (Stored (.event entry.2) (fun _ => True)) s

theorem event_stays {id : Nat} : Lasting (Stored (.event id) (fun _ => True)) :=
  stored_lasting rfl (fun _ _ _ _ => trivial)

theorem stored_event_iff (id : Nat) (db : Db) : Stored (.event id) (fun _ => True) db ↔ (db.event id).isSome = true := by
  simp [Stored, Db.event, Option.isSome_iff_exists]

theorem nothing_pending_iff (pid : Nat) (s : Sys) :
    nothingPending pid s = true ↔ ∀ entry ∈ s.stream, entry.1 = pid → Stored (.event entry.2) (fun _ => True) s.db := by
  simp only [nothingPending, List.all_eq_true, Bool.or_eq_true, decide_eq_true_eq, stored_event_iff]
  exact forall₂_congr (fun entry _ => by by_cases mine : entry.1 = pid <;> simp [mine])

theorem crash_announced (pid : Nat) (s : Sys) (_ : Grown s) (announced : Announced s) (settled : nothingPending pid s = true) :
    Announced (s.crashes pid) := by
  intro entry member
  change Stored _ _ ((s.server.rollsBack pid).view entry.1)
  by_cases mine : entry.1 = pid
  · rw [mine, Server.rollsBack_view]
    exact (nothing_pending_iff pid s).mp settled entry member mine
  · rw [Server.rollsBack_view_ne _ _ _ mine]
    exact announced entry member

def announcing : Discipline machine Request :=
  growth (fun pid request stmt s => eventsHold pid request stmt s = true) (fun pid s => nothingPending pid s = true) Announced
    crash_announced

theorem exec_stream {answer : Ans stmt} (executed : exec pid stmt choice s = some (answer, t)) {entry : Nat × Nat}
    (member : entry ∈ t.stream) : entry ∈ s.stream ∨ ∃ row, stmt = .db (.insert (.event entry.2) row) ∧ entry.1 = pid := by
  cases stmt with
  | db query =>
      obtain ⟨⟨found, after⟩, performed, same⟩ := Option.map_eq_some_iff.mp executed
      cases same
      rcases List.mem_append.mp member with old | new
      · exact .inl old
      · right
        unfold announced at new
        split at new
        next id row =>
          split at new
          next => cases new
          next =>
            obtain rfl : entry = (pid, id) := by simpa using new
            exact ⟨row, rfl, rfl⟩
        next => cases new
  | pop =>
      cases last : s.queue.getLast? with
      | none =>
          simp only [exec, last] at executed
          cases executed
          exact .inl member
      | some taskId =>
          simp only [exec, last] at executed
          cases executed
          exact .inl member
  | acquire taskId =>
      cases held : s.lease taskId with
      | none =>
          simp only [exec, held] at executed
          cases executed
          exact .inl member
      | some holder =>
          simp only [exec, held] at executed
          cases executed
          exact .inl member
  | _ =>
      cases executed
      exact .inl member

theorem exec_announced {request : Request} {answer : Ans stmt} (grown : Grown s) (announced : Announced s)
    (pins : pinsColumns stmt) (holds : eventsHold pid request stmt s = true)
    (executed : exec pid stmt choice s = some (answer, t)) : Announced t := by
  intro entry member
  obtain ⟨-, -, steady⟩ := exec_related grown.1 grown.2
    (fun query issued => by
      subst issued
      exact pins_respects grown.2 pins) executed
  rcases exec_stream executed member with old | ⟨row, rfl, mine⟩
  · by_cases mine : entry.1 = pid
    · by_cases back : stmt = .db .rollback
      · subst back
        cases executed
        change Stored _ _ ((s.server.rollsBack pid).view entry.1)
        rw [mine, Server.rollsBack_view]
        exact (nothing_pending_iff pid s).mp holds entry old mine
      · have seen := announced entry old
        rw [mine] at seen ⊢
        exact event_stays _ _ (exec_view_extends pid stmt s t answer pins back executed) seen
    · exact event_stays _ _ (steady entry.1 mine).seen (announced entry old)
  · rcases exec_insert executed with ⟨-, refused, -⟩ | ⟨-, -, seen⟩
    · exact absurd (refused.symm.trans holds) Bool.false_ne_true
    · rw [mine]
      change Stored _ _ (t.server.view pid)
      rw [seen]
      exact ⟨row, AList.lookup_insert _, trivial⟩

-- Nothing of the process waits for a commit.
section
variable {pid : Nat} {request : Request} {α : Type}

theorem clean_stable : Stable announcing.toContract pid (Clean pid) :=
  fun _ _ clean moved _ => moved.undisturbed.staged.trans clean

variable {raised : Failure → Sys → Prop} {powers : Powers} {body : Route α}

theorem announcing_ask {pre : Sys → Prop} {post : Ans stmt → Sys → Prop} (pins : pinsColumns stmt)
    (stable : Stable announcing.toContract pid pre)
    (executes : ∀ s choice answer t, pre s → exec pid stmt choice s = some (answer, t) → post answer t) :
    Raises announcing.toContract pid request pre (ask stmt) post raised :=
  growth_ask pins stable (fun s choice answer t before grown announced holds executed =>
    ⟨exec_announced grown announced pins holds executed,
      executes s choice answer t before executed⟩)

-- A statement outside the database.
theorem clean_ask (outside : ∀ query, stmt ≠ .db query) : Keeps announcing.toContract pid request (Clean pid) (ask stmt) := by
  refine announcing_ask ?_ clean_stable (fun s choice answer t clean executed => ?_)
  · cases stmt with
    | db query => exact absurd rfl (outside query)
    | _ => trivial
  · rcases exec_moves executed with ⟨query, issued, -⟩ | same
    · exact absurd issued (outside query)
    · change t.server.staged pid = []
      rw [same]
      exact clean

theorem clean_select {query : Db → α} : Keeps announcing.toContract pid request (Clean pid) (select query) :=
  keeps_bind (announcing_ask trivial clean_stable (fun s choice answer t clean executed => by
    obtain ⟨-, rfl⟩ := exec_select executed
    exact clean)) (fun _ => keeps_pure)

theorem writes_announcing (writes : Tame powers body) :
    Raises announcing.toContract pid request (fun _ => True) body (fun _ _ => True) (fun _ _ => True) := by
  have walk : Triple announcing.toContract pid request (fun _ => True) body.run (fun result _ => Returned Fine result ∧ True) :=
    triple_issues (fun _ _ _ _ _ => trivial) (fun (stmt : Stmt) s choice answer t fine _ inv holds executed => by
      have met : eventsHold pid request stmt s = true := holds
      have kept := exec_announced inv.1 inv.2 fine.2.1 met executed
      exact ⟨growth_guarantees inv.1 fine.2.1 kept executed, trivial⟩) writes
  exact triple_weaken walk (fun _ _ => trivial) (fun result _ _ => by cases result <;> trivial)

theorem rollback_cleans : Raises announcing.toContract pid request (fun _ => True) rollback (fun _ => Clean pid) raised :=
  announcing_ask trivial (fun _ _ _ _ _ => trivial) (fun s choice answer t _ executed => by
    cases executed
    simp [Clean, Server.rollsBack])

theorem commit_cleans : Raises announcing.toContract pid request (fun _ => True) commit (fun _ => Clean pid) raised :=
  announcing_ask trivial (fun _ _ _ _ _ => trivial) (fun s choice answer t _ executed => by
    cases executed
    simp [Clean, Server.commits, Server.rollsBack])

theorem session_cleans (writes : Tame powers body) :
    Keeps announcing.toContract pid request (Clean pid) (getDbSession body) := by
  have cleaned : Raises announcing.toContract pid request (fun _ => True) (getDbSession body) (fun _ => Clean pid)
      (fun _ => Clean pid) := by
    refine raises_catch (fun _ _ => True) (raises_bind _ (writes_announcing writes) (fun reply =>
      raises_bind _ commit_cleans (fun _ => raises_pure _ (fun _ clean => clean)))) (fun failure => ?_)
    exact raises_bind _ rollback_cleans (fun _ => raises_throw _ (fun _ clean => clean))
  exact raises_weaken cleaned (fun _ _ => trivial) (fun _ _ clean => clean) (fun _ _ clean => clean)

theorem attempt_cleans {task : Loaded Task} :
    Keeps announcing.toContract pid request (Clean pid) (tryCatch (executeAndCommit task) (fun _ => rollback)) := by
  have writes : Writes (powersOf .workerTurn) Fine (executeTask task) := execute_task_writes rfl (fun _ _ _ => rfl)
  have body : Raises announcing.toContract pid request (fun _ => True) (executeAndCommit task) (fun _ => Clean pid)
      (fun _ _ => True) := raises_bind _ (writes_announcing writes) (fun _ => commit_cleans)
  exact raises_weaken (raises_catch _ body (fun _ => rollback_cleans)) (fun _ _ => trivial) (fun _ _ clean => clean)
    (fun _ _ clean => clean)

theorem process_task_cleans {taskId : Nat} : Keeps announcing.toContract pid request (Clean pid) (processTask taskId) := by
  refine keeps_bind (clean_ask (fun _ => nofun)) (fun (acquired : Bool) => ?_)
  cases acquired with
  | false => exact keeps_pure
  | true =>
      refine keeps_bind (keeps_bind (clean_select) (fun task => ?_)) (fun _ => clean_ask (fun _ => nofun))
      cases task.filter (fun task => executable task.status) with
      | none => exact keeps_pure
      | some task => exact attempt_cleans

theorem requeue_orphans_cleans {taskIds : List Nat} :
    Keeps announcing.toContract pid request (Clean pid) (requeueOrphans taskIds) := by
  induction taskIds with
  | nil => exact keeps_pure
  | cons taskId rest ih =>
      refine keeps_bind (keeps_bind (clean_ask (fun _ => nofun)) (fun (leased : Bool) => ?_)) (fun _ => ih)
      cases leased with
      | true => exact keeps_pure
      | false =>
          have writes : Writes (powersOf request) Fine (registerRecovery taskId) := register_recovery_writes
          refine keeps_bind (session_cleans writes) (fun (counted : Bool) => ?_)
          cases counted with
          | true => exact clean_ask (fun _ => nofun)
          | false => exact keeps_pure

theorem route_cleans : Keeps announcing.toContract pid request (Clean pid) (route request) := by
  rcases route_session request with ⟨body, inside, writes⟩ | rfl | rfl | ⟨taskId, rfl⟩
  · rw [inside]
    exact session_cleans writes
  · refine keeps_bind (clean_ask (fun _ => nofun)) (fun (popped : Option Nat) => ?_)
    cases popped with
    | none => exact keeps_pure
    | some taskId => exact keeps_bind (process_task_cleans) (fun _ => keeps_pure)
  · exact keeps_bind (clean_select) (fun _ => keeps_bind (requeue_orphans_cleans) (fun _ => keeps_pure))
  · exact keeps_bind (clean_ask (fun _ => nofun)) (fun _ => keeps_pure)

end

-- The steps whose transactions keep what they have announced.
def EventsHold : System → Action → Prop :=
  Pool.Meets (fun _ => True) (fun pid request stmt s => eventsHold pid request stmt s = true)
    (fun pid s => nothingPending pid s = true)

abbrev StreamSound (system : System) : Prop := Sound announcing (fun pid _ _ => Clean pid) system

theorem stream_boot (db : Db) (nextId : Nat) (queue : List Nat) : StreamSound (boot db nextId queue) :=
  sound_start _ ⟨growth_boot db nextId queue, fun _ member => by cases member⟩ (fun _ => rfl)

theorem stream_runs (system later : System) (actions : List Action) (run : Runs step EventsHold system actions later)
    (sound : StreamSound system) : StreamSound later :=
  runs_sound (D := announcing) (fun pid _ _ => clean_stable)
    (fun pid request s _ _ idle => by
      have cleans : Keeps announcing.toContract pid request (Clean pid) (route request) := route_cleans
      refine safe_weaken (fun result t ending => ?_) _ s (cleans s idle)
      cases result with
      | ok value => exact ending
      | error failure => exact ending)
    (fun pid request s _ _ => by simp [Clean, machine, Sys.crashes, Server.rollsBack]) run sound

def isOver (pid : Nat) (system : System) : Bool :=
  match system.procs[pid]? with
  | some (_, .ret _) => true
  | _ => false

theorem is_over_iff (pid : Nat) (system : System) :
    isOver pid system = true ↔ ∃ request result, system.procs[pid]? = some (request, .ret result) := by
  unfold isOver
  split
  next request result found => simp [found]
  next other =>
    constructor
    · exact nofun
    · rintro ⟨request, result, found⟩
      exact absurd found (other request result)

def streams (pid id : Nat) (system : System) : Bool := system.shared.stream.contains (pid, id)

-- The mission of a queued external task is cancelled. A fail of the task announces its
-- start, then finds that the mission cannot fail, and answers 409.
def refusedFailure : List Action :=
  .arrive (.cancelMission member 3) :: turns 0 6 ++ .arrive (.failTaskExternal member 4) :: turns 1 8

end AiWorld.Api
