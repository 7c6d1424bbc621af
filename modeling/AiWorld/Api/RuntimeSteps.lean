import AiWorld.Api.RuntimeState

set_option autoImplicit false

namespace AiWorld.Api

open AiWorld.Concurrency AiWorld.Database

variable {t s : Sys} {choice : Choice} {stmt : Stmt}

-- A session that was open when the request loaded it is open when its lock is granted.
def stillOpen (pid : Nat) (stmt : Stmt) (s : Sys) : Bool :=
  match stmt with
  | .db (.selectForUpdate (.session id) _ (some loaded)) =>
      !(loaded.kind = .session && loaded.endedAt = none) || ((s.sees pid).session id).all (fun row => row.endedAt = none)
  | _ => true

-- The parent of a new row is open when the row is inserted.
def parentOpen (stmt : Stmt) (s : Sys) : Bool :=
  match stmt with
  | .db (.insert (.session _) row) =>
      row.parentSessionId.all (fun parentId => (s.db.session parentId).all (fun parent => parent.endedAt = none))
  | _ => true

def allLocks : Locks Key := ⟨fun _ => True, fun _ => True⟩

theorem within_all (held : Locks Key) : held.Within allLocks := ⟨fun _ _ => trivial, fun _ _ => trivial⟩

section
variable (start : Db) (terms : Terms)

theorem runtime_same (s t : Sys) (inv : Runtime start terms s) (db : t.db = s.db) (journal : t.server.journal = s.server.journal)
    (unique : Unique closureSchema t.server) : Runtime start terms t where
  kin := db ▸ inv.kin
  owned := db ▸ inv.owned
  paired := db ▸ inv.paired
  unique := unique
  accounted := db ▸ journal ▸ inv.accounted
  fine := journal ▸ inv.fine
  since := db ▸ inv.since
  sheltered := db ▸ inv.sheltered
  tasks := db ▸ inv.tasks

theorem spared_same (pid : Nat) (s t : Sys) (moved : Undisturbed pid s.server t.server) (db : t.db = s.db) : Spared terms pid s t :=
  ⟨moved.pending, moved.keyLock, fun _ _ _ taskId _ _ _ => by rw [db]⟩

def runtimeRegime : Regime Request where
  rule := runtimeRule terms
  trans := runtime_rule_trans terms
  guard := fun pid _ stmt s => (terms.endsOnce → stillOpen pid stmt s = true) ∧ (terms.parentsOpen → parentOpen stmt s = true)
  mayCrash := anyCrash
  extra := Runtime start terms
  promise := fun s t => ∀ key, (runtimeRule terms).allows allLocks key (s.db.lookup key) (t.db.lookup key)
  also := Spared terms
  also_refl := spared_refl terms
  also_trans := spared_trans terms
  unbegun := fun pid s => s.server.pending pid = []
  stays_unbegun := fun _ _ _ spared quiet => spared.pending.trans quiet
  crashed := fun pid s _ inv _ => ⟨runtime_same start terms s _ inv rfl rfl (rollback_unique pid s.server inv.unique),
    fun _ => runtime_cell_refl _ _, fun other different =>
      spared_same terms other s _ (rollback_undisturbed pid other s.server different) rfl⟩

def running : Discipline machine Request := (runtimeRegime start terms).discipline

end

section
variable {start : Db} {terms : Terms} {pid : Nat} {request : Request}

-- Every statement but a commit leaves what is committed alone.
theorem within_sustains {answer : Ans stmt} (kept : Kept (runtimeRule terms) s) (inv : Runtime start terms s)
    (shrinks : ∀ query write, stmt = .db query → query.write = some write → write.shrinks closureSchema)
    (running : stmt ≠ .db .commit) (executed : exec pid stmt choice s = some (answer, t)) :
    (runtimeRegime start terms).Sustains pid s t := by
  rcases exec_moves executed with ⟨query, rfl, move⟩ | same
  · have forward : query ≠ .commit := fun commits => running (congrArg Stmt.db commits)
    have db : t.db = s.db := (move_db move).resolve_right (fun ends => forward ends.1)
    have journal := (move_journal move).resolve_right forward
    have unique := move_unique kept.1 inv.unique (fun write => shrinks query write rfl)
      (move_only _ move)
    exact ⟨runtime_same start terms s t inv db journal unique, fun key => db ▸ runtime_cell_refl _ _, fun other different =>
      spared_same terms other s t (move_undisturbed schema query kept.1 different move) db⟩
  · have db : t.db = s.db := by rw [Sys.db, same]; rfl
    refine ⟨runtime_same start terms s t inv db (by rw [same]) (same ▸ inv.unique), fun key => db ▸ runtime_cell_refl _ _,
      fun other _ => ?_⟩
    exact spared_same terms other s t (same ▸ undisturbed_refl other s.server) db

-- The tasks that a transaction has written are the tasks of the sessions it has locked.
theorem commit_spares (kept : Kept (runtimeRule terms) s) (inv : Runtime start terms s) (composed : Composed terms [] none pid s)
    {other : Nat} (different : other ≠ pid) (after : t.server = s.server.commits pid) : Spared terms other s t := by
  have moved := move_undisturbed schema .commit kept.1 different (.commit rfl)
  rw [← after] at moved
  refine ⟨moved.pending, moved.keyLock, fun asked id row taskId locked stored named => ?_⟩
  have db : t.db.task taskId = (s.sees pid).task taskId := by rw [Sys.db, after]; rfl
  rw [db]
  by_cases wrote : Key.task taskId ∈ (s.server.staged pid).map Write.key
  · rcases (composed.tasks asked).owns taskId wrote with missing | ⟨owner, mine, there, whose, held⟩
    · have known := (inv.tasks asked).held id row taskId stored named
      rw [missing] at known
      cases known
    · have same : owner = id := (inv.tasks asked).apart owner mine id row taskId there stored whose named
      rw [same, locked] at held
      exact absurd (Option.some.inj held) different
  · exact lookup_replay_untouched _ (fun write member same => wrote (List.mem_map.mpr ⟨write, member, same⟩))

theorem commit_sustains {answer : Unit} (kept : Kept (runtimeRule terms) s) (inv : Runtime start terms s)
    (composed : Composed terms [] none pid s) (executed : exec pid (.db .commit) choice s = some (answer, t)) :
    (runtimeRegime start terms).Sustains pid s t := by
  have after : t.server = s.server.commits pid := by
    cases executed
    rfl
  have db : t.db = s.sees pid := by rw [Sys.db, after]; rfl
  have journal : t.server.journal = s.server.journal ++ s.server.pending pid := by rw [after]; rfl
  have grown : ∀ key, (runtimeRule terms).allows allLocks key (s.db.lookup key) ((s.sees pid).lookup key) := fun key =>
    (runtimeRule terms).mono _ _ key _ _ (within_all _) (kept.2 pid key)
  refine ⟨?_, fun key => db ▸ grown key, fun other different => commit_spares kept inv composed different after⟩
  constructor
  · exact db ▸ composed.kin
  · exact db ▸ composed.owned
  · exact fun id => db ▸ composed.paired id (Option.some_ne_none id).symm
  · exact after ▸ commit_unique pid kept.1 inv.unique
  · intro id
    rw [db, journal]
    have accounted := composed.accounted id (Option.some_ne_none id).symm
    rw [List.append_nil] at accounted
    exact accounted_append (closed_stays inv.since) (closed_stays grown) (inv.accounted id) accounted
  · intro call member
    rw [journal] at member
    exact (List.mem_append.mp member).elim (inv.fine call) (fun noted => composed.fine call (List.mem_append_left _ noted))
  · exact fun key => db ▸ runtime_cell_trans (inv.since key) (grown key)
  · exact fun asked => db ▸ composed.sheltered asked
  · exact fun asked => db ▸ (composed.tasks asked).toTasks

theorem running_ask {pre : Sys → Prop} {raised : Failure → Sys → Prop} {post : Ans stmt → Sys → Prop}
    (stable : Stable (running start terms).toContract pid pre)
    (respects : ∀ s query, Kept (runtimeRule terms) s → pre s → stmt = .db query → Respects (runtimeRule terms) schema pid query s.server)
    (shrinks : ∀ query write, stmt = .db query → query.write = some write → write.shrinks closureSchema)
    (within : stmt ≠ .db .commit) (executes : ∀ s choice answer t, pre s → Kept (runtimeRule terms) s → Runtime start terms s →
    (runtimeRegime start terms).guard pid request stmt s → exec pid stmt choice s = some (answer, t) → post answer t) :
    Raises (running start terms).toContract pid request pre (ask stmt) post raised :=
  Regime.asks stmt post stable respects (fun s choice answer t before kept inv met executed =>
    ⟨within_sustains kept inv shrinks within executed, executes s choice answer t before kept inv met executed⟩)

theorem composed_stable {due : List CloseCall} {busy : Option Nat} :
    Stable (running start terms).toContract pid (Composed terms due busy pid) :=
  fun _ _ composed moved inv => composed_moved moved.1 moved.2 inv.1 inv.2 composed

end

end AiWorld.Api
