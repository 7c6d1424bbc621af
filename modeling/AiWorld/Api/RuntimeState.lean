import AiWorld.Api.RuntimeRule

set_option autoImplicit false

namespace AiWorld.Api

open AiWorld.Concurrency AiWorld.Database

variable {id : Nat} {row : AgentRuntimeSession} {after before : Db} {calls : List CloseCall}

abbrev Sys.sees (s : Sys) (pid : Nat) : Db := s.server.view pid

def Closed (id : Nat) (db : Db) : Prop := ∃ closureId row, db.closure closureId = some row ∧ row.runtimeSessionId = id

-- A row with a parent is a subagent of the parent's tenant.
def Kin (db : Db) : Prop := ∀ id row parentId, db.session id = some row → row.parentSessionId = some parentId →
  row.kind = .subagent ∧ ∃ parent, db.session parentId = some parent ∧ parent.tenantId = row.tenantId

def OfSubagents (db : Db) : Prop := ∀ closureId row, db.closure closureId = some row →
  ∃ session, db.session row.runtimeSessionId = some session ∧ session.kind = .subagent

def EndedIffClosed (id : Nat) (db : Db) : Prop := ∀ row, db.session id = some row → row.kind = .subagent →
  (Closed id db ↔ row.endedAt ≠ none)

def Sheltered (db : Db) : Prop := ∀ parentId parent id row, db.session parentId = some parent → parent.kind = .session →
  parent.endedAt ≠ none → db.session id = some row → row.parentSessionId = some parentId → row.endedAt ≠ none

-- Every session has a task of its own, and an ended subagent's task is over.
structure Tasks (db : Db) : Prop where
  apart : ∀ id row other rival taskId, db.session id = some row → db.session other = some rival →
    row.taskId = some taskId → rival.taskId = some taskId → id = other
  held : ∀ id row taskId, db.session id = some row → row.taskId = some taskId → (db.task taskId).isSome = true
  done : ∀ id row taskId task, db.session id = some row → row.kind = .subagent → row.endedAt ≠ none →
    row.taskId = some taskId → db.task taskId = some task → terminalTask task.status = true

def newFor (id : Nat) (call : CloseCall) : Bool := call.isNew && call.runtimeSessionId = id

def Key.announces : Key → Bool
  | .task _ => true
  | .event _ => true
  | _ => false

-- A call that reports nothing new has changed no task and emitted no event.
def CallFine (call : CloseCall) : Prop := call.isNew = false → ∀ key ∈ call.wrote, key.announces = false

structure LateCall (closureId id : Nat) (call : CloseCall) : Prop where
  session : call.runtimeSessionId = id
  hook : call.closedBy = .hook
  old : call.isNew = false
  wrote : .closure closureId ∈ call.wrote

-- How the calls on a subagent account for its closure, from one database to a later one.
structure Accounted (id : Nat) (calls : List CloseCall) (before after : Db) : Prop where
  counted : (Closed id after ∧ ¬ Closed id before ∧ calls.countP (newFor id) = 1) ∨
    ((Closed id after → Closed id before) ∧ calls.countP (newFor id) = 0)
  late : ∀ closureId row, after.closure closureId = some row → row.runtimeSessionId = id → row.lateCloseAt ≠ none →
    (∃ old, before.closure closureId = some old ∧ old.runtimeSessionId = id ∧ old.lateCloseAt ≠ none) ∨
      ∃ call ∈ calls, LateCall closureId id call

def closureSchema : Schema Row Index := schema.only (fun | .closure _ => true | _ => false)

-- What holds in every run.
structure Runtime (start : Db) (terms : Terms) (s : Sys) : Prop where
  kin : Kin s.db
  owned : OfSubagents s.db
  paired : ∀ id, EndedIffClosed id s.db
  unique : Unique closureSchema s.server
  accounted : ∀ id, Accounted id s.server.journal start s.db
  fine : ∀ call ∈ s.server.journal, CallFine call
  since : ∀ key, (runtimeRule terms).allows ⟨fun _ => True, fun _ => True⟩ key (start.lookup key) (s.db.lookup key)
  sheltered : terms.parentsOpen → Sheltered s.db
  tasks : terms.parentsOpen → Tasks s.db

section
variable {terms : Terms} {held : Locks Key}

section
variable (moves : ∀ key, (runtimeRule terms).allows held key (before.lookup key) (after.lookup key))
include moves

theorem session_lasts (stored : before.session id = some row) :
    ∃ found, after.session id = some found ∧ SessionMoves terms held id row found := by
  have cell : SessionCell terms held id (before.session id) (after.session id) := moves (.session id)
  rw [stored] at cell
  cases present : after.session id with
  | none =>
      rw [present] at cell
      exact cell.elim
  | some found =>
      rw [present] at cell
      exact ⟨found, rfl, cell⟩

theorem session_origin (stored : after.session id = some row) :
    (before.session id = none ∧ SessionCell terms held id none (some row)) ∨
      ∃ old, before.session id = some old ∧ SessionMoves terms held id old row := by
  have cell : SessionCell terms held id (before.session id) (after.session id) := moves (.session id)
  rw [stored] at cell
  cases old : before.session id with
  | none => exact .inl ⟨rfl, old ▸ cell⟩
  | some first => exact .inr ⟨first, rfl, by rwa [old] at cell⟩

theorem task_lasts {taskId : Nat} {task : Task} (stored : before.task taskId = some task) :
    ∃ found, after.task taskId = some found ∧ TaskMoves terms task found := by
  have cell : Persists (TaskMoves terms) (before.task taskId) (after.task taskId) := moves (.task taskId)
  rw [stored] at cell
  exact persists_found cell

theorem closure_lasts {closureId : Nat} {row : AgentRuntimeClosure} (stored : before.closure closureId = some row) :
    ∃ found, after.closure closureId = some found ∧ ClosureMoves held row found := by
  have cell : ClosureCell held (before.closure closureId) (after.closure closureId) := moves (.closure closureId)
  rw [stored] at cell
  cases present : after.closure closureId with
  | none =>
      rw [present] at cell
      exact cell.elim
  | some found =>
      rw [present] at cell
      exact ⟨found, rfl, cell⟩

theorem closed_stays (closed : Closed id before) : Closed id after := by
  obtain ⟨closureId, row, stored, rfl⟩ := closed
  obtain ⟨found, present, kept⟩ := closure_lasts moves stored
  exact ⟨closureId, found, present, by rw [kept.pinned]⟩

-- Without the lock of the session nobody closes it.
theorem closure_unlocked {closureId : Nat} {row : AgentRuntimeClosure} (free : ¬ held.strong (.session row.runtimeSessionId)) :
    after.closure closureId = some row ↔ before.closure closureId = some row := by
  have cell : ClosureCell held (before.closure closureId) (after.closure closureId) := moves (.closure closureId)
  cases old : before.closure closureId with
  | none =>
      refine ⟨fun stored => ?_, fun stored => by cases stored⟩
      rw [old, stored] at cell
      exact absurd cell free
  | some first =>
      obtain ⟨last, new, kept⟩ := closure_lasts moves old
      have whose : last.runtimeSessionId = first.runtimeSessionId := by rw [kept.pinned]
      rw [new]
      rcases kept.late with early | ⟨-, -, strong⟩
      · rw [kept.pinned, early]
      · refine ⟨fun same => absurd strong ?_, fun same => absurd strong ?_⟩
        · rwa [← whose, Option.some.inj same]
        · rwa [Option.some.inj same]

theorem closed_before (free : ¬ held.strong (.session id)) (closed : Closed id after) : Closed id before := by
  obtain ⟨closureId, row, stored, rfl⟩ := closed
  exact ⟨closureId, row, (closure_unlocked moves free).mp stored, rfl⟩

end

end

-- A session with its closures, in two databases.
structure SameAt (id : Nat) (before after : Db) : Prop where
  session : after.session id = before.session id
  closures : ∀ closureId row, row.runtimeSessionId = id →
    (after.closure closureId = some row ↔ before.closure closureId = some row)

theorem same_at_refl (id : Nat) (db : Db) : SameAt id db db := ⟨rfl, fun _ _ _ => Iff.rfl⟩

theorem closed_same (same : SameAt id before after) : Closed id after ↔ Closed id before :=
  exists_congr (fun closureId => exists_congr (fun row =>
    ⟨fun holds => ⟨(same.closures closureId row holds.2).mp holds.1, holds.2⟩,
      fun holds => ⟨(same.closures closureId row holds.2).mpr holds.1, holds.2⟩⟩))

theorem ended_iff_closed_same (same : SameAt id before after) (paired : EndedIffClosed id before) : EndedIffClosed id after := by
  intro row stored kind
  rw [closed_same same]
  exact paired row (same.session ▸ stored) kind

theorem accounted_same {calls : List CloseCall} {old new : Db} (same : SameAt id before after) (sameOld : SameAt id old new)
    (accounted : Accounted id calls old before) : Accounted id calls new after where
  counted := by
    rw [closed_same same, closed_same sameOld]
    exact accounted.counted
  late := fun closureId row stored whose closedLate => by
    rcases accounted.late closureId row ((same.closures closureId row whose).mp stored) whose closedLate with
      ⟨first, there, whoseToo, early⟩ | call
    · exact .inl ⟨first, (sameOld.closures closureId first whoseToo).mpr there, whoseToo, early⟩
    · exact .inr call

theorem accounted_append {id : Nat} {first second : List CloseCall} {start middle after : Db}
    (grew : Closed id start → Closed id middle) (grows : Closed id middle → Closed id after)
    (before : Accounted id first start middle) (later : Accounted id second middle after) :
    Accounted id (first ++ second) start after where
  counted := by
    rw [List.countP_append]
    rcases before.counted with ⟨closed, fresh, one⟩ | ⟨same, none⟩
    · rcases later.counted with ⟨_, unclosed, _⟩ | ⟨_, noneToo⟩
      · exact absurd closed unclosed
      · exact .inl ⟨grows closed, fresh, by rw [one, noneToo]⟩
    · rcases later.counted with ⟨closed, unclosed, one⟩ | ⟨sameToo, noneToo⟩
      · exact .inl ⟨closed, fun old => unclosed (grew old), by rw [none, one]⟩
      · exact .inr ⟨fun closed => same (sameToo closed), by rw [none, noneToo]⟩
  late := fun closureId row stored whose closedLate => by
    rcases later.late closureId row stored whose closedLate with ⟨old, there, whoseToo, early⟩ | ⟨call, member, fits⟩
    · rcases before.late closureId old there whoseToo early with origin | ⟨call, member, fits⟩
      · exact .inl origin
      · exact .inr ⟨call, List.mem_append_left _ member, fits⟩
    · exact .inr ⟨call, List.mem_append_right _ member, fits⟩

-- What a process knows of its own transaction: what it sees is in order, but for the
-- session it is just closing and the calls it is about to note, and its tasks are those
-- of the sessions it has locked.
structure TaskHold (pid : Nat) (s : Sys) : Prop extends Tasks (s.sees pid) where
  owns : ∀ taskId, Key.task taskId ∈ (s.server.staged pid).map Write.key → s.db.task taskId = none ∨
    ∃ id row, s.db.session id = some row ∧ row.taskId = some taskId ∧ s.server.keyLock (.session id) = some pid
  fresh : ∀ id row, (s.sees pid).session id = some row → s.db.session id = none →
    ∃ taskId, row.taskId = some taskId ∧ s.server.rowLock (.task taskId) = some pid ∧ s.db.task taskId = none

structure Composed (terms : Terms) (due : List CloseCall) (busy : Option Nat) (pid : Nat) (s : Sys) : Prop where
  kin : Kin (s.sees pid)
  owned : OfSubagents (s.sees pid)
  paired : ∀ id, busy ≠ some id → EndedIffClosed id (s.sees pid)
  accounted : ∀ id, busy ≠ some id → Accounted id (s.server.pending pid ++ due) s.db (s.sees pid)
  holds : ∀ call ∈ s.server.pending pid ++ due, call.isNew = true → s.server.keyLock (.session call.runtimeSessionId) = some pid
  fine : ∀ call ∈ s.server.pending pid ++ due, CallFine call
  sheltered : terms.parentsOpen → Sheltered (s.sees pid)
  tasks : terms.parentsOpen → TaskHold pid s

-- The others leave a process its notes, its locks, and the tasks of the sessions it
-- has locked.
structure Spared (terms : Terms) (pid : Nat) (s t : Sys) : Prop where
  pending : t.server.pending pid = s.server.pending pid
  keyLock : ∀ key, t.server.keyLock key = some pid ↔ s.server.keyLock key = some pid
  tasks : terms.parentsOpen → ∀ id row taskId, s.server.keyLock (.session id) = some pid → s.db.session id = some row →
    row.taskId = some taskId → t.db.task taskId = s.db.task taskId

theorem spared_refl (terms : Terms) (pid : Nat) (s : Sys) : Spared terms pid s s :=
  ⟨rfl, fun _ => Iff.rfl, fun _ _ _ _ _ _ _ => rfl⟩

theorem spared_trans (terms : Terms) (pid : Nat) (s t u : Sys) (steady : Steady (runtimeRule terms) pid s.server t.server)
    (first : Spared terms pid s t) (second : Spared terms pid t u) : Spared terms pid s u where
  pending := second.pending.trans first.pending
  keyLock := fun key => (second.keyLock key).trans (first.keyLock key)
  tasks := fun asked id row taskId locked stored named => by
    obtain ⟨found, present, moves⟩ := session_lasts steady.committed stored
    have same : found.taskId = row.taskId := by rw [moves.pinned]
    rw [second.tasks asked id found taskId ((first.keyLock _).mpr locked) present (same.trans named)]
    exact first.tasks asked id row taskId locked stored named

theorem same_at_of_cells {terms : Terms} {held : Locks Key} (free : ¬ held.strong (.session id))
    (moves : ∀ key, (runtimeRule terms).allows held key (before.lookup key) (after.lookup key))
    (session : after.session id = before.session id) : SameAt id before after :=
  ⟨session, fun _ _ whose => closure_unlocked moves (whose ▸ free)⟩

section
variable {start : Db} {terms : Terms} {pid : Nat} {s t : Sys}

theorem locked_same (moved : Steady (runtimeRule terms) pid s.server t.server) (tidy : Tidy t.server)
    (locked : s.server.keyLock (.session id) = some pid) : SameAt id (s.sees pid) (t.sees pid) ∧ SameAt id s.db t.db := by
  have still := tidy.strong _ pid ((moved.undisturbed.keyLock _).mpr locked)
  have row := (moved.undisturbed.rowLock _).mp still
  have free : ¬ (s.server.apart pid).strong (.session id) := fun apart => apart.1 locked
  exact ⟨same_at_of_cells free moved.seen (view_undisturbed moved.undisturbed row),
    same_at_of_cells free moved.committed (moved.undisturbed.rows _ row)⟩

-- A row that a transaction sees and has not locked FOR UPDATE has ended as it is
-- committed, or is open if it is not committed yet.
theorem unlocked_session (related : Related (runtimeRule terms) t.server) (unlocked : t.server.keyLock (.session id) ≠ some pid)
    (stored : (t.sees pid).session id = some row) :
    (t.db.session id = none ∧ row.endedAt = none) ∨
      ∃ old, t.db.session id = some old ∧ SessionMoves terms (t.server.locks pid) id old row ∧ endState row = endState old := by
  rcases session_origin (related pid) stored with ⟨absent, fresh, -⟩ | ⟨old, committed, moves⟩
  · exact .inl ⟨absent, fresh.resolve_right unlocked⟩
  · exact .inr ⟨old, committed, moves, moves.locked.resolve_right unlocked⟩

theorem unlocked_paired (related : Related (runtimeRule terms) t.server) (inv : Runtime start terms t)
    (unlocked : t.server.keyLock (.session id) ≠ some pid) : EndedIffClosed id (t.sees pid) := by
  intro row stored kind
  have back : Closed id (t.sees pid) → Closed id t.db := closed_before (related pid) unlocked
  rcases unlocked_session related unlocked stored with ⟨absent, still⟩ | ⟨old, committed, moves, same⟩
  · refine ⟨fun closed => ?_, fun ended => absurd still ended⟩
    obtain ⟨closureId, closure, present, rfl⟩ := back closed
    obtain ⟨session, there, -⟩ := inv.owned closureId closure present
    cases absent.symm.trans there
  · have kindToo : old.kind = .subagent := by rw [moves.pinned] at kind; exact kind
    have times : row.endedAt = old.endedAt := congrArg Prod.fst same
    have paired := inv.paired id old committed kindToo
    rw [times]
    exact ⟨fun closed => paired.mp (back closed), fun ended => closed_stays (related pid) (paired.mpr ended)⟩

theorem unlocked_accounted (related : Related (runtimeRule terms) t.server)
    (unlocked : t.server.keyLock (.session id) ≠ some pid) (none : calls.countP (newFor id) = 0) :
    Accounted id calls t.db (t.sees pid) where
  counted := .inr ⟨closed_before (related pid) unlocked, none⟩
  late := fun closureId row stored whose closedLate => by
    have free : ¬ (t.server.locks pid).strong (.session row.runtimeSessionId) := whose ▸ unlocked
    exact .inl ⟨row, (closure_unlocked (related pid) free).mp stored, whose, closedLate⟩

theorem count_unlocked
    (holds : ∀ call ∈ calls, call.isNew = true → s.server.keyLock (.session call.runtimeSessionId) = some pid)
    (unlocked : s.server.keyLock (.session id) ≠ some pid) : calls.countP (newFor id) = 0 := by
  refine List.countP_eq_zero.mpr (fun call member new => ?_)
  have fits : call.isNew = true ∧ call.runtimeSessionId = id := by simpa [newFor] using new
  exact unlocked (fits.2 ▸ holds call member fits.1)

theorem balanced_stable (moved : Steady (runtimeRule terms) pid s.server t.server) (spared : Spared terms pid s t)
    (kept : Kept (runtimeRule terms) t) (inv : Runtime start terms t)
    (holds : ∀ call ∈ calls, call.isNew = true → s.server.keyLock (.session call.runtimeSessionId) = some pid)
    (paired : EndedIffClosed id (s.sees pid)) (accounted : Accounted id calls s.db (s.sees pid)) :
    EndedIffClosed id (t.sees pid) ∧ Accounted id calls t.db (t.sees pid) := by
  by_cases locked : s.server.keyLock (.session id) = some pid
  · obtain ⟨seen, committed⟩ := locked_same moved kept.1 locked
    exact ⟨ended_iff_closed_same seen paired, accounted_same seen committed accounted⟩
  · have unlocked : t.server.keyLock (.session id) ≠ some pid := fun held => locked ((spared.keyLock _).mp held)
    exact ⟨unlocked_paired kept.2 inv unlocked, unlocked_accounted kept.2 unlocked (count_unlocked holds locked)⟩

theorem kin_stable (moved : Steady (runtimeRule terms) pid s.server t.server) (kept : Kept (runtimeRule terms) t)
    (inv : Runtime start terms t) (kin : Kin (s.sees pid)) : Kin (t.sees pid) := by
  intro id row parentId stored named
  rcases view_cases kept.1 moved.undisturbed (.session id) with ⟨-, before⟩ | committed
  · obtain ⟨kind, parent, there, tenant⟩ := kin id row parentId (before.symm.trans stored) named
    obtain ⟨found, present, moves⟩ := session_lasts moved.seen there
    exact ⟨kind, found, present, by rw [moves.pinned]; exact tenant⟩
  · obtain ⟨kind, parent, there, tenant⟩ := inv.kin id row parentId (committed.symm.trans stored) named
    obtain ⟨found, present, moves⟩ := session_lasts (kept.2 pid) there
    exact ⟨kind, found, present, by rw [moves.pinned]; exact tenant⟩

theorem owned_stable (moved : Steady (runtimeRule terms) pid s.server t.server) (kept : Kept (runtimeRule terms) t)
    (inv : Runtime start terms t) (owned : OfSubagents (s.sees pid)) : OfSubagents (t.sees pid) := by
  intro closureId row stored
  rcases view_cases kept.1 moved.undisturbed (.closure closureId) with ⟨-, before⟩ | committed
  · obtain ⟨session, there, kind⟩ := owned closureId row (before.symm.trans stored)
    obtain ⟨found, present, moves⟩ := session_lasts moved.seen there
    exact ⟨found, present, by rw [moves.pinned]; exact kind⟩
  · obtain ⟨session, there, kind⟩ := inv.owned closureId row (committed.symm.trans stored)
    obtain ⟨found, present, moves⟩ := session_lasts (kept.2 pid) there
    exact ⟨found, present, by rw [moves.pinned]; exact kind⟩

-- A row the transaction has inserted itself was seen before.
theorem inserted_before (moved : Steady (runtimeRule terms) pid s.server t.server) (tidy : Tidy t.server) (stored : (t.sees pid).session id = some row) (absent : t.db.session id = none) :
    (s.sees pid).session id = some row ∧ s.db.session id = none := by
  rcases view_cases tidy moved.undisturbed (.session id) with ⟨held, before⟩ | committed
  · exact ⟨before.symm.trans stored, (moved.undisturbed.rows _ held).symm.trans absent⟩
  · cases (absent.symm.trans (committed.symm.trans stored))

theorem sheltered_stable (moved : Steady (runtimeRule terms) pid s.server t.server) (kept : Kept (runtimeRule terms) t)
    (kin : Kin (s.sees pid)) (committed : Sheltered t.db) (sheltered : Sheltered (s.sees pid)) : Sheltered (t.sees pid) := by
  intro parentId parent id row storedParent kind ended stored named
  by_cases locked : s.server.keyLock (.session parentId) = some pid
  · obtain ⟨seen, -⟩ := locked_same moved kept.1 locked
    rcases session_origin moved.seen stored with ⟨-, -, shared⟩ | ⟨old, before, moves⟩
    · -- A share of the parent is what its lock keeps from the others.
      exact absurd locked (shared parentId named)
    · have namedToo : old.parentSessionId = some parentId := by rw [moves.pinned] at named; exact named
      exact moves.stays (sheltered parentId parent id old (seen.session.symm.trans storedParent) kind ended before namedToo)
  · have unlocked : t.server.keyLock (.session parentId) ≠ some pid := fun still => locked ((moved.undisturbed.keyLock _).mp still)
    rcases unlocked_session kept.2 unlocked storedParent with ⟨-, still⟩ | ⟨oldParent, there, parentMoves, same⟩
    · exact absurd still ended
    rcases session_origin (kept.2 pid) stored with ⟨before, -, shared⟩ | ⟨old, before, moves⟩
    · -- The row is the transaction's own, and its share of the parent keeps the parent open.
      have sharing : pid ∈ s.server.shares (.session parentId) := (moved.undisturbed.shares _).mp (shared parentId named)
      obtain ⟨mine, -⟩ := inserted_before moved kept.1 stored before
      obtain ⟨-, first, firstStored, -⟩ := kin id row parentId mine named
      obtain ⟨found, present, moves⟩ := session_lasts moved.seen firstStored
      obtain rfl : found = parent := Option.some.inj (present.symm.trans storedParent)
      have still : endState found = endState first := moves.locked.resolve_right (fun apart => apart.2 sharing)
      have kindToo : first.kind = .session := by rw [moves.pinned] at kind; exact kind
      have times : found.endedAt = first.endedAt := congrArg Prod.fst still
      exact sheltered parentId first id row firstStored kindToo (times ▸ ended) mine named
    · have namedToo : old.parentSessionId = some parentId := by rw [moves.pinned] at named; exact named
      have kindToo : oldParent.kind = .session := by rw [parentMoves.pinned] at kind; exact kind
      have times : parent.endedAt = oldParent.endedAt := congrArg Prod.fst same
      exact moves.stays (committed parentId oldParent id old there kindToo (times ▸ ended) before namedToo)

theorem task_hold_stable (moved : Steady (runtimeRule terms) pid s.server t.server) (spared : Spared terms pid s t)
    (kept : Kept (runtimeRule terms) t) (asked : terms.parentsOpen) (committed : Tasks t.db) (hold : TaskHold pid s) :
    TaskHold pid t := by
  have fresh : ∀ id row, (t.sees pid).session id = some row → t.db.session id = none →
      ∃ taskId, row.taskId = some taskId ∧ t.server.rowLock (.task taskId) = some pid ∧ t.db.task taskId = none := by
    intro id row stored absent
    obtain ⟨mine, absentToo⟩ := inserted_before moved kept.1 stored absent
    obtain ⟨taskId, named, locked, missing⟩ := hold.fresh id row mine absentToo
    exact ⟨taskId, named, (moved.undisturbed.rowLock _).mpr locked, (moved.undisturbed.rows _ locked).trans missing⟩
  have named (id : Nat) (row : AgentRuntimeSession) (stored : (t.sees pid).session id = some row) :
      t.db.session id = none ∨ ∃ old, t.db.session id = some old ∧ old.taskId = row.taskId := by
    exact (session_origin (kept.2 pid) stored).imp And.left (fun ⟨old, present, moves⟩ => ⟨old, present, by rw [moves.pinned]⟩)
  -- The task of a row of one's own is not committed, the task of a committed row is.
  have clash : ∀ id row other rival taskId, (t.sees pid).session id = some row → t.db.session id = none →
      t.db.session other = some rival → row.taskId = some taskId → rival.taskId = some taskId → False := by
    intro id row other rival taskId stored absent present first second
    obtain ⟨found, same, -, missing⟩ := fresh id row stored absent
    have held := committed.held other rival taskId present second
    rw [Option.some.inj (same.symm.trans first)] at missing
    rw [missing] at held
    cases held
  refine ⟨⟨?_, ?_, ?_⟩, ?_, fresh⟩
  · intro id row other rival taskId stored storedToo first second
    rcases named id row stored with absent | ⟨old, present, same⟩
    · rcases named other rival storedToo with absentToo | ⟨oldRival, presentToo, sameToo⟩
      · exact hold.apart id row other rival taskId (inserted_before moved kept.1 stored absent).1
          (inserted_before moved kept.1 storedToo absentToo).1 first second
      · exact (clash id row other oldRival taskId stored absent presentToo first (sameToo.trans second)).elim
    · rcases named other rival storedToo with absentToo | ⟨oldRival, presentToo, sameToo⟩
      · exact (clash other rival id old taskId storedToo absentToo present second (same.trans first)).elim
      · exact committed.apart id old other oldRival taskId present presentToo (same.trans first) (sameToo.trans second)
  · intro id row taskId stored first
    rcases named id row stored with absent | ⟨old, present, same⟩
    · have before := hold.held id row taskId (inserted_before moved kept.1 stored absent).1 first
      obtain ⟨task, there⟩ := Option.isSome_iff_exists.mp before
      obtain ⟨found, presentToo, -⟩ := task_lasts moved.seen there
      exact Option.isSome_of_eq_some presentToo
    · obtain ⟨task, there⟩ := Option.isSome_iff_exists.mp (committed.held id old taskId present (same.trans first))
      obtain ⟨found, presentToo, -⟩ := task_lasts (kept.2 pid) there
      exact Option.isSome_of_eq_some presentToo
  · intro id row taskId task stored kind ended first present
    by_cases locked : s.server.keyLock (.session id) = some pid
    · obtain ⟨seen, same⟩ := locked_same moved kept.1 locked
      have storedBefore : (s.sees pid).session id = some row := seen.session.symm.trans stored
      have unmoved : t.db.task taskId = s.db.task taskId := by
        cases committedRow : s.db.session id with
        | some old =>
            rcases named id row stored with absent | ⟨again, there, sameTask⟩
            · cases (absent.symm.trans same.session).trans committedRow
            · exact spared.tasks asked id again taskId locked (same.session.symm.trans there) (sameTask.trans first)
        | none =>
            obtain ⟨found, whose, held, -⟩ := hold.fresh id row storedBefore committedRow
            rw [Option.some.inj (whose.symm.trans first)] at held
            exact moved.undisturbed.rows _ held
      have before := view_kept pid s.server t.server moved.undisturbed (.task taskId) unmoved
      exact hold.done id row taskId task storedBefore kind ended first (before.symm.trans present)
    · have unlocked : t.server.keyLock (.session id) ≠ some pid := fun still => locked ((moved.undisturbed.keyLock _).mp still)
      rcases unlocked_session kept.2 unlocked stored with ⟨-, still⟩ | ⟨old, there, moves, same⟩
      · exact absurd still ended
      have kindToo : old.kind = .subagent := by rw [moves.pinned] at kind; exact kind
      have times : row.endedAt = old.endedAt := congrArg Prod.fst same
      have firstToo : old.taskId = some taskId := by rw [moves.pinned] at first; exact first
      obtain ⟨oldTask, known⟩ := Option.isSome_iff_exists.mp (committed.held id old taskId there firstToo)
      obtain ⟨found, presentToo, moves⟩ := task_lasts (kept.2 pid) known
      obtain rfl : found = task := Option.some.inj (presentToo.symm.trans present)
      exact moves asked (committed.done id old taskId oldTask there kindToo (times ▸ ended) firstToo known)
  · intro taskId member
    rw [moved.undisturbed.staged] at member
    rcases hold.owns taskId member with missing | ⟨id, row, stored, first, locked⟩
    · obtain ⟨write, staged, same⟩ := List.mem_map.mp member
      have held := kept.1.owned pid write (moved.undisturbed.staged ▸ staged)
      rw [same] at held
      exact .inl ((moved.undisturbed.rows _ ((moved.undisturbed.rowLock _).mp held)).trans missing)
    · obtain ⟨-, same⟩ := locked_same moved kept.1 locked
      exact .inr ⟨id, row, same.session.trans stored, first, (moved.undisturbed.keyLock _).mpr locked⟩

theorem composed_moved {due : List CloseCall} {busy : Option Nat} (moved : Steady (runtimeRule terms) pid s.server t.server)
    (spared : Spared terms pid s t) (kept : Kept (runtimeRule terms) t) (inv : Runtime start terms t)
    (composed : Composed terms due busy pid s) : Composed terms due busy pid t := by
  have balanced (id : Nat) (other : busy ≠ some id) := balanced_stable moved spared kept inv composed.holds
    (composed.paired id other) (composed.accounted id other)
  constructor
  · exact kin_stable moved kept inv composed.kin
  · exact owned_stable moved kept inv composed.owned
  · exact fun id other => (balanced id other).1
  · rw [spared.pending]
    exact fun id other => (balanced id other).2
  · rw [spared.pending]
    exact fun call member new => (spared.keyLock _).mpr (composed.holds call member new)
  · rw [spared.pending]
    exact composed.fine
  · exact fun asked => sheltered_stable moved kept composed.kin (inv.sheltered asked) (composed.sheltered asked)
  · exact fun asked => task_hold_stable moved spared kept asked (inv.tasks asked) (composed.tasks asked)

end

end AiWorld.Api
