import AiWorld.Api.Growth
import AiWorld.Api.RuntimeOwn

set_option autoImplicit false

namespace AiWorld.Api

open AiWorld.Concurrency AiWorld.Database

variable {key : Key} {write : Write Row}

structure RowLasts (id : Nat) (before after : AgentRuntimeSession) : Prop where
  pinned : Pinned (.session id) before after
  stays : before.endedAt ≠ none → after.endedAt ≠ none

theorem row_lasts_refl (id : Nat) (row : AgentRuntimeSession) : RowLasts id row row := ⟨pinned_refl (.session id) row, fun ended => ended⟩

-- The sessions a process has seen are there, and the ended ones are ended.
def Lasts (pid : Nat) (s t : Sys) : Prop :=
  ∀ id row, (s.sees pid).session id = some row → ∃ found, (t.sees pid).session id = some found ∧ RowLasts id row found

-- What a process keeps while it waits and while it works on the session `apart`: its
-- locks, the other sessions it has locked, and the children of those.
structure Retains (apart : Option Nat) (pid : Nat) (s t : Sys) : Prop where
  lasts : Lasts pid s t
  keyLock : ∀ key, s.server.keyLock key = some pid → t.server.keyLock key = some pid
  same : ∀ id, apart ≠ some id → s.server.keyLock (.session id) = some pid →
    SameAt id (s.sees pid) (t.sees pid) ∧ SameAt id s.db t.db
  children : ∀ id row parentId, (t.sees pid).session id = some row → row.parentSessionId = some parentId →
    s.server.keyLock (.session parentId) = some pid → ∃ old, (s.sees pid).session id = some old

def stagedKeys (pid : Nat) (s : Sys) : List Key := (s.server.staged pid).map Write.key

-- The same while it works on no session, but on tasks at most.
structure Passes (pid : Nat) (s t : Sys) : Prop extends Retains none pid s t where
  pending : t.server.pending pid = s.server.pending pid
  keys : ∃ news, stagedKeys pid t = stagedKeys pid s ++ news ∧ ∀ key ∈ news, key.outside = true

theorem passes_retains (apart : Option Nat) {pid : Nat} (s t : Sys) (passes : Passes pid s t) : Retains apart pid s t :=
  { passes with same := fun id _ => passes.same id (Option.some_ne_none id).symm }

-- A task that nobody else writes.
def Staked (pid : Nat) (s : Sys) (taskId : Nat) : Prop :=
  (s.db.task taskId = none ∧ s.server.rowLock (.task taskId) = some pid) ∨
    ∃ id row, s.db.session id = some row ∧ row.taskId = some taskId ∧ s.server.keyLock (.session id) = some pid

-- The same while it works on neither.
structure Sides (terms : Terms) (pid : Nat) (s t : Sys) : Prop extends Passes pid s t where
  tasks : terms.parentsOpen → ∀ taskId, Staked pid s taskId → Staked pid t taskId ∧ (t.sees pid).task taskId = (s.sees pid).task taskId

structure Stays (terms : Terms) (pid : Nat) (s t : Sys) : Prop extends Sides terms pid s t where
  staged : t.server.staged pid = s.server.staged pid
  rows : ∀ key, s.server.rowLock key = some pid → t.server.rowLock key = some pid ∧ t.db.lookup key = s.db.lookup key ∧
    (t.sees pid).lookup key = (s.sees pid).lookup key

section
variable {start : Db} {terms : Terms} {pid : Nat} {s t : Sys} {writes : List (Write Row)}

theorem stays_moved (moved : Steady (runtimeRule terms) pid s.server t.server) (spared : Spared terms pid s t)
    (kept : Kept (runtimeRule terms) t) : Stays terms pid s t where
  lasts := fun id row stored => by
    obtain ⟨found, present, moves⟩ := session_lasts moved.seen stored
    exact ⟨found, present, moves.pinned, moves.stays⟩
  keyLock := fun key held => (spared.keyLock key).mpr held
  same := fun id _ locked => locked_same moved kept.1 locked
  children := fun id row parentId stored named locked =>
    (session_origin moved.seen stored).elim (fun fresh => absurd locked (fresh.2.2 parentId named))
      (fun ⟨old, before, _⟩ => ⟨old, before⟩)
  pending := spared.pending
  keys := ⟨[], by rw [stagedKeys, stagedKeys, moved.undisturbed.staged, List.append_nil], by simp⟩
  tasks := fun asked taskId staked => by
    rcases staked with ⟨missing, held⟩ | ⟨id, row, stored, named, locked⟩
    · exact ⟨.inl ⟨(moved.undisturbed.rows _ held).trans missing, (moved.undisturbed.rowLock _).mpr held⟩,
        view_undisturbed moved.undisturbed held⟩
    · obtain ⟨-, same⟩ := locked_same moved kept.1 locked
      exact ⟨.inr ⟨id, row, same.session.trans stored, named, (spared.keyLock _).mpr locked⟩,
        view_kept pid s.server t.server moved.undisturbed _ (spared.tasks asked id row taskId locked stored named)⟩
  staged := moved.undisturbed.staged
  rows := fun key held => ⟨(moved.undisturbed.rowLock key).mpr held, moved.undisturbed.rows key held,
    view_undisturbed moved.undisturbed held⟩

theorem outside_passes (appends : Appends pid writes s.server t.server) (outside : ∀ write ∈ writes, write.key.outside = true) :
    Passes pid s t := by
  have sessions := outside_sessions appends (outside_apart outside).1
  have closures := outside_closures appends (outside_apart outside).2
  have db : t.db = s.db := appends.db
  constructor
  · constructor
    · intro id row stored
      rw [sessions]
      exact ⟨row, stored, row_lasts_refl id row⟩
    · exact appends.keyLock
    · intro id _ _
      rw [db]
      refine ⟨⟨congrFun sessions id, fun closureId row _ => ?_⟩, same_at_refl id s.db⟩
      rw [closures]
    · intro id row parentId stored _ _
      rw [sessions] at stored
      exact ⟨row, stored⟩
  · exact appends.pending
  · refine ⟨writes.map Write.key, appends_keys appends, fun key member => ?_⟩
    obtain ⟨write, listed, rfl⟩ := List.mem_map.mp member
    exact outside write listed

theorem staked_appended (appends : Appends pid writes s.server t.server) {taskId : Nat} (staked : Staked pid s taskId) :
    Staked pid t taskId := by
  have db : t.db = s.db := appends.db
  rw [Staked, db]
  exact staked.imp (fun own => ⟨own.1, appends.rowLock _ own.2⟩) (fun ⟨id, row, stored, named, locked⟩ =>
    ⟨id, row, stored, named, appends.keyLock _ locked⟩)

theorem side_sides (appends : Appends pid writes s.server t.server) (side : ∀ write ∈ writes, write.key.side = true) :
    Sides terms pid s t :=
  { outside_passes appends (side_outside side) with
    tasks := fun _ taskId staked => ⟨staked_appended appends staked,
      congrFun (outside_tasks appends (side_apart side).2.2) taskId⟩ }

theorem reading_stays (appends : Appends pid [] s.server t.server) : Stays terms pid s t :=
  { side_sides appends (by simp) with
    staged := appends.staged.trans (List.append_nil _)
    rows := fun key held => ⟨appends.rowLock key held, congrArg (AList.lookup key) appends.db, appends_elsewhere appends (by simp)⟩ }

end

def Carried (moves : Sys → Sys → Prop) (frame : Sys → Prop) : Prop := ∀ s t, frame s → moves s t → frame t

variable {moves : Sys → Sys → Prop} {frame : Sys → Prop}

theorem carried_and {other : Sys → Prop} (first : Carried moves frame) (second : Carried moves other) :
    Carried moves (fun s => frame s ∧ other s) :=
  fun s t holds moved => ⟨first s t holds.1 moved, second s t holds.2 moved⟩

theorem carried_weaken {fewer : Sys → Sys → Prop} (narrower : ∀ s t, fewer s t → moves s t) (carried : Carried moves frame) :
    Carried fewer frame :=
  fun s t holds moved => carried s t holds (narrower s t moved)

section
variable {start : Db} {terms : Terms} {pid : Nat} {request : Request} {due : List CloseCall} {busy : Option Nat} {frame : Sys → Prop}
  {raised : Failure → Sys → Prop}

-- In order, with a fact of the caller's beside.
abbrev Framed (terms : Terms) (due : List CloseCall) (busy : Option Nat) (pid : Nat) (frame : Sys → Prop) (s : Sys) : Prop :=
  Composed terms due busy pid s ∧ frame s

abbrev InOrder (terms : Terms) (pid : Nat) (frame : Sys → Prop) : Sys → Prop := Framed terms [] none pid frame

abbrev Unframed (terms : Terms) (pid : Nat) : Sys → Prop := InOrder terms pid (fun _ => True)

-- A program that may raise anything, since the transaction is then rolled back.
abbrev Walks (start : Db) (terms : Terms) (pid : Nat) (request : Request) {α : Type} (pre : Sys → Prop) (program : Route α)
    (post : α → Sys → Prop) : Prop :=
  Raises (running start terms).toContract pid request pre program post (fun _ _ => True)

theorem walks_throw {α : Type} {failure : Failure} {pre : Sys → Prop} {post : α → Sys → Prop} :
    Walks start terms pid request pre (throw failure) post := raises_throw _ (fun _ _ => trivial)

theorem stays_of_sides (carried : Carried (Sides terms pid) frame) : Carried (Stays terms pid) frame :=
  carried_weaken (fun _ _ stays => stays.toSides) carried

theorem sides_of_passes (carried : Carried (Passes pid) frame) : Carried (Sides terms pid) frame :=
  carried_weaken (fun _ _ sides => sides.toPasses) carried

theorem stays_of_passes (carried : Carried (Passes pid) frame) : Carried (Stays terms pid) frame :=
  stays_of_sides (sides_of_passes carried)

theorem stays_of_retains {apart : Option Nat} (carried : Carried (Retains apart pid) frame) : Carried (Stays terms pid) frame :=
  stays_of_passes (carried_weaken (passes_retains apart) carried)

theorem stays_of_lasts (carried : Carried (Lasts pid) frame) : Carried (Stays terms pid) frame :=
  carried_weaken (fun _ _ stays => stays.lasts) carried

theorem framed_stable (carried : Carried (Stays terms pid) frame) :
    Stable (running start terms).toContract pid (Framed terms due busy pid frame) := fun s t holds moved inv =>
  ⟨composed_moved moved.1 moved.2 inv.1 inv.2 holds.1, carried s t holds.2 (stays_moved moved.1 moved.2 inv.1)⟩

theorem side_cell (held : Locks Key) (side : key.side = true) (before after : Option (Row key)) :
    RuntimeCell terms held key before after := by
  cases key <;> trivial

theorem shrinks_apart (apart : ∀ id, write.key ≠ .closure id) : write.shrinks closureSchema := by
  cases write with
  | put key row => trivial
  | erase key => trivial
  | change key columns =>
      intro row entry listed
      have closure := (only_indexed listed).1
      cases key with
      | closure id => exact absurd rfl (apart id)
      | _ => cases closure

theorem side_shrinks (outside : write.key.outside = true) : write.shrinks closureSchema :=
  shrinks_apart (fun id same => by
    rw [same] at outside
    cases outside)

-- A statement that writes no session, closure or task.
theorem framed_side {query : Database.Stmt Row CloseCall} {post : Ans (.db query) → Sys → Prop}
    (carried : Carried (Sides terms pid) frame) (within : query ≠ .commit)
    (side : ∀ write, query.write = some write → write.key.side = true)
    (executes : ∀ s choice answer t, Composed terms due busy pid s ∧ frame s → Kept (runtimeRule terms) s → Runtime start terms s →
      exec pid (.db query) choice s = some (answer, t) →
      ∃ writes, Appends pid writes s.server t.server ∧ (∀ write ∈ writes, write.key.side = true) ∧
    (Composed terms due busy pid t ∧ frame t → post answer t)) :
    Raises (running start terms).toContract pid request (Framed terms due busy pid frame) (ask (.db query)) post
      raised := by
  refine running_ask (framed_stable (stays_of_sides carried)) ?_ ?_ ?_ ?_
  · intro s issued _ _ same
    cases same
    exact fun write sets _ => side_cell _ (side write sets) _ _
  · intro issued write same sets
    cases same
    have fits := side write sets
    exact side_shrinks (side_outside (fun other member => List.mem_singleton.mp member ▸ fits) write (List.mem_singleton.mpr rfl))
  · exact fun same => within (Stmt.db.inj same)
  · intro s choice answer t before kept inv _ executed
    obtain ⟨writes, appends, sides, gives⟩ := executes s choice answer t before kept inv executed
    exact gives ⟨composed_side before.1 appends sides, carried s t before.2 (side_sides appends sides)⟩

theorem framed_select {α : Type} {query : Db → α} (post : α → Sys → Prop) (carried : Carried (Stays terms pid) frame)
    (reads : ∀ s, Composed terms due busy pid s → frame s → Kept (runtimeRule terms) s → Runtime start terms s →
      post (query (s.sees pid)) s) :
    Raises (running start terms).toContract pid request (Framed terms due busy pid frame) (select query) post raised := by
  refine raises_bind (fun (db : Db) s => post (query db) s) (running_ask (framed_stable carried)
    (fun s issued _ _ same => by cases same; exact respects_reading rfl) (fun issued write same sets => by cases same; cases sets)
    (fun same => by cases same) (fun s choice answer t before kept inv _ executed => ?_)) (fun db => raises_pure _ (fun _ holds => holds))
  obtain ⟨rfl, rfl⟩ := exec_select executed
  exact reads _ before.1 before.2 kept inv

theorem framed_reads {α : Type} {query : Db → α} (carried : Carried (Stays terms pid) frame) :
    Raises (running start terms).toContract pid request (Framed terms due busy pid frame) (select query)
      (fun _ => Framed terms due busy pid frame) raised :=
  framed_select _ carried (fun _ composed framed _ _ => ⟨composed, framed⟩)

-- The clock and the ids are outside the database.
theorem framed_apart {stmt : Stmt} (carried : Carried (Stays terms pid) frame) (apart : ∀ query, stmt ≠ .db query) :
    Raises (running start terms).toContract pid request (Framed terms due busy pid frame) (ask stmt)
      (fun _ => Framed terms due busy pid frame) raised := by
  refine running_ask (framed_stable carried) (fun s query _ _ same => absurd same (apart query))
    (fun query write same => absurd same (apart query)) (apart _) (fun s choice answer t before kept inv _ executed => ?_)
  rcases exec_moves executed with ⟨query, same, -⟩ | same
  · exact absurd same (apart query)
  · have appends : Appends pid [] s.server t.server := appends_of_same same
    exact ⟨composed_side before.1 appends (by simp), carried s t before.2 (reading_stays appends)⟩

theorem framed_now (carried : Carried (Stays terms pid) frame) :
    Raises (running start terms).toContract pid request (Framed terms due busy pid frame) now
      (fun _ => Framed terms due busy pid frame) raised :=
  framed_apart carried (fun _ same => by cases same)

theorem framed_new_id (carried : Carried (Stays terms pid) frame) :
    Raises (running start terms).toContract pid request (Framed terms due busy pid frame) newId
      (fun _ => Framed terms due busy pid frame) raised :=
  framed_apart carried (fun _ same => by cases same)

variable {row : Row key}

theorem framed_try_insert (carried : Carried (Sides terms pid) frame) (side : key.side = true) :
    Raises (running start terms).toContract pid request (Framed terms due busy pid frame) (tryInsert key row)
      (fun _ => Framed terms due busy pid frame) raised := by
  refine framed_side carried (fun same => by cases same) (fun write sets => by cases sets; exact side)
    (fun s choice answer t before _ _ executed => ?_)
  rcases exec_inserts executed with ⟨-, same⟩ | ⟨-, -, appends⟩
  · exact ⟨[], appends_of_same same, by simp, fun holds => holds⟩
  · exact ⟨_, appends, by simpa [Write.key] using side, fun holds => holds⟩

theorem framed_insert (carried : Carried (Sides terms pid) frame) (side : key.side = true)
    (fails : ∀ s, Composed terms due busy pid s ∧ frame s → raised .integrity s) :
    Raises (running start terms).toContract pid request (Framed terms due busy pid frame) (insert key row)
      (fun _ => Framed terms due busy pid frame) raised := by
  refine raises_bind _ (framed_try_insert carried side) (fun (inserted : Bool) => ?_)
  cases inserted with
  | true => exact raises_done
  | false => exact raises_throw _ fails

theorem framed_update {loaded : Row key} {columns : Row key → Row key} (carried : Carried (Sides terms pid) frame)
    (side : key.side = true) :
    Raises (running start terms).toContract pid request (Framed terms due busy pid frame) (update key loaded columns)
      (fun _ => Framed terms due busy pid frame) raised := by
  refine framed_side carried (fun same => by cases same) (fun write sets => by cases sets; exact side)
    (fun s choice answer t before _ _ executed => ?_)
  rcases exec_update executed with ⟨-, same⟩ | ⟨-, appends⟩
  · exact ⟨[], appends_of_same same, by simp, fun holds => holds⟩
  · exact ⟨_, appends, by simpa [Write.key] using side, fun holds => holds⟩

theorem framed_publish {eventType : EventType} {tenantId : Nat} {missionId taskId agentId : Option Nat}
    (carried : Carried (Sides terms pid) frame) (fails : ∀ s, Composed terms due busy pid s ∧ frame s → raised .integrity s) :
    Raises (running start terms).toContract pid request (Framed terms due busy pid frame)
      (publish eventType tenantId missionId taskId agentId) (fun _ => Framed terms due busy pid frame) raised :=
  raises_bind _ (framed_new_id (stays_of_sides carried)) (fun _ =>
    framed_insert carried rfl fails)

end

end AiWorld.Api
