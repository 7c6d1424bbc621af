import AiWorld.Api.Growth
import AiWorld.Api.Minted
import AiWorld.Api.Ruled
import AiWorld.Database.Unique

set_option autoImplicit false

namespace AiWorld.Api

open AiWorld.Concurrency AiWorld.Database

variable {task : Task} {s t : Sys} {missionId pid taskId other : Nat} {query : Database.Stmt Row CloseCall}

-- Starts and cancels take a mission out of the statuses it can be started in and never
-- back, and leave every other row as it is.
def Startward (before after : Mission) : Prop :=
  after = { before with status := after.status } ∧ (startable before = false → startable after = false)

theorem startward_refl (row : Mission) : Startward row row := ⟨rfl, id⟩

theorem startward_trans (a : Mission) {b : Mission} (c : Mission) (first : Startward a b) (second : Startward b c) : Startward a c :=
  ⟨by rw [second.1, first.1], fun ended => second.2 (first.2 ended)⟩

def StartCell : (key : Key) → Option (Row key) → Option (Row key) → Prop
  | .mission _, before, after => Persists Startward before after
  | _, before, after => Persists Eq before after

theorem start_cell_refl (key : Key) (row : Option (Row key)) : StartCell key row row := by
  cases key with
  | mission id => exact persists_refl startward_refl row
  | _ => exact persists_refl (fun _ => rfl) row

theorem start_cell_trans (key : Key) (a b c : Option (Row key)) (first : StartCell key a b) (second : StartCell key b c) :
    StartCell key a c := by
  cases key with
  | mission id => exact persists_trans startward_trans a c first second
  | _ => exact persists_trans (fun _ _ _ same also => same.trans also) a c first second

theorem start_cell_fresh (key : Key) (row : Row key) : StartCell key none (some row) := by
  cases key <;> trivial

-- A row of another table stays as it is.
theorem row_moves {key : Key} {row : Row key} {after : Option (Row key)} (other : StartCell key = Persists Eq)
    (moved : StartCell key (some row) after) : after = some row := by
  rw [other] at moved
  obtain ⟨found, present, same⟩ := persists_found moved
  rw [present, same]

def startRule : CellRule Row := ⟨fun _ => StartCell, fun _ => start_cell_refl, fun _ _ _ _ _ _ moves => moves⟩

-- The writes of these routes: inserts, and columns of a mission.
def startWrites : Database.Stmt Row CloseCall → Prop
  | .update (.mission _) _ columns => ∀ row, Startward row (columns row)
  | .updateWhere (.mission _) _ columns => ∀ row, Startward row (columns row)
  | .update _ _ _ => False
  | .updateWhere _ _ _ => False
  | .delete _ => False
  | _ => True

theorem start_writes_cell (pid : Nat) (query : Database.Stmt Row CloseCall) (s : Server Row Index CloseCall)
    (writes : startWrites query) (write : Write Row) (issued : query.write = some write)
    (applies : query.applies schema (s.view pid)) :
    StartCell write.key ((s.view pid).lookup write.key) (write.cell ((s.view pid).lookup write.key)) := by
  cases query with
  | insert key row =>
      cases issued
      have absent : (s.view pid).lookup key = none := accepts_absent applies
      change StartCell key ((s.view pid).lookup key) (some row)
      rw [absent]
      exact start_cell_fresh key row
  | update key loaded columns =>
      cases issued
      cases key with
      | mission id => exact persists_map writes _
      | _ => exact writes.elim
  | updateWhere key wanted columns =>
      cases issued
      cases key with
      | mission id => exact persists_map writes _
      | _ => exact writes.elim
  | delete key => exact writes.elim
  | _ => cases issued

theorem start_own_view {s t : Server Row Index CloseCall} (writes : startWrites query) (onward : Onward schema pid query s t)
    (key : Key) : StartCell key ((s.view pid).lookup key) ((t.view pid).lookup key) :=
  onward_view startRule pid query s t (s.locks pid) (start_writes_cell pid query s writes) onward key

theorem start_own_task {s t : Server Row Index CloseCall} (writes : startWrites query) (onward : Onward schema pid query s t)
    {id : Nat} (seen : (t.view pid).lookup (.task id) = some task) :
    (s.view pid).lookup (.task id) = some task ∨ query = .insert (.task id) task := by
  refine (onward_row onward seen).imp (fun before => ?_) And.left
  obtain ⟨old, stored⟩ := Option.isSome_iff_exists.mp before
  have same := row_moves rfl (stored ▸ start_own_view writes onward (.task id))
  rw [stored, ← same, seen]

theorem start_respects {s : Server Row Index CloseCall} (related : Related startRule s)
    (writes : startWrites query) : Respects startRule schema pid query s :=
  respects_own (fun _ => start_cell_trans) related (start_writes_cell pid query s writes)

theorem start_shrinks (writes : startWrites query) (write : Write Row)
    (issued : query.write = some write) : write.shrinks schema := by
  have mission : ∀ (id : Nat) (columns : Mission → Mission), (∀ row, Startward row (columns row)) →
      (Write.change (.mission id) columns : Write Row).shrinks schema := fun id columns startward row entry listed => by
    have same : columns row = { row with status := (columns row).status } := (startward row).1
    change entry ∈ [Index.missionCode (columns row).missionCode] at listed
    rw [same] at listed
    exact listed
  cases query with
  | insert key row =>
      cases issued
      trivial
  | update key loaded columns =>
      cases issued
      cases key with
      | mission id => exact mission id columns writes
      | _ => exact writes.elim
  | updateWhere key wanted columns =>
      cases issued
      cases key with
      | mission id => exact mission id columns writes
      | _ => exact writes.elim
  | delete key => exact writes.elim
  | _ => cases issued

-- A mission that cannot be started any more, and one that is not known to be so.
def Settled (missionId : Nat) (db : Db) : Prop := ∃ row, db.mission missionId = some row ∧ startable row = false

def Unsettled (missionId : Nat) (db : Db) : Prop := ∀ row, db.mission missionId = some row → startable row = true

theorem settled_not {db : Db} (settled : Settled missionId db) : ¬ Unsettled missionId db := by
  obtain ⟨row, stored, ended⟩ := settled
  intro unsettled
  exact Bool.false_ne_true (ended.symm.trans (unsettled row stored))

variable {before : Db}

theorem settled_moves (missionId : Nat) (after : Db)
    (moved : StartCell (.mission missionId) (before.lookup (.mission missionId)) (after.lookup (.mission missionId)))
    (settled : Settled missionId before) : Settled missionId after := by
  obtain ⟨row, stored, ended⟩ := settled
  rw [show before.lookup (.mission missionId) = some row from stored] at moved
  obtain ⟨found, present, startward⟩ := persists_found moved
  exact ⟨found, present, startward.2 ended⟩

def startedMissions (s : Sys) : List Nat := s.started.map (fun entry => entry.2.1)

theorem durable_moves {after : Db} (moved : ∀ key, StartCell key (before.lookup key) (after.lookup key))
    (durable : durableTask before task = true) : durableTask after task = true := by
  unfold durableTask at durable
  split at durable
  next version found =>
    obtain ⟨versionId, active, stored⟩ := Option.bind_eq_some_iff.mp found
    obtain ⟨agent, present, same⟩ := Option.bind_eq_some_iff.mp active
    have agentAfter : after.agent task.assignedAgentId = some agent :=
      row_moves rfl
        ((show before.lookup (.agent task.assignedAgentId) = some agent from present) ▸ moved (.agent task.assignedAgentId))
    have versionAfter : after.agentVersion versionId = some version :=
      row_moves rfl
        ((show before.lookup (.agentVersion versionId) = some version from stored) ▸ moved (.agentVersion versionId))
    simpa [durableTask, agentAfter, same, versionAfter] using durable
  next => cases durable

-- What all starts and cancels keep. A start has claimed its mission once it has
-- reported a new task: the mission is committed as started, or the start holds its row
-- and will commit it so.
structure Starts (s : Sys) : Prop where
  unique : Unique schema s.server
  minted : Minted s
  once : (startedMissions s).Nodup
  claimed : ∀ entry ∈ s.started, Settled entry.2.1 s.db ∨
    (s.server.rowLock (.mission entry.2.1) = some entry.1 ∧ Settled entry.2.1 (s.server.view entry.1))
  tasks : ∀ pid id task, (s.server.view pid).lookup (.task id) = some task → s.db.task id = some task ∨
    (s.server.rowLock (.mission task.missionId) = some pid ∧ Unsettled task.missionId s.db)
  pushes : (s.pushed.map Prod.snd).Nodup
  queued : ∀ entry ∈ s.pushed, s.drawn entry.2 = some entry.1 ∧ ∃ task, s.db.task entry.2 = some task ∧ durableTask s.db task = true

-- What every step promises: a started or cancelled mission stays so, with no report of
-- a new task and no new task.
structure Closes (missionId : Nat) (s t : Sys) : Prop where
  settled : Settled missionId t.db
  started : ∀ entry ∈ t.started, entry.2.1 = missionId → entry ∈ s.started
  tasks : ∀ id task, t.db.task id = some task → task.missionId = missionId → s.db.task id = some task

structure Progress (s t : Sys) : Prop where
  closes : ∀ missionId, Settled missionId s.db → Closes missionId s t
  tasks : ∀ id task, s.db.task id = some task → t.db.task id = some task

theorem progress_refl (s : Sys) : Progress s s :=
  ⟨fun _ settled => ⟨settled, fun _ member _ => member, fun _ _ stored _ => stored⟩, fun _ _ stored => stored⟩

theorem progress_trans (s t u : Sys) (first : Progress s t) (second : Progress t u) : Progress s u where
  closes := fun missionId settled =>
    have before := first.closes missionId settled
    have after := second.closes missionId before.settled
    ⟨after.settled, fun entry member same => before.started entry (after.started entry member same) same,
      fun id task stored same => before.tasks id task (after.tasks id task stored same) same⟩
  tasks := fun id task stored => second.tasks id task (first.tasks id task stored)

-- What a process may rely on beside the rows.
structure Heeds (pid : Nat) (s t : Sys) : Prop where
  mine : Mine pid s t
  started : ∀ entry ∈ t.started, entry.1 = pid → entry ∈ s.started
  pushed : ∀ entry ∈ t.pushed, entry.1 = pid → entry ∈ s.pushed
  unclaimed : ∀ missionId, s.server.rowLock (.mission missionId) = some pid → missionId ∉ startedMissions s →
    missionId ∉ startedMissions t

theorem heeds_same (pid : Nat) (s t : Sys) (mine : Mine pid s t) (started : t.started = s.started) (pushed : t.pushed = s.pushed) :
    Heeds pid s t :=
  ⟨mine, fun _ member _ => started ▸ member, fun _ member _ => pushed ▸ member, fun _ _ absent => by
    simpa only [startedMissions, started] using absent⟩

theorem heeds_trans (pid : Nat) (s t u : Sys) (moved : Undisturbed pid s.server t.server) (first : Heeds pid s t)
    (second : Heeds pid t u) : Heeds pid s u where
  mine := mine_trans first.mine second.mine
  started := fun entry member own => first.started entry (second.started entry member own) own
  pushed := fun entry member own => first.pushed entry (second.pushed entry member own) own
  unclaimed := fun missionId held absent =>
    second.unclaimed missionId ((moved.rowLock _).mpr held) (first.unclaimed missionId held absent)

-- When a process may issue a statement.
def Proper (pid : Nat) (stmt : Stmt) (s : Sys) : Prop :=
  match stmt with
  | .db (.insert (.task id) task) => s.drawn id = some pid ∧
      s.server.rowLock (.mission task.missionId) = some pid ∧ Unsettled task.missionId s.db
  | .db .rollback => ∀ entry ∈ s.started, entry.1 = pid → Settled entry.2.1 s.db
  | .db query => startWrites query ∧ mints pid (.db query) s
  | .reportStarted missionId _ => s.server.rowLock (.mission missionId) = some pid ∧ Unsettled missionId s.db ∧
      Settled missionId (s.server.view pid) ∧ missionId ∉ startedMissions s
  | .push taskId => s.drawn taskId = some pid ∧ (∀ entry ∈ s.pushed, entry.1 ≠ pid) ∧
      ∃ task, s.db.task taskId = some task ∧ durableTask s.db task = true
  | .newId => True
  | .owe _ => True
  | _ => False

theorem proper_writes (proper : Proper pid (.db query) s) : startWrites query ∧ mints pid (.db query) s := by
  cases query with
  | insert key row =>
      cases key with
      | task id => exact ⟨trivial, fun other named => by cases named; exact proper.1⟩
      | _ => exact proper
  | rollback => exact ⟨trivial, trivial⟩
  | _ => exact proper

section
variable {pid : Nat} {query : Database.Stmt Row CloseCall} {s t : Sys} (kept : Kept startRule s) (starts : Starts s)
  (proper : Proper pid (.db query) s) (move : Move schema pid query s.server t.server)
include kept proper move

theorem move_cells (key : Key) : StartCell key (s.db.lookup key) (t.db.lookup key) :=
  (move_related kept.1 kept.2
    (start_respects kept.2 (proper_writes proper).1) move).2 key

theorem move_tasks (id : Nat) (task : Task) (stored : s.db.task id = some task) : t.db.task id = some task :=
  row_moves rfl ((show s.db.lookup (.task id) = some task from stored) ▸ move_cells kept proper move _)

include starts

theorem move_claimed {entry : Nat × Nat × Nat} (member : entry ∈ s.started) :
    Settled entry.2.1 t.db ∨
      (t.server.rowLock (.mission entry.2.1) = some entry.1 ∧ Settled entry.2.1 (t.server.view entry.1)) := by
  have moved := settled_moves entry.2.1 t.db (move_cells kept proper move _)
  rcases starts.claimed entry member with committed | ⟨held, seen⟩
  · exact .inl (moved committed)
  by_cases own : entry.1 = pid
  · rcases move_onward move with ⟨-, after⟩ | ⟨rfl, -⟩ | onward
    · have stored : t.db = s.server.view pid := by rw [Sys.db, after, Server.commits_db]
      exact .inl (stored ▸ own ▸ seen)
    · exact .inl (moved (proper entry member own))
    · rw [own] at held seen ⊢
      exact .inr ⟨onward.locks _ held, settled_moves entry.2.1 _
        (start_own_view (proper_writes proper).1 onward _) seen⟩
  · have undisturbed := move_undisturbed schema query kept.1 own move
    obtain ⟨row, stored, ended⟩ := seen
    exact .inr ⟨(undisturbed.rowLock _).mpr held, row,
      (view_undisturbed undisturbed held).trans stored, ended⟩

-- A task is seen before its commit by the start that created it alone.
theorem move_unseen (other id : Nat) (task : Task) (seen : (t.server.view other).lookup (.task id) = some task) :
    t.db.task id = some task ∨
      (t.server.rowLock (.mission task.missionId) = some other ∧ Unsettled task.missionId t.db) := by
  by_cases own : other = pid
  · subst own
    rcases move_onward move with ⟨-, after⟩ | ⟨-, after⟩ | onward
    · rw [after, Server.commits_view] at seen
      exact .inl (by rw [Sys.db, after]; exact seen)
    · rw [after, Server.rollsBack_view] at seen
      exact .inl (by rw [Sys.db, after]; exact seen)
    · have same : t.db = s.db := onward.db
      rw [same]
      rcases start_own_task (proper_writes proper).1 onward seen with old | rfl
      · exact (starts.tasks other id task old).imp_right (fun both => ⟨onward.locks _ both.1, both.2⟩)
      · exact .inr ⟨onward.locks _ proper.2.1, proper.2.2⟩
  · have undisturbed := move_undisturbed schema query kept.1 own move
    by_cases held : s.server.rowLock (.task id) = some other
    · rw [view_undisturbed undisturbed held] at seen
      rcases starts.tasks other id task seen with committed | ⟨locked, unsettled⟩
      · exact .inl (move_tasks kept proper move id task committed)
      · refine .inr ⟨(undisturbed.rowLock _).mpr locked, fun row stored => unsettled row ?_⟩
        exact (undisturbed.rows _ locked).symm.trans stored
    · have tidy := move_tidy schema pid query kept.1 move
      rw [view_unlocked tidy (fun after => held ((undisturbed.rowLock _).mp after))] at seen
      exact .inl seen

theorem move_starts (next : t.nextId = s.nextId) (drawn : t.drawn = s.drawn) (started : t.started = s.started)
    (pushed : t.pushed = s.pushed) : Starts t where
  unique := move_unique kept.1 starts.unique
    (start_shrinks (proper_writes proper).1) move
  minted := move_minted move next drawn starts.minted (proper_writes proper).2
  once := by simpa only [startedMissions, started] using starts.once
  claimed := fun entry member => move_claimed kept starts proper move (started ▸ member)
  tasks := move_unseen kept starts proper move
  pushes := by simpa only [pushed] using starts.pushes
  queued := fun entry member => by
    obtain ⟨own, task, stored, durable⟩ := starts.queued entry (pushed ▸ member)
    rw [drawn]
    exact ⟨own, task, move_tasks kept proper move _ task stored,
      durable_moves (move_cells kept proper move) durable⟩

theorem move_progress (started : t.started = s.started) : Progress s t where
  closes := fun missionId settled => by
    refine ⟨settled_moves missionId t.db (move_cells kept proper move _) settled,
      fun _ member _ => started ▸ member, fun id task stored named => ?_⟩
    rcases move_db move with same | ⟨-, after⟩
    · exact (congrArg (fun db : Db => db.task id) same).symm.trans stored
    · have seen : (s.server.view pid).lookup (.task id) = some task := by rwa [Sys.db, after] at stored
      rcases starts.tasks pid id task seen with committed | ⟨-, unsettled⟩
      · exact committed
      · exact absurd (named ▸ unsettled) (settled_not settled)
  tasks := move_tasks kept proper move

end

theorem report_starts (starts : Starts s)
    (proper : Proper pid (.reportStarted missionId taskId) s) : Starts (s.reports pid missionId taskId) where
  unique := starts.unique
  minted := minted_same s starts.minted rfl rfl rfl
  once := by
    have fresh : missionId ∉ startedMissions s := proper.2.2.2
    simpa [startedMissions, Sys.reports, List.nodup_append, starts.once] using
      ⟨starts.once, fun named other task member same => fresh (List.mem_map.mpr ⟨_, member, same⟩)⟩
  claimed := fun entry member => by
    rcases List.mem_append.mp member with old | new
    · exact starts.claimed entry old
    · obtain rfl := List.mem_singleton.mp new
      exact .inr ⟨proper.1, proper.2.2.1⟩
  tasks := starts.tasks
  pushes := starts.pushes
  queued := starts.queued

theorem report_progress (proper : Proper pid (.reportStarted missionId taskId) s) :
    Progress s (s.reports pid missionId taskId) where
  closes := fun named settled => ⟨settled, fun entry member same => by
    rcases List.mem_append.mp member with old | new
    · exact old
    · obtain rfl := List.mem_singleton.mp new
      obtain rfl : missionId = named := same
      exact absurd proper.2.1 (settled_not settled), fun _ _ stored _ => stored⟩
  tasks := fun _ _ stored => stored

theorem report_heeds (different : other ≠ pid)
    (proper : Proper pid (.reportStarted missionId taskId) s) : Heeds other s (s.reports pid missionId taskId) where
  mine := mine_same other s rfl rfl
  started := fun entry member own => by
    rcases List.mem_append.mp member with old | new
    · exact old
    · obtain rfl := List.mem_singleton.mp new
      exact absurd own.symm different
  pushed := fun _ member _ => member
  unclaimed := fun named held absent member => by
    have apart : named ≠ missionId := by
      rintro rfl
      exact different (Option.some.inj (held.symm.trans proper.1))
    simp [startedMissions, Sys.reports, apart] at member
    exact absent (by simpa [startedMissions] using member)

theorem push_starts (starts : Starts s) (proper : Proper pid (.push taskId) s) : Starts (s.pushes pid taskId) where
  unique := starts.unique
  minted := minted_same s starts.minted rfl rfl rfl
  once := starts.once
  claimed := starts.claimed
  tasks := starts.tasks
  pushes := by
    have fresh : taskId ∉ s.pushed.map Prod.snd := fun member => by
      obtain ⟨entry, pushed, rfl⟩ := List.mem_map.mp member
      have theirs := (starts.queued entry pushed).1
      exact proper.2.1 entry pushed (Option.some.inj (theirs.symm.trans proper.1))
    simp only [Sys.pushes, List.map_append, List.map_cons, List.map_nil]
    exact starts.pushes.append (by simp) (by simpa [List.disjoint_singleton] using fresh)
  queued := fun entry member => by
    rcases List.mem_append.mp member with old | new
    · exact starts.queued entry old
    · obtain rfl := List.mem_singleton.mp new
      exact ⟨proper.1, proper.2.2⟩

theorem push_heeds (taskId : Nat) (different : other ≠ pid) (s : Sys) : Heeds other s (s.pushes pid taskId) where
  mine := mine_same other s rfl rfl
  started := fun _ member _ => member
  pushed := fun entry member own => by
    rcases List.mem_append.mp member with old | new
    · exact old
    · obtain rfl := List.mem_singleton.mp new
      exact absurd own.symm different
  unclaimed := fun _ _ absent => absent

theorem same_starts (starts : Starts s) (server : t.server = s.server) (minted : Minted t) (started : t.started = s.started)
    (pushed : t.pushed = s.pushed) (drawn : ∀ id pid, s.drawn id = some pid → t.drawn id = some pid) : Starts t where
  unique := server ▸ starts.unique
  minted := minted
  once := by simpa only [startedMissions, started] using starts.once
  claimed := fun entry member => by
    simpa only [Sys.db, server] using starts.claimed entry (started ▸ member)
  tasks := fun pid id task => by simpa only [Sys.db, server] using starts.tasks pid id task
  pushes := by simpa only [pushed] using starts.pushes
  queued := fun entry member => by
    obtain ⟨own, rest⟩ := starts.queued entry (pushed ▸ member)
    exact ⟨drawn _ _ own, by simpa only [Sys.db, server] using rest⟩

theorem same_progress (db : t.db = s.db) (started : t.started = s.started) : Progress s t :=
  ⟨fun _ settled => ⟨db ▸ settled, fun _ member _ => started ▸ member, fun _ _ stored _ => db ▸ stored⟩,
    fun _ _ stored => db ▸ stored⟩

-- A proper statement keeps everything.
theorem proper_step {stmt : Stmt} {choice : Choice} {answer : Ans stmt} (kept : Kept startRule s) (starts : Starts s)
    (proper : Proper pid stmt s) (executed : exec pid stmt choice s = some (answer, t)) :
    Starts t ∧ Progress s t ∧ ∀ other, other ≠ pid → Heeds other s t := by
  cases stmt with
  | db query =>
      obtain ⟨⟨found, after⟩, performed, same⟩ := Option.map_eq_some_iff.mp executed
      cases same
      have move := perform_moves performed
      exact ⟨move_starts kept starts proper move rfl rfl rfl rfl, move_progress kept starts proper move rfl,
        fun other different => heeds_same other s _ (move_mine different move rfl starts.minted) rfl rfl⟩
  | newId =>
      cases executed
      exact ⟨same_starts starts rfl (takes_id_minted pid s starts.minted) rfl rfl
          (fun id owner held => (takes_id_mine pid s owner starts.minted).drawn id held),
        same_progress rfl rfl, fun other _ => heeds_same other s _ (takes_id_mine pid s other starts.minted) rfl rfl⟩
  | owe taskId =>
      cases executed
      exact ⟨same_starts starts rfl (minted_same s starts.minted rfl rfl rfl) rfl rfl (fun _ _ held => held),
        same_progress rfl rfl, fun other _ => heeds_same other s _ (mine_same other s rfl rfl) rfl rfl⟩
  | reportStarted missionId taskId =>
      cases executed
      exact ⟨report_starts starts proper, report_progress proper,
        fun other different => report_heeds different proper⟩
  | push taskId =>
      cases executed
      exact ⟨push_starts starts proper, same_progress rfl rfl,
        fun other different => push_heeds taskId different s⟩
  | _ => exact proper.elim

end AiWorld.Api
