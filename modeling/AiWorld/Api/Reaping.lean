import AiWorld.Api.Alone
import AiWorld.Api.Sweep

set_option autoImplicit false

namespace AiWorld.Api

open AiWorld.Concurrency AiWorld.Database

variable {key : Key} {agentId taskId tenantId : Nat} {missionId : Option Nat} {target : TaskStatus} {eventType : EventType}

theorem lookup_elsewhere (db : Db) (key other : Key) (row : Row key) (different : other ≠ key) :
    (db.insert key row).lookup other = db.lookup other := AList.lookup_insert_ne different

-- The ids still to be drawn name no closure and no event.
def Unused (db : Db) (nextId : Nat) : Prop := ∀ id, nextId ≤ id → db.closure id = none ∧ db.event id = none

structure Poised (pid : Nat) (committed seen : Db) (nextId : Nat) (s : Sys) : Prop where
  alone : Alone pid seen committed nextId s
  own : OwnShares pid s
  unused : Unused seen nextId

-- No transaction is under way.
structure Calm (s : Sys) : Prop where
  staged : ∀ pid, s.server.staged pid = []
  rows : ∀ key, s.server.rowLock key = none
  keys : ∀ key, s.server.keyLock key = none
  entries : ∀ entry, s.server.entryLock entry = none
  shares : ∀ key, s.server.shares key = []
  unused : Unused s.db s.nextId

theorem calm_poised (s : Sys) (calm : Calm s) (pid : Nat) : Poised pid s.db s.db s.nextId s where
  alone := ⟨fun key => .inl (calm.rows key), fun key => .inl (calm.keys key), fun entry => .inl (calm.entries entry),
    by simp [Server.view, calm.staged pid, Sys.db], rfl, rfl⟩
  own := fun key holder sharing => by simp [calm.shares key] at sharing
  unused := calm.unused

-- A task moved on, with the events that say so.
structure Moved (before after : Db) (taskId : Nat) (result : Task) : Prop where
  task : after.task taskId = some result
  others : ∀ key, key ≠ .task taskId → (∀ id, key ≠ .event id) → after.lookup key = before.lookup key
  kept : ∀ id row, before.event id = some row → after.event id = some row
  fresh : ∀ id row, after.event id = some row → before.event id = some row ∨ row.taskId = some taskId

section
variable {before after : Db} {taskId : Nat} {result : Task}

theorem moved_refl (stored : before.task taskId = some result) : Moved before before taskId result :=
  ⟨stored, fun _ _ _ => rfl, fun _ _ kept => kept, fun _ _ present => .inl present⟩

theorem moved_update (next : Task) (moved : Moved before after taskId result) :
    Moved before (after.insert (.task taskId) next) taskId next where
  task := AList.lookup_insert after
  others := fun key task event => (lookup_elsewhere after (.task taskId) key next task).trans (moved.others key task event)
  kept := fun id row kept => (lookup_elsewhere after (.task taskId) (.event id) next nofun).trans (moved.kept id row kept)
  fresh := fun id row present => moved.fresh id row
    ((lookup_elsewhere after (.task taskId) (.event id) next nofun).symm.trans present)

theorem moved_event (id : Nat) (event : AuditEvent) (names : event.taskId = some taskId) (unused : after.event id = none)
    (moved : Moved before after taskId result) : Moved before (after.insert (.event id) event) taskId result where
  task := (lookup_elsewhere after (.event id) (.task taskId) event nofun).trans moved.task
  others := fun key task other => (lookup_elsewhere after (.event id) key event (other id)).trans (moved.others key task other)
  kept := by
    intro other row kept
    have old := moved.kept other row kept
    have different : Key.event other ≠ Key.event id := by
      intro same
      cases same
      cases unused.symm.trans old
    exact (lookup_elsewhere after (.event id) (.event other) event different).trans old
  fresh := by
    intro other row present
    by_cases same : other = id
    · subst same
      cases (AList.lookup_insert after).symm.trans present
      exact .inr names
    · exact moved.fresh other row ((lookup_elsewhere after (.event id) (.event other) event (by simpa using same)).symm.trans present)

end

variable {db : Db} {nextId : Nat}

theorem unused_insert (row : Row key) (unused : Unused db nextId) (closure : ∀ id, nextId ≤ id → key ≠ .closure id)
    (event : ∀ id, nextId ≤ id → key ≠ .event id) :
    Unused (db.insert key row) nextId := fun id above =>
  ⟨(lookup_elsewhere db key (.closure id) row (Ne.symm (closure id above))).trans (unused id above).1,
    (lookup_elsewhere db key (.event id) row (Ne.symm (event id above))).trans (unused id above).2⟩

theorem unused_next (unused : Unused db nextId) : Unused db (nextId + 1) :=
  fun id above => unused id (by omega)

section
variable {pid : Nat} {committed seen : Db} {nextId : Nat} {s : Sys} {raised : Failure → Sys → Prop}
variable {α : Type} {program : Route α} {start : Db} {task : Task}

theorem poised_keeps {post : α → Sys → Prop} (poised : Poised pid committed seen nextId s)
    (finishes : Solo pid post raised program s) :
    Solo pid (fun value t => post value t ∧ OwnShares pid t) raised program s :=
  finishes_keeps (fun stmt choice s answer _ => exec_own_shares stmt choice s answer) finishes poised.own

theorem poised_select {query : Db → α} (poised : Poised pid committed seen nextId s) :
    Solo pid (fun answer t => answer = query seen ∧ Poised pid committed seen nextId t) raised
      (select query) s :=
  finishes_weaken (poised_keeps poised (alone_select query poised.alone))
    (fun _ _ holds => ⟨holds.1.1, holds.1.2, holds.2, poised.unused⟩) (fun _ _ holds => holds)

theorem poised_new_id (poised : Poised pid committed seen nextId s) :
    Solo pid (fun id t => id = nextId ∧ Poised pid committed seen (nextId + 1) t) raised newId s :=
  finishes_weaken (poised_keeps poised (alone_new_id poised.alone))
    (fun _ _ holds => ⟨holds.1.1, holds.1.2, holds.2, unused_next poised.unused⟩) (fun _ _ holds => holds)

theorem poised_same (poised : Poised pid committed seen nextId s)
    (finishes : Solo pid (fun _ t => Alone pid seen committed nextId t) raised program s) :
    Solo pid (fun _ t => Poised pid committed seen nextId t) raised program s :=
  finishes_weaken (poised_keeps poised finishes) (fun _ _ holds => ⟨holds.1, holds.2, poised.unused⟩) (fun _ _ holds => holds)

theorem poised_update {loaded : Row key} {row : Row key} {columns : Row key → Row key} (poised : Poised pid committed seen nextId s)
    (found : seen.lookup key = some row) (plain : (∀ id, key ≠ .closure id) ∧ ∀ id, key ≠ .event id) :
    Solo pid (fun _ t => Poised pid committed (seen.insert key (columns row)) nextId t) raised
      (update key loaded columns) s :=
  finishes_weaken (poised_keeps poised (alone_update key row poised.alone found))
    (fun _ _ holds => ⟨holds.1, holds.2, unused_insert _ poised.unused (fun id _ => plain.1 id) (fun id _ => plain.2 id)⟩)
    (fun _ _ holds => holds)

theorem poised_publish (poised : Poised pid committed seen nextId s)
    (mission : ∀ id, missionId = some id → (seen.mission id).isSome = true) (task : (seen.task taskId).isSome = true)
    (agent : (seen.agent agentId).isSome = true) :
    Solo pid
      (fun _ t => Poised pid committed (seen.insert (.event nextId)
        ⟨tenantId, eventType, missionId, some taskId, some agentId, none⟩) (nextId + 1) t) raised
      (publish eventType tenantId missionId (some taskId) (some agentId)) s := by
  refine finishes_weaken (poised_keeps poised (alone_publish poised.alone
    (poised.unused nextId (Nat.le_refl _)).2 mission task agent)) (fun _ _ holds => ⟨holds.1, holds.2, ?_⟩) (fun _ _ holds => holds)
  refine unused_insert _ (unused_next poised.unused) (fun _ _ => nofun) (fun id above same => ?_)
  cases same
  omega

-- A task on its way, as the program has it in hand.
def OnTheWay (pid : Nat) (committed start : Db) (taskId : Nat) (result : Task) (t : Sys) : Prop :=
  ∃ after next, Poised pid committed after next t ∧ Moved start after taskId result

theorem way_update {taskId : Nat} {result : Task} {loaded : Task} {columns : Task → Task}
    (way : OnTheWay pid committed start taskId result s) :
    Solo pid (fun _ t => OnTheWay pid committed start taskId (columns result) t) raised
      (update (.task taskId) loaded columns) s := by
  obtain ⟨after, next, poised, moved⟩ := way
  exact finishes_weaken (poised_update poised moved.task ⟨nofun, nofun⟩)
    (fun _ t still => ⟨_, next, still, moved_update (columns result) moved⟩) (fun _ _ holds => holds)

theorem way_publish {taskId : Nat} {result : Task} (way : OnTheWay pid committed start taskId result s)
    (mission : ∀ id, missionId = some id → (start.mission id).isSome = true) (agent : (start.agent agentId).isSome = true) :
    Solo pid (fun _ t => OnTheWay pid committed start taskId result t) raised
      (publish eventType tenantId missionId (some taskId) (some agentId)) s := by
  obtain ⟨after, next, poised, moved⟩ := way
  have missionAfter : ∀ id, missionId = some id → (after.mission id).isSome = true := fun id same => by
    rw [show after.mission id = start.mission id from moved.others (.mission id) nofun nofun]
    exact mission id same
  have agentAfter : (after.agent agentId).isSome = true := by
    rw [show after.agent agentId = start.agent agentId from moved.others (.agent agentId) nofun nofun]
    exact agent
  exact finishes_weaken (poised_publish poised missionAfter (by rw [moved.task]; rfl)
    agentAfter) (fun _ t still => ⟨_, _, still, moved_event next _ rfl (poised.unused next (Nat.le_refl _)).2 moved⟩)
    (fun _ _ holds => holds)

theorem way_validated {taskId : Nat} {result : Task} {checked : Except InvalidTransition Unit} (valid : checked = .ok ())
    (way : OnTheWay pid committed start taskId result s) :
    Solo pid (fun _ t => OnTheWay pid committed start taskId result t) raised (validated checked) s := by
  subst valid
  exact finishes_pure () s way

-- The hop leaves the task in a status from which the target is legal.
theorem hop_on_the_way {taskId : Nat} (final : target = .completed ∨ target = .failed)
    (live : terminalTask task.status = false) (way : OnTheWay pid committed start taskId task s)
    (mission : ∀ id, missionId = some id → (start.mission id).isSome = true)
    (agent : (start.agent task.assignedAgentId).isSome = true) :
    Solo pid
      (fun hopped t => hopped.1 = taskId ∧ (hopped.2 = task ∨ hopped.2 = setTaskStatus .running task) ∧
        validateTaskTransition hopped.2.status target = .ok () ∧ OnTheWay pid committed start taskId hopped.2 t) raised
      (hopToRunning tenantId missionId target (taskId, task)) s := by
  have onward : validateTaskTransition .running target = .ok () := by rcases final with rfl | rfl <;> rfl
  unfold hopToRunning
  split
  · refine finishes_bind _ (way_validated (by rfl) way) (fun _ t first => ?_)
    refine finishes_bind _ (way_update first) (fun _ t second => ?_)
    refine finishes_bind _ (way_publish second mission agent)
      (fun _ t third => ?_)
    exact finishes_pure _ t ⟨rfl, .inr rfl, onward, third⟩
  · refine finishes_bind _ (way_validated (by rfl) way) (fun _ t first => ?_)
    refine finishes_bind _ (way_update first) (fun _ t second => ?_)
    exact finishes_pure _ t ⟨rfl, .inr rfl, onward, second⟩
  · rename_i notQueued notWaiting
    refine finishes_pure _ s ⟨rfl, .inl rfl, ?_, way⟩
    dsimp only at notQueued notWaiting ⊢
    rcases final with rfl | rfl
    · cases status : task.status <;> simp_all [terminalTask]
    · cases status : task.status <;> simp_all [terminalTask]
      all_goals rfl

theorem advance_task_settles {taskId : Nat} (tenantId : Nat) (final : target = .completed ∨ target = .failed)
    (poised : Poised pid committed start nextId s) (stored : start.task taskId = some task)
    (mission : ∀ id, missionId = some id → (start.mission id).isSome = true)
    (agent : (start.agent task.assignedAgentId).isSome = true) :
    Solo pid (fun _ t => OnTheWay pid committed start taskId (settle target task) t) raised
      (advanceTask tenantId missionId target (some (taskId, task))) s := by
  have way : OnTheWay pid committed start taskId task s := ⟨start, nextId, poised, moved_refl stored⟩
  simp only [advanceTask]
  by_cases live : terminalTask task.status = true
  · rw [if_pos live, settle, if_pos live]
    exact finishes_pure () s way
  · rw [if_neg live, settle, if_neg live]
    refine finishes_bind _ (hop_on_the_way final (by simpa using live) way mission agent)
      (fun hopped t holds => ?_)
    obtain ⟨same, which, legal, still⟩ := holds
    obtain ⟨hoppedId, hoppedTask⟩ := hopped
    cases same
    have result : setTaskStatus target hoppedTask = setTaskStatus target task := by rcases which with rfl | rfl <;> rfl
    have agentOf : hoppedTask.assignedAgentId = task.assignedAgentId := by rcases which with rfl | rfl <;> rfl
    refine finishes_bind _ (way_validated legal still) (fun _ t first => ?_)
    refine finishes_bind _ (way_update first) (fun _ t second => ?_)
    dsimp only at second ⊢
    rw [result] at second
    rw [agentOf]
    exact way_publish second mission agent

theorem load_task_poised (poised : Poised pid committed seen nextId s) (stored : seen.task taskId = some task) :
    Solo pid (fun loaded t => loaded = some (taskId, task) ∧ Poised pid committed seen nextId t) raised
      (loadTask (some taskId)) s :=
  finishes_weaken (poised_select poised) (fun _ _ holds => ⟨holds.1.trans (by rw [stored]; rfl), holds.2⟩) (fun _ _ holds => holds)

theorem existing_closure_none {db : Db} {id : Nat} (unclosed : getExistingClosure id db = none) {closureId : Nat}
    {row : AgentRuntimeClosure} (stored : db.closure closureId = some row) : row.runtimeSessionId ≠ id := by
  have absent := List.find?_eq_none.mp unclosed (closureId, row) ((mem_closures db (closureId, row)).mpr stored)
  simpa using absent

theorem closure_accepted (db : Db) (closureId id : Nat) (row : AgentRuntimeClosure) (fresh : db.closure closureId = none)
    (names : row.runtimeSessionId = id) (unclosed : getExistingClosure id db = none) (session : (db.session id).isSome = true)
    (taskId : Nat) (task : row.taskId = some taskId) (taskStored : (db.task taskId).isSome = true) (bare : row.artifactId = none) :
    schema.accepts (.closure closureId) row db = true := by
  refine table_accepted fresh (by simp [valid, task]) (fun reference named => ?_)
    (fun rival found entry stored occupied wanted => ?_)
  · have which : reference = .session id ∨ reference = .task taskId := by simpa [references, names, task, bare] using named
    rcases which with rfl | rfl
    · exact session
    · exact taskStored
  · obtain rfl : entry = .runtimeSession row.runtimeSessionId := List.mem_singleton.mp wanted
    cases rival with
    | closure other =>
        have same : row.runtimeSessionId = found.runtimeSessionId := by simpa [indexed] using occupied
        exact existing_closure_none unclosed stored (same.symm.trans names)
    | _ => cases indexed_on _ found _ occupied

-- What one call of `close_task` by the reaper does.
inductive ReaperClose (before after : Db) (session : Loaded AgentRuntimeSession) : Bool → Prop where
  | duplicate (existing : getExistingClosure session.1 before ≠ none) (same : after = before) :
      ReaperClose before after session false
  | closes (closureId time : Nat) (unclosed : getExistingClosure session.1 before = none)
      (ending : Ending before after session .failed .failed (fun _ mission => mission)) (fresh : before.closure closureId = none)
      (recorded : after.closure closureId =
        some (newClosure session.2.tenantId session.1 session.2.taskId .reaper reapPayload time))
      (elsewhere : ∀ id, id ≠ closureId → after.closure id = before.closure id) : ReaperClose before after session true

theorem unswept_ne {key other : Key} (untouched : swept key = false) (touched : swept other = true) : key ≠ other := by
  rintro rfl
  rw [untouched] at touched
  cases touched

-- A closure, the task on its way, and the row of the session, in this order.
theorem reaper_closes {before moved : Db} {session : Loaded AgentRuntimeSession} {taskId closureId started time : Nat}
    (holds : session.2.taskId = some taskId) (stored : before.task taskId = some task)
    (unclosed : getExistingClosure session.1 before = none) (fresh : before.closure closureId = none)
    (way : Moved (before.insert (.closure closureId)
      (newClosure session.2.tenantId session.1 session.2.taskId .reaper reapPayload started)) moved taskId (settle .failed task)) :
    ReaperClose before (moved.insert (.session session.1) (endColumns time .failed session.2)) session true := by
  have apart : ∀ key, (∀ id, key ≠ .closure id) → key ≠ .session session.1 → key ≠ .task taskId → (∀ id, key ≠ .event id) →
      (moved.insert (.session session.1) (endColumns time .failed session.2)).lookup key = before.lookup key :=
    fun key closure row task event => (lookup_elsewhere moved (.session session.1) key _ row).trans
      ((way.others key task event).trans (lookup_elsewhere before (.closure closureId) key _ (closure closureId)))
  have events : ∀ id, (moved.insert (.session session.1) (endColumns time .failed session.2)).lookup (.event id) =
      moved.event id := fun id => lookup_elsewhere moved (.session session.1) (.event id) _ nofun
  have closures : ∀ id, (moved.insert (.session session.1) (endColumns time .failed session.2)).lookup (.closure id) =
      (before.insert (.closure closureId)
        (newClosure session.2.tenantId session.1 session.2.taskId .reaper reapPayload started)).lookup (.closure id) := fun id =>
    (lookup_elsewhere moved (.session session.1) (.closure id) _ nofun).trans (way.others (.closure id) nofun nofun)
  refine .closes closureId started unclosed ⟨⟨time, AList.lookup_insert moved⟩, ?_, ?_, ?_, ?_, ?_, ?_⟩ fresh ?_ ?_
  · exact fun id different => apart (.session id) nofun (by simpa using different) nofun nofun
  · intro id
    by_cases same : id = taskId
    · subst same
      rw [stored, Option.map_some, if_pos holds]
      exact (lookup_elsewhere moved (.session session.1) (.task id) _ nofun).trans way.task
    · have other : ¬ session.2.taskId = some id := by
        rw [holds]
        simpa using Ne.symm same
      simp only [other, if_false, Option.map_id']
      exact apart (.task id) nofun nofun (by simpa using same) nofun
  · intro id
    rw [Option.map_id']
    exact apart (.mission id) nofun nofun nofun nofun
  · intro id row kept
    exact (events id).trans (way.kept id row ((lookup_elsewhere before (.closure closureId) (.event id) _ nofun).trans kept))
  · intro id row present
    rcases way.fresh id row ((events id).symm.trans present) with old | mine
    · exact .inl ((lookup_elsewhere before (.closure closureId) (.event id) _ nofun).symm.trans old)
    · exact .inr ⟨taskId, mine, holds⟩
  · exact fun key untouched => apart key (fun _ => unswept_ne untouched rfl) (unswept_ne untouched rfl)
      (unswept_ne untouched rfl) (fun _ => unswept_ne untouched rfl)
  · exact (closures closureId).trans (AList.lookup_insert before)
  · exact fun id different => (closures id).trans (lookup_elsewhere before (.closure closureId) (.closure id) _ (by simpa using different))

-- A session with the rows that closing it reads.
structure Workable (db : Db) (session : Loaded AgentRuntimeSession) (taskId : Nat) (task : Task) : Prop where
  stored : db.session session.1 = some session.2
  holds : session.2.taskId = some taskId
  found : db.task taskId = some task
  agent : (db.agent task.assignedAgentId).isSome = true
  mission : ∀ id, session.2.missionId = some id → (db.mission id).isSome = true

section
variable {session : Loaded AgentRuntimeSession} {taskId : Nat} {task : Task}

theorem end_row_poised (outcome : AgentRuntimeOutcome) (poised : Poised pid committed seen nextId s)
    (stored : seen.session session.1 = some session.2) :
    Solo pid
      (fun _ t => ∃ time, Poised pid committed (seen.insert (.session session.1) (endColumns time outcome session.2)) nextId t) raised
      (endRow session.1 session.2 outcome) s := by
  refine finishes_bind _ (poised_same poised (alone_now poised.alone)) (fun time t still => ?_)
  exact finishes_weaken (poised_update still stored ⟨nofun, nofun⟩)
    (fun _ _ holds => ⟨time, holds⟩) (fun _ _ holds => holds)

theorem poised_lock_session {wanted : AgentRuntimeSession → Bool} (poised : Poised pid committed seen nextId s)
    (stored : seen.session session.1 = some session.2) (fits : wanted session.2 = true) :
    Solo pid (fun answer t => answer = some session.2 ∧ Poised pid committed seen nextId t) raised
      (selectForUpdate (.session session.1) wanted none) s :=
  finishes_weaken (poised_keeps poised (alone_select_for_update poised.alone poised.own stored
    fits)) (fun _ _ holds => ⟨holds.1.1, holds.1.2, holds.2, poised.unused⟩) (fun _ _ holds => holds)

def Reaps (pid : Nat) (committed before : Db) (session : Loaded AgentRuntimeSession) (isNew : Bool) (t : Sys) : Prop :=
  ∃ after next, Poised pid committed after next t ∧ ReaperClose before after session isNew

theorem insert_closure_poised (time : Nat) (poised : Poised pid committed seen (nextId + 1) s) (unused : Unused seen nextId)
    (workable : Workable seen session taskId task) (unclosed : getExistingClosure session.1 seen = none) :
    Solo pid
      (fun inserted t => inserted = true ∧ Poised pid committed (seen.insert (.closure nextId)
        (newClosure session.2.tenantId session.1 session.2.taskId .reaper reapPayload time)) (nextId + 1) t) raised
      (tryInsert (.closure nextId) (newClosure session.2.tenantId session.1 session.2.taskId .reaper reapPayload time)) s := by
  have accepted := closure_accepted seen nextId session.1
    (newClosure session.2.tenantId session.1 session.2.taskId .reaper reapPayload time) (unused nextId (Nat.le_refl _)).1 rfl unclosed
    (by rw [workable.stored]; rfl) taskId workable.holds (by rw [workable.found]; rfl) rfl
  refine finishes_weaken (poised_keeps poised (alone_try_insert poised.alone accepted))
    (fun _ _ holds => ⟨holds.1.1, holds.1.2, holds.2, ?_⟩) (fun _ _ holds => holds)
  refine unused_insert _ poised.unused (fun id above same => ?_) (fun _ _ => nofun)
  cases same
  omega

theorem close_open_reaps (poised : Poised pid committed seen nextId s) (workable : Workable seen session taskId task)
    (unclosed : getExistingClosure session.1 seen = none) :
    Solo pid (fun result t => Reaps pid committed seen session result.2 t) raised
      (closeOpen session.2.tenantId session.1 session.2 .reaper reapPayload) s := by
  unfold closeOpen
  rw [workable.holds]
  refine finishes_bind _ (load_task_poised poised workable.found) (fun loaded t first => ?_)
  obtain ⟨rfl, first⟩ := first
  refine finishes_bind _ (poised_new_id first) (fun closureId t second => ?_)
  obtain ⟨rfl, second⟩ := second
  refine finishes_bind _ (poised_same second (alone_now second.alone)) (fun started t third => ?_)
  have inserts : Solo pid _ raised _ _ :=
    insert_closure_poised started third first.unused workable unclosed
  rw [workable.holds] at inserts
  refine finishes_bind _ inserts (fun inserted t fourth => ?_)
  obtain ⟨rfl, fourth⟩ := fourth
  rw [if_pos rfl]
  have fresh := (first.unused closureId (Nat.le_refl _)).1
  refine finishes_bind _ (advance_task_settles session.2.tenantId (.inr rfl) fourth
    ((lookup_elsewhere seen (.closure closureId) (.task taskId) _ (by simp)).trans workable.found) (fun id same => ?_) ?_)
    (fun _ t fifth => ?_)
  · rw [Db.mission, lookup_elsewhere seen (.closure closureId) (.mission id) _ (by simp)]
    exact workable.mission id same
  · rw [Db.agent, lookup_elsewhere seen (.closure closureId) (.agent _) _ (by simp)]
    exact workable.agent
  · obtain ⟨after, next, still, moved⟩ := fifth
    have row : after.session session.1 = some session.2 := (moved.others (.session session.1) (by simp) (by simp)).trans
      ((lookup_elsewhere seen (.closure closureId) (.session session.1) _ (by simp)).trans workable.stored)
    refine finishes_bind _ (end_row_poised .failed still row) (fun _ t sixth => ?_)
    obtain ⟨time, sixth⟩ := sixth
    rw [← workable.holds] at moved
    exact finishes_pure _ t ⟨_, next, sixth, reaper_closes workable.holds workable.found unclosed fresh moved⟩

theorem close_task_reaps (poised : Poised pid committed seen nextId s) (workable : Workable seen session taskId task) :
    Solo pid (fun result t => Reaps pid committed seen session result.2 t) raised
      (closeTask session.2.tenantId session.1 .reaper reapPayload none) s := by
  refine finishes_bind _ (poised_same poised (alone_written poised.alone)) (fun before t first => ?_)
  have body : Solo pid (fun result t => Reaps pid committed seen session result.2 t) raised
      (closeTaskBody session.2.tenantId session.1 .reaper reapPayload none) t := by
    refine finishes_bind _ (poised_lock_session first workable.stored (by simp)) (fun answer t second => ?_)
    obtain ⟨rfl, second⟩ := second
    refine finishes_bind _ (poised_select second) (fun existing t third => ?_)
    obtain ⟨rfl, third⟩ := third
    cases existing : getExistingClosure session.1 seen with
    | none => exact close_open_reaps third workable existing
    | some closure =>
        exact finishes_pure _ t ⟨seen, nextId, third, .duplicate (by rw [existing]; nofun) rfl⟩
  refine finishes_bind _ body (fun result t holds => ?_)
  obtain ⟨after, next, still, closes⟩ := holds
  refine finishes_bind _ (poised_same still (alone_written still.alone)) (fun wrote t second => ?_)
  refine finishes_bind _ (poised_same second (alone_note second.alone)) (fun _ t third => ?_)
  exact finishes_pure _ t ⟨after, next, third, closes⟩

theorem open_subagents_nil (parentId : Nat) (db : Db) : openSubagents parentId db = [] ↔
    ∀ id row, db.session id = some row → row.parentSessionId = some parentId → row.endedAt ≠ none := by
  simp only [openSubagents, List.map_eq_nil_iff, List.filter_eq_nil_iff]
  constructor
  · intro none id row stored child live
    exact none (id, row) ((mem_sessions db (id, row)).mpr stored) (by simp [child, live])
  · rintro none ⟨id, row⟩ member chosen
    have both : row.parentSessionId = some parentId ∧ row.endedAt = Option.none := by simpa using chosen
    exact none id row ((mem_sessions db (id, row)).mp member) both.1 both.2

-- What ending a session does to the missions, and to nothing else.
def Completing (pid : Nat) (committed seen : Db) (row : AgentRuntimeSession) (t : Sys) : Prop :=
  ∃ after next, Poised pid committed after next t ∧ (∀ id, after.mission id = (seen.mission id).map (completedBy row id)) ∧
    ∀ key, (∀ id, key ≠ .mission id) → after.lookup key = seen.lookup key

variable {row : AgentRuntimeSession}

theorem completing_none (poised : Poised pid committed seen nextId s)
    (idle : ∀ id mission, seen.mission id = some mission → completedBy row id mission = mission) :
    Completing pid committed seen row s := by
  refine ⟨seen, nextId, poised, fun id => ?_, fun _ _ => rfl⟩
  cases stored : seen.mission id with
  | none => rfl
  | some mission => rw [Option.map_some, idle id mission stored]

theorem complete_mission_completes {missionId : Nat} {mission : Mission} (poised : Poised pid committed seen nextId s)
    (own : row.missionId = some missionId) (stored : seen.mission missionId = some mission) :
    Solo pid (fun _ t => Completing pid committed seen row t) raised (completeMission (missionId, mission)) s := by
  unfold completeMission
  by_cases running : mission.status = .running
  · rw [if_pos running]
    have marks : Solo pid (fun _ t => Completing pid committed seen row t) (fun _ _ => False)
        (markMissionStatus (missionId, mission) .completed) s := by
      have legal : validateMissionTransition mission.status .completed = .ok () := by rw [running]; rfl
      unfold markMissionStatus
      dsimp only
      rw [legal]
      refine finishes_bind (fun _ t => Poised pid committed seen nextId t) (finishes_pure () s poised) (fun _ t first => ?_)
      refine finishes_bind _ (poised_update first stored
        ⟨nofun, nofun⟩) (fun _ t still => finishes_pure _ t ⟨_, nextId, still, fun id => ?_, fun key other =>
          lookup_elsewhere seen (.mission missionId) key _ (other missionId)⟩)
      by_cases same : id = missionId
      · subst same
        rw [stored, Option.map_some]
        exact (AList.lookup_insert seen).trans (by simp [completedBy, own, running])
      · rw [Db.mission, lookup_elsewhere seen (.mission missionId) (.mission id) _ (by simpa using same)]
        have apart : ∀ found, completedBy row id found = found := fun found => by simp [completedBy, own, Ne.symm same]
        rw [show completedBy row id = fun found => found from funext apart, Option.map_id']
        rfl
    exact finishes_bind _ (finishes_catch (fun _ _ => False) marks (fun _ _ never => never.elim))
      (fun _ t holds => finishes_pure _ t holds)
  · rw [if_neg running]
    refine finishes_pure _ s (completing_none poised (fun id found present => ?_))
    refine if_neg (fun both => ?_)
    cases own.symm.trans both.1
    cases stored.symm.trans present
    exact running both.2

theorem complete_session_mission_completes (poised : Poised pid committed seen nextId s) :
    Solo pid (fun _ t => Completing pid committed seen row t) raised (completeSessionMission row.missionId) s := by
  cases own : row.missionId with
  | none => exact finishes_pure _ s (completing_none poised (fun _ _ _ => by simp [completedBy, own]))
  | some missionId =>
      refine finishes_bind _ (poised_select poised) (fun mission t first => ?_)
      obtain ⟨rfl, first⟩ := first
      cases stored : seen.mission missionId with
      | some mission => exact complete_mission_completes first own stored
      | none =>
          refine finishes_pure _ t (completing_none first (fun id found present => if_neg (fun both => ?_)))
          cases own.symm.trans both.1
          cases stored.symm.trans present

def Ends (pid : Nat) (committed before : Db) (session : Loaded AgentRuntimeSession) (t : Sys) : Prop :=
  ∃ after next, Poised pid committed after next t ∧ Ending before after session .abandoned .completed (completedBy session.2) ∧
    ∀ id, after.closure id = before.closure id

theorem end_session_abandons (poised : Poised pid committed seen nextId s) (workable : Workable seen session taskId task)
    (live : session.2.endedAt = none) (childless : openSubagents session.1 seen = []) :
    Solo pid (fun _ t => Ends pid committed seen session t) raised
      (endSession session.2.tenantId session.1 .abandoned none) s := by
  refine finishes_bind _ (poised_lock_session poised workable.stored (by simp)) (fun answer t first => ?_)
  obtain ⟨rfl, first⟩ := first
  dsimp only
  rw [live]
  dsimp only
  unfold endOpenSession
  rw [workable.holds]
  refine finishes_bind _ (load_task_poised first workable.found) (fun loaded t second => ?_)
  obtain ⟨rfl, second⟩ := second
  refine finishes_bind _ (advance_task_settles session.2.tenantId (.inl rfl) second workable.found
    workable.mission workable.agent) (fun _ t third => ?_)
  obtain ⟨moved, next, third, way⟩ := third
  have still : openSubagents session.1 moved = [] := by
    rw [open_subagents_nil] at childless ⊢
    intro id row stored
    exact childless id row ((way.others (.session id) nofun nofun).symm.trans stored)
  refine finishes_bind _ (poised_select third) (fun subagents t fourth => ?_)
  obtain ⟨rfl, fourth⟩ := fourth
  rw [still]
  refine finishes_bind (fun _ t => Poised pid committed moved next t) (finishes_pure () t fourth) (fun _ t fourth => ?_)
  refine finishes_bind _ (complete_session_mission_completes fourth) (fun _ t fifth => ?_)
  obtain ⟨after, last, fifth, missions, others⟩ := fifth
  have row : after.session session.1 = some session.2 := (others (.session session.1) nofun).trans
    ((way.others (.session session.1) nofun nofun).trans workable.stored)
  refine finishes_weaken (end_row_poised .abandoned fifth row) (fun _ t sixth => ?_) (fun _ _ holds => holds)
  obtain ⟨time, sixth⟩ := sixth
  have apart : ∀ key, (∀ id, key ≠ .mission id) → key ≠ .session session.1 → key ≠ .task taskId → (∀ id, key ≠ .event id) →
      (after.insert (.session session.1) (endColumns time .abandoned session.2)).lookup key = seen.lookup key :=
    fun key mission row task event => (lookup_elsewhere after (.session session.1) key _ row).trans
      ((others key mission).trans (way.others key task event))
  have events : ∀ id, (after.insert (.session session.1) (endColumns time .abandoned session.2)).lookup (.event id) =
      moved.event id := fun id => (lookup_elsewhere after (.session session.1) (.event id) _ nofun).trans (others (.event id) nofun)
  refine ⟨_, last, sixth, ⟨⟨time, AList.lookup_insert after⟩, ?_, ?_, ?_, ?_, ?_, ?_⟩, ?_⟩
  · exact fun id different => apart (.session id) nofun (by simpa using different) nofun nofun
  · intro id
    by_cases same : id = taskId
    · subst same
      rw [workable.found, Option.map_some, if_pos workable.holds]
      exact (lookup_elsewhere after (.session session.1) (.task id) _ nofun).trans ((others (.task id) nofun).trans way.task)
    · have other : ¬ session.2.taskId = some id := by
        rw [workable.holds]
        simpa using Ne.symm same
      simp only [other, if_false, Option.map_id']
      exact apart (.task id) nofun nofun (by simpa using same) nofun
  · intro id
    refine (lookup_elsewhere after (.session session.1) (.mission id) _ nofun).trans ((missions id).trans ?_)
    rw [show moved.mission id = seen.mission id from way.others (.mission id) nofun nofun]
  · exact fun id row kept => (events id).trans (way.kept id row kept)
  · intro id row present
    exact (way.fresh id row ((events id).symm.trans present)).imp (fun old => old) (fun mine => ⟨taskId, mine, workable.holds⟩)
  · exact fun key untouched => apart key (fun _ => unswept_ne untouched rfl) (unswept_ne untouched rfl)
      (unswept_ne untouched rfl) (fun _ => unswept_ne untouched rfl)
  · exact fun id => apart (.closure id) nofun nofun nofun nofun

end

end

end AiWorld.Api
