import AiWorld.Api.Alone
import AiWorld.Api.StartRule

set_option autoImplicit false

namespace AiWorld.Api

open AiWorld.Concurrency AiWorld.Database

variable {stmt : Stmt} {id missionId pid tenantId : Nat} {s : Sys} {taskId : Option Nat} {mission : Loaded Mission}
  {user : User} {task : Task} {version : Option AgentVersion}

def Unbegun (pid : Nat) (s : Sys) : Prop := (∀ entry ∈ s.started, entry.1 ≠ pid) ∧ ∀ entry ∈ s.pushed, entry.1 ≠ pid

theorem unbegun_heeds (pid : Nat) (s t : Sys) (heeds : Heeds pid s t) (unbegun : Unbegun pid s) : Unbegun pid t :=
  ⟨fun entry member own => unbegun.1 entry (heeds.started entry member own) own,
    fun entry member own => unbegun.2 entry (heeds.pushed entry member own) own⟩

def startRegime : Regime Request where
  rule := startRule
  trans := fun _ => start_cell_trans
  guard := fun _ _ _ _ => True
  mayCrash := noCrash
  extra := Starts
  promise := Progress
  also := Heeds
  also_refl := fun pid s => heeds_same pid s s (mine_refl pid s) rfl rfl
  also_trans := fun pid s t u steady => heeds_trans pid s t u steady.undisturbed
  unbegun := Unbegun
  stays_unbegun := unbegun_heeds
  crashed := fun _ _ _ _ never => never.elim

def starting : Discipline machine Request := startRegime.discipline

abbrev Launches {α : Type} (pid : Nat) (request : Request) (pre : Sys → Prop) (program : Route α) (post : α → Sys → Prop)
    (raised : Failure → Sys → Prop) : Prop := Raises starting.toContract pid request pre program post raised

-- What survives for a process while it waits and while it goes on inside its
-- transaction.
structure Carries (pid : Nat) (s t : Sys) : Prop where
  locked : ∀ key, s.server.rowLock key = some pid → t.server.rowLock key = some pid ∧ t.db.lookup key = s.db.lookup key
  committed : ∀ key, StartCell key (s.db.lookup key) (t.db.lookup key)
  seen : ∀ key, StartCell key ((s.server.view pid).lookup key) ((t.server.view pid).lookup key)
  heeds : Heeds pid s t

def within : Stmt → Prop
  | .db .commit => False
  | .db .rollback => False
  | .reportStarted _ _ => False
  | .push _ => False
  | _ => True

theorem within_carries (stmt : Stmt) {choice : Choice} (s t : Sys) (answer : Ans stmt) (starts : Starts s)
    (inside : within stmt) (proper : Proper pid stmt s) (executed : exec pid stmt choice s = some (answer, t)) : Carries pid s t := by
  cases stmt with
  | db query =>
      obtain ⟨⟨found, after⟩, performed, same⟩ := Option.map_eq_some_iff.mp executed
      cases same
      rcases move_onward (perform_moves performed) with
        ⟨rfl, -⟩ | ⟨rfl, -⟩ | onward
      · exact inside.elim
      · exact inside.elim
      · have db : after.db = s.server.db := onward.db
        exact ⟨fun key held => ⟨onward.locks key held, congrArg (AList.lookup key) db⟩,
          fun key => by simpa only [Sys.db, db] using start_cell_refl key _,
          start_own_view (proper_writes proper).1 onward,
          heeds_same pid s _ ⟨fun _ drawn => drawn, fun _ _ _ _ absent => by simpa only [Sys.db, db] using absent⟩ rfl rfl⟩
  | newId =>
      cases executed
      exact ⟨fun _ held => ⟨held, rfl⟩, fun key => start_cell_refl key _, fun key => start_cell_refl key _,
        heeds_same pid s _ (takes_id_mine pid s pid starts.minted) rfl rfl⟩
  | owe taskId =>
      cases executed
      exact ⟨fun _ held => ⟨held, rfl⟩, fun key => start_cell_refl key _, fun key => start_cell_refl key _,
        heeds_same pid s _ (mine_same pid s rfl rfl) rfl rfl⟩
  | reportStarted missionId taskId => exact inside.elim
  | push taskId => exact inside.elim
  | _ => exact proper.elim

section
variable {pid : Nat} {request : Request} {pre : Sys → Prop} {raised : Failure → Sys → Prop}

theorem carried_stable (carried : ∀ s t, pre s → Carries pid s t → pre t) : Stable starting.toContract pid pre :=
  fun s t holds moved _ => carried s t holds ⟨fun key held => ⟨(moved.1.undisturbed.rowLock key).mpr held,
    moved.1.undisturbed.rows key held⟩, moved.1.committed, moved.1.seen, moved.2⟩

theorem starting_ask {post : Ans stmt → Sys → Prop} (stable : Stable starting.toContract pid pre)
    (proper : ∀ s, pre s → Starts s → Proper pid stmt s)
    (executes : ∀ s choice answer t, pre s → Kept startRule s → Starts s → exec pid stmt choice s = some (answer, t) → post answer t) :
    Launches pid request pre (ask stmt) post raised := by
  refine raises_ask (S := apiSig) stmt post stable (fun s choice answer t before inv _ executed => ?_)
  have may := proper s before inv.2
  exact ⟨Regime.guarantees stmt choice s t answer inv.1 (fun query issued => by
      subst issued
      exact start_respects inv.1.2 (proper_writes may).1)
    (proper_step inv.1 inv.2 may executed) executed,
    executes s choice answer t before inv.1 inv.2 executed⟩

theorem within_ask (inside : within stmt) (carried : ∀ s t, pre s → Carries pid s t → pre t)
    (proper : ∀ s, pre s → Starts s → Proper pid stmt s) :
    Launches pid request pre (ask stmt) (fun _ => pre) raised :=
  starting_ask (carried_stable carried) proper (fun s _ answer t before _ starts executed =>
    carried s t before (within_carries stmt s t answer starts inside (proper s before starts) executed))

theorem starting_select {α : Type} {query : Db → α} {post : α → Sys → Prop} (stable : Stable starting.toContract pid pre)
    (reads : ∀ s, pre s → Kept startRule s → Starts s → post (query (s.server.view pid)) s) :
    Launches pid request pre (select query) post raised := by
  refine raises_bind (fun (db : Db) s => post (query db) s)
    (starting_ask stable (fun _ _ _ => ⟨trivial, trivial⟩)
      (fun s choice answer t before kept starts executed => ?_)) (fun db => raises_pure _ (fun _ holds => holds))
  obtain ⟨rfl, rfl⟩ := exec_select executed
  exact reads _ before kept starts

theorem fresh_stable (carried : ∀ s t, pre s → Carries pid s t → pre t) :
    Stable starting.toContract pid (fun s => pre s ∧ Fresh pid id s) := fun s t holds moved inv =>
  ⟨carried_stable carried s t holds.1 moved inv, fresh_mine holds.2 moved.1.undisturbed moved.2.mine⟩

theorem within_new_id (carried : ∀ s t, pre s → Carries pid s t → pre t) :
    Launches pid request pre newId (fun id s => pre s ∧ Fresh pid id s) raised := by
  refine starting_ask (carried_stable carried) (fun _ _ _ => trivial) (fun s choice answer t before _ starts executed => ?_)
  have after := carried s t before (within_carries .newId s t answer starts trivial trivial executed)
  cases executed
  exact ⟨after, takes_id_fresh pid starts.minted⟩

-- A new id, and the INSERT of an event under it.
theorem within_publish {eventType : EventType} {tenantId : Nat} {missionId agentId : Option Nat}
    (carried : ∀ s t, pre s → Carries pid s t → pre t) (fails : ∀ id s t, pre s → Fresh pid id s → pre t →
      schema.accepts (.event id) ⟨tenantId, eventType, missionId, taskId, agentId, none⟩ (s.server.view pid) = false →
      raised .integrity t) :
    Launches pid request pre (publish eventType tenantId missionId taskId agentId) (fun _ => pre) raised := by
  refine raises_bind _ (within_new_id carried) (fun id => ?_)
  let row : AuditEvent := ⟨tenantId, eventType, missionId, taskId, agentId, none⟩
  have proper : ∀ s, pre s ∧ Fresh pid id s → Proper pid (.db (.insert (.event id) row)) s := fun s holds =>
    ⟨trivial, fun other named => by cases named; exact holds.2.drawn⟩
  refine raises_bind (fun (inserted : Bool) s => pre s ∧ (inserted = false → raised .integrity s))
    (starting_ask (fresh_stable carried) (fun s holds _ => proper s holds)
      (fun s choice answer t before _ starts executed => ?_)) (fun (inserted : Bool) => ?_)
  · have after := carried s t before.1 (within_carries _ s t answer starts trivial (proper s before) executed)
    refine ⟨after, fun refused => ?_⟩
    rcases exec_insert executed with ⟨-, rejected, -⟩ | ⟨accepted, -, -⟩
    · exact fails id s t before.1 before.2 after rejected
    · exact absurd (refused.symm.trans accepted) Bool.false_ne_true
  · cases inserted with
    | true => exact raises_pure _ (fun _ holds => holds.1)
    | false => exact raises_throw _ (fun _ holds => holds.2 rfl)

end

-- A process that may still roll back: whatever it has reported is committed.
def Excused (pid : Nat) (s : Sys) : Prop := ∀ entry ∈ s.started, entry.1 = pid → Settled entry.2.1 s.db

theorem unbegun_excused (unbegun : Unbegun pid s) : Excused pid s :=
  fun entry member own => absurd own (unbegun.1 entry member)

theorem excused_carried (s t : Sys) (excused : Excused pid s) (carries : Carries pid s t) : Excused pid t :=
  fun entry member own => settled_moves entry.2.1 t.db (carries.committed _)
    (excused entry (carries.heeds.started entry member own) own)

theorem unbegun_carried (s t : Sys) (unbegun : Unbegun pid s) (carries : Carries pid s t) : Unbegun pid t :=
  unbegun_heeds pid s t carries.heeds unbegun

-- The compare-and-set has been won and nothing has been reported.
structure Won (pid missionId : Nat) (s : Sys) : Prop where
  unbegun : Unbegun pid s
  held : s.server.rowLock (.mission missionId) = some pid
  unsettled : Unsettled missionId s.db
  settled : Settled missionId (s.server.view pid)
  unclaimed : missionId ∉ startedMissions s

theorem won_carried (s t : Sys) (won : Won pid missionId s) (carries : Carries pid s t) : Won pid missionId t where
  unbegun := unbegun_carried s t won.unbegun carries
  held := (carries.locked _ won.held).1
  unsettled := fun row stored => won.unsettled row ((carries.locked _ won.held).2.symm.trans stored)
  settled := settled_moves missionId _ (carries.seen _) won.settled
  unclaimed := carries.heeds.unclaimed missionId won.held won.unclaimed

-- The new task is in the transaction with the rows it references.
structure Filed (pid id : Nat) (task : Task) (s : Sys) : Prop where
  drawn : s.drawn id = some pid
  staged : (s.server.view pid).lookup (.task id) = some task
  mission : ((s.server.view pid).lookup (.mission task.missionId)).isSome = true
  agent : ((s.server.view pid).lookup (.agent task.assignedAgentId)).isSome = true

theorem start_cell_some {key : Key} {before after : Option (Row key)} (moved : StartCell key before after)
    (stored : before.isSome = true) : after.isSome = true := by
  cases before with
  | none => cases stored
  | some row =>
      cases after with
      | some found => rfl
      | none => cases key <;> exact moved.elim

theorem filed_carried {task : Task} {t : Sys} (filed : Filed pid id task s) (carries : Carries pid s t) :
    Filed pid id task t where
  drawn := carries.heeds.mine.drawn id filed.drawn
  staged := row_moves rfl (filed.staged ▸ carries.seen (.task id))
  mission := start_cell_some (carries.seen _) filed.mission
  agent := start_cell_some (carries.seen _) filed.agent

-- The start has reported its task and has not committed it yet.
structure Pending (pid id : Nat) (task : Task) (s : Sys) : Prop where
  filed : Filed pid id task s
  settled : Settled task.missionId (s.server.view pid)
  mine : ∀ entry ∈ s.started, entry.1 = pid → entry.2.1 = task.missionId
  unpushed : ∀ entry ∈ s.pushed, entry.1 ≠ pid

theorem pending_carried (id : Nat) (task : Task) (s t : Sys) (pending : Pending pid id task s) (carries : Carries pid s t) :
    Pending pid id task t where
  filed := filed_carried pending.filed carries
  settled := settled_moves task.missionId _ (carries.seen _) pending.settled
  mine := fun entry member own => pending.mine entry (carries.heeds.started entry member own) own
  unpushed := fun entry member own => pending.unpushed entry (carries.heeds.pushed entry member own) own

-- It has committed it, and has not pushed it yet.
structure Landed (pid id : Nat) (task : Task) (s : Sys) : Prop where
  clean : Clean pid s
  drawn : s.drawn id = some pid
  stored : s.db.task id = some task
  settled : Settled task.missionId s.db
  mine : ∀ entry ∈ s.started, entry.1 = pid → entry.2.1 = task.missionId
  unpushed : ∀ entry ∈ s.pushed, entry.1 ≠ pid

section
variable {pid : Nat} {request : Request}

theorem unbegun_stable : Stable starting.toContract pid (Unbegun pid) := carried_stable (unbegun_carried)

theorem landed_stable : Stable starting.toContract pid (Landed pid id task) := fun s t landed moved _ =>
  ⟨moved.1.undisturbed.staged.trans landed.clean, moved.2.mine.drawn id landed.drawn,
    row_moves rfl ((show s.db.lookup (.task id) = some task from landed.stored) ▸ moved.1.committed (.task id)),
    settled_moves task.missionId t.db (moved.1.committed (.mission task.missionId)) landed.settled,
    fun entry member own => landed.mine entry (moved.2.started entry member own) own,
    fun entry member own => landed.unpushed entry (moved.2.pushed entry member own) own⟩

theorem landed_excused (id : Nat) (s : Sys) (landed : Landed pid id task s) : Excused pid s :=
  fun entry member own => landed.mine entry member own ▸ landed.settled

variable {raised : Failure → Sys → Prop} {α : Type}

-- Winning the compare-and-set: the mission was committed as startable, and no other
-- start has claimed it, since that start would hold its row.
theorem start_wins :
    Launches pid request (Unbegun pid) (updateWhere (.mission missionId) startable (setMissionStatus .running))
      (fun won s => if won then Won pid missionId s else Unbegun pid s) raised := by
  have proper : ∀ s, Proper pid (.db (.updateWhere (.mission missionId) startable (setMissionStatus .running))) s := fun _ =>
    ⟨fun _ => ⟨rfl, fun _ => rfl⟩, trivial⟩
  refine starting_ask unbegun_stable (fun s _ _ => proper s) (fun s choice answer t unbegun kept starts executed => ?_)
  have after := unbegun_carried s t unbegun (within_carries _ s t answer starts trivial (proper s) executed)
  have same : t.started = s.started := by
    obtain ⟨⟨_, _⟩, -, same⟩ := Option.map_eq_some_iff.mp executed
    cases same
    rfl
  rcases exec_update_where executed with
    ⟨rfl, -⟩ | ⟨rfl, row, stored, wanted, free, moved⟩
  · exact after
  have unsettled : Unsettled missionId s.db := fun found present => by
    have seen : StartCell (.mission missionId) _ _ := kept.2 pid (.mission missionId)
    rw [stored, show s.server.db.lookup (.mission missionId) = some found from present] at seen
    cases closed : startable found with
    | true => rfl
    | false => exact absurd ((seen.2 closed).symm.trans wanted) Bool.false_ne_true
  have seen : (t.server.view pid).lookup (.mission missionId) = some (setMissionStatus .running row) := by
    rw [moved, Server.stages_view, Server.grabs_view]
    simp [Write.apply, stored]
  refine ⟨after, ?_, ?_, ⟨_, seen, rfl⟩, ?_⟩
  · rw [moved]
    simp [Server.stages, Server.grabs]
  · rw [Sys.db, moved]
    exact unsettled
  · rw [startedMissions, same]
    intro member
    obtain ⟨entry, reported, rfl⟩ := List.mem_map.mp member
    rcases starts.claimed entry reported with committed | ⟨held, -⟩
    · exact settled_not committed unsettled
    · rcases free with none | mine
      · cases none.symm.trans held
      · exact unbegun.1 entry reported (Option.some.inj (held.symm.trans mine))

-- What `start_mission` returns, and what has happened by then.
def Launchable (pid : Nat) (result : StartMissionResult) (s : Sys) : Prop :=
  if result.newlyStarted then Pending pid result.task.1 result.task.2 s ∧ result.task.2.missionId = result.mission.1 ∧
    result.mission.2.assignedAgentId = some result.task.2.assignedAgentId
  else Unbegun pid s

theorem insert_task_files (missionId : Nat) (task : Task) (mission : task.missionId = missionId) :
    Launches pid request (fun s => Won pid missionId s ∧ Fresh pid id s) (tryInsert (.task id) task)
      (fun inserted s => Won pid missionId s ∧ (inserted = true → Filed pid id task s)) raised := by
  subst mission
  have proper : ∀ s, Won pid task.missionId s ∧ Fresh pid id s → Proper pid (.db (.insert (.task id) task)) s := fun s holds =>
    ⟨holds.2.drawn, holds.1.held, holds.1.unsettled⟩
  refine starting_ask (fresh_stable (won_carried)) (fun s holds _ => proper s holds)
    (fun s choice answer t before _ starts executed => ?_)
  have carries := within_carries _ s t answer starts trivial (proper s before) executed
  refine ⟨won_carried s t before.1 carries, fun inserted => ?_⟩
  rcases exec_insert executed with ⟨refused, -, -⟩ | ⟨-, accepted, view⟩
  · exact absurd (refused.symm.trans inserted) Bool.false_ne_true
  have referenced := (accepts_cases accepted).2.2
  refine ⟨carries.heeds.mine.drawn id before.2.drawn, ?_, ?_, ?_⟩
  · rw [view]
    exact AList.lookup_insert _
  · exact start_cell_some (carries.seen _) (referenced (.mission task.missionId) (by simp [schema, references]))
  · exact start_cell_some (carries.seen _) (referenced (.agent task.assignedAgentId) (by simp [schema, references]))

theorem create_task_starts (mission : Loaded Mission) :
    Launches pid request (Won pid mission.1) (createTask mission) (Launchable pid) (fun _ => Unbegun pid) := by
  unfold createTask
  split
  next => exact raises_throw _ (fun s won => won.unbegun)
  next agentId assigned =>
    refine raises_bind _ (within_new_id (won_carried)) (fun id => ?_)
    refine raises_bind _ (insert_task_files mission.1 _ rfl) (fun (inserted : Bool) => ?_)
    cases inserted with
    | false => exact raises_throw _ (fun s holds => holds.1.unbegun)
    | true =>
        let task : Task := ⟨mission.1, agentId, .queued, 0, taskIdempotencyKey mission.1, none⟩
        refine raises_bind (fun _ => Pending pid id task) (starting_ask
          (carried_stable (fun s t holds carries => ⟨won_carried s t holds.1 carries,
            fun done => filed_carried (holds.2 done) carries⟩))
          (fun s holds _ => ⟨holds.1.held, holds.1.unsettled, holds.1.settled, holds.1.unclaimed⟩)
          (fun s choice answer t holds _ _ executed => ?_)) (fun _ => raises_pure _ (fun s pending => ⟨pending, rfl, assigned⟩))
        cases executed
        refine ⟨⟨(holds.2 rfl).drawn, (holds.2 rfl).staged, (holds.2 rfl).mission, (holds.2 rfl).agent⟩, holds.1.settled,
          fun entry member own => ?_, holds.1.unbegun.2⟩
        rcases List.mem_append.mp member with old | new
        · exact absurd own (holds.1.unbegun.1 entry old)
        · obtain rfl := List.mem_singleton.mp new
          rfl

theorem resume_mission_starts :
    Launches pid request (Unbegun pid) (resumeMission mission) (Launchable pid) (fun _ => Unbegun pid) := by
  refine raises_bind (fun _ => Unbegun pid) (starting_select unbegun_stable (fun s unbegun _ _ => unbegun)) (fun existing => ?_)
  cases existing with
  | none => exact raises_throw _ (fun s unbegun => unbegun)
  | some task => exact raises_pure _ (fun s unbegun => unbegun)

theorem start_mission_starts :
    Launches pid request (Unbegun pid) (startMission mission) (Launchable pid) (fun _ => Unbegun pid) := by
  refine raises_bind _ (start_wins) (fun (won : Bool) => ?_)
  cases won with
  | false => exact resume_mission_starts
  | true =>
      exact raises_bind (fun _ => Won pid mission.1) (starting_select (carried_stable (won_carried))
        (fun s won _ _ => won)) (fun refreshed => create_task_starts (mission.1, refreshed.getD mission.2))

-- An event of the new task is never refused: the rows it names are in the transaction.
theorem pending_publish {eventType : EventType} (named : taskId = none ∨ taskId = some id) :
    Launches pid request (Pending pid id task)
      (publish eventType tenantId (some task.missionId) taskId (some task.assignedAgentId)) (fun _ => Pending pid id task) raised := by
  refine within_publish (pending_carried id task) (fun event s t pending fresh _ refused => ?_)
  have accepted : schema.accepts (.event event)
      (⟨tenantId, eventType, some task.missionId, taskId, some task.assignedAgentId, none⟩ : AuditEvent) (s.server.view pid) = true := by
    refine event_accepted (fresh.unseen (.event event) rfl) (fun missionId same => ?_) (fun other same => ?_)
      (fun agentId same => ?_)
    · cases same
      exact pending.filed.mission
    · rcases named with rfl | rfl
      · cases same
      · cases same
        exact Option.isSome_of_eq_some pending.filed.staged
    · cases same
      exact pending.filed.agent
  exact absurd (refused.symm.trans accepted) Bool.false_ne_true

theorem pending_commit :
    Launches pid request (Pending pid id task) commit (fun _ => Landed pid id task) raised := by
  refine starting_ask (carried_stable (pending_carried id task)) (fun _ _ _ => ⟨trivial, trivial⟩)
    (fun s choice answer t pending _ _ executed => ?_)
  cases executed
  exact ⟨by simp [Clean, Server.commits, Server.rollsBack], pending.filed.drawn, pending.filed.staged, pending.settled, pending.mine,
    pending.unpushed⟩

-- The version as read, and what it says of the task's agent.
def Reads (pid id : Nat) (task : Task) (version : Option AgentVersion) (s : Sys) : Prop :=
  Landed pid id task s ∧ ∀ found, version = some found → found.runtimeAdapter = customDurable → durableTask s.db task = true

theorem reads_stable : Stable starting.toContract pid (Reads pid id task version) := fun s t reads moved inv =>
  ⟨landed_stable s t reads.1 moved inv, fun found same durable =>
    durable_moves moved.1.committed (reads.2 found same durable)⟩

theorem active_version_reads :
    Launches pid request (Landed pid id task) (activeVersion task.assignedAgentId) (Reads pid id task) raised := by
  refine raises_bind (fun agent s => Landed pid id task s ∧ ∀ row, agent = some row → s.db.agent task.assignedAgentId = some row)
    (starting_select (landed_stable) (fun s landed _ _ => ?_)) (fun agent => ?_)
  · rw [clean_view landed.clean]
    exact ⟨landed, fun _ found => found⟩
  have stable : Stable starting.toContract pid
      (fun s => Landed pid id task s ∧ ∀ row, agent = some row → s.db.agent task.assignedAgentId = some row) :=
    fun s t holds moved inv => ⟨landed_stable s t holds.1 moved inv, fun row same =>
      row_moves rfl
        ((show s.db.lookup (.agent task.assignedAgentId) = some row from holds.2 row same) ▸
          moved.1.committed (.agent task.assignedAgentId))⟩
  cases active : agent.bind Agent.activeVersionId with
  | none => exact raises_pure _ (fun s holds => ⟨holds.1, fun found same => by cases same⟩)
  | some versionId =>
      obtain ⟨row, rfl, same⟩ := Option.bind_eq_some_iff.mp active
      refine starting_select stable (fun s holds _ _ => ⟨holds.1, fun found read durable => ?_⟩)
      rw [clean_view holds.1.clean] at read
      simp [durableTask, holds.2 row rfl, same, read, durable]

theorem enqueue_if_durable_starts :
    Launches pid request (Reads pid id task version) (enqueueIfDurable id version) (fun _ => Excused pid) raised := by
  cases version with
  | none => exact raises_pure _ (fun s reads => landed_excused id s reads.1)
  | some found =>
      by_cases durable : found.runtimeAdapter = customDurable
      · simp only [enqueueIfDurable, if_pos durable]
        refine starting_ask (reads_stable)
          (fun s reads _ => ⟨reads.1.drawn, reads.1.unpushed, task, reads.1.stored, reads.2 found rfl durable⟩)
          (fun s choice answer t reads _ _ executed => ?_)
        cases executed
        exact landed_excused id s reads.1
      · simp only [enqueueIfDurable, if_neg durable]
        exact raises_pure _ (fun s reads => landed_excused id s reads.1)

theorem launch_starts {result : StartMissionResult} (mission : result.task.2.missionId = result.mission.1)
    (agent : result.mission.2.assignedAgentId = some result.task.2.assignedAgentId) :
    Launches pid request (Pending pid result.task.1 result.task.2) (launch user result) (fun _ => Excused pid)
      raised := by
  unfold launch
  rw [agent, ← mission]
  refine raises_bind _ (pending_publish (.inl rfl)) (fun _ => ?_)
  refine raises_bind _ (pending_publish (.inr rfl)) (fun _ => ?_)
  refine raises_bind _ (pending_publish (.inr rfl)) (fun _ => ?_)
  refine raises_bind _ (within_ask trivial (pending_carried _ _) (fun _ _ _ => trivial)) (fun _ => ?_)
  refine raises_bind _ (pending_commit) (fun _ => raises_bind _ (active_version_reads) (fun version => ?_))
  exact enqueue_if_durable_starts

theorem mission_or_404_starts : Keeps starting.toContract pid request (Unbegun pid) (missionOr404 missionId tenantId) := by
  refine raises_bind (fun _ => Unbegun pid) (starting_select unbegun_stable (fun s unbegun _ _ => unbegun)) (fun mission => ?_)
  cases mission with
  | none => exact keeps_throw
  | some row => exact keeps_pure

theorem refuse_runtime_mission_starts {detail : String} :
    Keeps starting.toContract pid request (Unbegun pid) (refuseRuntimeMission missionId detail) := by
  refine raises_bind (fun _ => Unbegun pid) (starting_select unbegun_stable (fun s unbegun _ _ => unbegun)) (fun (runtime : Bool) => ?_)
  cases runtime with
  | true => exact keeps_throw
  | false => exact keeps_pure

theorem refused_starts {post : α → Sys → Prop} (failure : Failure) :
    Launches pid request (Unbegun pid) (refused failure) post (fun _ => Unbegun pid) := by
  cases failure <;> exact raises_throw _ (fun s unbegun => unbegun)

theorem start_route_starts :
    Launches pid request (Unbegun pid) (startMissionRoute user missionId) (fun _ => Excused pid)
      (fun _ => Excused pid) := by
  have before : ∀ {α : Type} {body : Route α} {post : α → Sys → Prop},
      Launches pid request (Unbegun pid) body post (fun _ => Unbegun pid) →
      Launches pid request (Unbegun pid) body post (fun _ => Excused pid) := fun body =>
    raises_weaken body (fun _ holds => holds) (fun _ _ holds => holds) (fun _ s unbegun => unbegun_excused unbegun)
  refine raises_bind _ (before (mission_or_404_starts)) (fun mission => ?_)
  refine raises_bind _ (before (refuse_runtime_mission_starts)) (fun _ => ?_)
  refine raises_bind _ (before (raises_catch _ (start_mission_starts) refused_starts)) (fun result => ?_)
  refine raises_bind (fun _ => Excused pid) ?_ (fun _ => raises_pure _ (fun _ holds => holds))
  intro s launchable
  unfold Launchable at launchable
  unfold launchIfNew
  split at launchable
  next fresh =>
    rw [if_pos fresh]
    exact launch_starts launchable.2.1 launchable.2.2 s launchable.1
  next stale =>
    rw [if_neg stale]
    exact unbegun_excused launchable

theorem cancel_route_starts : Keeps starting.toContract pid request (Unbegun pid) (cancelMission user missionId) := by
  refine keeps_bind (mission_or_404_starts) (fun mission => ?_)
  refine keeps_bind (refuse_runtime_mission_starts) (fun _ => ?_)
  refine keeps_bind (keeps_catch ?_ refused_starts) (fun _ => ?_)
  · have checked : Keeps starting.toContract pid request (Unbegun pid) (validated (validateMissionTransition mission.2.status .cancelled)) := by
      unfold validated
      split
      next => exact keeps_pure
      next => exact keeps_throw
    refine keeps_bind checked (fun _ => keeps_bind ?_ (fun _ => keeps_pure))
    exact within_ask trivial (unbegun_carried) (fun s _ _ => ⟨fun _ => ⟨rfl, fun _ => rfl⟩, trivial⟩)
  · exact keeps_bind (within_publish (unbegun_carried) (fun _ _ _ _ _ unbegun _ => unbegun)) (fun _ => keeps_pure)

theorem session_starts {body : Route α}
    (walk : Launches pid request (Unbegun pid) body (fun _ => Excused pid) (fun _ => Excused pid)) :
    Launches pid request (Unbegun pid) (getDbSession body) (fun _ _ => True) (fun _ _ => True) := by
  have stable : Stable starting.toContract pid (Excused pid) := carried_stable (excused_carried)
  refine raises_catch (fun _ => Excused pid) (raises_bind _ walk (fun reply => ?_)) (fun failure => ?_)
  · exact raises_bind (fun _ _ => True) (starting_ask stable (fun _ _ _ => ⟨trivial, trivial⟩)
      (fun _ _ _ _ _ _ _ _ => trivial)) (fun _ => raises_pure _ (fun _ _ => trivial))
  · exact raises_bind (fun _ _ => True) (starting_ask stable (fun s excused _ => excused)
      (fun _ _ _ _ _ _ _ _ => trivial)) (fun _ => raises_throw _ (fun _ _ => trivial))

end

def startsOrCancels : Request → Bool
  | .startMission _ _ => true
  | .cancelMission _ _ => true
  | _ => false

-- Any number of starts and cancels, of any missions, none cut off.
def StartsAndCancels : System → Action → Prop :=
  Pool.Meets (fun request => startsOrCancels request = true) (fun _ _ _ _ => True) noCrash

abbrev StartSound (system : System) : Prop := Sound starting (fun _ _ _ _ => True) system

theorem program_starts {request : Request} (arrives : startsOrCancels request = true) (unbegun : Unbegun pid s) :
    Safe starting.toContract pid request (fun _ _ => True) (program request) s := by
  have walk : Launches pid request (Unbegun pid) (route request) (fun _ _ => True) (fun _ _ => True) := by
    cases request with
    | startMission user missionId => exact session_starts (start_route_starts)
    | cancelMission user missionId =>
        exact session_starts (raises_weaken (cancel_route_starts) (fun _ holds => holds)
          (fun _ s => unbegun_excused) (fun _ s => unbegun_excused))
    | _ => cases arrives
  exact safe_weaken (fun _ _ _ => trivial) _ s (walk s unbegun)

theorem start_step (system next : System) (action : Action) (sound : StartSound system) (met : StartsAndCancels system action)
    (stepped : step system action = some next) : StartSound next ∧ Progress system.shared next.shared := by
  obtain ⟨after, promised⟩ := pool_step_sound (D := starting) (fun _ _ _ _ _ _ _ _ => trivial)
    (fun pid request s arrives _ idle => program_starts arrives idle.2) (fun _ _ _ _ _ => trivial)
    system next action sound met stepped
  refine ⟨after, ?_⟩
  cases action with
  | arrive request =>
      have same : next.shared = system.shared := promised
      exact same ▸ progress_refl _
  | step pid choice => exact promised.2.1
  | crash pid => exact promised.2.1

theorem start_boot (db : Db) (nextId : Nat) (queue : List Nat) (distinct : Distinct schema db) (below : Below db nextId) :
    StartSound (boot db nextId queue) :=
  sound_start _ ⟨kept_boot startRule db nextId queue, {
    unique := unique_start distinct
    minted := boot_minted queue below
    once := List.nodup_nil
    claimed := fun _ member => by cases member
    tasks := fun _ _ _ stored => .inl stored
    pushes := List.nodup_nil
    queued := fun _ member => by cases member }⟩ (fun _ => ⟨rfl, fun _ member => (by cases member), fun _ member => (by cases member)⟩)

-- In every run of starts and cancels from a database whose unique indexes hold: at most
-- one task with a mission's key is ever committed; at most one start of a mission
-- reports a new task; no task is pushed twice; whatever has been pushed is committed,
-- for an agent whose active version is durable; and once a mission is committed as
-- cancelled (or as started) no start reports a new task of it and no new one of its
-- tasks is committed.
theorem mission_starts_once (db : Db) (nextId : Nat) (queue : List Nat) (distinct : Distinct schema db) (below : Below db nextId)
    (before after : List Action) (between system : System)
    (reached : Runs step StartsAndCancels (boot db nextId queue) before between)
    (run : Runs step StartsAndCancels between after system) :
    (∀ missionId id other task rival, between.db.task id = some task → system.db.task other = some rival →
      task.idempotencyKey = taskIdempotencyKey missionId → rival.idempotencyKey = taskIdempotencyKey missionId → id = other) ∧
    (∀ missionId, (startedMissions system.shared).count missionId ≤ 1) ∧
    (∀ taskId, (system.shared.pushed.map Prod.snd).count taskId ≤ 1) ∧
    (∀ entry ∈ system.shared.pushed, ∃ task, system.db.task entry.2 = some task ∧ durableTask system.db task = true) ∧
    ∀ missionId row, between.db.mission missionId = some row → startable row = false →
      Closes missionId between.shared system.shared := by
  have kept : ∀ s t action, StartSound s → StartsAndCancels s action → step s action = some t → StartSound t :=
    fun s t action holds met stepped => (start_step s t action holds met stepped).1
  have soundBetween := runs_invariant StartSound kept reached (start_boot db nextId queue distinct below)
  have starts : Starts system.shared := (runs_invariant StartSound kept run soundBetween).inv.2
  have progress : Progress between.shared system.shared :=
    runs_relates StartSound (fun s t => Progress s.shared t.shared) (fun s => progress_refl s.shared)
      (fun s t u => progress_trans s.shared t.shared u.shared) start_step run soundBetween
  refine ⟨fun missionId id other task rival stored present mine theirs => ?_, List.nodup_iff_count_le_one.mp starts.once,
    List.nodup_iff_count_le_one.mp starts.pushes, fun entry member => (starts.queued entry member).2,
    fun missionId row stored closed => progress.closes missionId ⟨row, stored, closed⟩⟩
  have same := starts.unique.committed (.task id) task (.task other) rival (.idempotencyKey (taskIdempotencyKey missionId))
    (progress.tasks id task stored) present (by simp [schema, indexed, mine]) (by simp [schema, indexed, theirs])
  cases same
  rfl

-- Two starts race for a draft mission, a cancel follows, and then a third start.
def draftDesk : Db := office.insert (.mission 3) ⟨1, "MSN-3", some 1, .draft⟩

def startRace : List Action :=
  .arrive (.startMission member 3) :: .arrive (.startMission member 3) :: turns 0 3 ++ turns 1 2 ++ turns 0 16 ++ turns 1 3 ++
    .arrive (.cancelMission member 3) :: turns 2 6

def pushedOnce (system : System) : Bool :=
  system.shared.pushed = [(0, 10)] ∧ (system.db.mission 3).any (fun row => row.status = .cancelled)

theorem starts_and_cancels_of_checks (system : System) (action : Action)
    (checked : system.checks startsOrCancels (fun _ _ _ _ => true) (fun _ _ => false) action = true) :
    StartsAndCancels system action :=
  Pool.meets_weaken (fun _ arrives => arrives) (fun _ _ never => Bool.false_ne_true never)
    (by simpa using Pool.meets_of_checks _ _ _ system action checked)

def startedLater : List Action := .arrive (.startMission member 3) :: turns 3 5

theorem raced_mission_starts_once :
    ∃ between system, Runs step StartsAndCancels (boot draftDesk 10 []) startRace between ∧
      Runs step StartsAndCancels between startedLater system ∧ pushedOnce between = true ∧
      (system.shared.pushed.map Prod.snd).count 10 ≤ 1 ∧ Closes 3 between.shared system.shared := by
  obtain ⟨between, reached, shown⟩ := checked_exhibit step _ starts_and_cancels_of_checks
    (fun between => pushedOnce between && (checkedLabels step
      (Pool.checks startsOrCancels (fun _ _ _ _ => true) (fun _ _ => false)) between startedLater).any (fun _ => true))
    (boot draftDesk 10 []) startRace (by decide +kernel)
  obtain ⟨once, later⟩ := Bool.and_eq_true_iff.mp shown
  obtain ⟨system, run, -⟩ := checked_exhibit step _ starts_and_cancels_of_checks (fun _ => true) between startedLater later
  obtain ⟨-, -, pushes, -, closes⟩ := mission_starts_once draftDesk 10 [] (distinct_of_rows schema draftDesk (by decide +kernel))
    (below_of_rows draftDesk 10 (by decide +kernel)) startRace startedLater between system reached run
  have cancelled : (between.db.mission 3).any (fun row => row.status = .cancelled) = true := by
    simp only [pushedOnce, decide_eq_true_eq] at once
    exact once.2
  obtain ⟨row, stored, status⟩ := Option.any_eq_true _ _ |>.mp cancelled
  have closed : startable row = false := by simp [startable, of_decide_eq_true status]
  exact ⟨between, system, reached, run, once, pushes 10, closes 3 row stored closed⟩

end AiWorld.Api
