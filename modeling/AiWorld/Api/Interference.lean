import AiWorld.Api.Indexes
import AiWorld.Api.Minted
import AiWorld.Api.Reaping
import AiWorld.Api.Requests

set_option autoImplicit false

namespace AiWorld.Api

open AiWorld.Concurrency AiWorld.Database

variable {mission : Mission} {agentId id : Nat} {user : User} {db : Db} {code : String}

-- The tenant a row belongs to: its own column, or that of the row it hangs on.
def tenantOf (db : Db) : (key : Key) → Row key → Option Nat
  | .modelPolicy _, row => some row.tenantId
  | .agent _, row => some row.tenantId
  | .agentVersion _, row => (db.agent row.agentId).map Agent.tenantId
  | .mission _, row => some row.tenantId
  | .project _, row => some row.tenantId
  | .missionProject _, row => some row.tenantId
  | .task _, row => (db.mission row.missionId).map Mission.tenantId
  | .artifact _, row => some row.tenantId
  | .modelInvocation _, row => some row.tenantId
  | .checkpoint _, row => (db.mission row.missionId).map Mission.tenantId
  | .event _, row => some row.tenantId
  | .roomAssignment _, row => some row.tenantId
  | .session _, row => some row.tenantId
  | .personaSlot _, row => some row.tenantId
  | .closure _, row => some row.tenantId

def ownRow (tenantId : Nat) (db : Db) (key : Key) : Option (Row key) :=
  (db.lookup key).filter (fun row => tenantOf db key row = some tenantId)

def Agree (tenantId : Nat) (first second : Db) : Prop := ∀ key, ownRow tenantId first key = ownRow tenantId second key

variable {tenantId : Nat} {second : Db}

theorem agree_symm {first : Db} (agree : Agree tenantId first second) : Agree tenantId second first :=
  fun key => (agree key).symm

theorem own_row_iff (tenantId : Nat) (db : Db) (key : Key) (row : Row key) :
    ownRow tenantId db key = some row ↔ db.lookup key = some row ∧ tenantOf db key row = some tenantId := by
  simp [ownRow, Option.filter_eq_some_iff]

theorem agree_lookup {first : Db} (agree : Agree tenantId first second) {key : Key} {row : Row key}
    (stored : first.lookup key = some row) (own : tenantOf first key row = some tenantId) : second.lookup key = some row :=
  ((own_row_iff tenantId second key row).mp ((agree key).symm.trans ((own_row_iff tenantId first key row).mpr ⟨stored, own⟩))).1

section
variable {tenantId : Nat} {first second : Db}

theorem agree_session (agree : Agree tenantId first second) (one : Distinct schema first) (two : Distinct schema second)
    (ref : String) : getSession tenantId ref first = getSession tenantId ref second := by
  refine Option.ext (fun session => ?_)
  rw [get_session_iff one, get_session_iff two]
  constructor
  · rintro ⟨stored, tenant, rest⟩
    exact ⟨agree_lookup agree stored (congrArg some tenant), tenant, rest⟩
  · rintro ⟨stored, tenant, rest⟩
    exact ⟨agree_lookup (agree_symm agree) stored (congrArg some tenant), tenant, rest⟩

theorem agree_agent (agree : Agree tenantId first second) (one : Distinct schema first) (two : Distinct schema second)
    (code : String) : getAgentByCode tenantId code first = getAgentByCode tenantId code second := by
  refine Option.ext (fun agent => ?_)
  rw [get_agent_iff one, get_agent_iff two]
  constructor
  · rintro ⟨stored, tenant, named⟩
    exact ⟨agree_lookup agree stored (congrArg some tenant), tenant, named⟩
  · rintro ⟨stored, tenant, named⟩
    exact ⟨agree_lookup (agree_symm agree) stored (congrArg some tenant), tenant, named⟩

end

-- A mission of any tenant has the code.
def codeTaken (code : String) (db : Db) : Bool := db.missions.any (fun mission => mission.2.missionCode = code)

theorem code_taken_iff (code : String) (db : Db) :
    codeTaken code db = true ↔ ∃ id row, db.mission id = some row ∧ row.missionCode = code := by
  simp only [codeTaken, List.any_eq_true, decide_eq_true_eq, Prod.exists, mem_missions]
  rfl

-- No transaction is under way, the constraints hold, and `new_id` will not return an
-- id that is in the database, as a primary key or within an idempotency key.
structure Orderly (s : Sys) : Prop extends Calm s where
  distinct : Distinct schema s.db
  below : Below s.db s.nextId
  untold : ∀ id, s.nextId ≤ id → ∀ taskId task, s.db.task taskId = some task → task.idempotencyKey ≠ taskIdempotencyKey id

theorem below_absent (db : Db) (nextId : Nat) (below : Below db nextId) (key : Key) (id : Nat) (named : key.minted = some id)
    (above : nextId ≤ id) : db.lookup key = none := by
  refine Option.eq_none_iff_forall_ne_some.mpr (fun row stored => ?_)
  have small := below key id named (by rw [stored]; rfl)
  omega

theorem mission_accepted (tenantId : Nat) (status : MissionStatus) (fresh : db.mission id = none)
    (untaken : codeTaken code db = false) (agent : (db.agent agentId).isSome = true) :
    schema.accepts (.mission id) ⟨tenantId, code, some agentId, status⟩ db = true := by
  refine table_accepted fresh rfl (fun reference named => ?_) (fun rival found entry stored occupied wanted => ?_)
  · obtain rfl : reference = .agent agentId := by simpa [references] using named
    exact agent
  · obtain rfl : entry = .missionCode code := List.mem_singleton.mp wanted
    cases rival with
    | mission other =>
        have same : code = found.missionCode := by simpa [indexed] using occupied
        rw [(code_taken_iff code db).mpr ⟨other, found, stored, same.symm⟩] at untaken
        cases untaken
    | _ => cases indexed_on _ found _ occupied

theorem mission_refused (id tenantId : Nat) (agentId : Option Nat) (status : MissionStatus)
    (taken : codeTaken code db = true) : schema.accepts (.mission id) ⟨tenantId, code, agentId, status⟩ db = false := by
  obtain ⟨other, row, stored, same⟩ := (code_taken_iff code db).mp taken
  refine Bool.eq_false_iff.mpr (fun accepted => ?_)
  have clear := (accepts_cases accepted).1 (.mission other) row stored
  exact clear.2 (.missionCode code) (by simp [schema, indexed, same]) (by simp [schema, indexed])

-- What a registration adds to the database, `first` being the first id it draws.
def newRows (tenantId agentId : Nat) (ref : String) (first time : Nat) : List (Sigma Row) :=
  [⟨.mission first, ⟨tenantId, ref, some agentId, .running⟩⟩,
    ⟨.task (first + 1), ⟨first, agentId, .queued, 0, taskIdempotencyKey first, none⟩⟩,
    ⟨.session (first + 2), newSession tenantId agentId first (first + 1) time ref⟩,
    ⟨.event (first + 3), ⟨tenantId, .missionCreated, some first, none, some agentId, none⟩⟩,
    ⟨.event (first + 4), ⟨tenantId, .missionStarted, some first, none, some agentId, none⟩⟩,
    ⟨.event (first + 5), ⟨tenantId, .taskCreated, some first, some (first + 1), some agentId, none⟩⟩,
    ⟨.event (first + 6), ⟨tenantId, .taskAssigned, some first, some (first + 1), some agentId, none⟩⟩]

def adding (rows : List (Sigma Row)) (db : Db) : Db := rows.foldl (fun db entry => db.insert entry.1 entry.2) db

theorem adding_elsewhere (rows : List (Sigma Row)) (db : Db) (key : Key) (apart : ∀ entry ∈ rows, entry.1 ≠ key) :
    (adding rows db).lookup key = db.lookup key := by
  induction rows generalizing db with
  | nil => rfl
  | cons entry rest ih =>
      refine (ih (db.insert entry.1 entry.2) (fun other member => apart other (List.mem_cons_of_mem _ member))).trans ?_
      exact lookup_elsewhere db entry.1 key entry.2 (Ne.symm (apart entry List.mem_cons_self))

section
variable {pid : Nat} {seen committed : Db} {nextId : Nat} {s : Sys} {raised : Failure → Sys → Prop}

theorem create_mission_alone (tenantId : Nat) (alone : Alone pid seen committed nextId s) (fresh : seen.mission nextId = none)
    (untaken : codeTaken code seen = false) (agent : (seen.agent agentId).isSome = true) :
    Solo pid
      (fun mission t => mission = (nextId, ⟨tenantId, code, some agentId, .draft⟩) ∧
        Alone pid (seen.insert (.mission nextId) ⟨tenantId, code, some agentId, .draft⟩) committed (nextId + 1) t) raised
      (createMission tenantId code (some agentId)) s := by
  refine finishes_bind _ (alone_new_id alone) (fun id t drawn => ?_)
  obtain ⟨rfl, drawn⟩ := drawn
  refine finishes_bind _ (alone_insert drawn (mission_accepted tenantId .draft fresh untaken agent))
    (fun _ t inserted => ?_)
  exact finishes_pure _ t ⟨rfl, inserted⟩

theorem mark_ready_alone (draft : mission.status = .draft) (alone : Alone pid seen committed nextId s)
    (stored : seen.lookup (.mission id) = some mission) :
    Solo pid
      (fun ready t => ready = (id, setMissionStatus .ready mission) ∧
        Alone pid (seen.insert (.mission id) (setMissionStatus .ready mission)) committed nextId t) raised
      (markMissionStatus (id, mission) .ready) s := by
  have allowed : validated (validateMissionTransition mission.status .ready) = pure () := by rw [draft]; rfl
  unfold markMissionStatus
  refine finishes_bind (fun _ t => Alone pid seen committed nextId t) (by rw [allowed]; exact finishes_pure _ s alone) (fun _ t still => ?_)
  refine finishes_bind _ (alone_update (.mission id) mission still stored) (fun _ t updated => ?_)
  exact finishes_pure _ t ⟨rfl, updated⟩

-- A mission that was never started gets its one task.
theorem start_mission_alone (ready : mission.status = .ready) (assigned : mission.assignedAgentId = some agentId)
    (alone : Alone pid seen committed nextId s) (stored : seen.lookup (.mission id) = some mission)
    (fresh : seen.task nextId = none)
    (untold : ∀ other task, seen.task other = some task → task.idempotencyKey ≠ taskIdempotencyKey id)
    (agent : (seen.agent agentId).isSome = true) :
    Solo pid
      (fun started t => started = ⟨(id, setMissionStatus .running mission),
          (nextId, ⟨id, agentId, .queued, 0, taskIdempotencyKey id, none⟩), true⟩ ∧
        Alone pid ((seen.insert (.mission id) (setMissionStatus .running mission)).insert (.task nextId)
          ⟨id, agentId, .queued, 0, taskIdempotencyKey id, none⟩) committed (nextId + 1) t) raised
      (startMission (id, mission)) s := by
  obtain ⟨tenantId, code, assignee, status⟩ := mission
  cases ready
  cases assigned
  have runs : (seen.insert (.mission id) (setMissionStatus .running ⟨tenantId, code, some agentId, .ready⟩)).lookup (.mission id) =
    some (setMissionStatus .running ⟨tenantId, code, some agentId, .ready⟩) := AList.lookup_insert seen
  refine finishes_bind _ (alone_update_where alone stored
    rfl) (fun won t first => ?_)
  obtain ⟨rfl, first⟩ := first
  refine finishes_bind _ (alone_select (fun db => db.mission id) first) (fun refreshed t second => ?_)
  obtain ⟨rfl, second⟩ := second
  rw [show Db.mission _ id = some (setMissionStatus .running ⟨tenantId, code, some agentId, .ready⟩) from runs]
  simp only [createTask, Option.getD_some, setMissionStatus]
  refine finishes_bind _ (alone_new_id second) (fun taskId t third => ?_)
  obtain ⟨rfl, third⟩ := third
  refine finishes_bind _ (alone_try_insert third ?_) (fun inserted t fourth => ?_)
  · refine task_accepted ?_ ?_ ?_ (fun other task present => ?_)
    · exact (lookup_elsewhere seen (.mission id) (.task taskId) _ (by simp)).trans fresh
    · exact (congrArg Option.isSome runs).trans rfl
    · exact (congrArg Option.isSome (lookup_elsewhere seen (.mission id) (.agent agentId) _ (by simp))).trans agent
    · exact untold other task ((lookup_elsewhere seen (.mission id) (.task other) _ (by simp)).symm.trans present)
  obtain ⟨rfl, fourth⟩ := fourth
  rw [if_pos rfl]
  refine finishes_bind _ (alone_report id fourth) (fun _ t fifth => ?_)
  exact finishes_pure _ t ⟨rfl, fifth⟩

-- The request has found neither its session nor a mission with the code.
structure Clear (tenantId agentId : Nat) (ref : String) (db : Db) (first : Nat) : Prop where
  below : Below db first
  untold : ∀ taskId task, db.task taskId = some task → task.idempotencyKey ≠ taskIdempotencyKey first
  absent : ∀ id row, db.session id = some row → ¬(row.tenantId = tenantId ∧ row.kind = .session ∧ row.externalSessionRef = ref)
  untaken : codeTaken ref db = false
  agent : (db.agent agentId).isSome = true

def startedWith (tenantId agentId : Nat) (ref : String) (first : Nat) : StartMissionResult :=
  ⟨(first, ⟨tenantId, ref, some agentId, .running⟩), (first + 1, ⟨first, agentId, .queued, 0, taskIdempotencyKey first, none⟩), true⟩

variable {tenantId agentId : Nat} {ref : String} {db : Db} {first : Nat}

theorem create_session_alone (clear : Clear tenantId agentId ref db first) (alone : Alone pid db db first s) :
    Solo pid
      (fun created t => created = (first + 2, startedWith tenantId agentId ref first) ∧
        ∃ time, Alone pid (adding ((newRows tenantId agentId ref first time).take 3) db) db (first + 3) t) raised
      (createSession tenantId agentId ref) s := by
  have missing (key : Key) (id : Nat) (named : key.minted = some id) (above : first ≤ id) : db.lookup key = none :=
    below_absent db first clear.below key id named above
  unfold createSession
  refine finishes_bind _ (create_mission_alone tenantId alone (missing _ first rfl (Nat.le_refl _)) clear.untaken
    clear.agent) (fun mission t created => ?_)
  obtain ⟨rfl, created⟩ := created
  refine finishes_bind _ (mark_ready_alone rfl created (AList.lookup_insert db)) (fun mission t marked => ?_)
  obtain ⟨rfl, marked⟩ := marked
  rw [AList.insert_insert] at marked
  have elsewhere (status : MissionStatus) (key : Key) (different : key ≠ .mission first) :=
    lookup_elsewhere db (.mission first) key ⟨tenantId, ref, some agentId, status⟩ different
  refine finishes_bind _ (start_mission_alone rfl rfl marked (AList.lookup_insert db) ?_ ?_ ?_)
    (fun result t started => ?_)
  · exact (elsewhere .ready (.task (first + 1)) (by simp)).trans (missing _ (first + 1) rfl (by omega))
  · exact fun other task present => clear.untold other task ((elsewhere .ready (.task other) (by simp)).symm.trans present)
  · exact (congrArg Option.isSome (elsewhere .ready (.agent agentId) (by simp))).trans clear.agent
  obtain ⟨rfl, started⟩ := started
  rw [AList.insert_insert] at started
  refine finishes_bind _ (alone_new_id started) (fun id t drawn => ?_)
  obtain ⟨rfl, drawn⟩ := drawn
  refine finishes_bind _ (alone_now drawn) (fun time t timed => ?_)
  have beyond (key : Key) (mission : key ≠ .mission first) (task : key ≠ .task (first + 1)) :=
    adding_elsewhere ((newRows tenantId agentId ref first time).take 2) db key (by simp [newRows, mission.symm, task.symm])
  refine finishes_bind _ (alone_insert timed (session_accepted time
    ?_ ?_ ?_ ?_ ?_)) (fun _ t inserted => finishes_pure _ t ⟨rfl, time, inserted⟩)
  · exact (beyond (.session (first + 2)) (by simp) (by simp)).trans (missing _ (first + 2) rfl (by omega))
  · exact fun other row present => clear.absent other row ((beyond (.session other) (by simp) (by simp)).symm.trans present)
  · exact (congrArg Option.isSome (beyond (.agent agentId) (by simp) (by simp))).trans clear.agent
  · rw [Db.mission, lookup_elsewhere _ (.task (first + 1)) (.mission first) _ (by simp), AList.lookup_insert]
    rfl
  · rw [Db.task, AList.lookup_insert]
    rfl

-- The rows the events of a registration name are there, and no event has an id to come.
structure Announcing (agentId first : Nat) (db : Db) (nextId : Nat) : Prop where
  mission : (db.mission first).isSome = true
  task : (db.task (first + 1)).isSome = true
  agent : (db.agent agentId).isSome = true
  unused : ∀ id, nextId ≤ id → db.event id = none

theorem announcing_start (clear : Clear tenantId agentId ref db first) (time : Nat) :
    Announcing agentId first (adding ((newRows tenantId agentId ref first time).take 3) db) (first + 3) where
  mission := by
    refine (congrArg Option.isSome (lookup_elsewhere _ (.session (first + 2)) (.mission first) _ nofun)).trans ?_
    refine (congrArg Option.isSome (lookup_elsewhere _ (.task (first + 1)) (.mission first) _ nofun)).trans ?_
    rw [AList.lookup_insert]
    rfl
  task := by
    refine (congrArg Option.isSome (lookup_elsewhere _ (.session (first + 2)) (.task (first + 1)) _ nofun)).trans ?_
    rw [AList.lookup_insert]
    rfl
  agent := (congrArg Option.isSome (adding_elsewhere _ db (.agent agentId) (by simp [newRows]))).trans clear.agent
  unused := fun id above => (adding_elsewhere _ db (.event id) (by simp [newRows])).trans
    (below_absent db first clear.below (.event id) id rfl (by omega))

theorem announce_alone {eventType : EventType} {taskId : Option Nat} (named : ∀ id, taskId = some id → id = first + 1)
    (announcing : Announcing agentId first seen nextId) (alone : Alone pid seen committed nextId s) :
    Solo pid
      (fun _ t => Announcing agentId first
          (seen.insert (.event nextId) ⟨tenantId, eventType, some first, taskId, some agentId, none⟩) (nextId + 1) ∧
        Alone pid (seen.insert (.event nextId) ⟨tenantId, eventType, some first, taskId, some agentId, none⟩) committed
          (nextId + 1) t) raised (publish eventType tenantId (some first) taskId (some agentId)) s := by
  refine finishes_weaken (alone_announce alone
    (announcing.unused nextId (Nat.le_refl _)) ?_ ?_ ?_) (fun _ t still => ⟨⟨?_, ?_, ?_, fun id above => ?_⟩, still⟩)
    (fun _ _ failed => failed)
  · rintro _ ⟨⟩
    exact announcing.mission
  · intro id same
    rw [named id same]
    exact announcing.task
  · rintro _ ⟨⟩
    exact announcing.agent
  · exact (congrArg Option.isSome (lookup_elsewhere seen (.event nextId) (.mission first) _ nofun)).trans announcing.mission
  · exact (congrArg Option.isSome (lookup_elsewhere seen (.event nextId) (.task (first + 1)) _ nofun)).trans announcing.task
  · exact (congrArg Option.isSome (lookup_elsewhere seen (.event nextId) (.agent agentId) _ nofun)).trans announcing.agent
  · refine (lookup_elsewhere seen (.event nextId) (.event id) _ (fun same => ?_)).trans (announcing.unused id (by omega))
    cases same
    omega

theorem publish_session_alone (clear : Clear user.tenantId agentId ref db first) {time : Nat}
    (alone : Alone pid (adding ((newRows user.tenantId agentId ref first time).take 3) db) db (first + 3) s) :
    Solo pid
      (fun reply t => reply = .created (first + 2) ∧
        Alone pid (adding (newRows user.tenantId agentId ref first time) db) db (first + 7) t) raised
      (publishSession user agentId (first + 2, startedWith user.tenantId agentId ref first)) s := by
  unfold publishSession startedWith
  refine finishes_bind _ (announce_alone nofun (announcing_start clear time) alone) (fun _ t one => ?_)
  refine finishes_bind _ (announce_alone nofun one.1 one.2) (fun _ t two => ?_)
  refine finishes_bind _ (announce_alone (by rintro _ ⟨⟩; rfl) two.1 two.2) (fun _ t three => ?_)
  refine finishes_bind _ (announce_alone (by rintro _ ⟨⟩; rfl) three.1 three.2) (fun _ t four => ?_)
  exact finishes_pure _ t ⟨rfl, four.2⟩

end

def unseeded : Failure :=
  .http 409 "AGT-CLAUDE-CODE is not seeded for this tenant -- run infrastructure/scripts/seed.py first."

-- The outcome of a registration up to fresh ids and the time.
inductive Outcome where
  | existing (id : Nat)
  | refused (failure : Failure)
  | registered (agentId : Nat)
deriving DecidableEq, Repr

def outcomeOf (tenantId : Nat) (ref : String) (db : Db) : Outcome :=
  match getSession tenantId ref db, getAgentByCode tenantId "AGT-CLAUDE-CODE" db with
  | some session, _ => .existing session.1
  | none, none => .refused unseeded
  | none, some agent => if codeTaken ref db then .refused .integrity else .registered agent.1

-- `first` is the first id the request draws.
def Shows (tenantId : Nat) (ref : String) (before : Db) (first : Nat) :
    Outcome → Except Failure Reply → Db → Prop
  | .existing id, result, after => result = .ok (.created id) ∧ after = before
  | .refused failure, result, after => result = .error failure ∧ after = before
  | .registered agentId, result, after => result = .ok (.created (first + 2)) ∧
      ∃ time, after = adding (newRows tenantId agentId ref first time) before

section
variable {pid : Nat} {committed : Db} {s : Sys}

theorem get_db_session_alone {α : Type} (shows : Except Failure α → Db → Prop) {body : Route α}
    (runs : Solo pid (fun value t => ∃ seen nextId, Alone pid seen committed nextId t ∧ shows (.ok value) seen)
    (fun failure t => ∃ seen nextId, Alone pid seen committed nextId t ∧ shows (.error failure) committed) body s) :
    Completes machine pid anyChoice (fun result t => shows result t.db) (getDbSession body).run s := by
  have ends : Solo pid (fun value t => shows (.ok value) t.db) (fun failure t => shows (.error failure) t.db)
      (getDbSession body) s := by
    refine finishes_catch _ (finishes_bind _ runs (fun value t holds => ?_)) (fun failure t holds => ?_)
    · obtain ⟨seen, nextId, alone, shown⟩ := holds
      refine finishes_bind _ (alone_commit alone) (fun _ t done => finishes_pure _ t ?_)
      rw [done.db]
      exact shown
    · obtain ⟨seen, nextId, alone, shown⟩ := holds
      refine finishes_bind _ (alone_rollback alone) (fun _ t done => finishes_throw ?_)
      rw [done.db]
      exact shown
  refine completes_weaken (fun result t holds => ?_) _ s ends
  cases result with
  | ok value => exact holds
  | error failure => exact holds

variable {db : Db} {first : Nat}

theorem reread_session_alone {query : Db → Option (Loaded AgentRuntimeSession)} (absent : query db = none) {seen : Db}
    (alone : Alone pid seen db first s) :
    Solo pid (fun _ _ => False) (fun failure t => failure = .integrity ∧ Alone pid db db first t)
      (rereadSession query .integrity) s := by
  refine finishes_bind _ (alone_rollback alone) (fun _ t back => ?_)
  refine finishes_bind _ (alone_select query back) (fun existing t read => ?_)
  obtain ⟨rfl, read⟩ := read
  rw [absent]
  exact finishes_throw ⟨rfl, read⟩

variable {ref : String}

-- The mission's code is taken: the first INSERT fails, and nothing is there to return.
theorem create_session_refused {tenantId : Nat} (taken : codeTaken ref db = true) (alone : Alone pid db db first s) :
    Solo pid (fun _ _ => False) (fun failure t => failure = .integrity ∧ Alone pid db db (first + 1) t)
      (createSession tenantId agentId ref) s := by
  refine finishes_bind (fun _ _ => False) (finishes_bind _ (alone_new_id alone) (fun id t drawn => ?_)) (fun _ _ never => never.elim)
  obtain ⟨rfl, drawn⟩ := drawn
  exact finishes_bind _ (alone_refused drawn (mission_refused id tenantId (some agentId) .draft taken))
    (fun _ _ never => never.elim)

theorem guarded_refused (taken : codeTaken ref db = true) (absent : getSession user.tenantId ref db = none)
    (alone : Alone pid db db first s) :
    Solo pid (fun _ _ => False) (fun failure t => failure = .integrity ∧ Alone pid db db (first + 1) t)
      (guarded (createSession user.tenantId agentId ref) (rereadSession (getSession user.tenantId ref))
        (publishSession user agentId)) s := by
  refine finishes_bind (fun _ _ => False) (finishes_catch _
    (finishes_map (create_session_refused taken alone)) (fun failure t failed => ?_))
    (fun _ _ never => never.elim)
  obtain ⟨rfl, failed⟩ := failed
  exact finishes_map (reread_session_alone absent failed)

theorem guarded_registers {raised : Failure → Sys → Prop} (clear : Clear user.tenantId agentId ref db first)
    (alone : Alone pid db db first s) :
    Solo pid
      (fun reply t => reply = .created (first + 2) ∧
        ∃ time, Alone pid (adding (newRows user.tenantId agentId ref first time) db) db (first + 7) t) raised
      (guarded (createSession user.tenantId agentId ref) (rereadSession (getSession user.tenantId ref))
        (publishSession user agentId)) s := by
  refine finishes_bind (fun result t => result = .inl (first + 2, startedWith user.tenantId agentId ref first) ∧
    ∃ time, Alone pid (adding ((newRows user.tenantId agentId ref first time).take 3) db) db (first + 3) t)
    (finishes_catch (fun _ _ => False) (finishes_map (finishes_weaken (create_session_alone clear alone)
      (fun created t made => ⟨congrArg Sum.inl made.1, made.2⟩) (fun _ _ never => never))) (fun _ _ never => never.elim))
    (fun result t made => ?_)
  obtain ⟨rfl, time, made⟩ := made
  exact finishes_weaken (publish_session_alone clear made) (fun reply t ended => ⟨ended.1, time, ended.2⟩)
    (fun _ _ failed => failed)

theorem register_session_alone (distinct : Distinct schema db) (below : Below db first)
    (untold : ∀ taskId task, db.task taskId = some task → task.idempotencyKey ≠ taskIdempotencyKey first)
    (alone : Alone pid db db first s) :
    Solo pid
      (fun reply t => ∃ seen nextId, Alone pid seen db nextId t ∧
        Shows user.tenantId ref db first (outcomeOf user.tenantId ref db) (.ok reply) seen)
      (fun failure t => ∃ seen nextId, Alone pid seen db nextId t ∧
        Shows user.tenantId ref db first (outcomeOf user.tenantId ref db) (.error failure) db)
      (registerSession user ref) s := by
  unfold registerSession outcomeOf
  refine finishes_bind _ (alone_select (getSession user.tenantId ref) alone) (fun existing t one => ?_)
  obtain ⟨rfl, one⟩ := one
  cases known : getSession user.tenantId ref db with
  | some session => exact finishes_pure _ t ⟨db, first, one, rfl, rfl⟩
  | none =>
      refine finishes_bind _ (alone_select (getAgentByCode user.tenantId "AGT-CLAUDE-CODE") one) (fun claudeCode t two => ?_)
      obtain ⟨rfl, two⟩ := two
      cases seeded : getAgentByCode user.tenantId "AGT-CLAUDE-CODE" db with
      | none => exact finishes_throw ⟨db, first, two, rfl, rfl⟩
      | some agent =>
          cases taken : codeTaken ref db with
          | true =>
              exact finishes_weaken (guarded_refused taken known two) (fun _ _ never => never.elim)
                (fun failure t ended => ⟨db, _, ended.2, congrArg Except.error ended.1, rfl⟩)
          | false =>
              have stored := ((get_agent_iff distinct user.tenantId "AGT-CLAUDE-CODE" agent).mp seeded).1
              have clear : Clear user.tenantId agent.1 ref db first := by
                refine ⟨below, untold, fun id row present fits => ?_, taken, by rw [stored]; rfl⟩
                have found := (get_session_iff distinct user.tenantId ref (id, row)).mpr ⟨present, fits⟩
                cases known.symm.trans found
              refine finishes_weaken (guarded_registers clear two) (fun reply t ended => ?_) (fun _ _ never => never)
              obtain ⟨replied, time, ended⟩ := ended
              exact ⟨_, _, ended, congrArg Except.ok replied, time, rfl⟩

end

-- The request, run from a state with nothing else under way, ends with this outcome.
def Gives (pid : Nat) (user : User) (ref : String) (s : Sys) (outcome : Outcome) : Prop :=
  Completes machine pid anyChoice (fun result t => Shows user.tenantId ref s.db s.nextId outcome result t.db)
    (getDbSession (registerSession user ref)).run s

def SameOutcome (pid : Nat) (user : User) (ref : String) (one two : Sys) : Prop :=
  ∃ outcome, Gives pid user ref one outcome ∧ Gives pid user ref two outcome

theorem register_gives (pid : Nat) (user : User) (ref : String) (s : Sys) (orderly : Orderly s) :
    Gives pid user ref s (outcomeOf user.tenantId ref s.db) :=
  get_db_session_alone (Shows user.tenantId ref s.db s.nextId (outcomeOf user.tenantId ref s.db))
    (register_session_alone orderly.distinct orderly.below (orderly.untold s.nextId (Nat.le_refl _))
      (calm_poised s orderly.toCalm pid).alone)

-- A request that is refused from a state has no other outcome from it.
theorem gives_refused {pid : Nat} {ref : String} {s : Sys} {failure : Failure} {outcome : Outcome}
    (refused : Gives pid user ref s (.refused failure)) (gives : Gives pid user ref s outcome) : outcome = .refused failure := by
  obtain ⟨-, result, t, -, ⟨error, -⟩, shown⟩ :=
    completes_drive _ s (completes_and s refused gives) (fun _ => {}) (fun _ => trivial)
  subst error
  cases outcome with
  | refused other => rw [Except.error.inj shown.1]
  | existing id => cases shown.1
  | registered agentId => cases shown.1

theorem same_outcome_symm (pid : Nat) (user : User) (ref : String) (one two : Sys) (same : SameOutcome pid user ref one two) :
    SameOutcome pid user ref two one := by
  obtain ⟨outcome, first, second⟩ := same
  exact ⟨outcome, second, first⟩

theorem refused_apart (pid : Nat) (user : User) (ref : String) (one two : Sys) (failure : Failure) (agentId : Nat)
    (refused : Gives pid user ref one (.refused failure)) (registered : Gives pid user ref two (.registered agentId)) :
    ¬SameOutcome pid user ref one two := by
  rintro ⟨outcome, first, second⟩
  obtain rfl := gives_refused refused first
  cases gives_refused second registered

-- Whether some mission has the code, of whichever tenant, is all that a registration
-- learns from the rows of the others.
theorem registration_same_iff (pid : Nat) (user : User) (ref : String) (one two : Sys) (orderly : Orderly one)
    (orderlyToo : Orderly two) (agree : Agree user.tenantId one.db two.db) :
    SameOutcome pid user ref one two ↔
      (getSession user.tenantId ref one.db).isSome = true ∨ getAgentByCode user.tenantId "AGT-CLAUDE-CODE" one.db = none ∨
        codeTaken ref one.db = codeTaken ref two.db := by
  have first := register_gives pid user ref one orderly
  have second := register_gives pid user ref two orderlyToo
  have session := agree_session agree orderly.distinct orderlyToo.distinct ref
  have agent := agree_agent agree orderly.distinct orderlyToo.distinct "AGT-CLAUDE-CODE"
  simp only [outcomeOf, ← session, ← agent] at first second
  cases known : getSession user.tenantId ref one.db with
  | some found =>
      rw [known] at first second
      exact iff_of_true ⟨_, first, second⟩ (.inl rfl)
  | none =>
      cases seeded : getAgentByCode user.tenantId "AGT-CLAUDE-CODE" one.db with
      | none =>
          rw [known, seeded] at first second
          exact iff_of_true ⟨_, first, second⟩ (.inr (.inl rfl))
      | some found =>
          rw [known, seeded] at first second
          cases taken : codeTaken ref one.db with
          | true =>
              rw [taken] at first
              cases takenToo : codeTaken ref two.db with
              | true =>
                  rw [takenToo] at second
                  exact iff_of_true ⟨_, first, second⟩ (.inr (.inr rfl))
              | false =>
                  rw [takenToo] at second
                  exact iff_of_false (refused_apart pid user ref one two .integrity found.1 first second) (by simp)
          | false =>
              rw [taken] at first
              cases takenToo : codeTaken ref two.db with
              | true =>
                  rw [takenToo] at second
                  refine iff_of_false (fun same => ?_) (by simp)
                  exact refused_apart pid user ref two one .integrity found.1 second first (same_outcome_symm pid user ref one two same)
              | false =>
                  rw [takenToo] at second
                  exact iff_of_true ⟨_, first, second⟩ (.inr (.inr rfl))

instance (key : Key) : DecidableEq (Row key) :=
  match key with
  | .modelPolicy _ => inferInstanceAs (DecidableEq ModelPolicy)
  | .agent _ => inferInstanceAs (DecidableEq Agent)
  | .agentVersion _ => inferInstanceAs (DecidableEq AgentVersion)
  | .mission _ => inferInstanceAs (DecidableEq Mission)
  | .project _ => inferInstanceAs (DecidableEq Project)
  | .missionProject _ => inferInstanceAs (DecidableEq MissionProject)
  | .task _ => inferInstanceAs (DecidableEq Task)
  | .artifact _ => inferInstanceAs (DecidableEq Artifact)
  | .modelInvocation _ => inferInstanceAs (DecidableEq ModelInvocation)
  | .checkpoint _ => inferInstanceAs (DecidableEq RuntimeCheckpoint)
  | .event _ => inferInstanceAs (DecidableEq AuditEvent)
  | .roomAssignment _ => inferInstanceAs (DecidableEq AgentRoomAssignment)
  | .session _ => inferInstanceAs (DecidableEq AgentRuntimeSession)
  | .personaSlot _ => inferInstanceAs (DecidableEq AgentRuntimePersonaSlot)
  | .closure _ => inferInstanceAs (DecidableEq AgentRuntimeClosure)

def agreeRows (tenantId : Nat) (first second : Db) : Bool :=
  (first.entries ++ second.entries).all (fun entry => ownRow tenantId first entry.1 = ownRow tenantId second entry.1)

theorem agree_of_rows (tenantId : Nat) (first second : Db) (checked : agreeRows tenantId first second = true) :
    Agree tenantId first second := by
  intro key
  by_cases named : ∃ row, (⟨key, row⟩ : Sigma Row) ∈ first.entries ++ second.entries
  · obtain ⟨row, member⟩ := named
    exact of_decide_eq_true (List.all_eq_true.mp checked ⟨key, row⟩ member)
  · have absent (db : Db) (within : db.entries ⊆ first.entries ++ second.entries) : db.lookup key = none :=
      Option.eq_none_iff_forall_ne_some.mpr (fun row stored => named ⟨row, within (AList.mem_lookup_iff.mp stored)⟩)
    rw [ownRow, ownRow, absent first (List.subset_append_left _ _), absent second (List.subset_append_right _ _)]
    rfl

theorem orderly_of_rows (db : Db) (nextId : Nat) (distinct : distinctRows schema db = true) (below : belowRows db nextId = true)
    (taskless : db.tasks = []) : Orderly { server := { db := db }, nextId := nextId } where
  staged := fun _ => rfl
  rows := fun _ => rfl
  keys := fun _ => rfl
  entries := fun _ => rfl
  shares := fun _ => rfl
  unused := fun id above => ⟨below_absent db nextId (below_of_rows db nextId below) (.closure id) id rfl above,
    below_absent db nextId (below_of_rows db nextId below) (.event id) id rfl above⟩
  distinct := distinct_of_rows schema db distinct
  below := below_of_rows db nextId below
  untold := fun id _ taskId task stored => by
    have member : (taskId, task) ∈ db.tasks := (mem_tasks db (taskId, task)).mpr stored
    rw [taskless] at member
    cases member

namespace Sample

def ref : String := "6f1f3f1e-0d5a-4d4c-9a3e-2b7c1d8e9f00"

-- Two tenants, each with its twin's agent.
def twoTenants : Db :=
  ((∅ : Db).insert (.agent 1) ⟨1, "AGT-CLAUDE-CODE", "Claude Code", .active, none⟩).insert
    (.agent 2) ⟨2, "AGT-CLAUDE-CODE", "Claude Code", .active, none⟩

def otherMission : Db := twoTenants.insert (.mission 3) ⟨2, "MSN-9", some 2, .draft⟩

def registers (user : User) (s : Sys) : Option (Except Failure Reply) × Sys :=
  let ended := machine.drive 0 (List.replicate 30 { time := 70 }) (getDbSession (registerSession user ref)).run s
  (ended.1.done, ended.2)

def neighbourFirst : Sys := (registers ⟨2, 2⟩ { server := { db := twoTenants }, nextId := 10 }).2

end Sample

theorem registration_same_beside_another :
    SameOutcome 0 ⟨1, 1⟩ Sample.ref { server := { db := Sample.twoTenants }, nextId := 10 }
      { server := { db := Sample.otherMission }, nextId := 10 } :=
  (registration_same_iff 0 ⟨1, 1⟩ Sample.ref _ _ (orderly_of_rows Sample.twoTenants 10 (by decide +kernel) (by decide +kernel) rfl)
    (orderly_of_rows Sample.otherMission 10 (by decide +kernel) (by decide +kernel) rfl)
    (agree_of_rows 1 Sample.twoTenants Sample.otherMission (by decide +kernel))).mpr (.inr (.inr (by decide +kernel)))

-- The neighbour has registered a session under the same ref: no row of the tenant
-- differs, and its own registration is a server error.
theorem neighbour_takes_ref :
    Agree 1 Sample.twoTenants Sample.neighbourFirst.db ∧
      (Sample.registers ⟨1, 1⟩ { server := { db := Sample.twoTenants }, nextId := 10 }).1 = some (.ok (.created 12)) ∧
      (Sample.registers ⟨1, 1⟩ Sample.neighbourFirst).1 = some (.error .integrity) :=
  ⟨agree_of_rows 1 Sample.twoTenants Sample.neighbourFirst.db (by decide +kernel), by decide +kernel, by decide +kernel⟩

end AiWorld.Api
