import AiWorld.Api.Growth

set_option autoImplicit false

namespace AiWorld.Api

open AiWorld.Concurrency AiWorld.Database

variable {pid : Nat} {stmt : Stmt}

-- When `create_agent` inserts its room, no committed row has taken the slot.
def slotIsFree (request : Request) (stmt : Stmt) (s : Sys) : Bool :=
  match request, stmt with
  | .createAgent _ _ _ _, .db (.insert (.roomAssignment id) row) => (schema.rivals (.roomAssignment id) row s.db).isEmpty
  | _, _ => true

def registering : Discipline machine Request :=
  growth (fun _ request stmt s => slotIsFree request stmt s = true) anyCrash (fun _ => True) (fun _ _ _ _ _ => trivial)

-- The transaction has staged no room, so it sees the committed ones.
def RoomsUnstaged (pid : Nat) (s : Sys) : Prop := ∀ write ∈ s.server.staged pid, ∀ id, write.key ≠ .roomAssignment id

def Making (pid : Nat) (fact : Db → Prop) (s : Sys) : Prop := Seen pid fact s ∧ RoomsUnstaged pid s

def roomless : Stmt → Prop
  | .db query => ∀ write, query.write = some write → ∀ id, write.key ≠ .roomAssignment id
  | _ => True

theorem move_rooms_unstaged {query : Database.Stmt Row CloseCall} {s t : Server Row Index CloseCall}
    (unstaged : ∀ write ∈ s.staged pid, ∀ id, write.key ≠ .roomAssignment id) (clear : roomless (.db query))
    (move : Move schema pid query s t) : ∀ write ∈ t.staged pid, ∀ id, write.key ≠ .roomAssignment id := by
  cases move with
  | none => exact unstaged
  | grab grab granted => exact unstaged
  | write grab write granted covered issued applies sharing =>
      intro staged member
      have origin : staged ∈ s.staged pid ∨ staged = write := by simpa [Server.stages] using member
      rcases origin with old | rfl
      · exact unstaged staged old
      · exact clear staged issued
  | note note issued => exact unstaged
  | commit issued => simp [Server.commits, Server.rollsBack]
  | rollback issued => simp [Server.rollsBack]

theorem exec_rooms_unstaged {choice : Choice} {s t : Sys} {answer : Ans stmt} (unstaged : RoomsUnstaged pid s)
    (clear : roomless stmt) (executed : exec pid stmt choice s = some (answer, t)) : RoomsUnstaged pid t := by
  rcases exec_moves executed with ⟨query, rfl, move⟩ | same
  · exact move_rooms_unstaged unstaged clear move
  · simpa only [RoomsUnstaged, same] using unstaged

theorem room_index_disjoint {place : Key} (other : Row place) (id : Nat) (row : AgentRoomAssignment)
    (elsewhere : ∀ room, place ≠ .roomAssignment room) (entry : Index) (occupies : entry ∈ indexed place other) :
    entry ∉ indexed (.roomAssignment id) row := by
  intro member
  have room := indexed_on (.roomAssignment id) row entry member
  have here := indexed_on place other entry occupies
  cases place with
  | roomAssignment number => exact elsewhere number rfl
  | _ => cases entry <;> simp [Index.on] at room here

-- Only the room assignments matter for a room that is to be inserted.
theorem rivals_rooms {id : Nat} {row : AgentRoomAssignment} {seen : Db} (committed : Db)
    (same : ∀ room, seen.lookup (.roomAssignment room) = committed.lookup (.roomAssignment room))
    (unrivalled : schema.rivals (.roomAssignment id) row committed = []) :
    schema.rivals (.roomAssignment id) row seen = [] := by
  simp only [Schema.rivals, List.map_eq_nil_iff, List.filter_eq_nil_iff] at unrivalled ⊢
  rintro ⟨place, other⟩ present
  by_cases room : ∃ room, place = .roomAssignment room
  · obtain ⟨room, rfl⟩ := room
    refine unrivalled ⟨.roomAssignment room, other⟩ (AList.mem_lookup_iff.mp ?_)
    exact (same room) ▸ AList.mem_lookup_iff.mpr present
  · have elsewhere : ∀ room, place ≠ .roomAssignment room := fun number here => room ⟨number, here⟩
    simp only [decide_eq_true_eq, List.any_eq_true, not_or, not_exists, not_and]
    exact ⟨elsewhere id, room_index_disjoint other id row elsewhere⟩

theorem new_assignment_valid (tenantId agentId id : Nat) (occupied : List Nat) (db : Db) :
    schema.valid (.roomAssignment id) (newAssignment tenantId agentId occupied) db = true := by
  simp only [schema, valid, newAssignment, slotToRoom, roomsPerFloor, decide_eq_true_eq]
  omega

section
variable {pid : Nat} {request : Request} {fact : Db → Prop} {raised : Failure → Sys → Prop}

theorem making_stable (lasting : Lasting fact) : Stable registering.toContract pid (Making pid fact) := by
  intro s t holds moved inv
  refine ⟨seen_stable lasting s t holds.1 moved inv, ?_⟩
  unfold RoomsUnstaged
  rw [moved.undisturbed.staged]
  exact holds.2

theorem making_ask (lasting : Lasting fact) (post : Ans stmt → Db → Prop) (pins : pinsColumns stmt)
    (forward : stmt ≠ .db .rollback) (clear : roomless stmt)
    (learns : ∀ s choice answer t, fact (t.server.view pid) → exec pid stmt choice s = some (answer, t) →
      post answer (t.server.view pid)) :
    Raises registering.toContract pid request (Making pid fact) (ask stmt) (fun answer => Making pid (post answer)) raised := by
  refine growth_ask pins (making_stable lasting) (fun s choice answer t before _ _ _ executed => ⟨trivial, ?_, ?_⟩)
  · have still := lasting _ _ (exec_view_extends pid stmt s t answer pins forward executed) before.1
    exact learns s choice answer t still executed
  · exact exec_rooms_unstaged before.2 clear executed

theorem making_select (lasting : Lasting fact) {α : Type} {query : Db → α} :
    Raises registering.toContract pid request (Making pid fact) (select query) (fun _ => Making pid fact) raised :=
  raises_bind (fun _ => Making pid fact)
    (making_ask lasting (fun _ => fact) trivial nofun nofun (fun _ _ _ _ still _ => still))
    (fun _ => raises_pure _ (fun _ holds => holds))

theorem making_new_id (lasting : Lasting fact) :
    Raises registering.toContract pid request (Making pid fact) newId (fun _ => Making pid fact) raised :=
  making_ask lasting (fun _ => fact) trivial nofun trivial (fun _ _ _ _ still _ => still)

theorem making_update (lasting : Lasting fact) {key : Key} {loaded : Row key} {columns : Row key → Row key}
    (pins : ∀ row, PinMoves key (some row) (some (columns row))) (elsewhere : ∀ id, key ≠ .roomAssignment id) :
    Raises registering.toContract pid request (Making pid fact) (update key loaded columns) (fun _ => Making pid fact)
      raised :=
  making_ask lasting (fun _ => fact) pins nofun (fun _ issued => by cases issued; exact elsewhere)
    (fun _ _ _ _ still _ => still)

theorem making_insert (lasting : Lasting fact) (key : Key) (row : Row key) (elsewhere : ∀ id, key ≠ .roomAssignment id)
    (other : Db → Prop) (learns : ∀ db, db.lookup key = some row → other db) :
    Raises registering.toContract pid request (Making pid fact) (insert key row)
      (fun _ => Making pid (fun db => fact db ∧ other db)) (fun _ _ => True) := by
  refine raises_bind (fun inserted => Making pid (fun db => inserted = true → fact db ∧ other db))
    (making_ask lasting _ trivial nofun (fun _ issued => by cases issued; exact elsewhere)
      (fun s choice inserted t still executed done => ⟨still, learns _ ?_⟩)) (fun inserted => ?_)
  · rcases exec_insert executed with ⟨refused, -⟩ | ⟨-, -, seen⟩
    · cases refused.symm.trans done
    · rw [seen]
      exact AList.lookup_insert _
  · cases inserted with
    | true => exact raises_pure _ (fun _ holds => ⟨holds.1 rfl, holds.2⟩)
    | false => exact raises_throw _ (fun _ _ => trivial)

end

def AgentStored (user : User) (agentCode displayName : String) (id : Nat) : Db → Prop :=
  Stored (.agent id) (fun row =>
    row.tenantId = user.tenantId ∧ row.agentCode = agentCode ∧ row.displayName = displayName)

def VersionStored (payload : VersionPayload) (id : Nat) (db : Db) : Prop :=
  ∃ versionId, Stored (.agentVersion versionId)
    (fun row => row = ⟨id, 1, payload.runtimeAdapter, payload.modelPolicyId⟩) db

def EventStored (event : AuditEvent) (db : Db) : Prop := ∃ id, Stored (.event id) (fun row => row = event) db

-- What a 201 of `create_agent` stands for.
structure Registered (user : User) (agentCode displayName : String) (payload : VersionPayload) (id : Nat) (db : Db) :
    Prop where
  agent : AgentStored user agentCode displayName id db
  version : VersionStored payload id db
  created : EventStored ⟨user.tenantId, .agentCreated, none, none, some id, none⟩ db
  versionCreated : EventStored ⟨user.tenantId, .agentVersionCreated, none, none, some id, none⟩ db

theorem agent_lasting (user : User) (agentCode displayName : String) (id : Nat) :
    Lasting (AgentStored user agentCode displayName id) := by
  refine stored_lasting rfl (fun before after pinned holds => ?_)
  rw [show after = _ from pinned]
  exact holds

theorem version_lasting (payload : VersionPayload) (id : Nat) : Lasting (VersionStored payload id) :=
  lasting_exists (fun _ => stored_lasting rfl (fun _ _ pinned holds => pinned.trans holds))

theorem event_lasting (event : AuditEvent) : Lasting (EventStored event) :=
  lasting_exists (fun _ => stored_lasting rfl (fun _ _ pinned holds => pinned.trans holds))

theorem registered_lasting (user : User) (agentCode displayName : String) (payload : VersionPayload) (id : Nat) :
    Lasting (Registered user agentCode displayName payload id) :=
  fun before after grown holds =>
    ⟨agent_lasting user agentCode displayName id before after grown holds.agent,
      version_lasting payload id before after grown holds.version,
      event_lasting _ before after grown holds.created, event_lasting _ before after grown holds.versionCreated⟩

section
variable {pid : Nat} {user : User} {agentCode displayName : String} {payload : VersionPayload} {id : Nat}

theorem making_publish {request : Request} {fact : Db → Prop} (lasting : Lasting fact) {eventType : EventType} {tenantId : Nat}
    {missionId taskId agentId : Option Nat} :
    Raises registering.toContract pid request (Making pid fact) (publish eventType tenantId missionId taskId agentId)
      (fun _ => Making pid (fun db => fact db ∧ EventStored ⟨tenantId, eventType, missionId, taskId, agentId, none⟩ db))
      (fun _ _ => True) :=
  raises_bind (fun _ => Making pid fact) (making_new_id lasting) (fun id =>
    making_insert lasting (.event id) _ nofun _ (fun _ stored => ⟨id, _, stored, rfl⟩))

theorem making_room {raised : Failure → Sys → Prop} {roomId : Nat} {occupied : List Nat} :
    Raises registering.toContract pid (.createAgent user agentCode displayName payload)
      (Making pid (Registered user agentCode displayName payload id))
      (tryInsert (.roomAssignment roomId) (newAssignment user.tenantId id occupied))
      (fun inserted s => inserted = true ∧ Seen pid (Registered user agentCode displayName payload id) s) raised := by
  have lasting := registered_lasting user agentCode displayName payload id
  refine growth_ask trivial (making_stable lasting) (fun s choice inserted t before _ _ free executed => ⟨trivial, ?_, ?_⟩)
  · rcases exec_insert executed with ⟨-, refused, -⟩ | ⟨done, -, -⟩
    · have unrivalled : schema.rivals (.roomAssignment roomId) (newAssignment user.tenantId id occupied)
          (s.server.view pid) = [] := by
        refine rivals_rooms s.db (fun room => ?_) (by simpa [slotIsFree] using free)
        exact lookup_replay_untouched _ (fun write member => before.2 write member room)
      obtain ⟨agent, stored, -⟩ := before.1.agent
      have accepted : schema.accepts (.roomAssignment roomId) (newAssignment user.tenantId id occupied)
          (s.server.view pid) = true := by
        simp only [Schema.accepts, unrivalled, new_assignment_valid, Bool.and_eq_true, List.all_eq_true, List.isEmpty_nil,
          true_and]
        intro reference member
        obtain rfl : reference = .agent id := by simpa [schema, references, newAssignment] using member
        rw [stored]
        rfl
      exact absurd (refused.symm.trans accepted) Bool.false_ne_true
    · exact done
  · exact lasting _ _ (exec_view_extends pid _ s t inserted trivial (by simp) executed) before.1

theorem making_allocate {attempts : Nat} :
    Raises registering.toContract pid (.createAgent user agentCode displayName payload)
      (Making pid (Registered user agentCode displayName payload id)) (allocate user.tenantId id attempts)
      (fun _ => Seen pid (Registered user agentCode displayName payload id))
      (fun _ => Seen pid (Registered user agentCode displayName payload id)) := by
  have lasting := registered_lasting user agentCode displayName payload id
  cases attempts with
  | zero => exact raises_pure _ (fun _ holds => holds.1)
  | succ attempts =>
      refine raises_bind _ (making_select lasting) (fun existing => ?_)
      cases existing with
      | some assignment => exact raises_pure _ (fun _ holds => holds.1)
      | none =>
          refine raises_bind _ (making_select lasting) (fun occupied => raises_bind _ (making_new_id lasting)
            (fun roomId => raises_bind _ (making_room) (fun inserted => ?_)))
          -- The INSERT cannot fail, so the branch that rolls back is never taken.
          cases inserted with
          | true => exact raises_pure _ (fun _ holds => holds.2)
          | false => exact fun _ holds => absurd holds.1 Bool.false_ne_true

theorem making_try_room :
    Raises registering.toContract pid (.createAgent user agentCode displayName payload)
      (Making pid (Registered user agentCode displayName payload id))
      (tryRoomAssignment (ensureAssignment user.tenantId id))
      (fun _ => Seen pid (Registered user agentCode displayName payload id)) (fun _ _ => True) := by
  refine raises_catch (fun _ => Seen pid (Registered user agentCode displayName payload id)) ?_
    (fun failure => raises_pure _ (fun _ holds => holds))
  exact raises_bind _ (raises_catch _ (making_allocate) (fun failure =>
    raises_pure _ (fun _ holds => holds))) (fun _ => raises_pure _ (fun _ holds => holds))

theorem making_require_policy (modelPolicyId tenantId : Nat) (request : Request) :
    Raises registering.toContract pid request (Making pid (fun _ => True)) (requireTenantModelPolicy modelPolicyId tenantId)
      (fun _ => Making pid (fun _ => True)) (fun _ _ => True) := by
  refine raises_bind _ (making_select (fun _ _ _ holds => holds)) (fun policy => ?_)
  cases policy with
  | none => exact raises_throw _ (fun _ _ => trivial)
  | some policy => exact raises_pure _ (fun _ holds => holds)

theorem making_create_agent :
    Raises registering.toContract pid (.createAgent user agentCode displayName payload) (Making pid (fun _ => True))
      (createAgent user agentCode displayName payload)
      (fun reply s => ∃ id, reply = .created id ∧ Seen pid (Registered user agentCode displayName payload id) s)
      (fun _ _ => True) := by
  refine raises_bind _ (making_require_policy payload.modelPolicyId user.tenantId _) (fun _ =>
    raises_bind _ (making_new_id (fun _ _ _ holds => holds)) (fun id => ?_))
  have none : Lasting (fun _ => True) := fun _ _ _ holds => holds
  have agent := lasting_and none (agent_lasting user agentCode displayName id)
  have version := lasting_and agent (version_lasting payload id)
  have created := lasting_and version (event_lasting ⟨user.tenantId, .agentCreated, .none, .none, some id, .none⟩)
  refine raises_bind _ (making_insert none (.agent id) _ nofun (AgentStored user agentCode displayName id)
    (fun _ stored => ⟨_, stored, rfl, rfl, rfl⟩)) (fun _ => ?_)
  refine raises_bind _ (making_new_id agent) (fun versionId => ?_)
  refine raises_bind _ (making_insert agent (.agentVersion versionId) _ nofun (VersionStored payload id)
    (fun _ stored => ⟨versionId, _, stored, rfl⟩)) (fun _ => ?_)
  refine raises_bind _ (making_update version (fun _ => rfl) nofun) (fun _ => ?_)
  refine raises_bind _ (making_publish version) (fun _ => ?_)
  refine raises_bind _ (making_publish created) (fun _ => ?_)
  refine raises_bind _ (raises_weaken making_try_room (fun s holds => ?_) (fun _ _ holds => holds) (fun _ _ _ => trivial))
    (fun _ => raises_pure _ (fun _ holds => ⟨id, rfl, holds⟩))
  obtain ⟨⟨⟨⟨⟨-, stored⟩, versioned⟩, announced⟩, versionAnnounced⟩, unstaged⟩ := holds
  exact ⟨⟨stored, versioned, announced, versionAnnounced⟩, unstaged⟩

end

-- The reply leaves after the commit.
theorem registering_create_agent {user : User} {agentCode displayName : String} {payload : VersionPayload} :
    Raises registering.toContract pid (.createAgent user agentCode displayName payload) (Making pid (fun _ => True))
      (getDbSession (createAgent user agentCode displayName payload))
      (fun reply s => ∃ id, reply = .created id ∧ Sure (Registered user agentCode displayName payload id) s)
      (fun _ _ => True) := by
  refine raises_catch (fun _ _ => True) (raises_bind _ making_create_agent (fun reply => raises_bind
    (fun _ s => ∃ id, reply = .created id ∧ Sure (Registered user agentCode displayName payload id) s) ?_
    (fun _ => raises_pure _ (fun _ holds => holds)))) (fun failure => ?_)
  · refine growth_ask trivial (fun s t holds moved inv => ?_) (fun s choice answer t before _ _ _ executed => ⟨trivial, ?_⟩)
    · obtain ⟨id, same, seen⟩ := holds
      exact ⟨id, same, seen_stable (registered_lasting user agentCode displayName payload id) s t seen moved inv⟩
    · obtain ⟨id, same, seen⟩ := before
      cases executed
      exact ⟨id, same, seen⟩
  · exact raises_bind (fun _ _ => True) (growth_ask trivial (fun _ _ _ _ _ => trivial)
      (fun _ _ _ _ _ _ _ _ _ => ⟨trivial, trivial⟩)) (fun _ => raises_throw _ (fun _ _ => trivial))

def Delivered : Request → Except Failure Reply → Db → Prop
  | .createAgent user agentCode displayName payload, .ok reply, db =>
      ∃ id, reply = .created id ∧ Registered user agentCode displayName payload id db
  | _, _, _ => True

theorem delivered_lasting (request : Request) (result : Except Failure Reply) : Lasting (Delivered request result) := by
  intro before after grown holds
  cases request with
  | createAgent user agentCode displayName payload =>
      cases result with
      | error failure => trivial
      | ok reply =>
          obtain ⟨id, same, registered⟩ := holds
          exact ⟨id, same, registered_lasting user agentCode displayName payload id before after grown registered⟩
  | _ => trivial

theorem registering_starts (pid : Nat) (request : Request) (s : Sys) (idle : s.server.staged pid = []) :
    Safe registering.toContract pid request (fun result => Sure (Delivered request result)) (program request) s := by
  by_cases create : ∃ user agentCode displayName payload, request = .createAgent user agentCode displayName payload
  · obtain ⟨user, agentCode, displayName, payload, rfl⟩ := create
    refine safe_weaken (fun result t holds => ?_) _ s
      (registering_create_agent s ⟨trivial, by simp [RoomsUnstaged, idle]⟩)
    cases result with
    | ok reply => exact holds
    | error failure => trivial
  · have walk : Triple registering.toContract pid request (fun _ => True) (program request)
        (fun result _ => Returned Fine result ∧ True) :=
      triple_issues (fun _ _ _ _ _ => trivial) (fun (stmt : Stmt) s choice answer t fine _ inv _ executed =>
        ⟨growth_guarantees inv.1 fine.2.1 trivial executed, trivial⟩) (route_writes)
    refine safe_weaken (fun result t _ => ?_) _ s (walk s trivial)
    cases request with
    | createAgent user agentCode displayName payload => exact absurd ⟨user, agentCode, displayName, payload, rfl⟩ create
    | _ => trivial

-- Every room INSERT of a `create_agent` finds its slot free.
def SlotsFree : System → Action → Prop :=
  Pool.Meets (fun _ => True) (fun _ request stmt s => slotIsFree request stmt s = true) anyCrash

theorem created_agents_stay_registered (db : Db) (nextId : Nat) (queue : List Nat) (actions : List Action) (system : System)
    (run : Runs step SlotsFree (boot db nextId queue) actions system) (pid : Nat) (user : User)
    (agentCode displayName : String) (payload : VersionPayload) (reply : Reply)
    (returned : system.procs[pid]? = some (.createAgent user agentCode displayName payload, .ret (.ok reply))) :
    ∃ id, reply = .created id ∧ Registered user agentCode displayName payload id system.db := by
  have sound : Sound registering (fun _ request result => Sure (Delivered request result)) system :=
    runs_sound (fun pid request result => sure_stable (delivered_lasting request result))
      (fun pid request s _ _ idle => registering_starts pid request s idle)
      (fun _ request _ _ _ => by cases request <;> trivial) run
      (sound_start _ ⟨growth_boot db nextId queue, trivial⟩ (fun _ => rfl))
  exact sound.safe pid _ _ returned

def registration (agentCode : String) : Request := .createAgent member agentCode "Agent" ⟨customDurable, 0⟩

-- The registration has been answered with a 201.
def answered (pid : Nat) (agentCode : String) (id : Nat) (system : System) : Bool :=
  match system.procs[pid]? with
  | some (.createAgent user code displayName payload, .ret (.ok reply)) =>
      user = member ∧ code = agentCode ∧ displayName = "Agent" ∧ payload = ⟨customDurable, 0⟩ ∧ reply = .created id
  | _ => false

theorem answered_entry (pid : Nat) (agentCode : String) (id : Nat) (system : System)
    (shown : answered pid agentCode id system = true) :
    system.procs[pid]? = some (registration agentCode, .ret (.ok (.created id))) := by
  unfold answered at shown
  split at shown
  next user code displayName payload reply entry =>
    obtain ⟨rfl, rfl, rfl, rfl, rfl⟩ := of_decide_eq_true shown
    exact entry
  next => cases shown

theorem created_agent_registered_alone :
    ∃ system, Runs step SlotsFree (boot office 10 []) (.arrive (registration "AGT-2") :: turns 0 15) system ∧
      Registered member "AGT-2" "Agent" ⟨customDurable, 0⟩ 10 system.db := by
  obtain ⟨system, run, shown⟩ := checked_exhibit step
    (Pool.checks (fun _ => true) (fun _ => slotIsFree) (fun _ _ => true))
    (fun system action checked => by simpa [SlotsFree] using Pool.meets_of_checks _ _ _ system action checked)
    (answered 0 "AGT-2" 10) (boot office 10 []) (.arrive (registration "AGT-2") :: turns 0 15) (by decide +kernel)
  obtain ⟨id, same, registered⟩ := created_agents_stay_registered office 10 [] _ system run 0 member "AGT-2" "Agent"
    ⟨customDurable, 0⟩ (.created 10) (answered_entry 0 "AGT-2" 10 system shown)
  cases same
  exact ⟨system, run, registered⟩

-- Both have read the same free slot. The second one's INSERT collides once the first
-- has committed, its rollback takes the agent along, and all its retries fail on the
-- missing agent. It answers 201 for agent 14.
theorem collision_loses_created_agent :
    ∃ system, Runs step Anything (boot office 10 [])
        (.arrive (registration "AGT-2") :: .arrive (registration "AGT-3") :: turns 0 12 ++ turns 1 12 ++ turns 0 3 ++ turns 1 79)
        system ∧
      answered 1 "AGT-3" 14 system = true ∧ system.db.agent 14 = none := by
  obtain ⟨system, run, shown⟩ := runs_exhibit step
    (fun system => answered 1 "AGT-3" 14 system && (system.db.agent 14).isNone) (boot office 10 [])
    (.arrive (registration "AGT-2") :: .arrive (registration "AGT-3") :: turns 0 12 ++ turns 1 12 ++ turns 0 3 ++ turns 1 79)
    (by decide +kernel)
  have both : answered 1 "AGT-3" 14 system = true ∧ system.db.agent 14 = none := by simpa using shown
  exact ⟨system, run, both⟩

end AiWorld.Api
