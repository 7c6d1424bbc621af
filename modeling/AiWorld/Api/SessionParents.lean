import AiWorld.Api.SessionRecords
import AiWorld.Schemas.Identifiers

set_option autoImplicit false

namespace AiWorld.Api

open AiWorld.Concurrency AiWorld.Database

variable {agentId : Nat} {request : Request}

def SessionStored (user : User) (ref : String) (id : Nat) : Db → Prop :=
  Stored (.session id) (fun row => row.tenantId = user.tenantId ∧ row.kind = .session ∧ row.externalSessionRef = ref)

theorem session_lasting {user : User} {ref : String} {id : Nat} : Lasting (SessionStored user ref id) := by
  refine stored_lasting rfl (fun before after pinned holds => ?_)
  rw [show after = _ from pinned]
  exact holds

theorem found_stored (user : User) (ref : String) (db : Db) (session : Loaded AgentRuntimeSession)
    (found : getSession user.tenantId ref db = some session) : SessionStored user ref session.1 db := by
  have member := List.mem_of_find?_eq_some found
  have fits := List.find?_some found
  exact ⟨session.2, (mem_sessions db session).mp member, of_decide_eq_true fits⟩

-- What a lookup by the ref says of the session it finds.
def Finds (pid : Nat) (user : User) (ref : String) (found : Option (Loaded AgentRuntimeSession)) (s : Sys) : Prop :=
  ∀ session, found = some session → Seen pid (SessionStored user ref session.1) s

-- A reply that stands for a session the transaction sees.
def Replies (pid : Nat) (user : User) (ref : String) (reply : Reply) (s : Sys) : Prop :=
  ∃ id, reply = .created id ∧ Seen pid (SessionStored user ref id) s

-- A registration inserts sessions with missions, and rolls back only in its handler.
abbrev registeringPowers : Powers := ⟨false, false, Missioned⟩

theorem registering_free : registeringPowers.Free := fun _ _ missioned => missioned

section
variable {pid : Nat} {request : Request} (user : User) (ref : String)

theorem recording_insert {fact : Db → Prop} {key : Key} {row : Row key} (fits : Missioned key row)
    (learns : ∀ db, db.lookup key = some row → fact db) :
    Raises recording.toContract pid request (fun _ => True) (insert key row) (fun _ => Seen pid fact) (fun _ _ => True) := by
  refine raises_bind (fun inserted s => inserted = true → Seen pid fact s)
    (recording_ask trivial fits (fun _ _ _ _ _ => trivial)
      (fun s choice inserted t _ _ executed done => learns _ ?_)) (fun inserted => ?_)
  · rcases exec_insert executed with ⟨refused, -⟩ | ⟨-, -, seen⟩
    · cases refused.symm.trans done
    · rw [seen]
      exact AList.lookup_insert _
  · cases inserted with
    | true => exact raises_pure _ (fun _ holds => holds rfl)
    | false => exact raises_throw _ (fun _ _ => trivial)

theorem recording_finds :
    Raises recording.toContract pid request (fun _ => True) (select (getSession user.tenantId ref)) (Finds pid user ref)
      (fun _ _ => True) :=
  recording_select (fun _ _ _ _ _ => trivial) (fun _ _ _ session found => found_stored user ref _ session found)

theorem recording_create_session :
    Raises recording.toContract pid request (fun _ => True) (createSession user.tenantId agentId ref)
      (fun created => Seen pid (SessionStored user ref created.1)) (fun _ _ => True) := by
  refine raises_bind _ (recording_writes (create_mission_writes registering_free)) (fun mission => ?_)
  refine raises_bind _ (recording_writes (mark_mission_writes : Writes registeringPowers Fine _)) (fun ready => ?_)
  refine raises_bind _ (recording_writes (start_mission_writes registering_free)) (fun started => ?_)
  refine raises_bind _ (recording_writes (ask_writes .newId plain : Writes registeringPowers Fine _)) (fun id => ?_)
  refine raises_bind _ (recording_writes (ask_writes .now plain : Writes registeringPowers Fine _)) (fun time => ?_)
  refine raises_bind _ (recording_insert rfl (fun db stored => ?_)) (fun _ =>
    raises_pure _ (fun _ holds => holds))
  exact ⟨_, stored, rfl, rfl, rfl⟩

theorem recording_reread {failure : Failure} :
    Raises recording.toContract pid request (fun _ => True) (rereadSession (getSession user.tenantId ref) failure)
      (Replies pid user ref) (fun _ _ => True) := by
  cases failure with
  | integrity =>
      refine raises_bind (fun _ _ => True) (recording_ask trivial trivial (fun _ _ _ _ _ => trivial)
        (fun _ _ _ _ _ _ _ => trivial)) (fun _ => ?_)
      refine raises_bind _ (recording_finds user ref) (fun existing => ?_)
      cases existing with
      | none => exact raises_throw _ (fun _ _ => trivial)
      | some session => exact raises_pure _ (fun _ holds => ⟨session.1, rfl, holds session rfl⟩)
  | _ => exact raises_throw _ (fun _ _ => trivial)

theorem publish_session_replies {created : Nat × StartMissionResult} :
    Writes registeringPowers (fun reply => reply = .created created.1) (publishSession user agentId created) :=
  issues_bind (publish_writes) (fun _ _ => issues_bind (publish_writes) (fun _ _ =>
    issues_bind (publish_writes) (fun _ _ =>
      issues_bind (publish_writes) (fun _ _ => issues_pure rfl))))

theorem recording_register_session :
    Raises recording.toContract pid request (fun _ => True) (registerSession user ref) (Replies pid user ref) (fun _ _ => True) := by
  refine raises_bind _ (recording_finds user ref) (fun existing => ?_)
  cases existing with
  | some session => exact raises_pure _ (fun _ holds => ⟨session.1, rfl, holds session rfl⟩)
  | none =>
      refine raises_bind (fun _ _ => True) (recording_select (fun s t holds moved inv => ?_) (fun _ _ _ => trivial))
        (fun claudeCode => ?_)
      · exact fun session same => (by cases same)
      cases claudeCode with
      | none => exact raises_throw _ (fun _ _ => trivial)
      | some agent =>
          refine raises_bind (Sum.elim (fun created => Seen pid (SessionStored user ref created.1)) (Replies pid user ref))
            (raises_catch (fun _ _ => True) (raises_map _ (recording_create_session user ref)) (fun failure =>
              raises_map _ (recording_reread user ref))) (fun result => ?_)
          cases result with
          | inl created =>
              exact raises_weaken (recording_keeps (publish_session_replies user)
                (session_lasting)) (fun _ holds => holds)
                (fun _ _ holds => ⟨created.1, holds.1, holds.2⟩) (fun _ _ _ => trivial)
          | inr reply => exact raises_pure _ (fun _ holds => holds)

-- The reply leaves after the commit.
theorem recording_session_route :
    Raises recording.toContract pid request (fun _ => True) (getDbSession (registerSession user ref))
      (fun reply s => ∃ id, reply = .created id ∧ Sure (SessionStored user ref id) s) (fun _ _ => True) := by
  refine raises_catch (fun _ _ => True) (raises_bind _ (recording_register_session user ref) (fun reply => raises_bind
    (fun _ s => ∃ id, reply = .created id ∧ Sure (SessionStored user ref id) s) ?_
    (fun _ => raises_pure _ (fun _ holds => holds)))) (fun failure => ?_)
  · refine recording_ask trivial trivial (fun s t holds moved inv => ?_)
      (fun s choice answer t before _ executed => ?_)
    · obtain ⟨id, same, seen⟩ := holds
      exact ⟨id, same, recording_seen (session_lasting) s t seen moved inv⟩
    · obtain ⟨id, same, seen⟩ := before
      cases executed
      exact ⟨id, same, seen⟩
  · exact raises_bind (fun _ _ => True) (recording_ask trivial trivial (fun _ _ _ _ _ => trivial)
      (fun _ _ _ _ _ _ _ => trivial)) (fun _ => raises_throw _ (fun _ _ => trivial))

end

def SessionKept : Request → Except Failure Reply → Db → Prop
  | .registerSession user ref, .ok reply, db => ∃ id, reply = .created id ∧ SessionStored user ref id db
  | _, _, _ => True

theorem session_kept_lasting {result : Except Failure Reply} : Lasting (SessionKept request result) := by
  intro before after grown holds
  cases request with
  | registerSession user ref =>
      cases result with
      | error failure => trivial
      | ok reply =>
          obtain ⟨id, same, stored⟩ := holds
          exact ⟨id, same, session_lasting before after grown stored⟩
  | _ => trivial

theorem recording_starts {pid : Nat} {s : Sys} :
    Safe recording.toContract pid request (fun result => Sure (SessionKept request result)) (program request) s := by
  by_cases registers : ∃ user ref, request = .registerSession user ref
  · obtain ⟨user, ref, rfl⟩ := registers
    refine safe_weaken (fun result t holds => ?_) _ s (recording_session_route user ref s trivial)
    cases result with
    | ok reply => exact holds
    | error failure => trivial
  · have writes := suited_route_writes ⟨isWorker request, true, Missioned⟩ ⟨rfl, rfl, fun _ _ _ missioned => missioned⟩
    refine safe_weaken (fun result t _ => ?_) _ s (recording_writes writes s trivial)
    cases request with
    | registerSession user ref => exact absurd ⟨user, ref, rfl⟩ registers
    | _ => trivial

abbrev RecordSound (system : System) : Prop := Sound recording (fun _ request result => Sure (SessionKept request result)) system

theorem record_boot (db : Db) (nextId : Nat) (queue : List Nat) (distinct : Distinct schema db)
    (missioned : ∀ id row, db.session id = some row → row.missionId.isSome = true) : RecordSound (boot db nextId queue) := by
  refine sound_start _ ⟨kept_boot recordRule db nextId queue, fun key row stored => ?_,
    unique_start (only_distinct Key.isSession distinct)⟩ (fun _ => ⟨rfl, trivial⟩)
  cases key with
  | session id => exact missioned id row stored
  | _ => trivial

theorem runs_recorded {start system : System} {actions : List Action} (run : Runs step Anything start actions system)
    (sound : RecordSound start) : RecordSound system := by
  have met : Runs step (Pool.Meets (fun _ => True) recording.guard recording.mayCrash) start actions system :=
    runs_weaken (fun before action _ => Pool.meets_always (fun _ => trivial) (fun _ _ _ _ => trivial) (fun _ _ => trivial) before
      action) run
  exact runs_sound (fun pid request result => recording_sure (session_kept_lasting))
    (fun pid request s _ _ _ => recording_starts) (fun _ request _ _ _ => by cases request <;> trivial) met sound

-- The parent that `_register_subagent` goes on with, and its mission.
def parentOf (user : User) (payload : SubagentPayload) (db : Db) : Option (Loaded AgentRuntimeSession × Nat) :=
  (getSession user.tenantId payload.parentExternalSessionRef db).bind (fun parent =>
    parent.2.missionId.map (fun missionId => (parent, missionId)))

namespace Sample

-- `uuid.UUID` on texts of hexadecimal digits and hyphens.
def readUuid (text : String) : Option Nat :=
  let digits := text.toList.filter (fun char => char ≠ '-')
  if digits.length = 32 then
    digits.foldl (fun value char => value.bind (fun number =>
      ((Projects.hexDigits.findIdx? (fun digit => digit = char.toLower)).map (fun digit => 16 * number + digit)))) (some 0)
  else none

def lower : String := "0b3a5c1e-7d2f-4a68-9c10-5e8f2b4d6a70"

def upper : String := "0B3A5C1E-7D2F-4A68-9C10-5E8F2B4D6A70"

def shop : Db := (∅ : Db).insert (.agent 1) ⟨1, "AGT-CLAUDE-CODE", "Claude Code", .active, none⟩

def opens : Schemas.AgentRuntimeSessionCreateRequest := ⟨.session, none, some lower, none, none⟩

def joins (parentRef : String) : Schemas.AgentRuntimeSessionCreateRequest :=
  ⟨.subagent, some "planner", none, some "agent-1", some parentRef⟩

def firstWith (parentRef : String) : SubagentPayload := ⟨some "planner", "agent-1", parentRef⟩

def sessionOpened (system : System) : Prop :=
  system.answer 0 = some (.registerSession member lower, some (.ok (.created 12)))

def parentMissing (system : System) : Prop :=
  system.answer 1 = some (.registerSubagent member (firstWith upper),
    some (.error (.http 404 "Parent session is not registered.")))

instance (system : System) : Decidable (sessionOpened system) := inferInstanceAs (Decidable (_ = _))

instance (system : System) : Decidable (parentMissing system) := inferInstanceAs (Decidable (_ = _))

end Sample

end AiWorld.Api
