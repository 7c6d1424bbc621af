import AiWorld.Api.RegisteringSubagent

set_option autoImplicit false

namespace AiWorld.Api

open AiWorld.Concurrency AiWorld.Database

section
variable {start : Db} {terms : Terms} {pid : Nat} {request : Request}

theorem commit_walks :
    Walks start terms pid request (Composed terms [] none pid) commit (fun _ _ => True) :=
  Regime.asks (.db .commit) _ (composed_stable) (fun s query _ _ same => by
    cases same
    exact respects_reading rfl) (fun s choice answer t composed kept inv _ executed =>
    ⟨commit_sustains kept inv composed executed, trivial⟩)

theorem db_session_walks {pre : Sys → Prop} {body : Route Reply}
    (walks : Walks start terms pid request pre body (fun _ s => Composed terms [] none pid s)) :
    Walks start terms pid request pre (getDbSession body) (fun _ _ => True) := by
  refine raises_catch (fun _ _ => True) ?_ (fun failure => ?_)
  · refine raises_bind _ walks (fun reply => ?_)
    exact raises_bind _ commit_walks (fun _ => raises_pure _ (fun _ _ => trivial))
  · refine raises_bind (fun _ => Unframed terms pid) (rollback_walks (fun _ _ _ _ _ => trivial) (fun _ _ _ _ => trivial)) (fun _ => ?_)
    exact raises_throw _ (fun _ _ => trivial)

-- The hook's closes, PATCH with its heartbeats and its end of a session, the reaper, and
-- the registration of subagents.
def runtimeRequest : Request → Bool
  | .updateSession _ _ _ => true
  | .closeSubagentByRef _ _ _ => true
  | .closeSubagentById _ _ _ => true
  | .reapSweep _ _ => true
  | .registerSubagent _ _ => true
  | _ => false

theorem runtime_request_safe {s : Sys} (joins : runtimeRequest request = true) (inv : (running start terms).inv s)
    (idle : (running start terms).idle pid s) : Safe (running start terms).toContract pid request (fun _ _ => True) (program request) s := by
  have composed : Composed terms [] none pid s := composed_begin inv.2 idle.1 idle.2
  have served {body : Route Reply} {pre : Sys → Prop} (before : pre s)
      (walks : Walks start terms pid request pre body (fun _ s => Composed terms [] none pid s)) :
      Safe (running start terms).toContract pid request (fun _ _ => True) (getDbSession body).run s :=
    safe_weaken (fun _ _ _ => trivial) _ s (db_session_walks walks s before)
  cases request with
  | updateSession user id outcome => exact served ⟨composed, trivial⟩ update_session_walks
  | closeSubagentByRef user ref payload => exact served ⟨composed, trivial⟩ close_by_ref_walks
  | closeSubagentById user id payload => exact served ⟨composed, trivial⟩ close_by_id_walks
  | reapSweep reapWindow batchSize => exact served ⟨composed, trivial⟩ reap_sweep_walks
  | registerSubagent user payload =>
      refine served ⟨composed, fun id member => ?_⟩ (raises_weaken (register_subagent_walks payload) (fun _ holds => holds)
        (fun _ _ holds => holds.1) (fun _ _ holds => holds))
      rw [stagedKeys, idle.1] at member
      cases member
  | _ => cases joins

end

section
variable (start : Db) (terms : Terms)

abbrev RuntimeSound (system : System) : Prop := Sound (running start terms) (fun _ _ _ _ => True) system

def RuntimeMeets : System → Action → Prop := Pool.Meets (fun request => runtimeRequest request = true) (running start terms).guard anyCrash

-- The rows of a database are those of an earlier one, in what the rule allows.
def Follows (before after : Db) : Prop := ∀ key, (runtimeRule terms).allows allLocks key (before.lookup key) (after.lookup key)

end

section
variable {start : Db} {terms : Terms} {system later : System} {actions : List Action}

theorem runtime_step (s t : System) (action : Action) (sound : RuntimeSound start terms s) (met : RuntimeMeets start terms s action)
    (stepped : step s action = some t) : RuntimeSound start terms t ∧ Follows terms s.db t.db := by
  obtain ⟨after, promised⟩ := pool_step_sound (D := running start terms) (fun _ _ _ _ _ _ _ _ => trivial)
    (fun _ _ s joins inv idle => runtime_request_safe joins inv idle) (fun _ _ _ _ _ => trivial) s t action sound met stepped
  refine ⟨after, ?_⟩
  cases action with
  | arrive request => exact fun key => by rw [System.db, System.db, promised]; exact runtime_cell_refl key _
  | step pid choice => exact promised.2.1
  | crash pid => exact promised.2.1

theorem runtime_runs (run : Runs step (RuntimeMeets start terms) system actions later) (sound : RuntimeSound start terms system) :
    RuntimeSound start terms later :=
  runs_invariant _ (fun s t action holds met stepped => (runtime_step s t action holds met stepped).1) run sound

theorem runtime_follows (run : Runs step (RuntimeMeets start terms) system actions later) (sound : RuntimeSound start terms system) :
    Follows terms system.db later.db :=
  runs_relates (RuntimeSound start terms) (fun s t => Follows terms s.db t.db) (fun _ key => runtime_cell_refl key _)
    (fun _ _ _ first second key => runtime_cell_trans (first key) (second key)) runtime_step run sound

end

-- The sessions and closures the system starts with.
structure Consistent (db : Db) : Prop where
  kin : Kin db
  owned : OfSubagents db
  paired : ∀ id, EndedIffClosed id db
  unique : Distinct closureSchema db

theorem runtime_boot (terms : Terms) (db : Db) (nextId : Nat) (queue : List Nat) (consistent : Consistent db)
    (sheltered : terms.parentsOpen → Sheltered db) (tasks : terms.parentsOpen → Tasks db) : RuntimeSound db terms (boot db nextId queue) := by
  refine sound_start _ ⟨kept_boot _ db nextId queue, ?_⟩ (fun _ => ⟨rfl, rfl⟩)
  exact {
    kin := consistent.kin
    owned := consistent.owned
    paired := consistent.paired
    unique := unique_start consistent.unique
    accounted := fun id => ⟨.inr ⟨fun closed => closed, rfl⟩, fun closureId row stored whose late => .inl ⟨row, stored, whose, late⟩⟩
    fine := fun call member => by cases member
    since := fun key => runtime_cell_refl key _
    sheltered := sheltered
    tasks := tasks }

-- A desk with one open session and one subagent of it.
def deskSession : AgentRuntimeSession := ⟨1, .session, some 1, some 3, some 4, "s-1", none, none, 0, none, none, none⟩

def deskSubagent : AgentRuntimeSession := ⟨1, .subagent, some 1, some 3, some 6, "s-1", some "a-1", some 5, 0, none, none, none⟩

def runtimeDesk : Db :=
  ((((((((∅ : Db).insert (.modelPolicy 0) ⟨1, "claude-code-external"⟩).insert
    (.agent 1) ⟨1, "AGT-CC-GENERAL", "Claude Code (general)", .active, some 2⟩).insert
    (.agentVersion 2) ⟨1, 1, "external_manual", 0⟩).insert
    (.mission 3) ⟨1, "s-1", some 1, .running⟩).insert
    (.task 4) ⟨3, 1, .running, 0, "3:task:1", none⟩).insert
    (.session 5) deskSession).insert
    (.task 6) ⟨3, 1, .queued, 0, "3:ar:a-1", none⟩).insert
    (.session 7) deskSubagent

def deskBoot : System := boot runtimeDesk 10 []

theorem desk_sessions {id : Nat} {row : AgentRuntimeSession} (stored : runtimeDesk.session id = some row) :
    (id = 7 ∧ row = deskSubagent) ∨ (id = 5 ∧ row = deskSession) := by
  have listed : (id, row) ∈ runtimeDesk.sessions := (mem_sessions runtimeDesk (id, row)).mpr stored
  rw [show runtimeDesk.sessions = [(7, deskSubagent), (5, deskSession)] by decide +kernel] at listed
  simpa using listed

theorem desk_unclosed (closureId : Nat) : runtimeDesk.closure closureId = none := by
  cases stored : runtimeDesk.closure closureId with
  | none => rfl
  | some row =>
      have listed : (closureId, row) ∈ runtimeDesk.closures := (mem_closures runtimeDesk (closureId, row)).mpr stored
      rw [show runtimeDesk.closures = [] by decide +kernel] at listed
      cases listed

theorem desk_consistent : Consistent runtimeDesk where
  kin := fun id row parentId stored named => by
    rcases desk_sessions stored with ⟨rfl, rfl⟩ | ⟨rfl, rfl⟩
    · cases named
      exact ⟨rfl, deskSession, by decide +kernel, rfl⟩
    · cases named
  owned := fun closureId row stored => by cases (desk_unclosed closureId).symm.trans stored
  paired := fun id row stored _ => by
    refine ⟨fun ⟨closureId, closure, present, _⟩ => ?_, fun ended => ?_⟩
    · cases (desk_unclosed closureId).symm.trans present
    · rcases desk_sessions stored with ⟨-, rfl⟩ | ⟨-, rfl⟩ <;> exact absurd rfl ended
  unique := distinct_of_rows closureSchema runtimeDesk (by decide +kernel)

end AiWorld.Api
