import AiWorld.Api.EndingSession

set_option autoImplicit false

namespace AiWorld.Api

open AiWorld.Concurrency AiWorld.Database

variable {sessions : List (Loaded AgentRuntimeSession)} {payload : ClosePayload} {user : User} {batchSize id : Nat}

section
variable {start : Db} {terms : Terms} {pid : Nat} {s : Sys}

-- A transaction that has done nothing sees what is committed.
theorem composed_begin (inv : Runtime start terms s) (staged : s.server.staged pid = []) (pending : s.server.pending pid = []) :
    Composed terms [] none pid s := by
  have view : s.sees pid = s.db := clean_view staged
  constructor
  · exact view ▸ inv.kin
  · exact view ▸ inv.owned
  · exact fun id _ => view ▸ inv.paired id
  · intro id _
    rw [pending, view]
    exact ⟨.inr ⟨fun closed => closed, rfl⟩, fun closureId row stored whose late => .inl ⟨row, stored, whose, late⟩⟩
  · rw [pending]
    simp
  · rw [pending]
    simp
  · exact fun asked => view ▸ inv.sheltered asked
  · intro asked
    have tasks := inv.tasks asked
    refine ⟨view ▸ tasks, ?_, ?_⟩
    · rw [staged]
      simp
    · intro id row stored absent
      rw [view, absent] at stored
      cases stored

end

section
variable {start : Db} {terms : Terms} {pid : Nat} {request : Request} {frame : Sys → Prop}

-- All the sessions of a list are what was read of them.
def KnowsAll (pid : Nat) (sessions : List (Loaded AgentRuntimeSession)) (s : Sys) : Prop :=
  ∀ session ∈ sessions, Known pid session.1 session.2 s

theorem knows_all_carried (sessions : List (Loaded AgentRuntimeSession)) : Carried (Lasts pid) (KnowsAll pid sessions) :=
  fun s t holds lasts session member => known_carried s t (holds session member) lasts

theorem session_or_404_walks {tenantId : Nat} :
    Walks start terms pid request (Unframed terms pid) (sessionOr404 id tenantId)
      (fun session => InOrder terms pid (Known pid id session)) := by
  refine raises_bind (fun (found : Option AgentRuntimeSession) => InOrder terms pid (fun s => ∀ session, found = some session → Known pid id session s))
    (framed_select _ (fun _ _ _ _ => trivial) (fun s composed _ _ _ => ⟨composed, fun session found => ?_⟩)) (fun found => ?_)
  · obtain ⟨stored, -⟩ := Option.filter_eq_some_iff.mp found
    exact ⟨session, stored, pinned_refl (.session id) session⟩
  · cases found with
    | none => exact walks_throw
    | some session => exact raises_pure _ (fun s holds => ⟨holds.1, holds.2 session rfl⟩)

-- A heartbeat leaves the end state alone.
theorem heartbeat_walks {session : AgentRuntimeSession} :
    Walks start terms pid request (InOrder terms pid (Known pid id session))
      (do
        let time ← now
        update (.session id) session (fun session => { session with lastHeartbeatAt := some time })
        return Reply.ok id)
      (fun _ s => Composed terms [] none pid s) := by
  have stays : Carried (Stays terms pid) (Known pid id session) := stays_of_lasts (known_carried)
  refine raises_bind _ (framed_now stays) (fun (time : Nat) => ?_)
  refine raises_bind (fun _ s => Composed terms [] none pid s) (running_ask (framed_stable stays) ?_ ?_
    (fun same => by cases same) ?_) (fun _ => raises_done)
  · rintro s query kept ⟨-, row, stored, -⟩ same
    cases same
    refine respects_own (runtime_rule_trans terms) kept.2 (fun write sets _ => ?_)
    cases sets
    change SessionCell _ _ id ((s.sees pid).session id) (((s.sees pid).session id).map _)
    rw [stored]
    exact ⟨rfl, fun ended => ended, .inl rfl, fun _ _ => .inl rfl⟩
  · intro query write same sets
    cases same
    cases sets
    exact shrinks_apart (fun id same => by cases same)
  · rintro s choice answer t ⟨composed, row, stored, -⟩ kept inv - executed
    rcases exec_update executed with ⟨absent, -⟩ | ⟨-, appends⟩
    · cases absent.symm.trans stored
    have sets : Sets pid id (fun session => { session with lastHeartbeatAt := some time }) row s t := ⟨appends, stored, rfl, fun ended => ended⟩
    refine composed_session sets composed (fun free found present kind => ?_) (fun _ _ unended ended => absurd unended ended)
      (fun _ _ unended ended => absurd unended ended)
    rw [← Option.some.inj ((sets_here sets).symm.trans present)] at kind ⊢
    rw [Closed, (sets_apart sets).1]
    exact composed.paired id free row stored kind

theorem update_session_walks {outcome : Option AgentRuntimeOutcome} :
    Walks start terms pid request (Unframed terms pid) (updateSession user id outcome)
      (fun _ s => Composed terms [] none pid s) := by
  refine raises_bind _ (session_or_404_walks) (fun session => ?_)
  cases outcome with
  | none => exact heartbeat_walks
  | some outcome =>
      cases kind : session.kind with
      | subagent => simpa only [kind] using walks_throw
      | session =>
          refine raises_bind (fun _ => Unframed terms pid) (raises_before (end_session_walks (.inr rfl) kind (fun _ _ _ _ => trivial)) (fun s holds => ⟨holds.1, trivial, holds.2⟩)) (fun _ => ?_)
          exact raises_pure _ (fun s holds => holds.1)

theorem close_resolved_walks {found : Option (Loaded AgentRuntimeSession)} :
    Walks start terms pid request (InOrder terms pid (KnowsAll pid found.toList))
      (closeResolved user found payload) (fun _ s => Composed terms [] none pid s) := by
  cases found with
  | none => exact walks_throw
  | some session =>
      unfold closeResolved
      cases kind : session.2.kind with
      | session => simpa only [kind] using walks_throw
      | subagent =>
          simp only [kind]
          refine raises_bind (fun _ => Unframed terms pid) (raises_weaken (close_task_walks .hook
            payload (.inr rfl) kind (fun _ _ _ _ => trivial))
            (fun s holds => ⟨holds.1, trivial, holds.2 session (List.mem_singleton.mpr rfl)⟩) (fun _ s holds => ⟨holds.1, trivial⟩)
            (fun _ _ holds => holds)) (fun (result : Option Nat × Bool) => ?_)
          cases closed : result.1 with
          | none => simpa only [closed] using walks_throw
          | some closureId => simpa only [closed] using raises_pure _ (fun s holds => holds.1)

theorem close_by_ref_walks {ref : String} :
    Walks start terms pid request (Unframed terms pid) (closeSubagentByRef user ref payload)
      (fun _ s => Composed terms [] none pid s) := by
  refine raises_bind (fun (found : Option (Loaded AgentRuntimeSession)) s => Composed terms [] none pid s ∧ KnowsAll pid found.toList s)
    (framed_select _ (fun _ _ _ _ => trivial) (fun s composed _ _ _ => ⟨composed, fun session member => ?_⟩))
    (fun found => close_resolved_walks)
  have listed := List.mem_of_find?_eq_some (Option.mem_toList.mp member)
  exact ⟨session.2, (mem_sessions _ _).mp listed, pinned_refl (.session session.1) session.2⟩

theorem close_by_id_walks :
    Walks start terms pid request (Unframed terms pid) (closeSubagentById user id payload)
      (fun _ s => Composed terms [] none pid s) := by
  refine raises_bind (fun (found : Option AgentRuntimeSession) => InOrder terms pid (KnowsAll pid (found.map (Prod.mk id)).toList))
    (framed_select _ (fun _ _ _ _ => trivial) (fun s composed _ _ _ => ⟨composed, fun session member => ?_⟩))
    (fun found => close_resolved_walks)
  obtain ⟨row, found, rfl⟩ := Option.map_eq_some_iff.mp (Option.mem_toList.mp member)
  obtain ⟨stored, -⟩ := Option.filter_eq_some_iff.mp found
  exact ⟨row, stored, pinned_refl (.session id) row⟩

theorem session_rows_seen {db : Db} {keys : List Key} {session : Loaded AgentRuntimeSession}
    (member : session ∈ sessionRows (keys.filterMap (fun key => (db.lookup key).map (Sigma.mk key)))) :
    Key.session session.1 ∈ keys ∧ db.session session.1 = some session.2 := by
  obtain ⟨⟨key, row⟩, present, same⟩ := List.mem_filterMap.mp member
  obtain ⟨found, listed, stored⟩ := List.mem_filterMap.mp present
  obtain ⟨seen, looked, paired⟩ := Option.map_eq_some_iff.mp stored
  cases paired
  cases key with
  | session id =>
      cases same
      exact ⟨listed, looked⟩
  | _ => cases same

-- The rows of a batch are rows the reaper sees, and rows it has asked for.
theorem skip_locked_walks (wanted : Db → List (Loaded AgentRuntimeSession)) (fits : Loaded AgentRuntimeSession → Prop)
    (stored : ∀ db session, session ∈ wanted db → db.session session.1 = some session.2 ∧ fits session) :
    Walks start terms pid request (Unframed terms pid)
      (selectSkipLocked (fun db => (wanted db).map (fun session => Key.session session.1)) batchSize)
      (fun rows s => (∀ session ∈ sessionRows rows, fits session) ∧ Composed terms [] none pid s ∧ KnowsAll pid (sessionRows rows) s) := by
  refine running_ask (framed_stable (fun _ _ _ _ => trivial)) (fun s query _ _ same => ?_)
    (fun query write same sets => ?_) (fun same => by cases same) (fun s choice rows t ⟨composed, _⟩ kept inv _ executed => ?_)
  · cases same
    exact respects_reading rfl
  · cases same
    cases sets
  · have appends := exec_reads rfl rfl executed
    have sessions := outside_sessions appends (by simp)
    have listed : ∀ session ∈ sessionRows rows, (s.sees pid).session session.1 = some session.2 ∧ fits session := by
      intro session member
      cases executed
      obtain ⟨skipped, seen⟩ := session_rows_seen member
      have asked := (List.mem_filter.mp (List.mem_of_mem_take skipped)).1
      obtain ⟨other, chosen, same⟩ := List.mem_map.mp asked
      obtain ⟨there, fine⟩ := stored _ other chosen
      have id : other.1 = session.1 := by injection same
      rw [id] at there
      obtain rfl : other = session := Prod.ext id (Option.some.inj (there.symm.trans seen))
      exact ⟨seen, fine⟩
    refine ⟨fun session member => (listed session member).2, composed_side composed appends (by simp), fun session member => ?_⟩
    exact ⟨session.2, by rw [sessions]; exact (listed session member).1, pinned_refl (.session session.1) session.2⟩

theorem reap_subagents_walks (reaped : Nat) (kinds : ∀ session ∈ sessions, session.2.kind = .subagent) :
    Walks start terms pid request (InOrder terms pid (KnowsAll pid sessions))
      (reapSubagents sessions reaped) (fun _ s => Composed terms [] none pid s) := by
  induction sessions generalizing reaped with
  | nil => exact raises_pure _ (fun s holds => holds.1)
  | cons session rest ih =>
      refine raises_bind (fun _ => InOrder terms pid (KnowsAll pid rest)) (raises_weaken (close_task_walks .reaper reapPayload (.inl rfl) (kinds session List.mem_cons_self)
        (carried_weaken (fun _ _ moves => moves.lasts) (knows_all_carried rest))) (fun s holds => ?_) (fun _ s holds => ?_)
        (fun _ _ holds => holds)) (fun result => ih _ (fun other member => kinds other (List.mem_cons_of_mem _ member)))
      · exact ⟨holds.1, fun other member => holds.2 other (List.mem_cons_of_mem _ member), holds.2 session List.mem_cons_self⟩
      · exact ⟨holds.1, holds.2.1⟩

theorem reap_sessions_walks (kinds : ∀ session ∈ sessions, session.2.kind = .session) :
    Walks start terms pid request (InOrder terms pid (KnowsAll pid sessions))
      (reapSessions sessions) (fun _ s => Composed terms [] none pid s) := by
  induction sessions with
  | nil => exact raises_pure _ (fun s holds => holds.1)
  | cons session rest ih =>
      refine raises_bind (fun _ => InOrder terms pid (KnowsAll pid rest)) (raises_before (end_session_walks (.inl rfl) (kinds session List.mem_cons_self) (knows_all_carried rest))
        (fun s holds => ?_))
        (fun _ => ih (fun other member => kinds other (List.mem_cons_of_mem _ member)))
      exact ⟨holds.1, fun other member => holds.2 other (List.mem_cons_of_mem _ member), holds.2 session List.mem_cons_self⟩

theorem given_or_now_walks {time : Option Nat} :
    Walks start terms pid request (Unframed terms pid) (givenOrNow time)
      (fun _ => Unframed terms pid) := by
  cases time with
  | some time => exact raises_done
  | none => exact framed_now (fun _ _ _ _ => trivial)

theorem reap_sweep_walks {reapWindow : Nat} :
    Walks start terms pid request (Unframed terms pid)
      (runAgentRuntimeReapSweep reapWindow batchSize) (fun _ s => Composed terms [] none pid s) := by
  refine raises_bind (fun _ s => Composed terms [] none pid s) (raises_bind _ (given_or_now_walks) (fun time => ?_))
    (fun _ => raises_done)
  refine raises_bind _ (skip_locked_walks (fun db => db.sessions.filter (fun session => staleSubagent db (time - reapWindow) session.2))
    (fun session => session.2.kind = .subagent) (fun db session member => ?_)) (fun subagents => raises_fact (fun kinds => ?_))
  · obtain ⟨listed, stale⟩ := List.mem_filter.mp member
    exact ⟨(mem_sessions _ _).mp listed, (of_decide_eq_true stale).1⟩
  refine raises_bind (fun _ => Unframed terms pid) (raises_weaken (reap_subagents_walks 0 kinds)
    (fun _ holds => holds) (fun _ s holds => ⟨holds, trivial⟩) (fun _ _ holds => holds)) (fun reaped => ?_)
  refine raises_bind _ (skip_locked_walks (fun db => db.sessions.filter (staleSession db (time - reapWindow)))
    (fun session => session.2.kind = .session) (fun db session member => ?_)) (fun sessions => raises_fact (fun kindsToo => ?_))
  · obtain ⟨listed, stale⟩ := List.mem_filter.mp member
    exact ⟨(mem_sessions _ _).mp listed, (of_decide_eq_true stale).1⟩
  exact raises_bind _ (reap_sessions_walks kindsToo) (fun _ => raises_done)

end

end AiWorld.Api
