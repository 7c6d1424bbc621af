import AiWorld.Api.Reaping
import Mathlib.Data.List.Perm.Subperm

set_option autoImplicit false

namespace AiWorld.Api

open AiWorld.Concurrency AiWorld.Database

variable {todo : List (Loaded AgentRuntimeSession)}

-- GREATEST, which ignores NULLs.
def greatest (times : List (Option Nat)) : Option Nat := (times.filterMap id).max?

def silentWithParent (db : Db) (cutoff : Nat) (row : AgentRuntimeSession) : Bool :=
  (row.parentSessionId.bind db.session).any (fun parent =>
    (greatest [some (row.lastHeartbeatAt.getD row.startedAt), parent.lastHeartbeatAt, some parent.startedAt]).any
      (fun latest => latest < cutoff))

-- The subagents a sweep is to close, and the sessions it is then to end.
def due (db : Db) (cutoff : Nat) (session : Loaded AgentRuntimeSession) : Bool :=
  session.2.kind = .subagent ∧ session.2.endedAt = none ∧ externallyRun db session.2 ∧ silentWithParent db cutoff session.2 ∧
    getExistingClosure session.1 db = none

def spent (db : Db) (cutoff : Nat) (session : Loaded AgentRuntimeSession) : Bool :=
  session.2.kind = .session ∧ session.2.endedAt = none ∧ externallyRun db session.2 ∧ lastActivity session.2 < cutoff ∧
    db.sessions.all (fun child =>
      decide (child.2.parentSessionId = some session.1 ∧ child.2.endedAt = none → due db cutoff child = true)) = true

theorem silent_with_parent (db : Db) (cutoff : Nat) (row : AgentRuntimeSession) : silentWithParent db cutoff row =
    (parentActivity db row).any (fun activity => max (lastActivity row) activity < cutoff) := by
  unfold silentWithParent parentActivity
  cases row.parentSessionId.bind db.session with
  | none => rfl
  | some parent =>
      simp only [Option.any_some, Option.map_some, lastActivity, greatest]
      cases parent.lastHeartbeatAt with
      | none => simp [List.max?]
      | some heartbeat =>
          simp only [List.filterMap_cons, id_eq, List.filterMap_nil, List.max?, List.foldl_cons, List.foldl_nil, Option.any_some,
            Option.getD_some, Nat.max_assoc]
          rfl

def unclosed (db : Db) (session : Loaded AgentRuntimeSession) : Bool := (getExistingClosure session.1 db).isNone

theorem stale_subagent_iff (db : Db) (cutoff : Nat) (row : AgentRuntimeSession) : staleSubagent db cutoff row = true ↔
    row.kind = .subagent ∧ row.endedAt = none ∧ externallyRun db row = true ∧
      (parentActivity db row).any (fun activity => max (lastActivity row) activity < cutoff) = true := by
  simp only [staleSubagent, decide_eq_true_eq]

theorem due_eq (db : Db) (cutoff : Nat) (session : Loaded AgentRuntimeSession) :
    due db cutoff session = (unclosed db session && staleSubagent db cutoff session.2) := by
  rw [Bool.eq_iff_iff, Bool.and_eq_true, stale_subagent_iff]
  simp only [due, silent_with_parent, unclosed, decide_eq_true_eq, Option.isNone_iff_eq_none]
  constructor
  · exact fun ⟨kind, live, runs, silent, free⟩ => ⟨free, kind, live, runs, silent⟩
  · exact fun ⟨free, kind, live, runs, silent⟩ => ⟨kind, live, runs, silent, free⟩

theorem existing_closure_none_iff (db : Db) (id : Nat) :
    getExistingClosure id db = none ↔ ∀ closureId row, db.closure closureId = some row → row.runtimeSessionId ≠ id := by
  refine ⟨fun unclosed closureId row stored => existing_closure_none unclosed stored, fun others => ?_⟩
  refine List.find?_eq_none.mpr (fun row member => ?_)
  simpa using others row.1 row.2 ((mem_closures db row).mp member)

theorem sessions_nodup (db : Db) : (db.sessions.map Prod.fst).Nodup :=
  table_nodup _ (fun row : Nat × AgentRuntimeSession => ⟨.session row.1, row.2⟩)
    (by rintro ⟨key, stored⟩ ⟨id, row⟩; cases key <;> simp) (fun _ _ same => congrArg Key.session same) db

variable {db : Db}

theorem session_rows_stored {sessions : List (Loaded AgentRuntimeSession)}
    (stored : ∀ session ∈ sessions, db.session session.1 = some session.2) :
    sessionRows ((sessions.map (fun session => Key.session session.1)).filterMap
      (fun key => (db.lookup key).map (Sigma.mk key))) = sessions := by
  induction sessions with
  | nil => rfl
  | cons session rest ih =>
      have first : db.lookup (.session session.1) = some session.2 := stored session List.mem_cons_self
      have others := ih (fun other member => stored other (List.mem_cons_of_mem session member))
      rw [List.map_cons, List.filterMap_cons, first]
      exact congrArg (session :: ·) others

section
variable {start seen : Db} {reaped ended : List (Loaded AgentRuntimeSession)} {session : Loaded AgentRuntimeSession}
  {taskId : Nat} {task : Task}

theorem swept_task_agent (taskId : Nat) (task : Task) : (sweptTask reaped ended taskId task).assignedAgentId = task.assignedAgentId := by
  have settles (target : TaskStatus) : (settle target task).assignedAgentId = task.assignedAgentId := by
    unfold settle
    split <;> rfl
  unfold sweptTask
  split
  · exact settles .failed
  · split
    · exact settles .completed
    · rfl

theorem workable_swept (swept : Swept start reaped ended seen) (workable : Workable start session taskId task)
    (live : session.1 ∉ reaped.map Prod.fst) (lasting : session.1 ∉ ended.map Prod.fst) :
    Workable seen session taskId (sweptTask reaped ended taskId task) where
  stored := (swept.spared session.1 live lasting).trans workable.stored
  holds := workable.holds
  found := by rw [swept.tasks, workable.found, Option.map_some]
  agent := by
    rw [swept_task_agent, Db.agent, swept.rest (.agent task.assignedAgentId) rfl]
    exact workable.agent
  mission := by
    intro id own
    rw [swept.missions, Option.isSome_map]
    exact workable.mission id own

-- A session that is still open is one the sweep has not touched.
theorem swept_open {id : Nat} {row : AgentRuntimeSession} (swept : Swept start reaped ended seen) (stored : seen.session id = some row)
    (live : row.endedAt = none) : start.session id = some row ∧ id ∉ reaped.map Prod.fst ∧ id ∉ ended.map Prod.fst := by
  have alive : id ∉ reaped.map Prod.fst := by
    intro member
    obtain ⟨session, present, rfl⟩ := List.mem_map.mp member
    obtain ⟨time, closed⟩ := swept.closed session present
    cases stored.symm.trans closed
    cases live
  have lasting : id ∉ ended.map Prod.fst := by
    intro member
    obtain ⟨session, present, rfl⟩ := List.mem_map.mp member
    obtain ⟨time, closed⟩ := swept.abandoned session present
    cases stored.symm.trans closed
    cases live
  exact ⟨(swept.spared id alive lasting).symm.trans stored, alive, lasting⟩

theorem swept_unclosed (swept : Swept start reaped ended seen) (live : session.1 ∉ reaped.map Prod.fst) :
    getExistingClosure session.1 seen = none ↔ getExistingClosure session.1 start = none := by
  simp only [existing_closure_none_iff]
  constructor
  · exact fun unclosed id row stored => unclosed id row (swept.keptClosures id row stored)
  · intro unclosed id row stored
    rcases swept.closures id row stored with old | mine
    · exact unclosed id row old
    · exact fun same => live (same ▸ mine)

end

section
variable {pid : Nat} {committed start seen : Db} {nextId : Nat} {s : Sys} {raised : Failure → Sys → Prop}

def Reached (pid : Nat) (committed start : Db) (reaped ended : List (Loaded AgentRuntimeSession)) (t : Sys) : Prop :=
  ∃ seen nextId, Poised pid committed seen nextId t ∧ Swept start reaped ended seen

theorem reap_subagents_sweeps (reaped : List (Loaded AgentRuntimeSession)) (count : Nat)
    (workable : ∀ session ∈ todo, ∃ taskId task, Workable start session taskId task)
    (distinct : (reaped.map Prod.fst ++ todo.map Prod.fst).Nodup) (reached : Reached pid committed start reaped [] s) :
    Solo pid
      (fun total t => total = count + (todo.filter (unclosed start)).length ∧
        Reached pid committed start (reaped ++ todo.filter (unclosed start)) [] t) raised (reapSubagents todo count) s := by
  induction todo generalizing reaped count s with
  | nil => exact finishes_pure _ s ⟨rfl, by simpa using reached⟩
  | cons session rest ih =>
      obtain ⟨seen, nextId, poised, swept⟩ := reached
      obtain ⟨taskId, task, works⟩ := workable session List.mem_cons_self
      have live : session.1 ∉ reaped.map Prod.fst := fun old =>
        (List.disjoint_of_nodup_append distinct) old List.mem_cons_self
      have restDistinct : (reaped.map Prod.fst ++ rest.map Prod.fst).Nodup :=
        distinct.sublist ((List.sublist_cons_self _ _).append_left _)
      have others : ∀ other ∈ rest, ∃ taskId task, Workable start other taskId task :=
        fun other member => workable other (List.mem_cons_of_mem session member)
      refine finishes_bind _ (close_task_reaps poised (workable_swept swept works live (fun member => nomatch member)))
        (fun result t closes => ?_)
      obtain ⟨after, next, still, outcome⟩ := closes
      obtain ⟨closure, isNew⟩ := result
      cases outcome with
      | duplicate existing same =>
          have taken : unclosed start session = false := by
            simp only [unclosed, Option.isNone_eq_false_iff, Option.isSome_iff_ne_none]
            exact fun none => existing ((swept_unclosed swept live).mpr none)
          rw [List.filter_cons_of_neg (by simp [taken])]
          exact ih reaped count others restDistinct ⟨after, next, still, same ▸ swept⟩
      | closes closureId time free ending fresh recorded elsewhere =>
          have open_ : unclosed start session = true := by
            simpa [unclosed, Option.isNone_iff_eq_none] using (swept_unclosed swept live).mp free
          have grown := swept_close swept live ending fresh recorded elsewhere
          rw [List.filter_cons_of_pos open_]
          have further := ih (reaped ++ [session]) (count + 1) others
            (by simpa using distinct) ⟨after, next, still, grown⟩
          refine finishes_weaken further (fun total t holds => ⟨?_, ?_⟩) (fun _ _ holds => holds)
          · rw [holds.1, List.length_cons]
            omega
          · simpa using holds.2

theorem reap_sessions_sweeps {reaped : List (Loaded AgentRuntimeSession)} (ended : List (Loaded AgentRuntimeSession))
    (workable : ∀ session ∈ todo, ∃ taskId task, Workable start session taskId task)
    (live : ∀ session ∈ todo, session.2.endedAt = none ∧ session.1 ∉ reaped.map Prod.fst)
    (childless : ∀ session ∈ todo, ∀ id row, start.session id = some row → row.parentSessionId = some session.1 →
      row.endedAt = none → id ∈ reaped.map Prod.fst) (distinct : (ended.map Prod.fst ++ todo.map Prod.fst).Nodup)
    (reached : Reached pid committed start reaped ended s) :
    Solo pid (fun _ t => Reached pid committed start reaped (ended ++ todo) t) raised (reapSessions todo) s := by
  induction todo generalizing ended s with
  | nil => exact finishes_pure _ s (by simpa using reached)
  | cons session rest ih =>
      obtain ⟨seen, nextId, poised, swept⟩ := reached
      obtain ⟨taskId, task, works⟩ := workable session List.mem_cons_self
      obtain ⟨lasting, outside⟩ := live session List.mem_cons_self
      have absent : session.1 ∉ ended.map Prod.fst := fun old =>
        (List.disjoint_of_nodup_append distinct) old List.mem_cons_self
      have alone : openSubagents session.1 seen = [] := by
        refine (open_subagents_nil session.1 seen).mpr (fun id row stored child lives => ?_)
        obtain ⟨before, alive, -⟩ := swept_open swept stored lives
        exact alive (childless session List.mem_cons_self id row before child lives)
      refine finishes_bind _ (end_session_abandons poised (workable_swept swept works outside absent) lasting alone)
        (fun _ t ends => ?_)
      obtain ⟨after, next, still, ending, closures⟩ := ends
      have further := ih (ended ++ [session]) (fun other member => workable other (List.mem_cons_of_mem session member))
        (fun other member => live other (List.mem_cons_of_mem session member))
        (fun other member => childless other (List.mem_cons_of_mem session member)) (by simpa using distinct)
        ⟨after, next, still, swept_end swept outside absent ending closures⟩
      simpa using further

end

section
variable {start seen : Db} {reaped ended : List (Loaded AgentRuntimeSession)} {cutoff : Nat}

theorem externally_run_swept (swept : Swept start reaped ended seen) (row : AgentRuntimeSession) :
    externallyRun seen row = externallyRun start row := by
  have agents : seen.agent = start.agent := funext (fun id => swept.rest (.agent id) rfl)
  have versions : seen.agentVersion = start.agentVersion := funext (fun id => swept.rest (.agentVersion id) rfl)
  have tasks : (row.taskId.bind seen.task).map Task.assignedAgentId = (row.taskId.bind start.task).map Task.assignedAgentId := by
    cases row.taskId with
    | none => rfl
    | some taskId =>
        rw [Option.bind_some, Option.bind_some, swept.tasks, Option.map_map]
        exact congrArg (Option.map · (start.task taskId)) (funext (swept_task_agent taskId))
  unfold externallyRun
  rw [tasks, agents, versions]

-- Ending a row leaves the times that the two queries compare.
theorem parent_activity_swept (swept : Swept start reaped ended seen)
    (known : ∀ session, session ∈ reaped ∨ session ∈ ended → start.session session.1 = some session.2) (row : AgentRuntimeSession) :
    parentActivity seen row = parentActivity start row := by
  have each : ∀ id, (seen.session id).map (fun parent => max (lastActivity parent) parent.startedAt) =
      (start.session id).map (fun parent => max (lastActivity parent) parent.startedAt) := by
    intro id
    by_cases closed : id ∈ reaped.map Prod.fst
    · obtain ⟨session, member, rfl⟩ := List.mem_map.mp closed
      obtain ⟨time, stored⟩ := swept.closed session member
      rw [stored, known session (.inl member)]
      rfl
    · by_cases over_ : id ∈ ended.map Prod.fst
      · obtain ⟨session, member, rfl⟩ := List.mem_map.mp over_
        obtain ⟨time, stored⟩ := swept.abandoned session member
        rw [stored, known session (.inr member)]
        rfl
      · rw [swept.spared id closed over_]
  unfold parentActivity
  cases row.parentSessionId with
  | none => rfl
  | some id => exact each id

theorem stale_subagent_swept (swept : Swept start reaped ended seen)
    (known : ∀ session, session ∈ reaped ∨ session ∈ ended → start.session session.1 = some session.2) (row : AgentRuntimeSession) :
    staleSubagent seen cutoff row = staleSubagent start cutoff row := by
  unfold staleSubagent
  rw [externally_run_swept swept row, parent_activity_swept swept known row]

theorem mem_due (db : Db) (cutoff : Nat) (session : Loaded AgentRuntimeSession) : session ∈ db.sessions.filter (due db cutoff) ↔
    db.session session.1 = some session.2 ∧ due db cutoff session = true := by
  rw [List.mem_filter, mem_sessions]
  rfl

theorem spent_iff (db : Db) (cutoff : Nat) (session : Loaded AgentRuntimeSession) : spent db cutoff session = true ↔
    session.2.kind = .session ∧ session.2.endedAt = none ∧ externallyRun db session.2 = true ∧ lastActivity session.2 < cutoff ∧
      ∀ id row, db.session id = some row → row.parentSessionId = some session.1 → row.endedAt = none →
        (id, row) ∈ db.sessions.filter (due db cutoff) := by
  simp only [spent, decide_eq_true_eq, List.all_eq_true, and_imp, mem_due]
  constructor
  · rintro ⟨kind, live, runs, silent, children⟩
    exact ⟨kind, live, runs, silent, fun id row stored child lives =>
      ⟨stored, children (id, row) ((mem_sessions db (id, row)).mpr stored) child lives⟩⟩
  · rintro ⟨kind, live, runs, silent, children⟩
    refine ⟨kind, live, runs, silent, fun child member own lives => ?_⟩
    exact (children child.1 child.2 ((mem_sessions db child).mp member) own lives).2

theorem stale_session_iff (db : Db) (cutoff : Nat) (session : Loaded AgentRuntimeSession) : staleSession db cutoff session = true ↔
    session.2.kind = .session ∧ session.2.endedAt = none ∧ externallyRun db session.2 = true ∧ lastActivity session.2 < cutoff ∧
      openSubagents session.1 db = [] := by
  simp only [staleSession, decide_eq_true_eq]

-- What the second query finds once the first loop is done.
theorem stale_session_swept {db mid : Db} (swept : Swept db (db.sessions.filter (due db cutoff)) [] mid)
    (session : Loaded AgentRuntimeSession) :
    session ∈ mid.sessions ∧ staleSession mid cutoff session = true ↔ session ∈ db.sessions ∧ spent db cutoff session = true := by
  rw [mem_sessions, mem_sessions, stale_session_iff, spent_iff, open_subagents_nil, externally_run_swept swept]
  constructor
  · rintro ⟨stored, kind, live, runs, silent, childless⟩
    refine ⟨(swept_open swept stored live).1, kind, live, runs, silent, fun id row present child lives => ?_⟩
    by_contra spared
    have alive : id ∉ (db.sessions.filter (due db cutoff)).map Prod.fst := by
      intro member
      obtain ⟨other, chosen, rfl⟩ := List.mem_map.mp member
      have same := ((mem_due db cutoff other).mp chosen).1
      cases present.symm.trans same
      exact spared chosen
    exact childless id row ((swept.spared id alive (fun member => nomatch member)).trans present) child lives
  · rintro ⟨stored, kind, live, runs, silent, children⟩
    have alive : session.1 ∉ (db.sessions.filter (due db cutoff)).map Prod.fst := by
      intro member
      obtain ⟨other, chosen, same⟩ := List.mem_map.mp member
      obtain ⟨present, dued⟩ := (mem_due db cutoff other).mp chosen
      rw [same, show db.session session.1 = some session.2 from stored] at present
      rw [due_eq, Bool.and_eq_true] at dued
      have subagent := ((stale_subagent_iff db cutoff other.2).mp dued.2).1
      rw [← Option.some.inj present, kind] at subagent
      cases subagent
    refine ⟨(swept.spared session.1 alive (fun member => nomatch member)).trans stored, kind, live, runs, silent, ?_⟩
    intro id row present child lives
    obtain ⟨before, spared, -⟩ := swept_open swept present lives
    exact spared (List.mem_map_of_mem (children id row before child lives))

end

-- Foreign keys.
def Referential (db : Db) : Prop :=
  ∀ key row, db.lookup key = some row → ∀ reference ∈ references key row, (db.lookup reference).isSome = true

-- The sessions that a sweep may meet have the rows it reads.
def Linked (db : Db) : Prop :=
  ∀ session : Loaded AgentRuntimeSession, db.session session.1 = some session.2 → session.2.endedAt = none →
    externallyRun db session.2 = true → ∃ taskId task, Workable db session taskId task

theorem referential_linked (db : Db) (foreign : Referential db) : Linked db := by
  intro session stored _ runs
  unfold externallyRun at runs
  cases own : session.2.taskId with
  | none => simp [own] at runs
  | some taskId =>
      cases found : db.task taskId with
      | none => simp [own, found] at runs
      | some task =>
          refine ⟨taskId, task, stored, own, found, ?_, fun missionId named => ?_⟩
          · cases present : db.agent task.assignedAgentId with
            | none => simp [own, found, present] at runs
            | some agent => rfl
          · exact foreign (.session session.1) session.2 stored (.mission missionId) (by simp [references, named])

theorem linked_swept {after : Db} {reaped ended : List (Loaded AgentRuntimeSession)} (swept : Swept db reaped ended after)
    (linked : Linked db) : Linked after := by
  intro session stored live runs
  obtain ⟨before, alive, lasting⟩ := swept_open swept stored live
  rw [externally_run_swept swept] at runs
  obtain ⟨taskId, task, workable⟩ := linked session before live runs
  exact ⟨taskId, _, workable_swept swept workable alive lasting⟩

def candidates (db : Db) (cutoff : Nat) : List (Loaded AgentRuntimeSession) :=
  db.sessions.filter (fun session => staleSubagent db cutoff session.2)

section
variable {pid : Nat} {db : Db} {nextId : Nat} {s : Sys} {raised : Failure → Sys → Prop}

theorem poised_skip_locked {committed seen : Db} (chosen : Db → List (Loaded AgentRuntimeSession))
    (member : ∀ session ∈ chosen seen, seen.session session.1 = some session.2) {limit : Nat}
    (poised : Poised pid committed seen nextId s) (enough : (chosen seen).length ≤ limit) :
    Solo pid
      (fun rows t => sessionRows rows = chosen seen ∧ Poised pid committed seen nextId t) raised
      (selectSkipLocked (fun db => (chosen db).map (fun session => Key.session session.1)) limit) s := by
  refine finishes_weaken (poised_keeps poised (alone_skip_locked poised.alone poised.own (by simpa using enough)))
    (fun rows t holds => ⟨?_, holds.1.2, holds.2, poised.unused⟩) (fun _ _ holds => holds)
  rw [holds.1.1]
  exact session_rows_stored member

theorem sweep_reaches {reapWindow batchSize time : Nat} (poised : Poised pid db db nextId s) (linked : Linked db)
    (enough : (candidates db (time - reapWindow)).length ≤ batchSize)
    (room : (db.sessions.filter (spent db (time - reapWindow))).length ≤ batchSize) :
    Solo pid
      (fun count t => count = (db.sessions.filter (due db (time - reapWindow))).length ∧
        ∃ ended, (∀ session, session ∈ ended ↔ session ∈ db.sessions ∧ spent db (time - reapWindow) session = true) ∧
          Reached pid db db (db.sessions.filter (due db (time - reapWindow))) ended t) raised
      (reapStaleRuntimeSessions reapWindow batchSize (some time)) s := by
  have distinct := sessions_nodup db
  refine finishes_bind (fun given t => given = time ∧ Poised pid db db nextId t) (finishes_pure _ s ⟨rfl, poised⟩)
    (fun given t first => ?_)
  obtain ⟨rfl, first⟩ := first
  generalize cutoffIs : given - reapWindow = cutoff at *
  refine finishes_bind _ (poised_skip_locked (fun db => candidates db cutoff) (fun session member => ?_) first enough)
    (fun rows t second => ?_)
  · exact (mem_sessions db session).mp (List.mem_filter.mp member).1
  obtain ⟨found, second⟩ := second
  rw [found]
  have filtered : (candidates db cutoff).filter (unclosed db) = db.sessions.filter (due db cutoff) := by
    rw [candidates, List.filter_filter]
    exact List.filter_congr (fun session _ => (due_eq db cutoff session).symm)
  have workable : ∀ session ∈ candidates db cutoff, ∃ taskId task, Workable db session taskId task := by
    intro session member
    obtain ⟨present, stale⟩ := List.mem_filter.mp member
    obtain ⟨-, live, runs, -⟩ := (stale_subagent_iff db cutoff session.2).mp stale
    exact linked session ((mem_sessions db session).mp present) live runs
  refine finishes_bind _ (reap_subagents_sweeps [] 0 workable (distinct.sublist (List.filter_sublist.map _))
    ⟨db, nextId, second, swept_start db⟩) (fun count t third => ?_)
  obtain ⟨counted, mid, next, third, swept⟩ := third
  rw [List.nil_append, filtered] at swept
  rw [filtered, Nat.zero_add] at counted
  let rest := mid.sessions.filter (fun session => staleSession mid cutoff session)
  have meets : ∀ session, session ∈ rest ↔ session ∈ db.sessions ∧ spent db cutoff session = true := fun session =>
    List.mem_filter.trans (stale_session_swept swept session)
  have restDistinct : (rest.map Prod.fst).Nodup := (sessions_nodup mid).sublist (List.filter_sublist.map _)
  have fits : rest.length ≤ batchSize := by
    have within : rest ⊆ db.sessions.filter (spent db cutoff) := fun session member =>
      List.mem_filter.mpr ((meets session).mp member)
    exact Nat.le_trans (List.subperm_of_subset restDistinct.of_map within).length_le room
  refine finishes_bind _ (poised_skip_locked (fun db => db.sessions.filter (fun session => staleSession db cutoff session))
    (fun session member => ?_) third fits) (fun rows t fourth => ?_)
  · exact (mem_sessions mid session).mp (List.mem_filter.mp member).1
  obtain ⟨same, fourth⟩ := fourth
  rw [same]
  have children : ∀ session ∈ rest, spent db cutoff session = true ∧ db.session session.1 = some session.2 := fun session member =>
    ⟨((meets session).mp member).2, (mem_sessions db session).mp ((meets session).mp member).1⟩
  refine finishes_bind _ (reap_sessions_sweeps [] (fun session member => ?_) (fun session member => ?_)
    (fun session member id row stored child live => ?_) restDistinct ⟨mid, next, fourth, swept⟩) (fun _ t fifth => ?_)
  · obtain ⟨chosen, stored⟩ := children session member
    obtain ⟨-, live, runs, -⟩ := (spent_iff db cutoff session).mp chosen
    exact linked session stored live runs
  · obtain ⟨present, stale⟩ := List.mem_filter.mp member
    obtain ⟨-, live, -⟩ := (stale_session_iff mid cutoff session).mp stale
    exact ⟨live, (swept_open swept ((mem_sessions mid session).mp present) live).2.1⟩
  · obtain ⟨-, -, -, -, all⟩ := (spent_iff db cutoff session).mp (children session member).1
    exact List.mem_map_of_mem (all id row stored child live)
  · exact finishes_pure _ t ⟨counted, rest, meets, fifth⟩

-- The sweep with the commit of its caller.
def reapAndCommit (reapWindow batchSize time : Nat) : Route Nat :=
  getDbSession (reapStaleRuntimeSessions reapWindow batchSize (some time))

theorem sweep_commits (reapWindow batchSize time : Nat) (poised : Poised pid db db nextId s) (linked : Linked db)
    (enough : (candidates db (time - reapWindow)).length ≤ batchSize)
    (room : (db.sessions.filter (spent db (time - reapWindow))).length ≤ batchSize) :
    Solo pid
      (fun count t => count = (db.sessions.filter (due db (time - reapWindow))).length ∧
        ∃ ended, (∀ session, session ∈ ended ↔ session ∈ db.sessions ∧ spent db (time - reapWindow) session = true) ∧
          ∃ next, Poised pid t.db t.db next t ∧ Swept db (db.sessions.filter (due db (time - reapWindow))) ended t.db)
      (fun _ _ => False) (reapAndCommit reapWindow batchSize time) s := by
  refine finishes_catch (fun _ _ => False) (finishes_bind _ (sweep_reaches poised linked enough room)
    (fun count t reached => ?_)) (fun _ _ never => never.elim)
  obtain ⟨counted, ended, meets, seen, next, still, swept⟩ := reached
  refine finishes_bind _ (poised_keeps still (alone_commit still.alone)) (fun _ t committed => finishes_pure _ t ?_)
  obtain ⟨alone, own⟩ := committed
  have same : t.db = seen := alone.db
  refine ⟨counted, ended, meets, next, ?_, same ▸ swept⟩
  rw [same]
  exact ⟨alone, own, still.unused⟩

end

section
variable {db after : Db} {reaped ended : List (Loaded AgentRuntimeSession)} {cutoff : Nat}

theorem nothing_due (swept : Swept db (db.sessions.filter (due db cutoff)) ended after)
    (known : ∀ session ∈ ended, db.session session.1 = some session.2) : after.sessions.filter (due after cutoff) = [] := by
  refine List.filter_eq_nil_iff.mpr (fun session member chosen => ?_)
  rw [due_eq, Bool.and_eq_true, stale_subagent_swept swept (fun other which => ?_)] at chosen
  · obtain ⟨free, stale⟩ := chosen
    obtain ⟨-, live, -⟩ := (stale_subagent_iff db cutoff session.2).mp stale
    obtain ⟨stored, alive, -⟩ := swept_open swept ((mem_sessions after session).mp member) live
    have before : unclosed db session = true := by
      simp only [unclosed, Option.isNone_iff_eq_none] at free ⊢
      exact (swept_unclosed swept alive).mp free
    refine alive (List.mem_map_of_mem ((mem_due db cutoff session).mpr ⟨stored, ?_⟩))
    rw [due_eq, before, stale]
    rfl
  · exact which.elim (fun chosen => ((mem_due db cutoff other).mp chosen).1) (known other)

theorem nothing_spent (swept : Swept db (db.sessions.filter (due db cutoff)) ended after)
    (meets : ∀ session, session ∈ ended ↔ session ∈ db.sessions ∧ spent db cutoff session = true)
    (roots : ∀ id row, db.session id = some row → row.kind = .session → row.parentSessionId = none) (session : Loaded AgentRuntimeSession)
    (member : session ∈ after.sessions) : spent after cutoff session = false := by
  refine Bool.eq_false_iff.mpr (fun chosen => ?_)
  have known : ∀ session ∈ ended, db.session session.1 = some session.2 := fun session member =>
    (mem_sessions db session).mp ((meets session).mp member).1
  obtain ⟨kind, live, runs, silent, children⟩ := (spent_iff after cutoff session).mp chosen
  obtain ⟨stored, -, lasting⟩ := swept_open swept ((mem_sessions after session).mp member) live
  rw [externally_run_swept swept] at runs
  refine lasting (List.mem_map_of_mem ((meets session).mpr ⟨(mem_sessions db session).mpr stored, ?_⟩))
  refine (spent_iff db cutoff session).mpr ⟨kind, live, runs, silent, fun id row present child lives => ?_⟩
  by_contra spared
  have alive : id ∉ (db.sessions.filter (due db cutoff)).map Prod.fst := by
    intro closed
    obtain ⟨other, which, rfl⟩ := List.mem_map.mp closed
    cases present.symm.trans ((mem_due db cutoff other).mp which).1
    exact spared which
  have unended : id ∉ ended.map Prod.fst := by
    intro over_
    obtain ⟨other, which, rfl⟩ := List.mem_map.mp over_
    cases present.symm.trans (known other which)
    obtain ⟨session, -⟩ := (spent_iff db cutoff other).mp ((meets other).mp which).2
    cases child.symm.trans (roots other.1 other.2 present session)
  have again := children id row ((swept.spared id alive unended).trans present) child lives
  rw [nothing_due swept known] at again
  cases again

theorem swept_nothing {last : Db} (swept : Swept after [] [] last) (key : Key) : last.lookup key = after.lookup key := by
  cases key with
  | session id => exact swept.spared id List.not_mem_nil List.not_mem_nil
  | task id =>
      refine (swept.tasks id).trans ?_
      rw [show sweptTask [] [] id = fun task => task from rfl, Option.map_id']
      rfl
  | mission id =>
      have idle : sweptMission [] id = fun mission => mission := funext (fun mission => by simp [sweptMission, holdsMission])
      refine (swept.missions id).trans ?_
      rw [idle, Option.map_id']
      rfl
  | closure id =>
      refine Option.ext (fun row => ⟨fun stored => ?_, swept.keptClosures id row⟩)
      exact (swept.closures id row stored).resolve_right List.not_mem_nil
  | event id =>
      refine Option.ext (fun row => ⟨fun stored => ?_, swept.keptEvents id row⟩)
      refine (swept.events id row stored).resolve_right ?_
      rintro ⟨taskId, -, held⟩
      cases held
  | _ => exact swept.rest _ rfl

end

-- One sweep, and a second one at the same time.
theorem reaper_sweep (pid : Nat) (s : Sys) (calm : Calm s) (foreign : Referential s.db)
    (roots : ∀ id row, s.db.session id = some row → row.kind = .session → row.parentSessionId = none) (reapWindow batchSize time : Nat)
    (enough : (candidates s.db (time - reapWindow)).length ≤ batchSize)
    (room : (s.db.sessions.filter (spent s.db (time - reapWindow))).length ≤ batchSize) :
    Finishes machine pid anyChoice
      (fun count t => count = (s.db.sessions.filter (due s.db (time - reapWindow))).length ∧
        (∃ ended, (∀ session, session ∈ ended ↔ session ∈ s.db.sessions ∧ spent s.db (time - reapWindow) session = true) ∧
          Swept s.db (s.db.sessions.filter (due s.db (time - reapWindow))) ended t.db) ∧
        Finishes machine pid anyChoice (fun again u => again = 0 ∧ ∀ key, u.db.lookup key = t.db.lookup key) (fun _ _ => False)
          (reapAndCommit reapWindow batchSize time) t)
      (fun _ _ => False) (reapAndCommit reapWindow batchSize time) s := by
  have linked := referential_linked s.db foreign
  refine finishes_weaken (sweep_commits reapWindow batchSize time (calm_poised s calm pid) linked enough room)
    (fun count t reached => ?_) (fun _ _ never => never)
  obtain ⟨counted, ended, meets, next, poised, swept⟩ := reached
  refine ⟨counted, ⟨ended, meets, swept⟩, ?_⟩
  have known : ∀ session ∈ ended, s.db.session session.1 = some session.2 := fun session member =>
    (mem_sessions s.db session).mp ((meets session).mp member).1
  have none_due := nothing_due swept known
  have none_spent : t.db.sessions.filter (spent t.db (time - reapWindow)) = [] := by
    refine List.filter_eq_nil_iff.mpr (fun session member => ?_)
    rw [nothing_spent swept meets roots session member]
    exact Bool.false_ne_true
  have fewer : (candidates t.db (time - reapWindow)).length ≤ batchSize := by
    have within : candidates t.db (time - reapWindow) ⊆ candidates s.db (time - reapWindow) := by
      intro session member
      obtain ⟨present, stale⟩ := List.mem_filter.mp member
      rw [stale_subagent_swept swept (fun other which =>
        which.elim (fun chosen => ((mem_due s.db _ other).mp chosen).1) (known other))] at stale
      obtain ⟨-, live, -⟩ := (stale_subagent_iff s.db _ session.2).mp stale
      have stored := (swept_open swept ((mem_sessions t.db session).mp present) live).1
      exact List.mem_filter.mpr ⟨(mem_sessions s.db session).mpr stored, stale⟩
    have distinct : (candidates t.db (time - reapWindow)).Nodup := (sessions_nodup t.db).of_map.sublist List.filter_sublist
    exact Nat.le_trans (List.subperm_of_subset distinct within).length_le enough
  refine finishes_weaken (sweep_commits reapWindow batchSize time poised (linked_swept swept linked) fewer (by rw [none_spent]; simp))
    (fun again u repeated => ?_) (fun _ _ never => never)
  obtain ⟨recounted, more, same, -, -, unchanged⟩ := repeated
  rw [none_due] at recounted unchanged
  have none_more : more = [] := by
    refine List.eq_nil_iff_forall_not_mem.mpr (fun session member => ?_)
    obtain ⟨present, chosen⟩ := (same session).mp member
    rw [nothing_spent swept meets roots session present] at chosen
    cases chosen
  rw [none_more] at unchanged
  exact ⟨recounted, swept_nothing unchanged⟩

def referentialRows (db : Db) : Bool :=
  db.entries.all (fun entry => (references entry.1 entry.2).all (fun reference => (db.lookup reference).isSome))

theorem referential_of_rows (db : Db) (checked : referentialRows db = true) : Referential db := by
  intro key row stored reference named
  exact List.all_eq_true.mp (List.all_eq_true.mp checked ⟨key, row⟩ (AList.mem_lookup_iff.mp stored)) reference named

def drawnBelow (nextId : Nat) : Key → Bool
  | .closure id | .event id => id < nextId
  | _ => true

theorem unused_of_rows (db : Db) (nextId : Nat) (checked : db.entries.all (fun entry => drawnBelow nextId entry.1) = true) :
    Unused db nextId := by
  have below : ∀ key row, db.lookup key = some row → drawnBelow nextId key = true := fun key row stored =>
    List.all_eq_true.mp checked ⟨key, row⟩ (AList.mem_lookup_iff.mp stored)
  intro id above
  constructor
  · refine Option.eq_none_iff_forall_ne_some.mpr (fun row stored => ?_)
    have small : id < nextId := by simpa [drawnBelow] using below (.closure id) row stored
    omega
  · refine Option.eq_none_iff_forall_ne_some.mpr (fun row stored => ?_)
    have small : id < nextId := by simpa [drawnBelow] using below (.event id) row stored
    omega

namespace Sample

def parent : AgentRuntimeSession := ⟨1, .session, some 1, some 3, some 4, "s", none, none, 20, some 30, none, none⟩

def subagent : AgentRuntimeSession := ⟨1, .subagent, some 1, some 3, some 5, "s", some "a", some 10, 25, none, none, none⟩

-- A twin that has gone silent with one subagent open.
def silent : Db :=
  ((((((((∅ : Db).insert (.modelPolicy 0) ⟨1, "claude-code-external"⟩).insert (.agent 1) ⟨1, "AGT-CC", "Twin", .active, some 2⟩).insert
    (.agentVersion 2) ⟨1, 1, "external_manual", 0⟩).insert (.mission 3) ⟨1, "M-3", some 1, .running⟩).insert
    (.task 4) ⟨3, 1, .running, 0, "session", none⟩).insert (.task 5) ⟨3, 1, .queued, 0, "subagent", none⟩).insert
    (.session 10) parent).insert (.session 11) subagent

def closedAlready : Db := silent.insert (.closure 12) (newClosure 1 11 (some 5) .hook ⟨.completed, .hookReported, none⟩ 40)

-- A session registered under another one.
def nested : Db :=
  silent.insert (.session 11) { subagent with kind := .session, externalSessionRef := "t" }

def quiet (db : Db) : Sys := { server := { db := db }, nextId := 100 }

def sweep (s : Sys) : Option (Except Failure Nat) × Sys :=
  let ended := machine.drive 0 (List.replicate 60 { time := 70 }) (reapAndCommit 10 200 60).run s
  (ended.1.done, ended.2)

end Sample

theorem reaper_sweep_silent :
    Finishes machine 0 anyChoice
      (fun count t => count = 1 ∧ (∃ time, t.db.session 11 = some (endColumns time .failed Sample.subagent)) ∧
        ∃ time, t.db.session 10 = some (endColumns time .abandoned Sample.parent)) (fun _ _ => False)
      (reapAndCommit 10 200 60) (Sample.quiet Sample.silent) := by
  have calm : Calm (Sample.quiet Sample.silent) :=
    ⟨fun _ => rfl, fun _ => rfl, fun _ => rfl, fun _ => rfl, fun _ => rfl, unused_of_rows Sample.silent 100 (by decide +kernel)⟩
  have roots : ∀ id row, Sample.silent.session id = some row → row.kind = .session → row.parentSessionId = none := by
    intro id row stored kind
    have checked : Sample.silent.sessions.all (fun session =>
      decide (session.2.kind = .session → session.2.parentSessionId = none)) = true := by decide +kernel
    exact of_decide_eq_true (List.all_eq_true.mp checked (id, row) ((mem_sessions _ (id, row)).mpr stored)) kind
  refine finishes_weaken (reaper_sweep 0 (Sample.quiet Sample.silent) calm (referential_of_rows Sample.silent (by decide +kernel)) roots
    10 200 60 (by decide +kernel) (by decide +kernel)) (fun count t reached => ?_) (fun _ _ never => never)
  obtain ⟨counted, ⟨ended, meets, swept⟩, -⟩ := reached
  have one : (Sample.silent.sessions.filter (due Sample.silent 50)).length = 1 := by decide +kernel
  refine ⟨counted.trans one, swept.closed (11, Sample.subagent) ?_, swept.abandoned (10, Sample.parent) ((meets _).mpr ?_)⟩
  · exact (by decide +kernel : (11, Sample.subagent) ∈ Sample.silent.sessions.filter (due Sample.silent 50))
  · exact (by decide +kernel : (10, Sample.parent) ∈ Sample.silent.sessions ∧ spent Sample.silent 50 (10, Sample.parent) = true)

-- An open subagent that has a closure row already is left as it is; and a session under
-- another one keeps it from being ended, until a second sweep.
theorem sweep_leaves_open :
    (staleSubagent Sample.closedAlready 50 Sample.subagent = true ∧ (Sample.sweep (Sample.quiet Sample.closedAlready)).1 = some (.ok 0) ∧
      (Sample.sweep (Sample.quiet Sample.closedAlready)).2.db.session 11 = some Sample.subagent) ∧
    (Sample.sweep (Sample.quiet Sample.nested)).2.db.session 10 = some Sample.parent ∧
    (Sample.sweep (Sample.sweep (Sample.quiet Sample.nested)).2).2.db.session 10 = some (endColumns 70 .abandoned Sample.parent) := by
  decide +kernel

end AiWorld.Api
