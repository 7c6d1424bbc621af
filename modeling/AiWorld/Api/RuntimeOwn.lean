import AiWorld.Api.RuntimeSteps

set_option autoImplicit false

namespace AiWorld.Api

open AiWorld.Concurrency AiWorld.Database

variable {busy : Option Nat} {key : Key} {id : Nat}

section
variable {pid : Nat} {s t : Sys} {choice : Choice}

theorem exec_reads {query : Database.Stmt Row CloseCall} {answer : Ans (.db query)} (within : query.within = true)
    (reading : query.write = none) (executed : exec pid (.db query) choice s = some (answer, t)) :
    Appends pid [] s.server t.server := by
  obtain ⟨⟨found, after⟩, performed, same⟩ := Option.map_eq_some_iff.mp executed
  cases same
  exact move_appends within reading (perform_moves performed)

theorem exec_inserts {row : Row key} {inserted : Bool}
    (executed : exec pid (.db (.insert key row)) choice s = some (inserted, t)) :
    (inserted = false ∧ t.server = s.server) ∨
      (inserted = true ∧ schema.accepts key row (s.sees pid) = true ∧ Appends pid [.put key row] s.server t.server) := by
  obtain ⟨⟨found, after⟩, performed, same⟩ := Option.map_eq_some_iff.mp executed
  cases same
  rcases inserts_cases performed with ⟨refused, -, rfl⟩ | ⟨answered, accepted, -, rfl⟩
  · exact .inl ⟨refused, rfl⟩
  · exact .inr ⟨answered, accepted, stages_appends pid s.server (by simp [Schema.claims, Write.key])⟩

theorem exec_update {loaded : Row key} {columns : Row key → Row key} {answer : Unit}
    (executed : exec pid (.db (.update key loaded columns)) choice s = some (answer, t)) :
    ((s.sees pid).lookup key = none ∧ t.server = s.server) ∨
      (∃ row, (s.sees pid).lookup key = some row) ∧ Appends pid [.change key columns] s.server t.server := by
  obtain ⟨⟨found, after⟩, performed, same⟩ := Option.map_eq_some_iff.mp executed
  cases same
  cases stored : (s.server.view pid).lookup key with
  | none =>
      simp only [perform, stored] at performed
      cases performed
      exact .inl ⟨rfl, rfl⟩
  | some row =>
      simp only [perform, stored] at performed
      obtain ⟨moved, written, answered⟩ := Option.map_eq_some_iff.mp performed
      cases answered
      obtain ⟨-, rfl⟩ := writes_cases written
      exact .inr ⟨⟨row, rfl⟩, stages_appends pid s.server (by simp [Write.key])⟩

theorem exec_locks {wanted : Row key → Bool} {loaded found : Option (Row key)}
    (executed : exec pid (.db (.selectForUpdate key wanted loaded)) choice s = some (found, t)) :
    (((s.sees pid).lookup key).filter wanted = none ∧ found = none ∧ t.server = s.server) ∨
      ∃ row, (s.sees pid).lookup key = some row ∧ wanted row = true ∧ found = some (loaded.getD row) ∧
        t.server.keyLock key = some pid ∧ Appends pid [] s.server t.server := by
  obtain ⟨⟨answer, after⟩, performed, same⟩ := Option.map_eq_some_iff.mp executed
  cases same
  cases matched : ((s.server.view pid).lookup key).filter wanted with
  | none =>
      simp only [perform, matched] at performed
      cases performed
      exact .inl ⟨rfl, rfl, rfl⟩
  | some row =>
      simp only [perform, matched] at performed
      split at performed
      · cases performed
        obtain ⟨stored, holds⟩ := Option.filter_eq_some_iff.mp matched
        exact .inr ⟨row, stored, holds, rfl, by simp [Server.grabs], grabs_appends pid s.server _⟩
      · cases performed

end

section
variable {pid : Nat} {s t : Sys} {writes : List (Write Row)}

theorem appends_of_same (same : t.server = s.server) : Appends pid [] s.server t.server := same ▸ appends_refl pid s.server

theorem appends_elsewhere (appends : Appends pid writes s.server t.server) (elsewhere : ∀ write ∈ writes, write.key ≠ key) :
    (t.sees pid).lookup key = (s.sees pid).lookup key := by
  rw [Sys.sees, appends_view appends]
  exact lookup_replay_untouched _ elsewhere

theorem appends_here {write : Write Row} (appends : Appends pid [write] s.server t.server) :
    (t.sees pid).lookup write.key = write.cell ((s.sees pid).lookup write.key) := by
  rw [Sys.sees, appends_view appends]
  exact write.lookup_apply_self _

theorem appends_keys (appends : Appends pid writes s.server t.server) :
    (t.server.staged pid).map Write.key = (s.server.staged pid).map Write.key ++ writes.map Write.key := by
  rw [appends.staged, List.map_append]

end

section
variable {terms : Terms} {due : List CloseCall} {pid : Nat} {s t : Sys} {writes : List (Write Row)}

def Stakes (pid : Nat) (s : Sys) (taskId : Nat) : Prop :=
  s.db.task taskId = none ∨
    ∃ id row, s.db.session id = some row ∧ row.taskId = some taskId ∧ s.server.keyLock (.session id) = some pid

theorem owns_appended (hold : TaskHold pid s) (appends : Appends pid writes s.server t.server)
    (stakes : ∀ write ∈ writes, ∀ taskId, write.key = .task taskId → Stakes pid s taskId) (taskId : Nat)
    (member : Key.task taskId ∈ (t.server.staged pid).map Write.key) : Stakes pid t taskId := by
  have before : Stakes pid s taskId := by
    rw [appends_keys appends] at member
    rcases List.mem_append.mp member with old | new
    · exact hold.owns taskId old
    · obtain ⟨write, fresh, same⟩ := List.mem_map.mp new
      exact stakes write fresh taskId same
  have db : t.db = s.db := appends.db
  rcases before with missing | ⟨id, row, stored, named, locked⟩
  · exact .inl (by rw [db]; exact missing)
  · exact .inr ⟨id, row, by rw [db]; exact stored, named, appends.keyLock _ locked⟩

theorem fresh_appended (hold : TaskHold pid s) (appends : Appends pid writes s.server t.server) {row : AgentRuntimeSession}
    (stored : (s.sees pid).session id = some row) (absent : t.db.session id = none) :
    ∃ taskId, row.taskId = some taskId ∧ t.server.rowLock (.task taskId) = some pid ∧ t.db.task taskId = none := by
  have db : t.db = s.db := appends.db
  rw [db] at absent ⊢
  obtain ⟨taskId, named, locked, missing⟩ := hold.fresh id row stored absent
  exact ⟨taskId, named, appends.rowLock _ locked, missing⟩

-- The tasks of a transaction that has written no session.
theorem task_hold_rows (hold : TaskHold pid s) (appends : Appends pid writes s.server t.server)
    (sessions : (t.sees pid).session = (s.sees pid).session)
    (there : ∀ taskId, ((s.sees pid).task taskId).isSome = true → ((t.sees pid).task taskId).isSome = true)
    (terminal : ∀ taskId before after, (s.sees pid).task taskId = some before → (t.sees pid).task taskId = some after →
      terminalTask before.status = true → terminalTask after.status = true)
    (stakes : ∀ write ∈ writes, ∀ taskId, write.key = .task taskId → Stakes pid s taskId) : TaskHold pid t where
  apart := by
    rw [sessions]
    exact hold.apart
  held := fun id row taskId stored named => there taskId (hold.held id row taskId (sessions ▸ stored) named)
  done := fun id row taskId task stored kind ended named present => by
    rw [sessions] at stored
    obtain ⟨before, known⟩ := Option.isSome_iff_exists.mp (hold.held id row taskId stored named)
    exact terminal taskId before task known present (hold.done id row taskId before stored kind ended named known)
  owns := owns_appended hold appends stakes
  fresh := fun id row stored absent => fresh_appended hold appends (sessions ▸ stored) absent

-- The notes and the locks are those of before; what the rows say is given.
theorem composed_appended {busy before : Option Nat} (composed : Composed terms due before pid s)
    (appends : Appends pid writes s.server t.server) (kin : Kin (t.sees pid)) (owned : OfSubagents (t.sees pid))
    (paired : ∀ id, busy ≠ some id → EndedIffClosed id (t.sees pid))
    (accounted : ∀ id, busy ≠ some id → Accounted id (s.server.pending pid ++ due) s.db (t.sees pid))
    (sheltered : terms.parentsOpen → Sheltered (t.sees pid)) (tasks : terms.parentsOpen → TaskHold pid t) :
    Composed terms due busy pid t := by
  have db : t.db = s.db := appends.db
  refine ⟨kin, owned, paired, ?_, ?_, ?_, sheltered, tasks⟩ <;> rw [appends.pending]
  · rw [db]
    exact accounted
  · exact fun call member new => appends.keyLock _ (composed.holds call member new)
  · exact composed.fine

theorem composed_rows {busy : Option Nat} {before : Option Nat} (composed : Composed terms due before pid s)
    (narrower : ∀ id, busy ≠ some id → before ≠ some id) (appends : Appends pid writes s.server t.server)
    (sessions : (t.sees pid).session = (s.sees pid).session) (owned : OfSubagents (t.sees pid))
    (closures : ∀ id, busy ≠ some id → ∀ closureId row, row.runtimeSessionId = id →
    ((t.sees pid).closure closureId = some row ↔ (s.sees pid).closure closureId = some row))
    (tasks : terms.parentsOpen → TaskHold pid t) : Composed terms due busy pid t := by
  have same (id : Nat) (other : busy ≠ some id) : SameAt id (s.sees pid) (t.sees pid) :=
    ⟨congrFun sessions id, closures id other⟩
  refine composed_appended composed appends ?_ owned
    (fun id other => ended_iff_closed_same (same id other) (composed.paired id (narrower id other)))
    (fun id other => accounted_same (same id other) (same_at_refl id s.db) (composed.accounted id (narrower id other)))
    (fun asked => ?_) tasks
  · rw [Kin, sessions]
    exact composed.kin
  · rw [Sheltered, sessions]
    exact composed.sheltered asked

def Key.outside : Key → Bool
  | .session _ => false
  | .closure _ => false
  | _ => true

def Key.side : Key → Bool
  | .task _ => false
  | key => key.outside

theorem outside_sessions (appends : Appends pid writes s.server t.server) (outside : ∀ write ∈ writes, ∀ id, write.key ≠ .session id) :
    (t.sees pid).session = (s.sees pid).session :=
  funext (fun id => appends_elsewhere appends (fun write member => outside write member id))

theorem outside_closures (appends : Appends pid writes s.server t.server) (outside : ∀ write ∈ writes, ∀ id, write.key ≠ .closure id) :
    (t.sees pid).closure = (s.sees pid).closure :=
  funext (fun id => appends_elsewhere appends (fun write member => outside write member id))

theorem outside_tasks (appends : Appends pid writes s.server t.server) (outside : ∀ write ∈ writes, ∀ id, write.key ≠ .task id) :
    (t.sees pid).task = (s.sees pid).task :=
  funext (fun id => appends_elsewhere appends (fun write member => outside write member id))

theorem side_apart (side : ∀ write ∈ writes, write.key.side = true) :
    (∀ write ∈ writes, ∀ id, write.key ≠ .session id) ∧ (∀ write ∈ writes, ∀ id, write.key ≠ .closure id) ∧
      ∀ write ∈ writes, ∀ id, write.key ≠ .task id := by
  refine ⟨fun write member id same => ?_, fun write member id same => ?_, fun write member id same => ?_⟩ <;>
  · have fits := side write member
    rw [same] at fits
    cases fits

theorem outside_apart (outside : ∀ write ∈ writes, write.key.outside = true) :
    (∀ write ∈ writes, ∀ id, write.key ≠ .session id) ∧ ∀ write ∈ writes, ∀ id, write.key ≠ .closure id := by
  refine ⟨fun write member id same => ?_, fun write member id same => ?_⟩ <;>
  · have fits := outside write member
    rw [same] at fits
    cases fits

theorem outside_owned (appends : Appends pid writes s.server t.server) (outside : ∀ write ∈ writes, write.key.outside = true)
    (owned : OfSubagents (s.sees pid)) : OfSubagents (t.sees pid) := by
  rw [OfSubagents, outside_sessions appends (outside_apart outside).1, outside_closures appends (outside_apart outside).2]
  exact owned

theorem composed_outside (composed : Composed terms due busy pid s) (appends : Appends pid writes s.server t.server)
    (outside : ∀ write ∈ writes, write.key.outside = true) (tasks : terms.parentsOpen → TaskHold pid t) :
    Composed terms due busy pid t := by
  refine composed_rows composed (fun _ other => other) appends (outside_sessions appends (outside_apart outside).1)
    (outside_owned appends outside composed.owned) (fun id _ closureId row _ => ?_) tasks
  rw [outside_closures appends (outside_apart outside).2]

theorem untasked_hold (hold : TaskHold pid s) (appends : Appends pid writes s.server t.server)
    (sessions : ∀ write ∈ writes, ∀ id, write.key ≠ .session id) (tasks : ∀ write ∈ writes, ∀ id, write.key ≠ .task id) :
    TaskHold pid t := by
  have same := outside_tasks appends tasks
  refine task_hold_rows hold appends (outside_sessions appends sessions) ?_ ?_ (fun write member taskId key =>
    absurd key (tasks write member taskId))
  · intro taskId known
    rw [same]
    exact known
  · intro taskId before after known present terminal
    rw [same] at present
    rwa [Option.some.inj (present.symm.trans known)]

theorem side_outside (side : ∀ write ∈ writes, write.key.side = true) : ∀ write ∈ writes, write.key.outside = true := by
  intro write member
  have fits := side write member
  cases key : write.key <;> rw [key] at fits <;> first | rfl | cases fits

theorem composed_side (composed : Composed terms due busy pid s) (appends : Appends pid writes s.server t.server)
    (side : ∀ write ∈ writes, write.key.side = true) : Composed terms due busy pid t :=
  composed_outside composed appends (side_outside side) (fun asked =>
    untasked_hold (composed.tasks asked) appends (side_apart side).1 (side_apart side).2.2)

-- A task that is new, or not over yet, is written by the process it belongs to.
theorem composed_task (composed : Composed terms due busy pid s) {taskId : Nat} {write : Write Row} (key : write.key = .task taskId)
    (appends : Appends pid [write] s.server t.server)
    (unfinished : terms.parentsOpen → Stakes pid s taskId ∧ ((t.sees pid).task taskId).isSome = true ∧
      ∀ task, (s.sees pid).task taskId = some task → terminalTask task.status = false) : Composed terms due busy pid t := by
  have elsewhere : ∀ other, other ≠ taskId → (t.sees pid).task other = (s.sees pid).task other := fun other different =>
    appends_elsewhere appends (by simpa [key] using fun same => different same.symm)
  have outside : ∀ written ∈ [write], written.key.outside = true := by simp [key, Key.outside]
  refine composed_outside composed appends outside (fun asked => ?_)
  obtain ⟨stakes, there, going⟩ := unfinished asked
  refine task_hold_rows (composed.tasks asked) appends (outside_sessions appends (outside_apart outside).1) ?_ ?_ ?_
  · intro other known
    by_cases same : other = taskId
    · rwa [same]
    · rwa [elsewhere other same]
  · intro other before after known present terminal
    by_cases same : other = taskId
    · rw [going before (same ▸ known)] at terminal
      cases terminal
    · rw [elsewhere other same, known] at present
      rwa [← Option.some.inj present]
  · intro written member other named
    rw [List.mem_singleton.mp member, key] at named
    cases named
    exact stakes

-- A closure that is inserted, or closed late, by the process that closes its session.
theorem composed_closure {busy : Option Nat} (composed : Composed terms due busy pid s) (id : Nat) {closureId : Nat} (row : AgentRuntimeClosure)
    (idle : busy = none ∨ busy = some id) {write : Write Row} (key : write.key = .closure closureId)
    (appends : Appends pid [write] s.server t.server) (whose : row.runtimeSessionId = id)
    (stored : (t.sees pid).closure closureId = some row)
    (before : ∀ old, (s.sees pid).closure closureId = some old → old.runtimeSessionId = id)
    (kind : ∃ session, (s.sees pid).session id = some session ∧ session.kind = .subagent) : Composed terms due (some id) pid t := by
  have elsewhere : ∀ other, other ≠ closureId → (t.sees pid).closure other = (s.sees pid).closure other := fun other different =>
    appends_elsewhere appends (fun written member same => by
      rw [List.mem_singleton.mp member, key] at same
      cases same
      exact different rfl)
  have sessions := outside_sessions appends (fun written member other same => by
    rw [List.mem_singleton.mp member, key] at same
    cases same)
  have tasks : ∀ written ∈ [write], ∀ taskId, written.key ≠ .task taskId := fun written member taskId same => by
    rw [List.mem_singleton.mp member, key] at same
    cases same
  refine composed_rows composed ?_ appends sessions ?_ ?_ (fun asked => untasked_hold (composed.tasks asked) appends
    (fun written member other same => by
      rw [List.mem_singleton.mp member, key] at same
      cases same) tasks)
  · intro other different
    rcases idle with rfl | rfl
    · exact nofun
    · exact different
  · intro other closure present
    rw [sessions]
    by_cases same : other = closureId
    · rw [same, stored] at present
      rw [← Option.some.inj present, whose]
      exact kind
    · rw [elsewhere other same] at present
      exact composed.owned other closure present
  · intro other different found closure named
    by_cases same : found = closureId
    · subst same
      refine ⟨fun present => ?_, fun present => ?_⟩
      · rw [stored] at present
        rw [← Option.some.inj present, whose] at named
        exact absurd (congrArg some named) different
      · exact absurd (congrArg some ((before closure present).symm.trans named)) different
    · rw [elsewhere found same]

theorem accounted_closures {id : Nat} {calls : List CloseCall} {before old new : Db} (closures : new.closure = old.closure)
    (accounted : Accounted id calls before old) : Accounted id calls before new := by
  have closed : Closed id new = Closed id old := by rw [Closed, Closed, closures]
  constructor
  · rw [closed]
    exact accounted.counted
  · rw [closures]
    exact accounted.late

section
variable {busy : Option Nat} {c : Nat} {columns : AgentRuntimeSession → AgentRuntimeSession} {row : AgentRuntimeSession}

-- One session changes, in what its program may set.
structure Sets (pid c : Nat) (columns : AgentRuntimeSession → AgentRuntimeSession) (row : AgentRuntimeSession) (s t : Sys) : Prop where
  appends : Appends pid [.change (.session c) columns] s.server t.server
  stored : (s.sees pid).session c = some row
  pinned : Pinned (.session c) row (columns row)
  stays : row.endedAt ≠ none → (columns row).endedAt ≠ none

theorem sets_here (sets : Sets pid c columns row s t) : (t.sees pid).session c = some (columns row) := by
  have cell : (t.sees pid).session c = ((s.sees pid).session c).map columns := appends_here sets.appends
  rw [cell, sets.stored, Option.map_some]

theorem sets_elsewhere (sets : Sets pid c columns row s t) (other : id ≠ c) :
    (t.sees pid).session id = (s.sees pid).session id :=
  appends_elsewhere sets.appends (by simpa [Write.key] using fun same => other same.symm)

theorem sets_apart (sets : Sets pid c columns row s t) :
    (t.sees pid).closure = (s.sees pid).closure ∧ (t.sees pid).task = (s.sees pid).task :=
  ⟨outside_closures sets.appends (by simp [Write.key]), outside_tasks sets.appends (by simp [Write.key])⟩

theorem sets_lasts (sets : Sets pid c columns row s t) {old : AgentRuntimeSession} (stored : (s.sees pid).session id = some old) :
    ∃ found, (t.sees pid).session id = some found ∧ Pinned (.session id) old found ∧ (old.endedAt ≠ none → found.endedAt ≠ none) := by
  by_cases same : id = c
  · subst same
    obtain rfl : row = old := Option.some.inj (sets.stored.symm.trans stored)
    exact ⟨columns row, sets_here sets, sets.pinned, sets.stays⟩
  · exact ⟨old, (sets_elsewhere sets same).trans stored, pinned_refl (.session id) old, fun ended => ended⟩

theorem sets_origin (sets : Sets pid c columns row s t) {found : AgentRuntimeSession} (stored : (t.sees pid).session id = some found) :
    ∃ old, (s.sees pid).session id = some old ∧ Pinned (.session id) old found := by
  by_cases same : id = c
  · subst same
    exact ⟨row, sets.stored, Option.some.inj ((sets_here sets).symm.trans stored) ▸ sets.pinned⟩
  · exact ⟨found, (sets_elsewhere sets same).symm.trans stored, pinned_refl (.session id) found⟩

theorem sets_kin (sets : Sets pid c columns row s t) (kin : Kin (s.sees pid)) : Kin (t.sees pid) := by
  intro id found parentId stored named
  obtain ⟨old, before, pinned⟩ := sets_origin sets stored
  rw [pinned] at named ⊢
  obtain ⟨kind, parent, there, tenant⟩ := kin id old parentId before named
  obtain ⟨again, present, pinnedToo, -⟩ := sets_lasts sets there
  exact ⟨kind, again, present, by rw [pinnedToo]; exact tenant⟩

theorem sets_owned (sets : Sets pid c columns row s t) (owned : OfSubagents (s.sees pid)) : OfSubagents (t.sees pid) := by
  intro closureId closure stored
  rw [(sets_apart sets).1] at stored
  obtain ⟨session, there, kind⟩ := owned closureId closure stored
  obtain ⟨found, present, pinned, -⟩ := sets_lasts sets there
  exact ⟨found, present, by rw [pinned]; exact kind⟩

theorem sets_sheltered (sets : Sets pid c columns row s t) (sheltered : Sheltered (s.sees pid))
    (ends : row.kind = .session → row.endedAt = none → (columns row).endedAt ≠ none →
      ∀ id child, (s.sees pid).session id = some child → child.parentSessionId = some c → child.endedAt ≠ none) :
    Sheltered (t.sees pid) := by
  intro parentId parent id child storedParent kind ended stored named
  obtain ⟨old, before, pinned⟩ := sets_origin sets stored
  obtain ⟨again, present, -, stays⟩ := sets_lasts sets before
  obtain rfl : again = child := Option.some.inj (present.symm.trans stored)
  rw [pinned] at named
  apply stays
  by_cases same : parentId = c
  · subst same
    obtain rfl : columns row = parent := Option.some.inj ((sets_here sets).symm.trans storedParent)
    rw [sets.pinned] at kind
    by_cases unended : row.endedAt = none
    · exact ends kind unended ended id old before named
    · exact sheltered parentId row id old sets.stored kind unended before named
  · exact sheltered parentId parent id old ((sets_elsewhere sets same).symm.trans storedParent) kind ended before named

theorem sets_hold (sets : Sets pid c columns row s t) (hold : TaskHold pid s)
    (ends : row.kind = .subagent → row.endedAt = none → (columns row).endedAt ≠ none → ∀ taskId task, row.taskId = some taskId →
      (s.sees pid).task taskId = some task → terminalTask task.status = true) : TaskHold pid t where
  apart := fun id found other rival taskId stored storedToo first second => by
    obtain ⟨old, before, pinned⟩ := sets_origin sets stored
    obtain ⟨oldRival, beforeToo, pinnedToo⟩ := sets_origin sets storedToo
    rw [pinned] at first
    rw [pinnedToo] at second
    exact hold.apart id old other oldRival taskId before beforeToo first second
  held := fun id found taskId stored named => by
    obtain ⟨old, before, pinned⟩ := sets_origin sets stored
    rw [pinned] at named
    rw [(sets_apart sets).2]
    exact hold.held id old taskId before named
  done := fun id found taskId task stored kind ended named present => by
    rw [(sets_apart sets).2] at present
    by_cases same : id = c
    · subst same
      obtain rfl : columns row = found := Option.some.inj ((sets_here sets).symm.trans stored)
      rw [sets.pinned] at kind named
      by_cases unended : row.endedAt = none
      · exact ends kind unended ended taskId task named present
      · exact hold.done id row taskId task sets.stored kind unended named present
    · exact hold.done id found taskId task ((sets_elsewhere sets same).symm.trans stored) kind ended named present
  owns := owns_appended hold sets.appends (by simp [Write.key])
  fresh := fun id found stored absent => by
    obtain ⟨old, before, pinned⟩ := sets_origin sets stored
    obtain ⟨taskId, named, rest⟩ := fresh_appended hold sets.appends before absent
    exact ⟨taskId, by rw [pinned]; exact named, rest⟩

theorem composed_session (sets : Sets pid c columns row s t) (composed : Composed terms due busy pid s)
    (balanced : busy ≠ some c → EndedIffClosed c (t.sees pid))
    (shelters : terms.parentsOpen → row.kind = .session → row.endedAt = none → (columns row).endedAt ≠ none →
      ∀ id child, (s.sees pid).session id = some child → child.parentSessionId = some c → child.endedAt ≠ none)
    (finishes : terms.parentsOpen → row.kind = .subagent → row.endedAt = none → (columns row).endedAt ≠ none →
      ∀ taskId task, row.taskId = some taskId → (s.sees pid).task taskId = some task → terminalTask task.status = true) :
    Composed terms due busy pid t := by
  refine composed_appended composed sets.appends (sets_kin sets composed.kin) (sets_owned sets composed.owned) (fun id other => ?_)
    (fun id other => accounted_closures (sets_apart sets).1 (composed.accounted id other))
    (fun asked => sets_sheltered sets (composed.sheltered asked) (shelters asked))
    (fun asked => sets_hold sets (composed.tasks asked) (finishes asked))
  by_cases same : id = c
  · subst same
    exact balanced other
  · have unmoved : SameAt id (s.sees pid) (t.sees pid) := ⟨sets_elsewhere sets same, fun closureId closure _ => by rw [(sets_apart sets).1]⟩
    exact ended_iff_closed_same unmoved (composed.paired id other)

end

end

end AiWorld.Api
