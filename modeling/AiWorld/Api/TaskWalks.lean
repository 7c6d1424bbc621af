import AiWorld.Api.RuntimeFrames

set_option autoImplicit false

namespace AiWorld.Api

open AiWorld.Concurrency AiWorld.Database

variable {id taskId tenantId : Nat} {target : TaskStatus} {missionId : Option Nat} {task : Loaded Task}

-- What a process knows of a task that nobody else writes.
def Entrusts (terms : Terms) (pid : Nat) (taskId : Option Nat) (fact : Nat → Option Task → Prop) (s : Sys) : Prop :=
  terms.parentsOpen → ∀ id, taskId = some id → Staked pid s id ∧ fact id ((s.sees pid).task id)

-- The columns of a session that was loaded are those of the row, but for what is set later.
def Known (pid id : Nat) (loaded : AgentRuntimeSession) (s : Sys) : Prop :=
  ∃ row, (s.sees pid).session id = some row ∧ Pinned (.session id) loaded row

theorem known_carried {pid : Nat} {loaded : AgentRuntimeSession} : Carried (Lasts pid) (Known pid id loaded) := by
  rintro s t ⟨row, stored, pinned⟩ lasts
  obtain ⟨found, present, further⟩ := lasts id row stored
  exact ⟨found, present, pinned_trans (.session id) loaded row found pinned further.pinned⟩

section
variable {start : Db} {terms : Terms} {pid : Nat} {s t : Sys} {due : List CloseCall} {busy : Option Nat}

theorem entrusts_carried (taskId : Option Nat) (fact : Nat → Option Task → Prop) :
    Carried (Sides terms pid) (Entrusts terms pid taskId fact) := by
  intro s t holds sides asked id named
  obtain ⟨staked, seen⟩ := holds asked id named
  obtain ⟨still, same⟩ := sides.tasks asked id staked
  exact ⟨still, same ▸ seen⟩

variable {fact : Nat → Option Task → Prop}

theorem entrusts_weaken {taskId : Option Nat} {weaker : Nat → Option Task → Prop}
    (implies : ∀ id task, fact id task → weaker id task) (holds : Entrusts terms pid taskId fact s) :
    Entrusts terms pid taskId weaker s :=
  fun asked id named => ⟨(holds asked id named).1, implies id _ (holds asked id named).2⟩

theorem entrusts_appended {writes : List (Write Row)} {taskId : Option Nat} (appends : Appends pid writes s.server t.server)
    (apart : ∀ write ∈ writes, ∀ id, write.key ≠ .task id) (holds : Entrusts terms pid taskId fact s) :
    Entrusts terms pid taskId fact t := by
  intro asked id named
  obtain ⟨staked, seen⟩ := holds asked id named
  rw [outside_tasks appends apart]
  exact ⟨staked_appended appends staked, seen⟩

theorem staked_of_locked (hold : TaskHold pid s) (related : Related (runtimeRule terms) s.server) {row : AgentRuntimeSession}
    (locked : s.server.keyLock (.session id) = some pid) (stored : (s.sees pid).session id = some row)
    (named : row.taskId = some taskId) : Staked pid s taskId := by
  rcases session_origin (related pid) stored with ⟨committed, -⟩ | ⟨old, committed, moves⟩
  · obtain ⟨found, whose, held, missing⟩ := hold.fresh id row stored committed
    rw [Option.some.inj (whose.symm.trans named)] at held missing
    exact .inl ⟨missing, held⟩
  · rw [moves.pinned] at named
    exact .inr ⟨id, old, committed, named, locked⟩

-- The task of a session belongs to the process that has locked it.
theorem entrusts_locked (composed : Composed terms due busy pid s) (related : Related (runtimeRule terms) s.server)
    {loaded : AgentRuntimeSession} (locked : s.server.keyLock (.session id) = some pid) (known : Known pid id loaded s) :
    Entrusts terms pid loaded.taskId (fun _ task => task.isSome = true) s := by
  intro asked taskId named
  obtain ⟨row, stored, pinned⟩ := known
  have namedToo : row.taskId = some taskId := by rw [pinned]; exact named
  exact ⟨staked_of_locked (composed.tasks asked) related locked stored namedToo,
    (composed.tasks asked).held id row taskId stored namedToo⟩

theorem staked_stakes (staked : Staked pid s taskId) : Stakes pid s taskId := staked.imp_left And.left

end

section
variable {start : Db} {terms : Terms} {pid : Nat} {request : Request} {due : List CloseCall} {busy : Option Nat} {frame : Sys → Prop}
  {raised : Failure → Sys → Prop}

-- What `load_task` has read.
def readAs (task : Option (Loaded Task)) (id : Nat) (row : Option Task) : Prop := task = row.map (Prod.mk id) ∧ row.isSome = true

def ReadOf (taskId : Option Nat) (task : Option (Loaded Task)) : Prop := ∀ found, task = some found → taskId = some found.1

theorem load_task_walks {taskId : Option Nat} (carried : Carried (Stays terms pid) frame) :
    Walks start terms pid request
      (Framed terms due busy pid (fun s => frame s ∧ Entrusts terms pid taskId (fun _ task => task.isSome = true) s))
      (loadTask taskId)
      (fun task s => ReadOf taskId task ∧ Composed terms due busy pid s ∧ (frame s ∧ Entrusts terms pid taskId (readAs task) s)) := by
  cases taskId with
  | none =>
      refine raises_pure _ (fun s holds => ⟨fun found same => ?_, holds.1, holds.2.1, fun _ id named => ?_⟩)
      · cases same
      · cases named
  | some taskId =>
      refine framed_select _ (carried_and carried (stays_of_sides (entrusts_carried _ _)))
        (fun s composed holds _ _ => ⟨fun found same => ?_, composed, holds.1, fun asked id named => ?_⟩)
      · obtain ⟨task, -, rfl⟩ := Option.map_eq_some_iff.mp same
        rfl
      · obtain ⟨staked, known⟩ := holds.2 asked id named
        cases named
        exact ⟨staked, rfl, known⟩

-- A task that is not over is written by the process it is entrusted to.
theorem framed_task {loaded : Task} {columns : Task → Task} (unfinished : terminalTask loaded.status = false)
    (carried : Carried (Passes pid) frame) :
    Walks start terms pid request
      (Framed terms due busy pid (fun s => frame s ∧ Entrusts terms pid (some taskId) (fun _ row => row = some loaded) s))
      (update (.task taskId) loaded columns)
      (fun _ => Framed terms due busy pid (fun s => frame s ∧ Entrusts terms pid (some taskId) (fun _ row => row = some (columns loaded)) s)) := by
  have sides : Carried (Sides terms pid) frame := sides_of_passes carried
  refine running_ask
    (framed_stable (stays_of_sides (carried_and sides (entrusts_carried _ _)))) ?_ ?_
    (fun same => by cases same) ?_
  · intro s query kept before same
    cases same
    refine respects_own (runtime_rule_trans terms) kept.2 (fun write sets _ => ?_)
    cases sets
    change Persists (TaskMoves terms) ((s.sees pid).task taskId) (((s.sees pid).task taskId).map columns)
    cases stored : (s.sees pid).task taskId with
    | none => trivial
    | some row =>
        intro asked terminal
        have same := (before.2.2 asked taskId rfl).2
        rw [← Option.some.inj (same.symm.trans stored), unfinished] at terminal
        cases terminal
  · intro query write same sets
    cases same
    cases sets
    exact side_shrinks rfl
  · intro s choice answer t before kept inv _ executed
    rcases exec_update executed with ⟨absent, same⟩ | ⟨-, appends⟩
    · have stayed : Appends pid [] s.server t.server := appends_of_same same
      refine ⟨composed_side before.1 stayed (by simp), sides s t before.2.1 (side_sides stayed (by simp)), fun asked id named => ?_⟩
      cases named
      have there := (before.2.2 asked taskId rfl).2
      cases there.symm.trans absent
    · have cell : (t.sees pid).task taskId = ((s.sees pid).task taskId).map columns := appends_here appends
      refine ⟨composed_task before.1 rfl appends (fun asked => ?_),
        carried s t before.2.1 (outside_passes appends (by simp [Write.key, Key.outside])), fun asked id named => ?_⟩
      · obtain ⟨staked, same⟩ := before.2.2 asked taskId rfl
        exact ⟨staked_stakes staked, by rw [cell, same]; rfl, fun task stored => Option.some.inj (same.symm.trans stored) ▸ unfinished⟩
      · cases named
        obtain ⟨staked, same⟩ := before.2.2 asked taskId rfl
        exact ⟨staked_appended appends staked, by rw [cell, same, Option.map_some]⟩

theorem validated_walks {pre : Sys → Prop} {checked : Except InvalidTransition Unit} (fails : ∀ failure s, pre s → raised failure s) :
    Raises (running start terms).toContract pid request pre (validated checked) (fun _ => pre) raised := by
  unfold validated
  split
  · exact raises_done
  · exact raises_throw _ (fails _)

-- The task as it is loaded stays what the process sees of it.
def Working (terms : Terms) (due : List CloseCall) (busy : Option Nat) (pid : Nat) (frame : Sys → Prop) (taskId : Nat) (task : Loaded Task)
    (s : Sys) : Prop :=
  (task.1 = taskId ∧ terminalTask task.2.status = false) ∧ Composed terms due busy pid s ∧
    (frame s ∧ Entrusts terms pid (some taskId) (fun _ row => row = some task.2) s)

theorem hop_to_running_walks (carried : Carried (Passes pid) frame) :
    Walks start terms pid request (Working terms due busy pid frame task.1 task)
      (hopToRunning tenantId missionId target task) (Working terms due busy pid frame task.1) := by
  have sides : Carried (Sides terms pid) frame := sides_of_passes carried
  refine raises_fact (fun ⟨_, unfinished⟩ => ?_)
  unfold hopToRunning
  split
  · refine raises_bind _ (validated_walks (fun _ _ _ => trivial)) (fun _ => ?_)
    refine raises_bind _ (framed_task unfinished carried) (fun _ => ?_)
    refine raises_bind _ (framed_publish (carried_and sides (entrusts_carried _ _)) (fun _ _ => trivial)) (fun _ => ?_)
    exact raises_pure _ (fun s after => ⟨⟨rfl, rfl⟩, after⟩)
  · refine raises_bind _ (validated_walks (fun _ _ _ => trivial)) (fun _ => ?_)
    refine raises_bind _ (framed_task unfinished carried) (fun _ => ?_)
    exact raises_pure _ (fun s after => ⟨⟨rfl, rfl⟩, after⟩)
  · exact raises_pure _ (fun s before => ⟨⟨rfl, unfinished⟩, before⟩)

def terminalRow (_ : Nat) (row : Option Task) : Prop := ∃ task, row = some task ∧ terminalTask task.status = true

theorem advance_open_task_walks (terminal : terminalTask target = true) (carried : Carried (Passes pid) frame) :
    Walks start terms pid request (Working terms due busy pid frame task.1 task)
      (advanceOpenTask tenantId missionId target task)
      (fun _ => Framed terms due busy pid (fun s => frame s ∧ Entrusts terms pid (some task.1) terminalRow s)) := by
  have sides : Carried (Sides terms pid) frame := sides_of_passes carried
  refine raises_bind _ (hop_to_running_walks carried) (fun hopped => ?_)
  refine raises_fact (fun ⟨same, unfinished⟩ => ?_)
  rw [← same]
  refine raises_bind _ (validated_walks (fun _ _ _ => trivial)) (fun _ => ?_)
  refine raises_bind _ (framed_task unfinished carried) (fun _ => ?_)
  refine raises_weaken (framed_publish (carried_and sides (entrusts_carried _ _)) (fun _ _ => trivial)) (fun _ holds => holds)
    (fun _ s after => ⟨after.1, after.2.1, entrusts_weaken (fun _ row seen => ⟨_, seen, terminal⟩) after.2.2⟩) (fun _ _ holds => holds)

-- A task is over after `advance_task`, if a row of it was found.
theorem advance_task_walks (terminal : terminalTask target = true) {taskId : Option Nat} {task : Option (Loaded Task)}
    (readOf : ReadOf taskId task) (carried : Carried (Passes pid) frame) :
    Walks start terms pid request
      (Framed terms due busy pid (fun s => frame s ∧ Entrusts terms pid taskId (readAs task) s))
      (advanceTask tenantId missionId target task)
      (fun _ => Framed terms due busy pid (fun s => frame s ∧ Entrusts terms pid taskId terminalRow s)) := by
  cases task with
  | none =>
      refine raises_pure _ (fun s holds => ⟨holds.1, holds.2.1, entrusts_weaken (fun id row seen => ?_) holds.2.2⟩)
      obtain ⟨found, stored⟩ := Option.isSome_iff_exists.mp seen.2
      have missing := seen.1
      rw [stored] at missing
      cases missing
  | some task =>
      have read : ∀ id row, readAs (some task) id row → row = some task.2 := by
        rintro id row ⟨seen, known⟩
        obtain ⟨found, rfl⟩ := Option.isSome_iff_exists.mp known
        cases seen
        rfl
      change Raises _ _ _ _ (if terminalTask task.2.status = true then pure () else advanceOpenTask tenantId missionId target task) _ _
      by_cases terminated : terminalTask task.2.status = true
      · rw [if_pos terminated]
        refine raises_pure _ (fun s holds => ⟨holds.1, holds.2.1, entrusts_weaken (fun id row seen => ?_) holds.2.2⟩)
        exact ⟨task.2, read id row seen, terminated⟩
      · rw [if_neg terminated]
        have unfinished : terminalTask task.2.status = false := by simpa using terminated
        obtain rfl : taskId = some task.1 := readOf task rfl
        exact raises_before (advance_open_task_walks terminal carried)
          (fun s holds => ⟨⟨rfl, unfinished⟩, holds.1, holds.2.1, entrusts_weaken read holds.2.2⟩)

end

end AiWorld.Api
