import AiWorld.Api.Announcements
import AiWorld.Api.Ruled

set_option autoImplicit false

namespace AiWorld.Api

open AiWorld.Concurrency AiWorld.Database ArtifactService

variable {pid : Nat}

-- The columns of the unique index `uq_artifact_idempotent_commit`; the version is
-- always 1.
def SameOutput (first second : Artifact) : Prop :=
  first.taskId = second.taskId ∧ first.artifactType = second.artifactType ∧
    first.logicalOutputSlot = second.logicalOutputSlot

theorem same_output_trans (a : Artifact) {b : Artifact} (c : Artifact) (first : SameOutput a b) (second : SameOutput b c) : SameOutput a c :=
  ⟨first.1.trans second.1, first.2.1.trans second.2.1, first.2.2.trans second.2.2⟩

-- Nobody deletes an artifact or turns it into another output. The other tables are
-- anybody's.
def OutputCell : (key : Key) → Option (Row key) → Option (Row key) → Prop
  | .artifact _, before, after => Persists SameOutput before after
  | _, _, _ => True

theorem output_cell_refl (key : Key) (row : Option (Row key)) : OutputCell key row row := by
  cases key with
  | artifact id => exact persists_refl (fun _ => ⟨rfl, rfl, rfl⟩) row
  | _ => trivial

theorem output_cell_trans (key : Key) (a b c : Option (Row key)) (first : OutputCell key a b) (second : OutputCell key b c) :
    OutputCell key a c := by
  cases key with
  | artifact id => exact persists_trans same_output_trans a c first second
  | _ => trivial

def outputRule : CellRule Row := ⟨fun _ => OutputCell, fun _ => output_cell_refl, fun _ _ _ _ _ _ moves => moves⟩

def keepsOutputs : Stmt → Prop
  | .db (.update key _ columns) => ∀ row, OutputCell key (some row) (some (columns row))
  | .db (.updateWhere key _ columns) => ∀ row, OutputCell key (some row) (some (columns row))
  | .db (.delete key) => ∀ row, OutputCell key row none
  | _ => True

theorem pinned_output {key : Key} {before after : Option (Row key)} (moves : PinMoves key before after) :
    OutputCell key before after := by
  cases key with
  | artifact id =>
      cases before with
      | none => trivial
      | some row =>
          obtain ⟨found, rfl, rfl⟩ := persists_found moves
          exact ⟨rfl, rfl, rfl⟩
  | _ => trivial

theorem pins_keeps_outputs {stmt : Stmt} (pins : pinsColumns stmt) : keepsOutputs stmt := by
  cases stmt with
  | db query =>
      cases query with
      | update key loaded columns => exact fun row => pinned_output (pins row)
      | updateWhere key wanted columns => exact fun row => pinned_output (pins row)
      | delete key => exact fun row => pinned_output (pins row)
      | _ => trivial
  | _ => trivial

theorem outputs_respects {query : Database.Stmt Row CloseCall} {s : Server Row Index CloseCall} (related : Related outputRule s)
    (keeps : keepsOutputs (.db query)) : Respects outputRule schema pid query s := by
  cases query with
  | insert key row =>
      refine respects_insert (fun accepted => ?_)
      have seen : OutputCell key _ _ := related pid key
      rw [accepts_absent accepted] at seen
      cases key with
      | artifact id =>
          cases committed : s.db.lookup (.artifact id) with
          | none => trivial
          | some before =>
              rw [committed] at seen
              exact seen.elim
      | _ => trivial
  | update key loaded columns =>
      refine respects_update ?_
      have seen : OutputCell key _ _ := related pid key
      cases found : (s.view pid).lookup key with
      | none =>
          rw [found] at seen
          exact seen
      | some row =>
          rw [found] at seen
          exact output_cell_trans key _ _ _ seen (keeps row)
  | updateWhere key wanted columns =>
      refine respects_update_where (fun found stored wants => ?_)
      have seen : OutputCell key _ _ := related pid key
      rw [stored] at seen
      exact output_cell_trans key _ _ _ seen (keeps found)
  | delete key => exact respects_delete (keeps _)
  | _ => exact respects_reading rfl

-- A caller of `commit_artifact`: whatever its transaction has done before, then the
-- call and the commit of the session. The others are the system's own processes.
inductive Party where
  | caller (earlier : Proc apiSig Unit) (artifact : Artifact)
  | other (request : Request)

def commitThen (artifact : Artifact) : Route (Nat × Bool) := do
  let committed ← commitArtifact artifact
  commit
  return committed

def callAfter (earlier : Proc apiSig Unit) (artifact : Artifact) : Route (Nat × Bool) := do
  ExceptT.lift earlier
  commitThen artifact

abbrev PartyResult := Except Failure (Option (Nat × Bool))

def takePart : Party → Proc apiSig PartyResult
  | .caller earlier artifact => (some <$> callAfter earlier artifact).run
  | .other request => ((fun _ => none) <$> route request).run

abbrev PartySystem := Pool apiSig Sys PartyResult Party

def partyStep (system : PartySystem) (action : Label Choice Party) : Option PartySystem :=
  system.step machine takePart (.error (.unexpected "crash")) action

def partyBoot (db : Db) (nextId : Nat) (queue : List Nat) : PartySystem := ⟨(boot db nextId queue).shared, []⟩

-- The caller's INSERT of an artifact is not refused.
def artifactAccepted (pid : Nat) (party : Party) (stmt : Stmt) (s : Sys) : Bool :=
  match party, stmt with
  | .caller _ _, .db (.insert (.artifact id) row) => schema.accepts (.artifact id) row (s.server.view pid)
  | _, _ => true

def joins : Party → Prop
  | .caller earlier _ => earlier.Issues keepsOutputs (fun _ => True)
  | .other _ => True

def racingRegime : Regime Party where
  rule := outputRule
  trans := fun _ => output_cell_trans
  guard := fun pid party stmt s => artifactAccepted pid party stmt s = true
  mayCrash := anyCrash
  extra := fun _ => True
  promise := fun _ _ => True
  also := fun _ _ _ => True
  also_refl := fun _ _ => trivial
  also_trans := fun _ _ _ _ _ _ _ => trivial
  unbegun := fun _ _ => True
  stays_unbegun := fun _ _ _ _ _ => trivial
  crashed := fun _ _ _ _ _ => ⟨trivial, trivial, fun _ _ => trivial⟩

theorem racing_sustains (pid : Nat) (s t : Sys) : racingRegime.Sustains pid s t := ⟨trivial, trivial, fun _ _ => trivial⟩

def racing : Discipline machine Party := racingRegime.discipline

def Unrefused : PartySystem → Label Choice Party → Prop :=
  Pool.Meets joins (fun pid party stmt s => artifactAccepted pid party stmt s = true) anyCrash

variable {party : Party}

theorem racing_issues {α : Type} {post : α → Prop} {program : Proc apiSig α} (issues : program.Issues keepsOutputs post) :
    Triple racing.toContract pid party (fun _ => True) program (fun _ _ => True) := by
  have kept : Triple racing.toContract pid party (fun _ => True) program (fun value _ => post value ∧ True) :=
    triple_issues (fun _ _ _ _ _ => trivial) (fun (stmt : Stmt) s choice answer t keeps _ inv _ executed =>
      ⟨Regime.guarantees stmt choice s t answer inv.1 (fun query issued => by
        subst issued
        exact outputs_respects inv.1.2 keeps) (racing_sustains pid s t) executed, trivial⟩) issues
  exact triple_weaken kept (fun _ _ => trivial) (fun _ _ _ => trivial)

theorem take_part_issues (joined : joins party) : (takePart party).Issues keepsOutputs (Returned (fun _ => True)) := by
  have writes : ∀ {α : Type} {powers : Powers} (program : Route α), Tame powers program →
      Issues keepsOutputs Fine program := fun program writes =>
    issues_weaken (fun stmt fine => pins_keeps_outputs fine.2.1) writes
  cases party with
  | other request => exact issues_map (writes _ (route_writes))
  | caller earlier artifact =>
      have committed : Writes ⟨true, true, fun _ _ => True⟩ Fine (commitThen artifact) :=
        issues_bind (commit_artifact_writes (fun _ => trivial)) (fun _ _ =>
          issues_bind (ask_writes _ plain) (fun _ _ => issues_pure trivial))
      exact issues_map (issues_bind (issues_lift joined) (fun _ _ => writes _ committed))

-- What the call leaves behind, seen by its transaction and not committed yet: the
-- earlier writes, and after them at most the artifact itself.
structure Prepared (artifact : Artifact) (earlier : List (Write Row)) (pid : Nat) (committed : Nat × Bool) (s : Sys) : Prop where
  staged : s.server.staged pid = earlier ++ if committed.2 then [.put (.artifact committed.1) artifact] else []
  stored : Stored (.artifact committed.1) (fun row => SameOutput row artifact) (s.server.view pid)

-- The same after the commit: some database with all the writes applied.
structure Durable (artifact : Artifact) (earlier : List (Write Row)) (committed : Nat × Bool) (db : Db) : Prop where
  applied : ∃ before, db = replay (earlier ++ if committed.2 then [.put (.artifact committed.1) artifact] else []) before
  stored : Stored (.artifact committed.1) (fun row => SameOutput row artifact) db

section
variable {pid : Nat} {earlier : Proc apiSig Unit} {artifact called : Artifact} {writes : List (Write Row)}

theorem staged_stable : Stable racing.toContract pid (fun s => s.server.staged pid = writes) :=
  fun _ _ holds moved _ => moved.1.undisturbed.staged.trans holds

theorem prepared_stable {committed : Nat × Bool} : Stable racing.toContract pid (Prepared artifact writes pid committed) := by
  intro s t prepared moved _
  refine ⟨moved.1.undisturbed.staged.trans prepared.staged, ?_⟩
  obtain ⟨row, stored, same⟩ := prepared.stored
  have seen : Persists SameOutput _ _ := moved.1.seen (.artifact committed.1)
  rw [stored] at seen
  obtain ⟨found, present, kept⟩ := persists_found seen
  exact ⟨found, present, kept.1.symm.trans same.1, kept.2.1.symm.trans same.2.1, kept.2.2.symm.trans same.2.2⟩

theorem find_committed_stored {db : Db} {existing : Loaded Artifact}
    (found : findCommitted artifact.taskId artifact.artifactType artifact.logicalOutputSlot db = some existing) :
    Stored (.artifact existing.1) (fun row => SameOutput row artifact) db := by
  have member : existing ∈ db.artifacts := List.mem_of_find?_eq_some found
  exact ⟨existing.2, (mem_artifacts db existing).mp member, by simpa [SameOutput] using List.find?_some found⟩

theorem insert_artifact_prepares :
    Raises racing.toContract pid (.caller earlier called) (fun s => s.server.staged pid = writes) (insertArtifact artifact)
      (Prepared artifact writes pid) (fun _ _ => False) := by
  refine raises_bind (fun _ s => s.server.staged pid = writes)
    (Regime.asks _ _ staged_stable (fun s query _ _ issued => by cases issued) (fun s choice answer t holds _ _ _ executed => by
      cases executed
      exact ⟨racing_sustains _ _ _, holds⟩)) (fun id => ?_)
  refine raises_bind (fun (inserted : Bool) s => inserted = true ∧ Prepared artifact writes pid (id, true) s)
    (Regime.asks _ _ staged_stable (fun s query kept _ issued => by
      cases issued
      exact outputs_respects kept.2 trivial) (fun s choice answer t holds _ _ accepted executed => ?_))
    (fun inserted => ?_)
  · refine ⟨racing_sustains _ _ _, ?_⟩
    obtain ⟨⟨found, after⟩, performed, same⟩ := Option.map_eq_some_iff.mp executed
    cases same
    rcases inserts_cases performed with
      ⟨-, refused, -⟩ | ⟨answered, -, -, rfl⟩
    · exact absurd (refused.symm.trans accepted) Bool.false_ne_true
    · have stored : Stored (.artifact id) (fun row => SameOutput row artifact) ((s.server.view pid).insert (.artifact id) artifact) :=
        ⟨artifact, AList.lookup_insert _, rfl, rfl, rfl⟩
      refine ⟨answered, ?_, ?_⟩
      · simp [Server.stages, Server.grabs, holds]
      · simpa [Write.apply] using stored
  · cases inserted with
    | true => exact raises_pure _ (fun s holds => holds.2)
    | false => exact raises_throw _ (fun s holds => by cases holds.1)

theorem commit_artifact_prepares :
    Raises racing.toContract pid (.caller earlier called) (fun s => s.server.staged pid = writes) (commitArtifact artifact)
      (Prepared artifact writes pid) (fun _ _ => False) := by
  refine raises_bind (fun existing s => s.server.staged pid = writes ∧
      ∀ found, existing = some found → Prepared artifact writes pid (found.1, false) s) ?_ (fun existing => ?_)
  · refine raises_bind (fun (db : Db) s => s.server.staged pid = writes ∧ db = s.server.view pid)
      (Regime.asks _ _ staged_stable (fun s query _ _ issued => by
        cases issued
        exact respects_reading rfl) (fun s choice answer t holds _ _ _ executed => by
        obtain ⟨rfl, rfl⟩ := exec_select executed
        exact ⟨racing_sustains _ _ _, holds, rfl⟩)) (fun db => raises_pure _ ?_)
    rintro s ⟨holds, rfl⟩
    exact ⟨holds, fun found present => ⟨by simpa using holds, find_committed_stored present⟩⟩
  · cases existing with
    | some found => exact raises_pure _ (fun s holds => holds.2 found rfl)
    | none => exact raises_weaken insert_artifact_prepares (fun s holds => holds.1) (fun _ _ holds => holds) (fun _ _ holds => holds)

theorem commit_then_durable :
    Raises racing.toContract pid (.caller earlier called) (fun s => s.server.staged pid = writes) (commitThen artifact)
      (fun committed s => Durable artifact writes committed s.db) (fun _ _ => False) := by
  refine raises_bind _ commit_artifact_prepares (fun committed => raises_bind (fun _ s => Durable artifact writes committed s.db)
    (Regime.asks _ _ (prepared_stable) (fun s query _ _ issued => by
      cases issued
      exact respects_reading rfl) (fun s choice answer t prepared _ _ _ executed => ?_)) (fun _ => raises_pure _ (fun _ holds => holds)))
  cases executed
  refine ⟨racing_sustains _ _ _, ⟨s.server.db, ?_⟩, prepared.stored⟩
  rw [← prepared.staged]
  rfl

end

abbrev RaceSound (system : PartySystem) : Prop := Sound racing (fun _ _ _ _ => True) system

theorem racing_starts (pid : Nat) (party : Party) (s : Sys) (joined : joins party) :
    Safe racing.toContract pid party (fun _ _ => True) (takePart party) s :=
  racing_issues (take_part_issues joined) s trivial

-- Whenever a caller has come to `commit_artifact` with any earlier writes, in a run
-- whose artifact INSERTs are not refused and in which it is not cut off: while it is
-- under way only another transaction's locks can keep it waiting; once it is over it
-- has returned the artifact, and right after its commit all its earlier writes are in
-- the database with the row it returned.
theorem artifact_commit_keeps_earlier_writes (db : Db) (nextId : Nat) (queue : List Nat)
    (before actions : List (Label Choice Party)) (entered system : PartySystem)
    (reached : Runs partyStep Unrefused (partyBoot db nextId queue) before entered)
    (run : Runs partyStep Unrefused entered actions system) (pid : Nat) (earlier : Proc apiSig Unit) (artifact : Artifact)
    (calls : entered.procs[pid]? = some (.caller earlier artifact, (some <$> commitThen artifact).run))
    (alive : Label.crash pid ∉ actions) :
    (∀ stmt next choice, system.procs[pid]? = some (.caller earlier artifact, .act stmt next) →
      (partyStep system (.step pid choice)).isSome = true ∨ ∃ other, other ≠ pid ∧ system.shared.server.Holds other) ∧
    ∀ result, system.procs[pid]? = some (.caller earlier artifact, .ret result) →
      ∃ committed, result = .ok (some committed) ∧
        ∃ front back between, actions = front ++ back ∧ Runs partyStep Unrefused entered front between ∧
          Runs partyStep Unrefused between back system ∧
          Durable artifact (entered.shared.server.staged pid) committed between.shared.db := by
  have kept : ∀ (pid : Nat) (_ : Party) (_ : PartyResult), Stable racing.toContract pid (fun _ => True) :=
    fun _ _ _ _ _ _ _ _ => trivial
  have sound : RaceSound entered := runs_sound kept (fun pid party s joined _ _ => racing_starts pid party s joined)
    (fun _ _ _ _ _ => trivial) reached (sound_start _ ⟨kept_boot _ db nextId queue, trivial⟩ (fun _ => ⟨rfl, trivial⟩))
  have safe : Safe racing.toContract pid (.caller earlier artifact)
      (Concurrency.Ending (fun committed s => ∃ pair, committed = some pair ∧
        Durable artifact (entered.shared.server.staged pid) pair s.db) (fun _ _ => False))
      (some <$> commitThen artifact).run entered.shared :=
    raises_map _ (raises_weaken commit_then_durable (fun _ holds => holds) (fun committed s durable => ⟨committed, rfl, durable⟩)
      (fun _ _ impossible => impossible)) entered.shared rfl
  refine ⟨fun stmt next choice entry => ?_, fun result ended => ?_⟩
  · have enabled : (partyStep system (.step pid choice)).isSome = true ∨ exec pid stmt choice system.shared = none :=
      system.step_enabled pid choice _ stmt next entry
    exact enabled.imp_right (exec_waits pid stmt choice system.shared)
  · obtain ⟨front, back, between, split, first, second, ending⟩ := runs_delivers kept
      (fun pid party s joined _ _ => racing_starts pid party s joined) (fun _ _ _ _ _ => trivial) pid _ _ result run sound _
      calls safe alive ended
    cases result with
    | error failure => exact ending.elim
    | ok committed =>
        obtain ⟨pair, rfl, durable⟩ := ending
        exact ⟨pair, rfl, front, back, between, split, first, second, durable⟩

-- A caller that has set task 4 running before it commits the task's output.
def marking : Proc apiSig Unit :=
  .act (.db (.update (.task 4) (⟨3, 1, .queued, 0, "3:task:1", none⟩ : Task) (setTaskStatus .running))) .ret

def output : Artifact := ⟨1, 3, 4, 1, 2, .missionOutput, "primary"⟩

def marker : Party := .caller marking output

def arrived : PartySystem := ⟨(boot externalDesk 10 []).shared, [(marker, takePart marker)]⟩

def marked : PartySystem := (partyStep arrived (.step 0 {})).getD arrived

theorem marked_reached : Runs partyStep Unrefused (partyBoot externalDesk 10 []) [.arrive marker, .step 0 {}] marked := by
  refine .cons _ arrived _ _ _ ⟨fun _ => trivial, fun _ _ => trivial⟩ rfl (.cons _ marked _ _ _ ?_ rfl (.nil _))
  intro party stmt next entry
  cases entry
  rfl

def committing : List (Label Choice Party) := List.replicate 4 (.step 0 {})

def finished : PartySystem := (runLabels partyStep marked committing).getD marked

theorem finished_reached : Runs partyStep Unrefused marked committing finished :=
  runs_of_checked (Pool.checks (fun _ => false) artifactAccepted (fun _ _ => true))
    (fun system action checked => by
      refine Pool.meets_weaken (fun _ impossible => ?_) (fun _ _ _ => trivial) (Pool.meets_of_checks _ _ _ system action checked)
      cases impossible) marked finished rfl

theorem marked_commit_keeps_update :
    ∃ front between, front <+: committing ∧ Runs partyStep Unrefused marked front between ∧
      Durable output (marked.shared.server.staged 0) (10, true) between.shared.db := by
  obtain ⟨committed, same, front, back, between, split, first, -, durable⟩ :=
    (artifact_commit_keeps_earlier_writes externalDesk 10 [] _ committing marked finished marked_reached finished_reached 0
      marking output rfl (by simp [committing])).2 (.ok (some (10, true))) rfl
  cases same
  exact ⟨front, between, ⟨back, split.symm⟩, first, durable⟩

-- A caller that has suspended agent 1 finds no artifact. The completion of the task
-- commits one, the caller's INSERT is refused, and its transaction is gone.
def suspending : Proc apiSig Unit :=
  .act (.db (.update (.agent 1) (⟨1, "AGT-X", "External", .active, some 2⟩ : Agent)
    (fun row => { row with lifecycleState := .suspended }))) .ret

def outputRace : List (Label Choice Party) :=
  .arrive (.caller suspending output) :: List.replicate 2 (.step 0 {}) ++
    .arrive (.other (.completeTaskExternal member 4 (.ok ()))) :: List.replicate 19 (.step 1 {}) ++ List.replicate 2 (.step 0 {})

def pendingFailure (pid : Nat) (system : PartySystem) : Bool :=
  match (system.procs[pid]?).bind (fun entry => entry.2.done) with
  | some (.error failure) => failure = .unexpected "PendingRollbackError"
  | _ => false

theorem lost_race_raises :
    ∃ system, Runs partyStep Anything (partyBoot externalDesk 10 []) outputRace system ∧ pendingFailure 0 system = true ∧
      (findCommitted 4 .missionOutput "primary" system.shared.db).isSome = true ∧
      (system.shared.db.agent 1).any (fun row => row.lifecycleState = .active) = true := by
  obtain ⟨system, run, shown⟩ := runs_exhibit partyStep
    (fun system => pendingFailure 0 system && ((findCommitted 4 .missionOutput "primary" system.shared.db).isSome &&
      (system.shared.db.agent 1).any (fun row => row.lifecycleState = .active)))
    (partyBoot externalDesk 10 []) outputRace (by decide +kernel)
  exact ⟨system, run, by simpa using shown⟩

end AiWorld.Api
