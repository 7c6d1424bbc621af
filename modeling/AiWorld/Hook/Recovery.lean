import AiWorld.Hook.StateFile

set_option autoImplicit false

namespace AiWorld.Hook

open AiWorld.Concurrency

variable {run : Nat} {op : HookOp} {ref : String} {runs : List Nat}

-- The platform has ended one run: it refuses subagents under it and takes every other
-- registration. Renames succeed.
def answers (refused : Nat) (choice : HookChoice) : HookStmt → Bool
  | .postSubagent _ run =>
      if run = refused then choice.reply = some { httpCode := 409, parentSessionEnded := true }
      else choice.reply.any Reply.succeeds
  | .registerSession _ => choice.reply.any (fun reply => reply.succeeds && reply.id.isSome)
  | .writeState _ _ => choice.renamed
  | _ => true

def platform (refused : Nat) : Machine hookSig HookChoice Disk where
  exec := fun pid stmt choice s => if answers refused choice stmt then hooks.exec pid stmt choice s else none
  crash := hooks.crash

def recoveryStep (refused : Nat) (session : Session) (label : HookLabel) : Option Session :=
  session.step (platform refused) (fun hook => (serve hook).run) lost label

def registeredRun : Nat × HookOp → Option Nat
  | (_, .registered run) => some run
  | _ => none

-- The runs registered so far, each a new mission.
def Disk.registeredRuns (s : Disk) : List Nat := s.trace.filterMap registeredRun

def isSubagentStart : Hook → Bool
  | .subagentStart _ => true
  | _ => false

-- No other hook is between its own look and the write of the run it mints.
def oneAtATime (_ : Nat) (_ : Hook) (stmt : HookStmt) (s : Disk) : Prop :=
  match stmt with
  | .readState (.recovery _) => s.minting = []
  | _ => True

def notMinting (pid : Nat) (s : Disk) : Prop := pid ∉ s.minting

-- Where the recovery stands: nobody has registered a new run, one hook has and will
-- write it, or it is written.
inductive Stage (refused : Nat) (s : Disk) : Prop where
  | unregistered (file : s.file.names = some refused) (none : s.registeredRuns = [])
  | registered (run pid : Nat) (file : s.file.names = some refused) (one : s.registeredRuns = [run]) (mints : pid ∈ s.minting)
  | written (state : HookState) (file : s.file = .stored state) (moved : state.run ≠ refused) (one : s.registeredRuns = [state.run])
      (nobody : s.minting = [])

structure Recovering (refused : Nat) (s : Disk) : Prop where
  usable : ∃ state, s.file = .stored state ∧ state.runtime ≠ none
  fresh : refused < s.nextUuid
  single : ∀ one ∈ s.minting, ∀ other ∈ s.minting, one = other
  posts : ∀ pid ref run accepted, (pid, .posted ref run accepted) ∈ s.trace → run = refused ∨ run ∈ s.registeredRuns
  stage : Stage refused s

-- What the others leave to a hook: its place, and while it mints the file and the runs.
structure Leaves (pid : Nat) (s t : Disk) : Prop where
  minting : pid ∈ t.minting ↔ pid ∈ s.minting
  file : pid ∈ s.minting → t.file = s.file
  runs : pid ∈ s.minting → t.registeredRuns = s.registeredRuns
  trace : s.trace ⊆ t.trace

theorem leaves_refl (pid : Nat) (s : Disk) : Leaves pid s s := ⟨Iff.rfl, fun _ => rfl, fun _ => rfl, List.Subset.refl _⟩

theorem leaves_trans (pid : Nat) (s t u : Disk) (first : Leaves pid s t) (second : Leaves pid t u) : Leaves pid s u where
  minting := second.minting.trans first.minting
  file := fun mints => (second.file (first.minting.mpr mints)).trans (first.file mints)
  runs := fun mints => (second.runs (first.minting.mpr mints)).trans (first.runs mints)
  trace := List.Subset.trans first.trace second.trace

theorem without_self {pid : Nat} {pids : List Nat} (absent : pid ∉ pids) : without pid pids = pids :=
  List.filter_eq_self.mpr (fun other present => by simpa using ne_of_mem_of_not_mem present absent)

variable {s : Disk}

-- Only the lists of hooks change, and they keep their members.
theorem recovering_stands {refused : Nat} (pid : Nat) (inv : Recovering refused s) (idle : notMinting pid s) :
    Recovering refused (s.stands pid) := by
  have same : without pid s.minting = s.minting := without_self idle
  refine ⟨inv.usable, inv.fresh, ?_, inv.posts, ?_⟩
  · simp only [Disk.stands, same]
    exact inv.single
  · cases inv.stage with
    | unregistered file none => exact .unregistered file none
    | registered run other file one mints => exact .registered run other file one ((congrArg (other ∈ ·) same).mpr mints)
    | written state file moved one nobody => exact .written state file moved one (same.trans nobody)

def recovery (refused : Nat) : Discipline (platform refused) Hook :=
  .ofRely _ oneAtATime notMinting (Recovering refused) (fun _ _ => True) Leaves notMinting leaves_refl leaves_trans
    (fun pid _ inv idle => ⟨recovering_stands pid inv idle, trivial, fun _ different =>
      ⟨⟨mem_without different, fun _ => rfl, fun _ => rfl, List.Subset.refl _⟩, fun out present =>
        out ((mem_without different).mp present)⟩⟩)

theorem registered_runs_notes (s : Disk) (pid : Nat) (op : HookOp) :
    (s.notes pid op).registeredRuns = s.registeredRuns ++ (registeredRun (pid, op)).toList := by
  simp only [Disk.registeredRuns, Disk.notes, List.filterMap_append]
  cases registered : registeredRun (pid, op) with
  | none => simp [registered]
  | some run => simp [registered]

theorem registered_runs_mono {t : Disk} (grown : s.trace ⊆ t.trace) {run : Nat} (present : run ∈ s.registeredRuns) :
    run ∈ t.registeredRuns := by
  obtain ⟨entry, listed, names⟩ := List.mem_filterMap.mp present
  exact List.mem_filterMap.mpr ⟨entry, grown listed, names⟩

section
variable {refused pid : Nat} {hook : Hook} {s : Disk}

-- A note that registers nothing changes no stage.
theorem stage_notes (op : HookOp) (other : registeredRun (pid, op) = none) (stage : Stage refused s) :
    Stage refused (s.notes pid op) := by
  have same : (s.notes pid op).registeredRuns = s.registeredRuns := by rw [registered_runs_notes, other]; simp
  cases stage with
  | unregistered file none => exact .unregistered file (same.trans none)
  | registered run minter file one mints => exact .registered run minter file (same.trans one) mints
  | written state file moved one nobody => exact .written state file moved (same.trans one) nobody

theorem recovering_notes (other : registeredRun (pid, op) = none) (inv : Recovering refused s)
    (posts : ∀ ref run accepted, op = .posted ref run accepted → run = refused ∨ run ∈ s.registeredRuns) :
    Recovering refused (s.notes pid op) := by
  refine ⟨inv.usable, inv.fresh, inv.single, fun who ref run accepted present => ?_, stage_notes op other inv.stage⟩
  have grown : s.trace ⊆ (s.notes pid op).trace := List.subset_append_left _ _
  have known : run = refused ∨ run ∈ s.registeredRuns := by
    cases List.mem_append.mp present with
    | inl old => exact inv.posts who ref run accepted old
    | inr new => exact posts ref run accepted (Prod.mk.inj (List.mem_singleton.mp new)).2.symm
  exact known.imp id (registered_runs_mono grown)

theorem notes_leaves (other : registeredRun (pid, op) = none) (who : Nat) : Leaves who s (s.notes pid op) :=
  ⟨Iff.rfl, fun _ => rfl, fun _ => by rw [registered_runs_notes, other]; simp, List.subset_append_left _ _⟩

-- What a step of a hook has to keep.
def Keeping (refused pid : Nat) (s t : Disk) : Prop := Recovering refused t ∧ ∀ other, other ≠ pid → Leaves other s t

theorem keeping_guarantee {t : Disk} (keeping : Keeping refused pid s t) : (recovery refused).guarantee pid s t :=
  ⟨keeping.1, trivial, fun other different => ⟨keeping.2 other different, fun idle mints =>
    idle ((keeping.2 other different).minting.mp mints)⟩⟩

abbrev Recovers {α : Type} (refused pid : Nat) (hook : Hook) (pre : Disk → Prop) (program : HookM α) (post : α → Disk → Prop)
    (raised : LogClass → Disk → Prop) : Prop :=
  Raises (recovery refused).toContract pid hook pre program post raised

variable {raised : LogClass → Disk → Prop}

theorem recovers_ask {pre : Disk → Prop} {stmt : HookStmt} {post : HookAns stmt → Disk → Prop}
    (stable : Stable (recovery refused).toContract pid pre)
    (executes : ∀ s choice, pre s → Recovering refused s → oneAtATime pid hook stmt s → answers refused choice stmt = true →
      Keeping refused pid s (perform pid choice s stmt).2 ∧ post (perform pid choice s stmt).1 (perform pid choice s stmt).2) :
    Recovers refused pid hook pre (ask stmt) post raised := by
  refine raises_ask (S := hookSig) stmt post stable (fun s choice answer t before inv met executed => ?_)
  by_cases fits : answers refused choice stmt = true
  · have result : perform pid choice s stmt = (answer, t) := by
      simpa [platform, hooks, fits] using executed
    obtain ⟨keeping, after⟩ := executes s choice before inv met fits
    rw [result] at keeping after
    exact ⟨keeping_guarantee keeping, after⟩
  · simp [platform, fits] at executed

-- The hook is not minting, and the run it holds is one it may post under.
structure Holding (refused pid run : Nat) (s : Disk) : Prop where
  idle : pid ∉ s.minting
  known : run = refused ∨ run ∈ s.registeredRuns

theorem holding_stable (run : Nat) : Stable (recovery refused).toContract pid (Holding refused pid run) :=
  fun _ _ holds leaves _ => ⟨fun mints => holds.idle (leaves.minting.mp mints),
    holds.known.imp id (registered_runs_mono leaves.trace)⟩

theorem not_minting_stable : Stable (recovery refused).toContract pid (notMinting pid) :=
  fun _ _ idle leaves _ mints => idle (leaves.minting.mp mints)

-- The hook mints, with these runs registered so far.
structure Minting (pid : Nat) (refused : Nat) (runs : List Nat) (s : Disk) : Prop where
  mints : pid ∈ s.minting
  file : s.file.names = some refused
  runs : s.registeredRuns = runs

theorem minting_stable : Stable (recovery refused).toContract pid (Minting pid refused runs) :=
  fun _ _ holds leaves _ => ⟨leaves.minting.mpr holds.mints, (congrArg StateFile.names (leaves.file holds.mints)).trans holds.file,
    (leaves.runs holds.mints).trans holds.runs⟩

-- The state file always names a run to post under.
theorem stage_known (inv : Recovering refused s) :
    ∃ state, s.file = .stored state ∧ state.runtime ≠ none ∧ (state.run = refused ∨ state.run ∈ s.registeredRuns) := by
  obtain ⟨state, file, usable⟩ := inv.usable
  refine ⟨state, file, usable, ?_⟩
  cases inv.stage with
  | unregistered named none => exact .inl (Option.some.inj (by rw [file] at named; exact named))
  | registered run minter named one mints => exact .inl (Option.some.inj (by rw [file] at named; exact named))
  | written other written moved one nobody =>
      obtain rfl : state = other := StateFile.stored.inj (file.symm.trans written)
      exact .inr (by simp [one])

theorem keeping_notes (other : registeredRun (pid, op) = none) (inv : Recovering refused s)
    (posts : ∀ ref run accepted, op = .posted ref run accepted → run = refused ∨ run ∈ s.registeredRuns) :
    Keeping refused pid s (s.notes pid op) :=
  ⟨recovering_notes other inv posts, fun who _ => notes_leaves other who⟩

def Accepted (pid : Nat) (ref : String) (s : Disk) : Prop := ∃ run ∈ s.registeredRuns, (pid, .posted ref run true) ∈ s.trace

-- A call that is answered goes on with its answer.
theorem called_recovers {post : Reply → Disk → Prop} {answer : Option Reply} :
    Recovers refused pid hook (fun s => ∃ reply, answer = some reply ∧ post reply s) (called answer) post raised := by
  cases answer with
  | none => exact fun s answered => nomatch answered
  | some reply =>
      refine raises_pure reply (fun s answered => ?_)
      obtain ⟨given, same, holds⟩ := answered
      cases same
      exact holds

-- The answer to a post: the refusal, or a subagent taken under a run that is registered.
def PostAnswer (refused pid : Nat) (ref : String) (run : Nat) (answer : Option Reply) (s : Disk) : Prop :=
  pid ∉ s.minting ∧ ((run = refused ∧ answer = some { httpCode := 409, parentSessionEnded := true }) ∨
    ∃ reply, answer = some reply ∧ reply.succeeds = true ∧ Accepted pid ref s)

theorem post_recovers :
    Recovers refused pid hook (Holding refused pid run) (ask (.postSubagent ref run)) (PostAnswer refused pid ref run) raised := by
  refine recovers_ask (holding_stable run) (fun s choice holds inv _ fits => ?_)
  have known (accepted : Bool) : ∀ other name taken, HookOp.posted ref run accepted = .posted other name taken →
      name = refused ∨ name ∈ s.registeredRuns := by
    intro other name taken same
    cases same
    exact holds.known
  by_cases ended : run = refused
  · have refusal : choice.reply = some { httpCode := 409, parentSessionEnded := true } := by
      simpa [answers, ended] using fits
    simp only [perform, refusal, Disk.posts]
    exact ⟨keeping_notes rfl inv (known _), holds.idle, .inl ⟨ended, rfl⟩⟩
  · obtain ⟨reply, replied, succeeds⟩ : ∃ reply, choice.reply = some reply ∧ reply.succeeds = true := by
      simpa [answers, ended, Option.any_eq_true] using fits
    simp only [perform, replied, Disk.posts, succeeds]
    refine ⟨keeping_notes rfl inv (known true), holds.idle, .inr ⟨reply, rfl, succeeds, run, ?_, ?_⟩⟩
    · exact registered_runs_mono (List.subset_append_left _ _) (holds.known.resolve_left ended)
    · exact List.mem_append_right _ (List.mem_singleton.mpr rfl)

-- The only ways a hook ends here, unless it is killed.
def Delivered (pid : Nat) (ref : String) (logClass : LogClass) (s : Disk) : Prop :=
  (logClass = .ok ∨ logClass = .reregistered) ∧ Accepted pid ref s

theorem retry_recovers (moved : run ≠ refused) :
    Recovers refused pid hook (Holding refused pid run) (retrySubagent ref run) (fun _ _ => False) (Delivered pid ref) := by
  refine raises_bind (fun answer s => ∃ reply, answer = some reply ∧ reply.succeeds = true ∧ Accepted pid ref s)
    (raises_weaken (post_recovers) (fun _ holds => holds) (fun answer s answered => ?_) (fun _ _ raised => raised))
    (fun answer => raises_bind _ (called_recovers) (fun reply => ?_))
  · obtain ⟨-, ⟨ended, -⟩ | accepted⟩ := answered
    · exact absurd ended moved
    · exact accepted
  · split
    · exact raises_throw _ (fun s answered => ⟨.inr rfl, answered.2⟩)
    · rename_i failed
      exact raises_throw _ (fun s answered => absurd answered.1 failed)

theorem minting_alone {runs : List Nat} (inv : Recovering refused s) (holds : Minting pid refused runs s) {other : Nat}
    (different : other ≠ pid) : other ∉ s.minting :=
  fun mints => different (inv.single other mints pid holds.mints)

theorem mint_recovers :
    Recovers refused pid hook (Minting pid refused []) (ask .mintUuid) (fun run s => run ≠ refused ∧ Minting pid refused [] s)
      raised := by
  refine recovers_ask (minting_stable) (fun s choice holds inv _ _ => ⟨⟨?_, fun other _ => ?_⟩, ?_, ?_⟩)
  · refine ⟨inv.usable, Nat.lt_succ_of_lt inv.fresh, inv.single, inv.posts, ?_⟩
    cases inv.stage with
    | unregistered file none => exact .unregistered file none
    | registered run minter file one mints => exact .registered run minter file one mints
    | written state file moved one nobody => exact .written state file moved one nobody
  · exact ⟨Iff.rfl, fun _ => rfl, fun _ => rfl, List.Subset.refl _⟩
  · exact Nat.ne_of_gt inv.fresh
  · exact ⟨holds.mints, holds.file, holds.runs⟩

theorem registers_keeping (run : Nat) (inv : Recovering refused s) (holds : Minting pid refused [] s) :
    Keeping refused pid s (s.notes pid (.registered run)) ∧ Minting pid refused [run] (s.notes pid (.registered run)) := by
  have runs : (s.notes pid (.registered run)).registeredRuns = [run] := by
    rw [registered_runs_notes, holds.runs]
    rfl
  have grown : s.trace ⊆ (s.notes pid (.registered run)).trace := List.subset_append_left _ _
  refine ⟨⟨⟨inv.usable, inv.fresh, inv.single, fun who ref name accepted present => ?_, ?_⟩, fun other different => ?_⟩, ?_⟩
  · cases List.mem_append.mp present with
    | inl old => exact (inv.posts who ref name accepted old).imp id (registered_runs_mono grown)
    | inr new => cases (Prod.mk.inj (List.mem_singleton.mp new)).2
  · exact .registered run pid holds.file runs holds.mints
  · exact ⟨Iff.rfl, fun _ => rfl, fun mints => absurd mints (minting_alone inv holds different), grown⟩
  · exact ⟨holds.mints, holds.file, runs⟩

theorem register_recovers :
    Recovers refused pid hook (Minting pid refused []) (registerSession run)
      (fun registered s => (∃ runtime, registered = .ok runtime) ∧ Minting pid refused [run] s) raised := by
  refine raises_bind (fun answer s => ∃ reply, answer = some reply ∧ (reply.succeeds = true ∧ reply.id ≠ none) ∧
    Minting pid refused [run] s) (recovers_ask (minting_stable) ?_)
    (fun answer => raises_bind _ (called_recovers) (fun reply => ?_))
  · intro s choice holds inv _ fits
    obtain ⟨reply, replied, succeeds, identified⟩ : ∃ reply, choice.reply = some reply ∧ reply.succeeds = true ∧
        reply.id.isSome = true := by simpa [answers, Option.any_eq_true] using fits
    obtain ⟨keeping, minting⟩ := registers_keeping run inv holds
    simp only [perform, replied, Disk.registers, succeeds, if_true]
    exact ⟨keeping, reply, rfl, ⟨succeeds, Option.isSome_iff_ne_none.mp identified⟩, minting⟩
  · split
    · cases id : reply.id with
      | none => exact raises_pure _ (fun s answered => absurd rfl answered.1.2)
      | some runtime => exact raises_pure _ (fun s answered => ⟨⟨runtime, rfl⟩, answered.2⟩)
    · rename_i failed
      exact raises_pure _ (fun s answered => absurd answered.1.1 failed)

theorem now_recovers :
    Recovers refused pid hook (Minting pid refused runs) (ask .nowEpoch) (fun _ => Minting pid refused runs) raised :=
  recovers_ask (minting_stable) (fun s _ holds inv _ _ =>
    ⟨⟨inv, fun other _ => leaves_refl other s⟩, holds⟩)

-- The write ends the window: nobody else minted, and the file now names the run.
theorem write_recovers {runtime now : Nat} (moved : run ≠ refused) :
    Recovers refused pid hook (Minting pid refused [run]) (ask (.writeState .subagentStart ⟨run, some runtime, now⟩))
      (fun _ => Holding refused pid run) raised := by
  refine recovers_ask (minting_stable) (fun s choice holds inv _ fits => ?_)
  have renamed : choice.renamed = true := fits
  let op : HookOp := .wrote .subagentStart s.file ⟨run, some runtime, now⟩
  have runs : (s.notes pid op).registeredRuns = [run] := by
    rw [registered_runs_notes, holds.runs]
    rfl
  have nobody : without pid s.minting = [] :=
    List.filter_eq_nil_iff.mpr (fun other mints => by simp [inv.single other mints pid holds.mints])
  simp only [perform, renamed, Disk.writes]
  refine ⟨⟨⟨⟨_, rfl, by simp⟩, inv.fresh, ?_, ?_, .written _ rfl moved runs nobody⟩, fun other different => ?_⟩, ?_, .inr ?_⟩
  · intro one mints
    change one ∈ without pid s.minting at mints
    rw [nobody] at mints
    exact absurd mints List.not_mem_nil
  · exact (recovering_notes rfl inv (fun _ _ _ same => by simp at same)).posts
  · have alone := minting_alone inv holds different
    exact ⟨mem_without different, fun mints => absurd mints alone, fun mints => absurd mints alone, List.subset_append_left _ _⟩
  · exact not_mem_without pid s.minting
  · have member : run ∈ (s.notes pid op).registeredRuns := by simp [runs]
    exact member

theorem mint_run_recovers :
    Recovers refused pid hook (Minting pid refused []) (mintRun ref) (fun _ _ => False) (Delivered pid ref) := by
  refine raises_bind _ mint_recovers (fun run => ?_)
  by_cases moved : run = refused
  · exact fun s holds => absurd moved holds.1
  refine raises_weaken (show Recovers refused pid hook (Minting pid refused []) _ _ _ from ?_) (fun s holds => holds.2)
    (fun _ _ ended => ended) (fun _ _ ended => ended)
  refine raises_bind _ (register_recovers) (fun registered => ?_)
  cases registered with
  | error code => exact fun s registered => nomatch registered.1
  | ok runtime =>
      refine raises_weaken (show Recovers refused pid hook (Minting pid refused [run]) _ _ _ from ?_) (fun s holds => holds.2)
        (fun _ _ ended => ended) (fun _ _ ended => ended)
      refine raises_bind _ (now_recovers) (fun now => raises_bind _ (write_recovers moved) (fun _ => ?_))
      exact retry_recovers moved

theorem reads_keeping (glance : Glance) (inv : Recovering refused s)
    (mints : glance.mints s.file = true → s.minting = [] ∧ s.file.names = some refused ∧ s.registeredRuns = []) :
    Keeping refused pid s (s.reads pid glance) ∧ (s.reads pid glance).registeredRuns = s.registeredRuns := by
  let op : HookOp := .read glance s.file
  have noted : Keeping refused pid s (s.notes pid op) := keeping_notes rfl inv (fun _ _ _ same => nomatch same)
  have runs : (s.notes pid op).registeredRuns = s.registeredRuns := by
    rw [registered_runs_notes]
    simp [op, registeredRun]
  refine ⟨⟨⟨inv.usable, inv.fresh, ?_, noted.1.posts, ?_⟩, fun other different => ?_⟩, runs⟩
  · change ∀ one ∈ joined (glance.mints s.file) pid s.minting, ∀ other ∈ joined (glance.mints s.file) pid s.minting, one = other
    cases joins : glance.mints s.file with
    | false => exact inv.single
    | true =>
        rw [(mints joins).1]
        simp [joined]
  · cases joins : glance.mints s.file with
    | true => exact .unregistered (mints joins).2.1 (runs.trans (mints joins).2.2)
    | false =>
        have same : (s.reads pid glance).minting = s.minting := by simp [Disk.reads, joined, joins]
        cases inv.stage with
        | unregistered file none => exact .unregistered file (runs.trans none)
        | registered run minter file one minted => exact .registered run minter file (runs.trans one) ((congrArg (minter ∈ ·) same).mpr minted)
        | written state file moved one nobody => exact .written state file moved (runs.trans one) (same.trans nobody)
  · exact ⟨mem_joined different, fun _ => rfl, fun _ => runs, List.subset_append_left _ _⟩

-- What the look after a refusal tells.
def Glanced (refused pid : Nat) (moved : Option Nat) (s : Disk) : Prop :=
  match moved with
  | some run => run ≠ refused ∧ Holding refused pid run s
  | none => Minting pid refused [] s

-- The look after the refusal comes when nobody mints: the run is written, or this
-- hook is the one to mint it.
theorem glance_recovers :
    Recovers refused pid hook (notMinting pid) (ask (.readState (.recovery refused)))
      (fun file => Glanced refused pid (file.movedFrom refused)) raised := by
  refine recovers_ask not_minting_stable (fun s choice idle inv nobody _ => ?_)
  have free : s.minting = [] := nobody
  obtain ⟨state, file, usable⟩ := inv.usable
  have unmoved : s.file.names = some refused → s.file.movedFrom refused = none := by
    intro named
    rw [file] at named ⊢
    simp [StateFile.movedFrom, Option.some.inj named]
  cases inv.stage with
  | registered run minter named one mints => exact absurd mints (by simp [free])
  | unregistered named none =>
      obtain ⟨keeping, runs⟩ := reads_keeping (.recovery refused) inv (fun _ => ⟨free, named, none⟩)
      refine ⟨keeping, ?_⟩
      dsimp only [perform]
      rw [unmoved named]
      refine ⟨?_, named, runs.trans none⟩
      simp [Disk.reads, joined, Glance.mints, unmoved named]
  | written other written moved one _ =>
      obtain rfl : state = other := StateFile.stored.inj (file.symm.trans written)
      have found : s.file.movedFrom refused = some state.run := by
        rw [file]
        simp [StateFile.movedFrom, moved, usable]
      have stays : (Glance.recovery refused).mints s.file = false := by simp [Glance.mints, found]
      obtain ⟨keeping, runs⟩ := reads_keeping (.recovery refused) inv (fun mints => absurd mints (by simp [stays]))
      refine ⟨keeping, ?_⟩
      dsimp only [perform]
      rw [found]
      refine ⟨moved, ?_, .inr (by rw [runs, one]; simp)⟩
      simp [Disk.reads, joined, stays, free]

theorem recover_run_recovers :
    Recovers refused pid hook (notMinting pid) (recoverRun ref refused) (fun _ _ => False) (Delivered pid ref) := by
  refine raises_bind _ glance_recovers (fun file => ?_)
  cases moved : file.movedFrom refused with
  | none => exact mint_run_recovers
  | some run =>
      intro s glanced
      exact retry_recovers glanced.1 s glanced.2

theorem post_under_recovers :
    Recovers refused pid hook (Holding refused pid run) (postUnder ref run) (fun _ _ => False) (Delivered pid ref) := by
  refine raises_bind (fun answer s => ∃ reply, answer = some reply ∧ PostAnswer refused pid ref run (some reply) s)
    (raises_weaken (post_recovers) (fun _ holds => holds) (fun answer s answered => ?_) (fun _ _ raised => raised))
    (fun answer => raises_bind _ (called_recovers) (fun reply => ?_))
  · cases answer with
    | some reply => exact ⟨reply, rfl, answered⟩
    | none => obtain ⟨-, ⟨-, impossible⟩ | ⟨_, impossible, -⟩⟩ := answered <;> cases impossible
  · split
    · rename_i succeeds
      refine raises_throw _ (fun s answered => ?_)
      obtain ⟨-, ⟨-, refusal⟩ | ⟨_, -, -, accepted⟩⟩ := answered
      · cases refusal
        exact absurd succeeds (by decide)
      · exact ⟨.inl rfl, accepted⟩
    · rename_i failed
      have refusal : ∀ s, PostAnswer refused pid ref run (some reply) s →
          pid ∉ s.minting ∧ run = refused ∧ reply = { httpCode := 409, parentSessionEnded := true } := by
        intro s answered
        obtain ⟨idle, ⟨ended, same⟩ | ⟨_, same, succeeds, -⟩⟩ := answered
        · exact ⟨idle, ended, Option.some.inj same⟩
        · cases same
          exact absurd succeeds failed
      split
      · intro s answered
        obtain ⟨idle, rfl, -⟩ := refusal s answered
        exact recover_run_recovers s idle
      · rename_i other
        refine raises_throw _ (fun s answered => ?_)
        obtain ⟨-, -, rfl⟩ := refusal s answered
        exact absurd ⟨rfl, rfl⟩ other

theorem subagent_start_recovers :
    Recovers refused pid hook (notMinting pid) (onSubagentStart (some ref)) (fun _ _ => False) (Delivered pid ref) := by
  refine raises_bind (fun file s => ∃ state, file = .stored state ∧ state.runtime ≠ none ∧ Holding refused pid state.run s)
    (recovers_ask not_minting_stable (fun s choice idle inv _ _ => ?_)) (fun file => ?_)
  · obtain ⟨keeping, runs⟩ := reads_keeping .first inv (fun mints => nomatch mints)
    obtain ⟨state, stored, usable, known⟩ := stage_known inv
    exact ⟨keeping, state, stored, usable, idle, known.imp id (fun listed => by rw [← runs] at listed; exact listed)⟩
  · cases file with
    | absent => exact fun s seen => nomatch seen
    | corrupt => exact fun s seen => nomatch seen
    | stored state =>
        dsimp only
        split
        · rename_i unregistered
          intro s seen
          obtain ⟨other, same, usable, -⟩ := seen
          cases same
          exact absurd unregistered usable
        · intro s seen
          obtain ⟨other, same, -, holds⟩ := seen
          cases same
          exact post_under_recovers s holds

end

-- How a hook has ended: killed, without a valid ref, or with its subagent registered.
def Registered (pid : Nat) (hook : Hook) (result : Except LogClass Unit) (s : Disk) : Prop :=
  ∀ ref, hook = .subagentStart (some ref) → result ≠ lost → Accepted pid ref s

theorem registered_stable (refused pid : Nat) (hook : Hook) (result : Except LogClass Unit) :
    Stable (recovery refused).toContract pid (Registered pid hook result) := by
  intro s t registered leaves _ ref same alive
  obtain ⟨run, listed, posted⟩ := registered ref same alive
  exact ⟨run, registered_runs_mono leaves.trace listed, leaves.trace posted⟩

theorem serve_recovers (refused pid : Nat) (hook : Hook) (s : Disk) (subagent : isSubagentStart hook = true) (idle : notMinting pid s) :
    Safe (recovery refused).toContract pid hook (Registered pid hook) (serve hook).run s := by
  cases hook with
  | subagentStart ref =>
      cases ref with
      | none => exact fun ref same => nomatch same
      | some ref =>
          refine safe_weaken (fun result t ended other same alive => ?_) _ s (subagent_start_recovers s idle)
          cases same
          cases result with
          | ok value => exact ended.elim
          | error logClass => exact ended.2
  | _ => exact absurd subagent Bool.false_ne_true

-- Parallel subagent starts of a session whose run has ended, one recovery at a time.
theorem one_recovery_run (state : HookState) (registered : state.runtime ≠ none) (nextUuid : Nat) (fresh : state.run < nextUuid)
    (labels : List HookLabel) (session : Session)
    (run : Runs (recoveryStep state.run) (Pool.Meets (isSubagentStart · = true) oneAtATime notMinting) (boot (.stored state) nextUuid)
      labels session) :
    session.shared.registeredRuns.length ≤ 1 ∧
    (∀ pid ref name accepted, (pid, .posted ref name accepted) ∈ session.shared.trace → name ≠ state.run →
      name ∈ session.shared.registeredRuns) ∧
    ∀ pid ref result, session.procs[pid]? = some (.subagentStart (some ref), .ret result) → result ≠ lost →
      ∃ name ∈ session.shared.registeredRuns, (pid, .posted ref name true) ∈ session.shared.trace := by
  have start : Sound (recovery state.run) Registered (boot (.stored state) nextUuid) :=
    sound_start _ ⟨⟨state, rfl, registered⟩, fresh, (fun _ mints => nomatch mints), (fun _ _ _ _ present => nomatch present),
      .unregistered rfl rfl⟩ (fun _ mints => nomatch mints)
  have kept : Sound (recovery state.run) Registered session := runs_sound (registered_stable state.run)
    (fun pid hook s subagent _ idle => serve_recovers state.run pid hook s subagent idle)
    (fun _ _ _ _ _ _ _ alive => absurd rfl alive) run start
  refine ⟨?_, fun pid ref name accepted posted moved => ?_, fun pid ref result ended alive => ?_⟩
  · cases kept.inv.stage with
    | unregistered file none => simp [none]
    | registered name pid file one mints => simp [one]
    | written state file moved one nobody => simp [one]
  · exact (kept.inv.posts pid ref name accepted posted).resolve_left moved
  · exact kept.safe pid _ _ ended ref rfl alive

instance (pid : Nat) (hook : Hook) (stmt : HookStmt) (s : Disk) : Decidable (oneAtATime pid hook stmt s) :=
  match stmt with
  | .readState (.recovery _) => inferInstanceAs (Decidable (s.minting = []))
  | .readState .first | .readState (.recheck _) | .readState .ending | .writeState _ _ | .removeState | .mintUuid | .nowEpoch
  | .registerSession _ | .postSubagent _ _ | .patchSession _ => inferInstanceAs (Decidable True)

namespace Sample

def refusal (pid : Nat) : HookLabel := .step pid { reply := some { httpCode := 409, parentSessionEnded := true } }

def bothRefused : List HookLabel :=
  [.arrive (.subagentStart (some "a")), .arrive (.subagentStart (some "b")), turn 0, refusal 0, turn 1, refusal 1]

-- The first recovers to its end before the second looks again.
def recoveredInTurn : List HookLabel :=
  bothRefused ++ [turn 0, turn 0, turn 0, turn 0, turn 0, turn 0, turn 1, turn 1]

-- Both look again before either writes.
def recoveredTogether : List HookLabel :=
  bothRefused ++ [turn 0, turn 1, turn 0, turn 0, turn 0, turn 0, turn 0, turn 1, turn 1, turn 1, turn 1, turn 1]

end Sample

theorem one_recovery_run_in_turn :
    ∃ session, Runs (recoveryStep 1) (Pool.Meets (isSubagentStart · = true) oneAtATime notMinting) (boot (.stored Sample.state) 10)
        Sample.recoveredInTurn session ∧
      (1, .posted "b" 10 true) ∈ session.shared.trace ∧ session.shared.registeredRuns.length ≤ 1 := by
  obtain ⟨session, run, shown⟩ := checked_exhibit (recoveryStep 1)
    (Pool.checks isSubagentStart (fun pid hook stmt s => decide (oneAtATime pid hook stmt s)) (fun pid s => decide (pid ∉ s.minting)))
    (fun session label checked => by simpa using Pool.meets_of_checks _ _ _ session label checked)
    (fun session => decide ((1, .posted "b" 10 true) ∈ session.shared.trace)) (boot (.stored Sample.state) 10)
    Sample.recoveredInTurn (by decide +kernel)
  exact ⟨session, run, of_decide_eq_true shown,
    (one_recovery_run Sample.state nofun 10 (by decide) Sample.recoveredInTurn session run).1⟩

theorem two_recovery_runs :
    ∃ session, Runs (recoveryStep 1) (Pool.Meets (isSubagentStart · = true) (fun _ _ _ _ => True) (fun _ _ => False))
        (boot (.stored Sample.state) 10) Sample.recoveredTogether session ∧
      session.shared.registeredRuns = [10, 11] ∧ (0, .posted "a" 10 true) ∈ session.shared.trace ∧
      (1, .posted "b" 11 true) ∈ session.shared.trace := by
  obtain ⟨session, run, shown⟩ := checked_exhibit (recoveryStep 1)
    (Pool.checks isSubagentStart (fun _ _ _ _ => true) (fun _ _ => false))
    (fun session label checked => by simpa using Pool.meets_of_checks _ _ _ session label checked)
    (fun session => decide (session.shared.registeredRuns = [10, 11] ∧ (0, .posted "a" 10 true) ∈ session.shared.trace ∧
      (1, .posted "b" 11 true) ∈ session.shared.trace)) (boot (.stored Sample.state) 10) Sample.recoveredTogether (by decide +kernel)
  exact ⟨session, run, of_decide_eq_true shown⟩

end AiWorld.Hook
