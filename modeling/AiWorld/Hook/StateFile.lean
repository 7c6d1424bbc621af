import AiWorld.Hook.Lifecycle

set_option autoImplicit false

namespace AiWorld.Hook

open AiWorld.Concurrency

variable {s : Disk} {op : HookOp} {reply : Option Reply} {run : Nat} {ref : String}

-- The hook has read a state file that names this run, or none.
def HasRead (trace : List (Nat × HookOp)) (pid : Nat) (named : Option Nat) : Prop :=
  ∃ glance seen, (pid, .read glance seen) ∈ trace ∧ seen.names = named

-- A heartbeat replaces a file that names the run it read, and a session end removes
-- one that does, or none.
def Respectful (trace : List (Nat × HookOp)) (pid : Nat) : HookOp → Prop
  | .wrote .heartbeat before state => before.names = some state.run ∧ HasRead trace pid (some state.run)
  | .removed before => before = .absent ∨ ∃ run, before.names = some run ∧ HasRead trace pid (some run)
  | _ => True

structure Unclobbered (s : Disk) : Prop where
  sound : s.file ≠ .corrupt
  respectful : ∀ pid op, (pid, op) ∈ s.trace → Respectful s.trace pid op

-- Nobody else is about to act on what the file said before.
def Alone (pid : Nat) (s : Disk) : Prop := ∀ other ∈ s.armed, other = pid

-- A write or a removal that changes which run the file names falls into no other
-- hook's window.
def undisturbed (pid : Nat) (_ : Hook) (stmt : HookStmt) (s : Disk) : Prop :=
  match stmt with
  | .writeState _ state => s.file.names = some state.run ∨ Alone pid s
  | .removeState => s.file.names = none ∨ Alone pid s
  | _ => True

-- What the other hooks leave alone.
structure Spares (pid : Nat) (s t : Disk) : Prop where
  armed : pid ∈ t.armed ↔ pid ∈ s.armed
  names : pid ∈ s.armed → t.file.names = s.file.names
  trace : s.trace ⊆ t.trace

theorem spares_refl (pid : Nat) (s : Disk) : Spares pid s s := ⟨Iff.rfl, fun _ => rfl, List.Subset.refl _⟩

theorem spares_trans (pid : Nat) (s t u : Disk) (first : Spares pid s t) (second : Spares pid t u) : Spares pid s u :=
  ⟨second.armed.trans first.armed, fun armed => (second.names (first.armed.mpr armed)).trans (first.names armed),
    List.Subset.trans first.trace second.trace⟩

variable {pids : List Nat} {trace more : List (Nat × HookOp)}

theorem mem_without {pid other : Nat} (different : other ≠ pid) : other ∈ without pid pids ↔ other ∈ pids := by
  simp [without, different]

theorem not_mem_without (pid : Nat) (pids : List Nat) : pid ∉ without pid pids := by simp [without]

theorem mem_joined {joins : Bool} {pid other : Nat} (different : other ≠ pid) :
    other ∈ joined joins pid pids ↔ other ∈ pids := by
  unfold joined
  split
  · simp [different]
  · rfl

theorem stands_spares (pid other : Nat) (s : Disk) (different : other ≠ pid) : Spares other s (s.stands pid) :=
  ⟨mem_without different, fun _ => rfl, List.Subset.refl _⟩

theorem has_read_mono (grown : trace ⊆ more) {pid : Nat} {named : Option Nat} (read : HasRead trace pid named) :
    HasRead more pid named := by
  obtain ⟨glance, seen, present, names⟩ := read
  exact ⟨glance, seen, grown present, names⟩

theorem respectful_mono (grown : trace ⊆ more) {pid : Nat} {op : HookOp} (respectful : Respectful trace pid op) :
    Respectful more pid op := by
  cases op with
  | wrote event before state =>
      cases event with
      | heartbeat => exact ⟨respectful.1, has_read_mono grown respectful.2⟩
      | _ => trivial
  | removed before =>
      cases respectful with
      | inl absent => exact .inl absent
      | inr named =>
          obtain ⟨run, names, read⟩ := named
          exact .inr ⟨run, names, has_read_mono grown read⟩
  | _ => trivial

def filing : Discipline hooks Hook :=
  .ofRely _ undisturbed (fun _ _ => True) Unclobbered (fun _ _ => True) Spares (fun pid s => pid ∉ s.armed) spares_refl
    spares_trans (fun pid s inv _ => ⟨⟨inv.sound, inv.respectful⟩, trivial, fun other different =>
      ⟨stands_spares pid other s different, fun idle armed => idle ((stands_spares pid other s different).armed.mp armed)⟩⟩)

section
variable {pid : Nat} {hook : Hook}

-- A step that leaves the others alone and notes what may be noted.
theorem promised_step {s t : Disk} (inv : Unclobbered t) (spares : ∀ other, other ≠ pid → Spares other s t) :
    filing.guarantee pid s t :=
  ⟨inv, trivial, fun other different => ⟨spares other different, fun idle armed => idle ((spares other different).armed.mp armed)⟩⟩

variable {file : StateFile} {stmt : HookStmt}

theorem unclobbered_notes {s : Disk} (inv : Unclobbered s) (op : HookOp) (sound : file ≠ .corrupt)
    (respectful : Respectful s.trace pid op) (armed minting : List Nat) :
    Unclobbered ⟨file, s.nextUuid, s.trace ++ [(pid, op)], armed, minting⟩ := by
  have grown : s.trace ⊆ s.trace ++ [(pid, op)] := List.subset_append_left _ _
  refine ⟨sound, fun other noted present => ?_⟩
  cases List.mem_append.mp present with
  | inl old => exact respectful_mono grown (inv.respectful other noted old)
  | inr new =>
      obtain ⟨rfl, rfl⟩ := Prod.mk.inj (List.mem_singleton.mp new)
      exact respectful_mono grown respectful

theorem reads_files {glance : Glance} (inv : Unclobbered s) : filing.guarantee pid s (s.reads pid glance) :=
  promised_step (unclobbered_notes inv (.read glance s.file) inv.sound trivial _ _)
    (fun _ different => ⟨mem_joined different, fun _ => rfl, List.subset_append_left _ _⟩)

theorem stands_files (inv : Unclobbered s) : filing.guarantee pid s (s.stands pid) :=
  promised_step ⟨inv.sound, inv.respectful⟩ (fun other different => stands_spares pid other s different)

theorem notes_files (inv : Unclobbered s) (respectful : Respectful s.trace pid op) :
    filing.guarantee pid s (s.notes pid op) :=
  promised_step (unclobbered_notes inv op inv.sound respectful _ _)
    (fun _ _ => ⟨Iff.rfl, fun _ => rfl, List.subset_append_left _ _⟩)

-- A change of the file, by a hook that is armed or not.
theorem replaces_files (inv : Unclobbered s) (respectful : Respectful s.trace pid op) (sound : file ≠ .corrupt)
    (fits : s.file.names = file.names ∨ Alone pid s) :
    filing.guarantee pid s { (s.notes pid op).stands pid with file := file } := by
  refine promised_step (unclobbered_notes inv op sound respectful _ _) (fun other different => ?_)
  refine ⟨mem_without different, fun armed => ?_, List.subset_append_left _ _⟩
  cases fits with
  | inl same => exact same.symm
  | inr alone => exact absurd (alone other armed) different

theorem writes_files {event : HookEvent} {state : HookState} {renamed : Bool} (inv : Unclobbered s)
    (respectful : Respectful s.trace pid (.wrote event s.file state)) (met : undisturbed pid hook (.writeState event state) s) :
    filing.guarantee pid s (s.writes pid event state renamed) := by
  cases renamed with
  | true => exact replaces_files inv respectful nofun met
  | false => exact stands_files inv

theorem registers_files (inv : Unclobbered s) : filing.guarantee pid s (s.registers pid run reply) := by
  cases reply with
  | none => exact stands_files inv
  | some reply =>
      simp only [Disk.registers]
      split
      · exact notes_files inv trivial
      · exact stands_files inv

theorem posts_files (inv : Unclobbered s) : filing.guarantee pid s (s.posts pid ref run reply) := by
  cases reply with
  | none => exact promised_step inv (fun other _ => spares_refl other s)
  | some reply => exact notes_files inv trivial

-- The statements of the hooks that never act on an earlier look.
def Modest : HookStmt → Prop
  | .readState (.recheck _) => False
  | .readState .ending => False
  | .writeState .heartbeat _ => False
  | .removeState => False
  | _ => True

theorem modest_files (hook : Hook) (choice : HookChoice) (s : Disk) (modest : Modest stmt) (idle : pid ∉ s.armed)
    (inv : Unclobbered s) (met : undisturbed pid hook stmt s) :
    filing.guarantee pid s (perform pid choice s stmt).2 ∧ pid ∉ (perform pid choice s stmt).2.armed := by
  have stood : pid ∉ (s.stands pid).armed := not_mem_without pid s.armed
  have same : filing.guarantee pid s s := promised_step inv (fun other _ => spares_refl other s)
  cases stmt with
  | readState glance =>
      refine ⟨reads_files inv, ?_⟩
      cases glance with
      | first => exact idle
      | recovery refused => exact idle
      | recheck run => exact modest.elim
      | ending => exact modest.elim
  | writeState event state =>
      refine ⟨writes_files inv ?_ met, ?_⟩
      · cases event with
        | heartbeat => exact modest.elim
        | _ => trivial
      · change pid ∉ (s.writes pid event state choice.renamed).armed
        cases choice.renamed with
        | true => exact stood
        | false => exact stood
  | removeState => exact modest.elim
  | mintUuid =>
      exact ⟨promised_step ⟨inv.sound, inv.respectful⟩ (fun _ _ => ⟨Iff.rfl, fun _ => rfl, List.Subset.refl _⟩), idle⟩
  | nowEpoch => exact ⟨same, idle⟩
  | registerSession run =>
      refine ⟨registers_files inv, ?_⟩
      change pid ∉ (s.registers pid run choice.reply).armed
      cases choice.reply with
      | none => exact stood
      | some reply =>
          simp only [Disk.registers]
          split
          · exact idle
          · exact stood
  | postSubagent ref run =>
      refine ⟨posts_files inv, ?_⟩
      change pid ∉ (s.posts pid ref run choice.reply).armed
      cases choice.reply with
      | none => exact idle
      | some reply => exact idle
  | patchSession runtime => exact ⟨same, idle⟩

theorem idle_stable : Stable filing.toContract pid (fun s => pid ∉ s.armed) :=
  fun _ _ idle spares _ armed => idle (spares.armed.mp armed)

abbrev Filed {α : Type} (pid : Nat) (hook : Hook) (pre : Disk → Prop) (program : HookM α) (post : α → Disk → Prop) : Prop :=
  Raises filing.toContract pid hook pre program post (fun _ _ => True)

theorem modest_filed {α : Type} (program : HookM α) (modest : Issues Modest (fun _ => True) program) :
    Filed pid hook (fun s => pid ∉ s.armed) program (fun _ s => pid ∉ s.armed) := by
  have walk : Triple filing.toContract pid hook (fun s => pid ∉ s.armed) program.run
      (fun result s => Returned (fun _ => True) result ∧ pid ∉ s.armed) :=
    triple_issues idle_stable (fun stmt s choice answer t fine idle inv met executed => by
      have result : perform pid choice s stmt = (answer, t) := Option.some.inj executed
      have moved := modest_files hook choice s fine idle inv met
      rw [result] at moved
      exact moved) modest
  refine triple_weaken walk (fun _ idle => idle) (fun result s ended => ?_)
  cases result with
  | ok value => exact ended.2
  | error logClass => trivial

theorem filed_ask {pre : Disk → Prop} (post : HookAns stmt → Disk → Prop)
    (stable : Stable filing.toContract pid pre) (executes : ∀ s choice, pre s → Unclobbered s → undisturbed pid hook stmt s →
      filing.guarantee pid s (perform pid choice s stmt).2 ∧ post (perform pid choice s stmt).1 (perform pid choice s stmt).2) :
    Filed pid hook pre (ask stmt) post := by
  refine raises_ask (S := hookSig) stmt post stable (fun s choice answer t before inv met executed => ?_)
  have result : perform pid choice s stmt = (answer, t) := Option.some.inj executed
  have moved := executes s choice before inv met
  rw [result] at moved
  exact moved

theorem ask_modest (stmt : HookStmt) (modest : Modest stmt) : Issues Modest (fun _ => True) (ask stmt) :=
  issues_ask (S := hookSig) stmt modest

theorem called_modest : Issues Modest (fun _ => True) (called reply) := by
  cases reply with
  | none => exact issues_throw
  | some reply => exact issues_pure trivial

theorem register_modest : Issues Modest (fun _ => True) (registerSession run) := by
  refine issues_bind (ask_modest _ trivial) (fun answer _ => issues_bind (called_modest) (fun reply _ => ?_))
  refine issues_ite (fun _ => ?_) (fun _ => issues_pure trivial)
  cases reply.id with
  | none => exact issues_pure trivial
  | some runtime => exact issues_pure trivial

theorem start_run_modest : Issues Modest (fun _ => True) (startRun run) := by
  refine issues_bind (register_modest) (fun registered _ => ?_)
  cases registered with
  | ok runtime =>
      exact issues_bind (ask_modest .nowEpoch trivial) (fun now _ =>
        issues_bind (ask_modest (.writeState _ _) trivial) (fun _ _ => issues_throw))
  | error code =>
      refine issues_bind (issues_ite (fun _ => ask_modest (.writeState _ _) trivial) (fun _ => issues_pure trivial)) ?_
      exact fun _ _ => issues_throw

theorem start_minted_modest : Issues Modest (fun _ => True) startMinted :=
  issues_bind (ask_modest .mintUuid trivial) (fun _ _ => start_run_modest)

theorem session_start_modest {source : Source} : Issues Modest (fun _ => True) (onSessionStart source) := by
  refine issues_ite (fun _ => issues_throw) (fun _ => issues_bind (ask_modest (.readState .first) trivial) (fun file _ => ?_))
  cases file with
  | stored state =>
      refine issues_ite (fun _ => issues_throw) (fun _ => issues_ite (fun _ => issues_throw) (fun _ => ?_))
      exact issues_ite (fun _ => start_run_modest) (fun _ => start_minted_modest)
  | absent => exact start_minted_modest
  | corrupt => exact start_minted_modest

theorem retry_modest : Issues Modest (fun _ => True) (retrySubagent ref run) :=
  issues_bind (ask_modest (.postSubagent ref run) trivial) (fun _ _ => issues_bind (called_modest)
    (fun _ _ => issues_ite (fun _ => issues_throw) (fun _ => issues_throw)))

theorem mint_run_modest : Issues Modest (fun _ => True) (mintRun ref) := by
  refine issues_bind (ask_modest .mintUuid trivial) (fun run _ => issues_bind (register_modest) (fun registered _ => ?_))
  cases registered with
  | ok runtime =>
      exact issues_bind (ask_modest .nowEpoch trivial) (fun now _ =>
        issues_bind (ask_modest (.writeState _ _) trivial) (fun _ _ => retry_modest))
  | error code => exact issues_throw

theorem subagent_start_modest {ref : Option String} : Issues Modest (fun _ => True) (onSubagentStart ref) := by
  cases ref with
  | none => exact issues_throw
  | some ref =>
      refine issues_bind (ask_modest (.readState .first) trivial) (fun file _ => ?_)
      cases file with
      | absent => exact issues_throw
      | corrupt => exact issues_throw
      | stored state =>
          refine issues_ite (fun _ => issues_throw) (fun _ => ?_)
          refine issues_bind (ask_modest (.postSubagent ref state.run) trivial) (fun answer _ =>
            issues_bind (called_modest) (fun reply _ => issues_ite (fun _ => issues_throw) (fun _ => ?_)))
          refine issues_ite (fun _ => ?_) (fun _ => issues_throw)
          refine issues_bind (ask_modest (.readState (.recovery state.run)) trivial) (fun seen _ => ?_)
          cases seen.movedFrom state.run with
          | some run => exact retry_modest
          | none => exact mint_run_modest

-- What a hook that has looked knows: it is armed, and the file still names what it
-- then named.
structure Armed (pid : Nat) (named : Option Nat) (s : Disk) : Prop where
  armed : pid ∈ s.armed
  names : s.file.names = named
  read : HasRead s.trace pid named

theorem armed_stable {named : Option Nat} : Stable filing.toContract pid (Armed pid named) :=
  fun _ _ holds spares _ => ⟨spares.armed.mpr holds.armed, (spares.names holds.armed).trans holds.names,
    has_read_mono spares.trace holds.read⟩

theorem stamp_filed (run now : Nat) : Filed pid hook (fun s => pid ∉ s.armed) (stampHeartbeat run now) (fun _ _ => True) := by
  refine raises_bind (fun file s => (file.names = some run → Armed pid (some run) s) ∧ (file.names ≠ some run → pid ∉ s.armed))
    (filed_ask _ idle_stable (fun s choice idle inv _ => ⟨reads_files inv, ?_, ?_⟩)) (fun file => ?_)
  · intro (named : s.file.names = some run)
    refine ⟨?_, named, .recheck run, s.file, List.mem_append_right _ (List.mem_singleton.mpr rfl), named⟩
    simp [perform, Disk.reads, joined, Glance.arms, named]
  · intro (unnamed : s.file.names ≠ some run)
    simpa [perform, Disk.reads, joined, Glance.arms, unnamed] using idle
  cases file with
  | absent => exact raises_throw _ (fun _ _ => trivial)
  | corrupt => exact raises_throw _ (fun _ _ => trivial)
  | stored state =>
      dsimp only
      split
      case isFalse => exact raises_throw _ (fun _ _ => trivial)
      case isTrue same =>
        have named : (StateFile.stored state).names = some run := congrArg some same
        refine raises_weaken (show Filed pid hook (Armed pid (some run)) _ (fun _ _ => True) from ?_)
          (fun s holds => holds.1 named) (fun _ _ _ => trivial) (fun _ _ _ => trivial)
        refine raises_bind (fun _ s => pid ∉ s.armed) (filed_ask _ (armed_stable) ?_) (fun _ => ?_)
        · intro s choice holds inv met
          refine ⟨writes_files inv ⟨?_, ?_⟩ met, ?_⟩
          · exact holds.names.trans (congrArg some same.symm)
          · exact same ▸ holds.read
          · change pid ∉ (s.writes pid _ _ choice.renamed).armed
            cases choice.renamed with
            | true => exact not_mem_without pid s.armed
            | false => exact not_mem_without pid s.armed
        · refine raises_weaken (modest_filed _ ?_) (fun _ idle => idle) (fun _ _ _ => trivial) (fun _ _ _ => trivial)
          exact issues_bind (ask_modest (.patchSession _) trivial) (fun answer _ =>
            issues_bind (called_modest) (fun _ _ => issues_throw))

theorem heartbeat_filed : Filed pid hook (fun s => pid ∉ s.armed) onHeartbeat (fun _ _ => True) := by
  refine raises_bind (fun _ s => pid ∉ s.armed) (modest_filed _ (ask_modest (.readState .first) trivial)) (fun file => ?_)
  cases file with
  | absent => exact raises_throw _ (fun _ _ => trivial)
  | corrupt => exact raises_throw _ (fun _ _ => trivial)
  | stored state =>
      dsimp only
      split
      · exact raises_throw _ (fun _ _ => trivial)
      refine raises_bind (fun _ s => pid ∉ s.armed) (modest_filed _ (ask_modest .nowEpoch trivial)) (fun now => ?_)
      split
      · exact raises_throw _ (fun _ _ => trivial)
      · exact stamp_filed state.run now

theorem clean_up_filed (logClass : LogClass) (named : Option Nat) :
    Filed pid hook (Armed pid named) (cleanUp logClass) (fun _ _ => True) := by
  refine raises_bind (fun _ _ => True) (filed_ask _ (armed_stable) (fun s choice holds inv met => ⟨?_, trivial⟩))
    (fun _ => raises_throw _ (fun _ _ => trivial))
  refine replaces_files inv ?_ nofun met
  cases file : s.file with
  | absent => exact .inl rfl
  | corrupt => exact absurd file inv.sound
  | stored state =>
      have names : s.file.names = some state.run := by rw [file]; rfl
      exact .inr ⟨state.run, rfl, names ▸ holds.names ▸ holds.read⟩

theorem session_end_filed : Filed pid hook (fun s => pid ∉ s.armed) onSessionEnd (fun _ _ => True) := by
  refine raises_bind (fun file => Armed pid file.names)
    (filed_ask _ idle_stable (fun s choice idle inv _ => ⟨reads_files inv, ?_⟩)) (fun file => ?_)
  · exact ⟨List.mem_cons_self, rfl, .ending, s.file, List.mem_append_right _ (List.mem_singleton.mpr rfl), rfl⟩
  cases file with
  | absent => exact clean_up_filed _ _
  | corrupt => exact clean_up_filed _ _
  | stored state =>
      dsimp only
      split
      · exact clean_up_filed _ _
      refine raises_bind (fun _ => Armed pid (some state.run)) (filed_ask _ (armed_stable) ?_) (fun answer => ?_)
      · exact fun s choice holds inv _ => ⟨promised_step inv (fun other _ => spares_refl other s), holds⟩
      · cases answer with
        | none => exact clean_up_filed _ _
        | some reply => exact clean_up_filed _ _

theorem serve_filed (hook : Hook) : Filed pid hook (fun s => pid ∉ s.armed) (serve hook) (fun _ _ => True) := by
  have anything : ∀ (program : HookM Unit), Issues Modest (fun _ => True) program →
      Filed pid hook (fun s => pid ∉ s.armed) program (fun _ _ => True) := fun program modest =>
    raises_weaken (modest_filed program modest) (fun _ idle => idle) (fun _ _ _ => trivial) (fun _ _ _ => trivial)
  cases hook with
  | sessionStart source => exact anything _ (session_start_modest)
  | subagentStart ref => exact anything _ (subagent_start_modest)
  | heartbeat => exact heartbeat_filed
  | sessionEnd => exact session_end_filed

end

-- Whatever hooks of a session run in parallel, and wherever they are killed.
theorem state_unclobbered (file : StateFile) (sound : file ≠ .corrupt) (nextUuid : Nat) (labels : List HookLabel) (session : Session)
    (run : Runs step (Pool.Meets (fun _ => True) undisturbed (fun _ _ => True)) (boot file nextUuid) labels session) :
    (∀ pid before state, (pid, .wrote .heartbeat before state) ∈ session.shared.trace →
      before.names = some state.run ∧ HasRead session.shared.trace pid (some state.run)) ∧
    ∀ pid before, (pid, .removed before) ∈ session.shared.trace →
      before = .absent ∨ ∃ run, before.names = some run ∧ HasRead session.shared.trace pid (some run) := by
  have start : Sound filing (fun _ _ _ _ => True) (boot file nextUuid) :=
    sound_start _ ⟨sound, fun _ _ present => nomatch present⟩ (fun _ present => nomatch present)
  have kept : Sound filing (fun _ _ _ _ => True) session := runs_sound (fun _ _ _ _ _ _ _ _ => trivial)
    (fun pid hook s _ _ idle => safe_weaken (fun _ _ _ => trivial) _ s (serve_filed hook s idle))
    (fun _ _ _ _ _ => trivial) run start
  exact ⟨fun pid before state noted => kept.inv.respectful pid _ noted, fun pid before noted => kept.inv.respectful pid _ noted⟩

instance (pid : Nat) (hook : Hook) (stmt : HookStmt) (s : Disk) : Decidable (undisturbed pid hook stmt s) :=
  match stmt with
  | .writeState _ state => inferInstanceAs (Decidable (s.file.names = some state.run ∨ ∀ other ∈ s.armed, other = pid))
  | .removeState => inferInstanceAs (Decidable (s.file.names = none ∨ ∀ other ∈ s.armed, other = pid))
  | .readState _ | .mintUuid | .nowEpoch | .registerSession _ | .postSubagent _ _ | .patchSession _ =>
      inferInstanceAs (Decidable True)

namespace Sample

def state : HookState := ⟨1, some 2, 0⟩

def turn (pid : Nat) : HookLabel := .step pid { time := 1000, reply := some ⟨200, some 7, false⟩ }

-- A heartbeat has looked twice when a session end removes the file.
def recreated : List HookLabel :=
  [.arrive .heartbeat, turn 0, turn 0, turn 0, .arrive .sessionEnd, turn 1, turn 1, turn 1, turn 0]

-- A session end waits for the platform while the session is resumed under a new run.
def resumed : List HookLabel :=
  [.arrive .sessionEnd, turn 0, turn 0, .arrive (.sessionStart .resume), turn 1, turn 1, turn 1, turn 1, turn 1, turn 0]

def oneAfterTheOther : List HookLabel :=
  [.arrive .heartbeat, turn 0, turn 0, turn 0, turn 0, .arrive .sessionEnd, turn 1, turn 1, turn 1]

end Sample

theorem state_unclobbered_sample :
    ∃ session, Runs step (Pool.Meets (fun _ => True) undisturbed (fun _ _ => True)) (boot (.stored Sample.state) 10)
        Sample.oneAfterTheOther session ∧ session.shared.file = .absent ∧
      ∀ pid before, (pid, .removed before) ∈ session.shared.trace →
        before = .absent ∨ ∃ run, before.names = some run ∧ HasRead session.shared.trace pid (some run) := by
  obtain ⟨session, run, shown⟩ := checked_exhibit step
    (Pool.checks (fun _ => true) (fun pid hook stmt s => decide (undisturbed pid hook stmt s)) (fun _ _ => true))
    (fun session label checked => by simpa using Pool.meets_of_checks _ _ _ session label checked)
    (fun session => session.shared.file = .absent) (boot (.stored Sample.state) 10) Sample.oneAfterTheOther (by decide +kernel)
  exact ⟨session, run, of_decide_eq_true shown, (state_unclobbered (.stored Sample.state) nofun 10 _ session run).2⟩

-- The heartbeat recreates the file, and the session end removes a run it never read.
theorem state_clobbered :
    (∃ session, Runs step Anything (boot (.stored Sample.state) 10) Sample.recreated session ∧
      (0, .wrote .heartbeat .absent ⟨1, some 2, 1000⟩) ∈ session.shared.trace ∧
      session.shared.file = .stored ⟨1, some 2, 1000⟩) ∧
    ∃ session, Runs step Anything (boot (.stored Sample.state) 10) Sample.resumed session ∧
      (0, .removed (.stored ⟨10, some 7, 1000⟩)) ∈ session.shared.trace ∧
      ∀ glance seen, (0, .read glance seen) ∈ session.shared.trace → seen.names = some 1 := by
  constructor
  · obtain ⟨session, run, shown⟩ := runs_exhibit step
      (fun session => decide ((0, .wrote .heartbeat .absent ⟨1, some 2, 1000⟩) ∈ session.shared.trace ∧
        session.shared.file = .stored ⟨1, some 2, 1000⟩)) (boot (.stored Sample.state) 10) Sample.recreated (by decide +kernel)
    exact ⟨session, run, of_decide_eq_true shown⟩
  · obtain ⟨session, run, shown⟩ := runs_exhibit step
      (fun session => decide ((0, .removed (.stored ⟨10, some 7, 1000⟩)) ∈ session.shared.trace) &&
        session.shared.trace.all (fun entry => match entry with
          | (0, .read _ seen) => decide (seen.names = some 1)
          | _ => true)) (boot (.stored Sample.state) 10) Sample.resumed (by decide +kernel)
    simp only [Bool.and_eq_true, decide_eq_true_eq, List.all_eq_true] at shown
    refine ⟨session, run, shown.1, fun glance seen present => ?_⟩
    exact of_decide_eq_true (shown.2 _ present)

end AiWorld.Hook
