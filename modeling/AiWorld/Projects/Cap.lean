import AiWorld.Projects.Model

set_option autoImplicit false

namespace AiWorld.Projects

open AiWorld.Concurrency AiWorld.Database

variable {stmt : Stmt} {tenantId : Nat}

theorem active_count_insert (tenantId id : Nat) (project : Project) (db : AList Row) :
    activeCount tenantId (db.insert id project) ≤ (if isActive tenantId project then 1 else 0) + activeCount tenantId db := by
  have erased : (db.entries.kerase id).countP (fun entry => isActive tenantId entry.2) ≤ activeCount tenantId db :=
    (List.kerase_sublist id db.entries).countP_le
  unfold activeCount at erased ⊢
  rw [AList.entries_insert, List.countP_cons]
  dsimp only
  omega

-- What a transaction has to commit: one project of a tenant whose count it holds
-- locked, or an archived one.
inductive Bringing (lockKey : Nat → Int) (pid : Nat) (s : Town) : List (Write Row) → Prop where
  | nothing : Bringing lockKey pid s []
  | creates (id : Nat) (project : Project) (locked : s.advisory (lockKey project.tenantId) = some pid)
      (room : activeCount project.tenantId s.server.db < maxActiveProjects) : Bringing lockKey pid s [.put id project]
  | archives (id : Nat) : Bringing lockKey pid s [.change id archived]

structure Capped (lockKey : Nat → Int) (s : Town) : Prop where
  capped : ∀ tenantId, activeCount tenantId s.server.db ≤ maxActiveProjects
  bringing : ∀ pid, Bringing lockKey pid s (s.server.staged pid)
  counted : ∀ pid read, (pid, read) ∈ s.counted → ∀ tenantId, activeCount tenantId read ≤ maxActiveProjects

-- What the other transactions leave alone: the locks, and the counts they cover.
structure Spares (lockKey : Nat → Int) (pid : Nat) (s t : Town) : Prop where
  locks : ∀ key, s.advisory key = some pid → t.advisory key = some pid
  room : ∀ tenantId, s.advisory (lockKey tenantId) = some pid →
    activeCount tenantId t.server.db ≤ activeCount tenantId s.server.db
  staged : t.server.staged pid = s.server.staged pid
  counted : s.counted ⊆ t.counted

section
variable {lockKey : Nat → Int}

theorem spares_refl (pid : Nat) (s : Town) : Spares lockKey pid s s :=
  ⟨fun _ held => held, fun _ _ => Nat.le_refl _, rfl, List.Subset.refl _⟩

theorem spares_trans (pid : Nat) (s t u : Town) (first : Spares lockKey pid s t) (second : Spares lockKey pid t u) :
    Spares lockKey pid s u where
  locks := fun key held => second.locks key (first.locks key held)
  room := fun tenantId held => Nat.le_trans (second.room tenantId (first.locks _ held)) (first.room tenantId held)
  staged := second.staged.trans first.staged
  counted := fun _ present => second.counted (first.counted present)

variable {writes : List (Write Row)}

-- What a transaction brings stays fit for it under the steps of the others.
theorem bringing_spares {pid : Nat} {s t : Town} (bringing : Bringing lockKey pid s writes) (spares : Spares lockKey pid s t) :
    Bringing lockKey pid t writes := by
  cases bringing with
  | nothing => exact .nothing
  | creates id project locked room =>
      exact .creates id project (spares.locks _ locked) (Nat.lt_of_le_of_lt (spares.room _ locked) room)
  | archives id => exact .archives id

-- Committing what is brought keeps every count but that of the tenant it has locked.
theorem bringing_commits {pid : Nat} {s : Town} (bringing : Bringing lockKey pid s writes) (tenantId : Nat) :
    activeCount tenantId (replay writes s.server.db) ≤ activeCount tenantId s.server.db ∨
      (s.advisory (lockKey tenantId) = some pid ∧ activeCount tenantId s.server.db < maxActiveProjects ∧
        activeCount tenantId (replay writes s.server.db) ≤ activeCount tenantId s.server.db + 1) := by
  cases bringing with
  | nothing => exact .inl (Nat.le_refl _)
  | creates id project locked room =>
      have counted := active_count_insert tenantId id project s.server.db
      have replayed : replay [.put id project] s.server.db = s.server.db.insert id project := rfl
      rw [replayed]
      by_cases own : project.tenantId = tenantId
      · subst own
        refine .inr ⟨locked, room, ?_⟩
        split at counted <;> omega
      · have other : isActive tenantId project = false := by simp [isActive, own]
        rw [other] at counted
        exact .inl (by simpa using counted)
  | archives id =>
      refine .inl ?_
      cases found : s.server.db.lookup id with
      | none =>
          have replayed : replay [.change id archived] s.server.db = s.server.db := by
            change (Write.change id archived).apply s.server.db = s.server.db
            simp only [Write.apply, found]
          rw [replayed]
      | some project =>
          have replayed : replay [.change id archived] s.server.db = s.server.db.insert id (archived project) := by
            change (Write.change id archived).apply s.server.db = s.server.db.insert id (archived project)
            simp only [Write.apply, found]
          have counted := active_count_insert tenantId id (archived project) s.server.db
          have other : isActive tenantId (archived project) = false := by simp [isActive, archived]
          rw [other] at counted
          rw [replayed]
          simpa using counted

variable (lockKey) in
def Promising (pid : Nat) (s t : Town) : Prop := Capped lockKey t ∧ ∀ other, other ≠ pid → Spares lockKey other s t

-- A step that commits nothing.
theorem promising_quiet {pid : Nat} {s t : Town} (inv : Capped lockKey s) (db : t.server.db = s.server.db)
    (locks : ∀ key other, other ≠ pid → s.advisory key = some other → t.advisory key = some other)
    (staged : ∀ other, other ≠ pid → t.server.staged other = s.server.staged other) (grown : s.counted ⊆ t.counted)
    (counted : ∀ entry ∈ t.counted, entry ∈ s.counted ∨ entry.2 = s.server.db)
    (bringing : Bringing lockKey pid t (t.server.staged pid)) : Promising lockKey pid s t := by
  have spares : ∀ other, other ≠ pid → Spares lockKey other s t := fun other different =>
    ⟨fun key => locks key other different, fun _ _ => by rw [db], staged other different, grown⟩
  refine ⟨⟨fun tenantId => by rw [db]; exact inv.capped tenantId, fun other => ?_, fun other read present tenantId => ?_⟩, spares⟩
  · by_cases same : other = pid
    · rw [same]
      exact bringing
    · rw [(spares other same).staged]
      exact bringing_spares (inv.bringing other) (spares other same)
  · cases counted (other, read) present with
    | inl old => exact inv.counted other read old tenantId
    | inr now =>
        rw [show read = s.server.db from now]
        exact inv.capped tenantId

-- A step that touches neither the locks nor the counts.
theorem promising_same {pid : Nat} {s t : Town} (inv : Capped lockKey s) (server : t.server = s.server)
    (advisory : t.advisory = s.advisory) (counted : t.counted = s.counted) : Promising lockKey pid s t := by
  refine promising_quiet inv (by rw [server]) (fun key other _ held => by rw [advisory]; exact held)
    (fun other _ => by rw [server]) (by rw [counted]; exact List.Subset.refl _) (fun entry present => .inl (by rw [← counted]; exact present)) ?_
  rw [server]
  exact bringing_spares (inv.bringing pid) ⟨fun key held => by rw [advisory]; exact held, fun _ _ => by rw [server], by rw [server],
    by rw [counted]; exact List.Subset.refl _⟩

theorem released_other {pid other : Nat} {holder : Option Nat} (different : other ≠ pid) (held : holder = some other) :
    released pid holder = some other := by
  rw [released, if_neg (by rw [held]; simpa using different), held]

theorem promising_rollback {pid : Nat} {s : Town} (inv : Capped lockKey s) :
    Promising lockKey pid s { s.releases pid with server := s.server.rollsBack pid } := by
  refine promising_quiet inv rfl (fun key other different held => released_other different held) (fun other different => ?_)
    (List.Subset.refl _) (fun entry present => .inl present) ?_
  · exact Function.update_of_ne different _ _
  · have cleared : (s.server.rollsBack pid).staged pid = [] := by simp [Server.rollsBack]
    exact cleared ▸ .nothing

theorem promising_commit {pid : Nat} {s : Town} (inv : Capped lockKey s) :
    Promising lockKey pid s { s.releases pid with server := s.server.commits pid } := by
  have fits := bringing_commits (inv.bringing pid)
  have cleared : (s.server.commits pid).staged pid = [] := by simp [Server.commits, Server.rollsBack]
  have spares : ∀ other, other ≠ pid → Spares lockKey other s { s.releases pid with server := s.server.commits pid } := by
    intro other different
    refine ⟨fun key held => released_other different held, fun tenantId held => ?_, Function.update_of_ne different _ _,
      List.Subset.refl _⟩
    cases fits tenantId with
    | inl fewer => exact fewer
    | inr more => exact absurd (Option.some.inj (held.symm.trans more.1)) different
  refine ⟨⟨fun tenantId => ?_, fun other => ?_, inv.counted⟩, spares⟩
  · cases fits tenantId with
    | inl fewer => exact Nat.le_trans fewer (inv.capped tenantId)
    | inr more => exact Nat.le_trans more.2.2 more.2.1
  · by_cases same : other = pid
    · subst same
      exact cleared ▸ .nothing
    · rw [(spares other same).staged]
      exact bringing_spares (inv.bringing other) (spares other same)

variable (lockKey) in
def counting : Discipline machine Request :=
  .ofRely _ (fun _ _ _ _ => True) (fun _ _ => True) (Capped lockKey) (fun _ _ => True) (Spares lockKey)
    (fun pid s => s.server.staged pid = []) spares_refl spares_trans
    (fun _ _ inv _ => ⟨(promising_rollback inv).1, trivial, fun other different =>
      ⟨(promising_rollback inv).2 other different, fun clean => ((promising_rollback inv).2 other different).staged.trans clean⟩⟩)

theorem promising_guarantee {pid : Nat} {s t : Town} (promising : Promising lockKey pid s t) :
    (counting lockKey).guarantee pid s t :=
  ⟨promising.1, trivial, fun other different => ⟨promising.2 other different, fun clean =>
    (promising.2 other different).staged.trans clean⟩⟩

abbrev Counts {α : Type} (lockKey : Nat → Int) (pid : Nat) (request : Request) (pre : Town → Prop) (program : Call α)
    (post : α → Town → Prop) (raised : Refusal → Town → Prop) : Prop :=
  Raises (counting lockKey).toContract pid request pre program post raised

section
variable {pid : Nat} {request : Request}
variable {pre : Town → Prop} {raised : Refusal → Town → Prop}

theorem counts_ask (post : Ans stmt → Town → Prop)
    (stable : Stable (counting lockKey).toContract pid pre)
    (executes : ∀ s choice answer t, pre s → Capped lockKey s → exec pid stmt choice s = some (answer, t) →
      Promising lockKey pid s t ∧ post answer t) : Counts lockKey pid request pre (ask stmt) post raised := by
  refine raises_ask (S := projectSig) stmt post stable (fun s choice answer t before inv _ executed => ?_)
  obtain ⟨promising, after⟩ := executes s choice answer t before inv executed
  exact ⟨promising_guarantee promising, after⟩

def Clean (pid : Nat) (s : Town) : Prop := s.server.staged pid = []

theorem clean_stable : Stable (counting lockKey).toContract pid (Clean pid) :=
  fun _ _ clean spares _ => spares.staged.trans clean

variable (lockKey) in
structure Locked (pid tenantId : Nat) (s : Town) : Prop where
  clean : s.server.staged pid = []
  locked : s.advisory (lockKey tenantId) = some pid

theorem locked_stable : Stable (counting lockKey).toContract pid (Locked lockKey pid tenantId) :=
  fun _ _ holds spares _ => ⟨spares.staged.trans holds.clean, spares.locks _ holds.locked⟩

variable (lockKey) in
-- The count is still good: nobody else can have added to it.
structure Roomy (pid tenantId : Nat) (s : Town) : Prop extends Locked lockKey pid tenantId s where
  room : activeCount tenantId s.server.db < maxActiveProjects

theorem roomy_stable (tenantId : Nat) : Stable (counting lockKey).toContract pid (Roomy lockKey pid tenantId) :=
  fun _ _ holds spares _ => ⟨⟨spares.staged.trans holds.clean, spares.locks _ holds.locked⟩,
    Nat.lt_of_le_of_lt (spares.room tenantId holds.locked) holds.room⟩

theorem view_clean {s : Town} (clean : s.server.staged pid = []) : s.server.view pid = s.server.db := by
  unfold Server.view
  rw [clean]
  rfl

-- The statements that only look: nothing is staged, locked or counted by them.
def looking : Stmt → Bool
  | .begin | .rateLimit | .newId | .summary _ | .db .select => true
  | _ => false

theorem exec_looks (looks : looking stmt = true) {choice : Choice} {s t : Town} {answer : Ans stmt}
    (executed : exec pid stmt choice s = some (answer, t)) :
    t.server = s.server ∧ t.advisory = s.advisory ∧ t.counted = s.counted := by
  cases stmt with
  | begin | rateLimit | summary =>
      cases executed
      exact ⟨rfl, rfl, rfl⟩
  | newId =>
      simp only [exec] at executed
      split at executed
      · cases executed
      · cases executed
        exact ⟨rfl, rfl, rfl⟩
  | db stmt =>
      cases stmt with
      | select =>
          cases executed
          exact ⟨rfl, rfl, rfl⟩
      | _ => exact absurd looks Bool.false_ne_true
  | _ => exact absurd looks Bool.false_ne_true

theorem looks_counts (looks : looking stmt = true) (stable : Stable (counting lockKey).toContract pid pre)
    (kept : ∀ s t, pre s → t.server = s.server → t.advisory = s.advisory → pre t) :
    Counts lockKey pid request pre (ask stmt) (fun _ => pre) raised := by
  refine counts_ask _ stable (fun s choice answer t before inv executed => ?_)
  obtain ⟨server, advisory, counted⟩ := exec_looks looks executed
  exact ⟨promising_same inv server advisory counted, kept s t before server advisory⟩

theorem clean_kept (s t : Town) (clean : Clean pid s) (server : t.server = s.server) (_ : t.advisory = s.advisory) : Clean pid t := by
  unfold Clean
  rw [server]
  exact clean

theorem locked_kept (s t : Town) (locked : Locked lockKey pid tenantId s) (server : t.server = s.server)
    (advisory : t.advisory = s.advisory) : Locked lockKey pid tenantId t :=
  ⟨by rw [server]; exact locked.clean, by rw [advisory]; exact locked.locked⟩

theorem roomy_kept (tenantId : Nat) (s t : Town) (roomy : Roomy lockKey pid tenantId s) (server : t.server = s.server)
    (advisory : t.advisory = s.advisory) : Roomy lockKey pid tenantId t :=
  ⟨locked_kept s t roomy.toLocked server advisory, by rw [server]; exact roomy.room⟩

-- Why a create was refused for the cap.
def Evidence (pid : Nat) (request : Request) (refusal : Refusal) (s : Town) : Prop :=
  ∀ tenantId createdBy code name, request = .createProject tenantId createdBy code name → refusal = .capReached →
    ∃ read, (pid, read) ∈ s.counted ∧ activeCount tenantId read = maxActiveProjects

theorem evidence_stable (refusal : Refusal) : Stable (counting lockKey).toContract pid (Evidence pid request refusal) := by
  intro s t evidence spares _ tenantId createdBy code name same capped
  obtain ⟨read, present, full⟩ := evidence tenantId createdBy code name same capped
  exact ⟨read, spares.counted present, full⟩

theorem enforce_rate_limit_counts (stable : Stable (counting lockKey).toContract pid pre)
    (kept : ∀ s t, pre s → t.server = s.server → t.advisory = s.advisory → pre t) :
    Counts lockKey pid request pre enforceRateLimit (fun _ => pre) (Evidence pid request) := by
  refine raises_bind _ (looks_counts rfl stable kept) (fun (limited : Bool) => ?_)
  cases limited with
  | true => exact raises_throw _ (fun _ _ _ _ _ _ _ capped => nomatch capped)
  | false => exact raises_pure _ (fun _ holds => holds)

theorem lock_counts (tenantId : Nat) :
    Counts lockKey pid request (Clean pid) (lockTenantActiveProjectCount lockKey tenantId) (fun _ => Locked lockKey pid tenantId)
      raised := by
  refine counts_ask _ clean_stable (fun s choice answer t clean inv executed => ?_)
  simp only [exec] at executed
  split at executed
  · rename_i open_
    cases executed
    have spared : ∀ key other, other ≠ pid → s.advisory key = some other →
        (s.locks pid (lockKey tenantId)).advisory key = some other := by
      intro key other different held
      have elsewhere : key ≠ lockKey tenantId := by
        rintro rfl
        simp [free, held, different] at open_
      exact (Function.update_of_ne elsewhere _ _).trans held
    refine ⟨promising_quiet inv rfl spared (fun _ _ => rfl) (List.Subset.refl _) (fun _ present => .inl present) ?_, clean,
      by simp [Town.locks]⟩
    rw [show (s.locks pid (lockKey tenantId)).server.staged pid = [] from clean]
    exact .nothing
  · cases executed

-- The count reads the committed projects, since its own transaction has written nothing.
theorem count_counts (tenantId : Nat) :
    Counts lockKey pid request (Locked lockKey pid tenantId) (ask (.count tenantId))
      (fun (active : Nat) s => Locked lockKey pid tenantId s ∧ active = activeCount tenantId s.server.db ∧
        active ≤ maxActiveProjects ∧ (pid, s.server.db) ∈ s.counted) raised := by
  refine counts_ask _ (locked_stable) (fun s choice answer t locked inv executed => ?_)
  cases executed
  have read : activeCount tenantId (s.server.view pid) = activeCount tenantId s.server.db := by rw [view_clean locked.clean]
  refine ⟨promising_quiet inv rfl (fun _ _ _ held => held) (fun _ _ => rfl) (List.subset_append_left _ _) (fun entry present => ?_) ?_,
    ⟨locked.clean, locked.locked⟩, read, ?_, List.mem_append_right _ List.mem_cons_self⟩
  · rcases List.mem_append.mp present with old | now
    · exact .inl old
    · exact .inr (by rw [List.mem_singleton.mp now])
  · dsimp only
    rw [locked.clean]
    exact .nothing
  · rw [read]
    exact inv.capped tenantId

theorem promising_stages {s t : Town} {grab : Grab Nat Index} {write : Write Row} (inv : Capped lockKey s)
    (clean : s.server.staged pid = []) (staged : t = { s with server := (s.server.grabs pid grab).stages pid write })
    (bringing : Bringing lockKey pid s [write]) : Promising lockKey pid s t := by
  subst staged
  refine promising_quiet inv rfl (fun _ _ _ held => held) (fun _ different => Function.update_of_ne different _ _)
    (List.Subset.refl _) (fun _ present => .inl present) ?_
  have brought : ((s.server.grabs pid grab).stages pid write).staged pid = [write] := by
    simp [Server.stages, Server.grabs, clean]
  dsimp only
  rw [brought]
  cases bringing with
  | creates id project locked room => exact .creates id project locked room
  | archives id => exact .archives id

theorem insert_project_counts {tenantId : Nat} (id : Nat) {project : Project} (own : project.tenantId = tenantId) :
    Counts lockKey pid request (Roomy lockKey pid tenantId) (insertProject id project) (fun _ _ => True)
      (Evidence pid request) := by
  subst own
  refine raises_bind (fun _ _ => True) (counts_ask _ (roomy_stable _) (fun s choice answer t roomy inv executed => ⟨?_, trivial⟩))
    (fun (inserted : Bool) => ?_)
  · obtain ⟨⟨done, server⟩, performed, same⟩ := Option.map_eq_some_iff.mp executed
    cases same
    change s.server.inserts schema pid id project = some (answer, server) at performed
    unfold Server.inserts at performed
    split at performed
    · split at performed
      · split at performed
        · cases performed
          exact promising_stages inv roomy.clean rfl (.creates id project roomy.locked roomy.room)
        · cases performed
      · cases performed
        exact promising_same inv rfl rfl rfl
    · cases performed
  · cases inserted with
    | true => exact raises_pure _ (fun _ _ => trivial)
    | false => exact raises_throw _ (fun _ _ _ _ _ _ _ capped => nomatch capped)

theorem create_project_counts (tenantId createdBy : Nat) (code name : String) :
    Counts lockKey pid (.createProject tenantId createdBy code name) (Clean pid)
      (createProject lockKey tenantId createdBy code name) (fun _ _ => True)
      (Evidence pid (.createProject tenantId createdBy code name)) := by
  refine raises_bind _ (looks_counts rfl clean_stable clean_kept) (fun startedAt => ?_)
  refine raises_bind _ (enforce_rate_limit_counts clean_stable clean_kept) (fun _ => ?_)
  refine raises_bind _ (lock_counts tenantId) (fun _ => ?_)
  refine raises_bind _ (looks_counts rfl (locked_stable) (locked_kept)) (fun db => ?_)
  split
  · exact raises_throw _ (fun _ _ _ _ _ _ _ capped => nomatch capped)
  refine raises_bind _ (count_counts tenantId) (fun (active : Nat) => ?_)
  split
  · rename_i full
    refine raises_throw _ (fun s counted owner creator ownCode ownName same _ => ?_)
    obtain ⟨-, read, most, present⟩ := counted
    cases same
    exact ⟨s.server.db, present, by omega⟩
  · rename_i spare
    refine raises_bind _ (raises_weaken (looks_counts rfl (roomy_stable tenantId) (roomy_kept tenantId)) ?_
      (fun _ _ holds => holds) (fun _ _ holds => holds)) (fun (id : Nat) => insert_project_counts id rfl)
    rintro s ⟨locked, read, -, -⟩
    exact ⟨locked, by omega⟩

theorem archive_project_counts (tenantId id : Nat) :
    Counts lockKey pid request (Clean pid) (archiveProject tenantId id) (fun _ _ => True) (Evidence pid request) := by
  refine raises_bind _ (looks_counts rfl clean_stable clean_kept) (fun startedAt => ?_)
  refine raises_bind _ (enforce_rate_limit_counts clean_stable clean_kept) (fun _ => ?_)
  refine raises_bind _ (looks_counts rfl clean_stable clean_kept) (fun (db : AList Row) => ?_)
  split
  · exact raises_throw _ (fun _ _ _ _ _ _ _ capped => nomatch capped)
  split
  · exact raises_pure _ (fun _ _ => trivial)
  refine raises_bind (fun _ _ => True) (counts_ask _ clean_stable (fun s choice answer t clean inv executed => ⟨?_, trivial⟩))
    (fun _ => raises_pure _ (fun _ _ => trivial))
  obtain ⟨⟨done, server⟩, performed, same⟩ := Option.map_eq_some_iff.mp executed
  cases same
  simp only [Database.perform] at performed
  split at performed
  · cases performed
    exact promising_same inv rfl rfl rfl
  · obtain ⟨after, written, same⟩ := Option.map_eq_some_iff.mp performed
    cases same
    unfold Server.writes at written
    split at written
    · cases written
      exact promising_stages inv clean rfl (.archives id)
    · cases written

theorem list_agent_rooms_counts (tenantId : Nat) :
    Counts lockKey pid request (Clean pid) (listAgentRooms tenantId) (fun _ => Clean pid) (Evidence pid request) :=
  raises_bind _ (looks_counts rfl clean_stable clean_kept) (fun _ => looks_counts rfl clean_stable clean_kept)

theorem route_counts :
    Counts lockKey pid request (Clean pid) (route lockKey request) (fun _ _ => True) (Evidence pid request) := by
  cases request with
  | createProject tenantId createdBy code name => exact raises_map _ (create_project_counts tenantId createdBy code name)
  | archiveProject tenantId id => exact raises_map _ (archive_project_counts tenantId id)
  | listAgentRooms tenantId =>
      exact raises_map _ (raises_weaken (list_agent_rooms_counts tenantId) (fun _ clean => clean) (fun _ _ _ => trivial)
        (fun _ _ evidence => evidence))

theorem serve_counts :
    Counts lockKey pid request (Clean pid) (serve lockKey request) (fun _ _ => True) (Evidence pid request) := by
  have anywhere : Stable (counting lockKey).toContract pid (fun _ => True) := fun _ _ _ _ _ => trivial
  refine raises_bind (fun _ _ => True) (raises_catch (Evidence pid request) route_counts (fun refusal => ?_)) (fun response => ?_)
  · refine raises_bind (fun _ => Evidence pid request refusal) (counts_ask _ (evidence_stable refusal) ?_)
      (fun _ => raises_throw _ (fun _ evidence => evidence))
    intro s choice answer t evidence inv executed
    cases executed
    exact ⟨promising_rollback inv, evidence⟩
  · refine raises_bind (fun _ _ => True) (counts_ask _ anywhere ?_) (fun _ => raises_pure _ (fun _ _ => trivial))
    intro s choice answer t _ inv executed
    cases executed
    exact ⟨promising_commit inv, trivial⟩

end

def Answered (pid : Nat) (request : Request) (result : Except Refusal Response) (s : Town) : Prop :=
  ∀ refusal, result = .error refusal → Evidence pid request refusal s

theorem project_cap (lockKey : Nat → Int) (db : AList Row) (capped : ∀ tenantId, activeCount tenantId db ≤ maxActiveProjects)
    (actions : List Action) (system : System) (run : Runs (step lockKey) Anything (boot db) actions system) :
    (∀ tenantId, activeCount tenantId system.shared.server.db ≤ maxActiveProjects) ∧
    ∀ pid tenantId createdBy code name,
      system.procs[pid]? = some (.createProject tenantId createdBy code name, .ret (.error .capReached)) →
      ∃ read, (pid, read) ∈ system.shared.counted ∧ activeCount tenantId read = maxActiveProjects := by
  have met : Runs (step lockKey) (Pool.Meets (fun _ => True) (counting lockKey).guard (counting lockKey).mayCrash) (boot db) actions
      system :=
    runs_weaken (fun before label _ => Pool.meets_always (fun _ => trivial) (fun _ _ _ _ => trivial) (fun _ _ => trivial) before label)
      run
  have start : Sound (counting lockKey) Answered (boot db) :=
    sound_start _ ⟨capped, fun _ => .nothing, fun _ _ present => nomatch present⟩ (fun _ => rfl)
  have kept : Sound (counting lockKey) Answered system := by
    refine runs_sound ?_ ?_ ?_ met start
    · exact fun pid request value s t answered spares inv refusal same =>
        evidence_stable refusal s t (answered refusal same) spares inv
    · intro pid request s _ _ clean
      refine safe_weaken (fun result t ended refusal same => ?_) _ s (serve_counts s clean)
      subst same
      exact ended
    · rintro pid request s - - refusal same tenantId createdBy code name - full
      cases same
      cases full
  exact ⟨kept.inv.capped, fun pid tenantId createdBy code name ended =>
    kept.safe pid _ _ ended .capReached rfl tenantId createdBy code name rfl rfl⟩

namespace Sample

-- A tenant one project short of the cap.
def almostFull : AList Row :=
  (List.range 47).foldl (fun db id => db.insert id ⟨1, toString id, "", .active, 0, 7⟩) ∅

-- Both creates are past the rate limit before the first takes the lock.
def rivals : List Action :=
  [.arrive (.createProject 1 7 "north" "North"), .arrive (.createProject 1 7 "south" "South"), turn 0, turn 1, turn 0, turn 1,
    turn 0, turn 0, turn 0, .step 0 { id := 50 }, turn 0, turn 0, turn 1, turn 1, turn 1, turn 1]

end Sample

theorem project_cap_rivals :
    ∃ system, Runs (step (fun tenantId => tenantId)) Anything (boot Sample.almostFull) Sample.rivals system ∧
      activeCount 1 system.shared.server.db = 48 ∧
      ∃ read, (1, read) ∈ system.shared.counted ∧ activeCount 1 read = maxActiveProjects := by
  have capped : ∀ tenantId, activeCount tenantId Sample.almostFull ≤ maxActiveProjects := fun tenantId =>
    Nat.le_trans List.countP_le_length (by decide +kernel)
  obtain ⟨system, run, shown⟩ := runs_exhibit (step (fun tenantId => tenantId))
    (fun system : System => decide (activeCount 1 system.shared.server.db = 48 ∧
      system.answer 1 = some (.createProject 1 7 "south" "South", some (.error .capReached))))
    (boot Sample.almostFull) Sample.rivals (by decide +kernel)
  obtain ⟨full, answers⟩ := of_decide_eq_true shown
  exact ⟨system, run, full, (project_cap _ Sample.almostFull capped Sample.rivals system run).2 1 1 7 "south" "South"
    (Pool.ended_of_answer answers)⟩

end

end AiWorld.Projects
