import AiWorld.Database.Isolation
import AiWorld.Projects.Lots
import AiWorld.Projects.Model

set_option autoImplicit false

namespace AiWorld.Projects

open AiWorld.Concurrency AiWorld.Database

variable {id : Nat} {db : AList Row} {s : Town} {project : Project} {list : List Nat} {stmt : Stmt} {site : Nat × Nat}

theorem ordered_antisymm {first second : Nat × Nat} (forth : ordered first second = true) (back : ordered second first = true) :
    first = second := by
  simp only [ordered, Bool.or_eq_true, Bool.and_eq_true, decide_eq_true_eq] at forth back
  exact Prod.ext (by omega) (by omega)

theorem prefix_ordered_insert {front : List (Nat × Nat)} (back : List (Nat × Nat)) (before : ∀ other ∈ front, ¬ ordered site other = true) :
    front <+: (front ++ back).orderedInsert (ordered · · = true) site := by
  induction front with
  | nil => exact List.nil_prefix
  | cons first rest ih =>
      rw [List.cons_append, List.orderedInsert_cons, if_neg (before first List.mem_cons_self)]
      exact (List.prefix_cons_inj first).mpr (ih (fun other member => before other (List.mem_cons_of_mem first member)))

theorem mem_placing (tenantId : Nat) (referenced : List Nat) (member : site ∈ placing tenantId referenced db) :
    ∃ project, db.lookup site.2 = some project ∧ project.createdAt = site.1 := by
  unfold placing at member
  rw [(List.perm_insertionSort _ _).mem_iff] at member
  obtain ⟨⟨id, project⟩, present, rfl⟩ := List.mem_map.mp member
  exact ⟨project, AList.mem_lookup_iff.mpr (List.mem_filter.mp present).1, rfl⟩

def allActive (db : AList Row) : Prop := ∀ id project, db.lookup id = some project → project.status = .active

-- While nothing is archived the rooms' references add nothing.
theorem placing_active (tenantId : Nat) (referenced : List Nat) (active : allActive db) :
    placing tenantId referenced db = placing tenantId [] db := by
  unfold placing
  rw [List.filter_congr]
  rintro ⟨id, project⟩ present
  have own : project.status = .active := active id project (AList.mem_lookup_iff.mpr present)
  simp [listed, own]

theorem entries_insert_fresh (project : Project) (fresh : db.lookup id = none) :
    (db.insert id project).entries = ⟨id, project⟩ :: db.entries := by
  rw [AList.entries_insert, List.kerase_of_notMem_keys]
  exact AList.lookup_eq_none.mp fresh

theorem placing_insert (tenantId : Nat) (fresh : db.lookup id = none) (active : project.status = .active) :
    placing tenantId [] (db.insert id project) =
      if project.tenantId = tenantId then (placing tenantId [] db).orderedInsert (ordered · · = true) (project.createdAt, id)
      else placing tenantId [] db := by
  unfold placing
  rw [entries_insert_fresh project fresh]
  by_cases own : project.tenantId = tenantId
  · simp [listed, own, active]
  · simp [listed, own]

-- A new project that sorts after the shown ones leaves them where they stand.
theorem summary_insert {tenantId : Nat} (fresh : db.lookup id = none) (active : project.status = .active)
    (shown : list <+: projectsSummary tenantId [] db)
    (later : project.tenantId = tenantId → ∀ earlier ∈ list, ∀ row, db.lookup earlier = some row →
      ordered (row.createdAt, earlier) (project.createdAt, id) = true) :
    list <+: projectsSummary tenantId [] (db.insert id project) := by
  unfold projectsSummary at shown ⊢
  rw [placing_insert tenantId fresh active]
  split
  · rename_i own
    obtain ⟨front, sites, rfl⟩ := List.prefix_map_iff.mp shown
    obtain ⟨back, split⟩ := sites
    have before : ∀ other ∈ front, ¬ ordered (project.createdAt, id) other = true := by
      intro other member back
      obtain ⟨row, stored, started⟩ := mem_placing tenantId [] (by rw [← split]; exact List.mem_append_left _ member)
      have forth := later own other.2 (List.mem_map_of_mem member) row stored
      rw [started] at forth
      have same := ordered_antisymm forth back
      have : other.2 = id := congrArg Prod.snd same
      rw [this, fresh] at stored
      cases stored
    rw [← split]
    exact (prefix_ordered_insert back before).map Prod.snd
  · exact shown

-- What a transaction has to commit: one new project, or nothing.
inductive Founding (db : AList Row) : List (Write Row) → Prop where
  | nothing : Founding db []
  | founds (id : Nat) (project : Project) (active : project.status = .active) (fresh : db.lookup id = none) :
      Founding db [.put id project]

structure Standing (s : Town) : Prop where
  tidy : Tidy s.server
  active : allActive s.server.db
  founding : ∀ pid, Founding s.server.db (s.server.staged pid)
  shown : ∀ tenantId list, (tenantId, list) ∈ s.shown → list <+: projectsSummary tenantId [] s.server.db
  steady : s.shown.Pairwise (fun earlier later => earlier.1 = later.1 → earlier.2 <+: later.2)

-- The project sorts after every one of its tenant that the rooms have shown.
def sortsLast (s : Town) (id : Nat) (project : Project) : Bool :=
  s.shown.all (fun entry => entry.1 ≠ project.tenantId || entry.2.all (fun earlier =>
    (s.server.db.lookup earlier).all (fun row => ordered (row.createdAt, earlier) (project.createdAt, id))))

def inTurn (s : Town) : Write Row → Bool
  | .put id project => sortsLast s id project
  | _ => true

-- The condition on a commit.
def foundsInTurn (pid : Nat) (_ : Request) : Stmt → Town → Prop
  | .db .commit, s => (s.server.staged pid).all (inTurn s) = true
  | _, _ => True

def notArchiving : Request → Bool
  | .archiveProject _ _ => false
  | _ => true

theorem sorts_last (last : sortsLast s id project = true) (shown : (project.tenantId, list) ∈ s.shown) {earlier : Nat}
    (member : earlier ∈ list) {row : Project}
    (stored : s.server.db.lookup earlier = some row) : ordered (row.createdAt, earlier) (project.createdAt, id) = true := by
  have own := List.all_eq_true.mp last _ shown
  have each : ∀ other ∈ list, (s.server.db.lookup other).all
      (fun row => ordered (row.createdAt, other) (project.createdAt, id)) = true := by simpa using own
  simpa [stored] using each earlier member

def Keeping (pid : Nat) (s t : Town) : Prop :=
  Standing t ∧ ∀ other, other ≠ pid → t.server.staged other = s.server.staged other

section
variable {pid : Nat} {s t : Town}

theorem keeping_same (inv : Standing s) (server : t.server = s.server) (shown : t.shown = s.shown) : Keeping pid s t := by
  refine ⟨⟨?_, ?_, ?_, ?_, ?_⟩, fun other _ => by rw [server]⟩
  · exact server ▸ inv.tidy
  · exact server ▸ inv.active
  · exact server ▸ inv.founding
  · rw [server, shown]
    exact inv.shown
  · exact shown ▸ inv.steady

-- What the others have to commit is still new after a step that keeps their rows.
theorem founding_undisturbed {other : Nat} (inv : Standing s) (moved : Undisturbed other s.server t.server) :
    Founding t.server.db (t.server.staged other) := by
  rw [moved.staged]
  have owned := inv.tidy.owned other
  have before := inv.founding other
  generalize s.server.staged other = writes at owned before
  cases before with
  | nothing => exact .nothing
  | founds id project active fresh =>
      have locked : s.server.rowLock id = some other := owned (.put id project) List.mem_cons_self
      exact .founds id project active ((moved.rows id locked).trans fresh)

theorem keeping_move {stmt : Database.Stmt Row Unit} (inv : Standing s) (move : Move schema pid stmt s.server t.server)
    (shown : t.shown = s.shown) (db : t.server.db = s.server.db) (founding : Founding s.server.db (t.server.staged pid)) :
    Keeping pid s t := by
  have others : ∀ other, other ≠ pid → Undisturbed other s.server t.server := fun other different =>
    move_undisturbed schema stmt inv.tidy different move
  refine ⟨⟨move_tidy schema pid stmt inv.tidy move, db ▸ inv.active, fun other => ?_, ?_, shown ▸ inv.steady⟩,
    fun other different => (others other different).staged⟩
  · by_cases same : other = pid
    · rw [same, db]
      exact founding
    · exact founding_undisturbed inv (others other same)
  · rw [shown, db]
    exact inv.shown

theorem keeping_rollback (inv : Standing s) : Keeping pid s { s.releases pid with server := s.server.rollsBack pid } := by
  have move : Move schema pid .rollback s.server (s.server.rollsBack pid) := .rollback rfl
  refine keeping_move inv move rfl rfl ?_
  have cleared : (s.server.rollsBack pid).staged pid = [] := by simp [Server.rollsBack]
  exact cleared ▸ .nothing

-- The rows a commit leaves, and the lists that stay prefixes of what they show.
theorem committed_standing (inv : Standing s) (turn : (s.server.staged pid).all (inTurn s) = true) :
    allActive (s.server.view pid) ∧
      ∀ tenantId list, (tenantId, list) ∈ s.shown → list <+: projectsSummary tenantId [] (s.server.view pid) := by
  unfold Server.view
  have founding := inv.founding pid
  generalize s.server.staged pid = writes at founding turn
  cases founding with
  | nothing => exact ⟨inv.active, inv.shown⟩
  | founds id project active fresh =>
      have last : sortsLast s id project = true := by simpa [inTurn] using turn
      refine ⟨fun other row stored => ?_, fun tenantId list shown => ?_⟩
      · by_cases same : other = id
        · subst same
          have own : row = project := (Option.some.inj ((AList.lookup_insert s.server.db).symm.trans stored)).symm
          exact own ▸ active
        · exact inv.active other row ((AList.lookup_insert_ne same).symm.trans stored)
      · refine summary_insert fresh active (inv.shown tenantId list shown) ?_
        rintro rfl earlier member row stored
        exact sorts_last last shown member stored

theorem keeping_commit (inv : Standing s) (turn : (s.server.staged pid).all (inTurn s) = true) :
    Keeping pid s { s.releases pid with server := s.server.commits pid } := by
  have move : Move schema pid .commit s.server (s.server.commits pid) := .commit rfl
  have others : ∀ other, other ≠ pid → Undisturbed other s.server (s.server.commits pid) := fun other different =>
    move_undisturbed schema _ inv.tidy different move
  obtain ⟨active, shown⟩ := committed_standing inv turn
  refine ⟨⟨move_tidy schema pid _ inv.tidy move, active, fun other => ?_, shown, inv.steady⟩,
    fun other different => (others other different).staged⟩
  by_cases same : other = pid
  · subst same
    have cleared : (s.server.commits other).staged other = [] := by simp [Server.commits, Server.rollsBack]
    exact cleared ▸ .nothing
  · exact founding_undisturbed inv (others other same)

theorem keeping_summary (inv : Standing s) (clean : s.server.staged pid = []) (tenantId : Nat) (referenced : List Nat) :
    Keeping pid s { s with shown := s.shown ++ [(tenantId, projectsSummary tenantId referenced (s.server.view pid))] } := by
  have seen : projectsSummary tenantId referenced (s.server.view pid) = projectsSummary tenantId [] s.server.db := by
    unfold Server.view projectsSummary
    rw [clean, replay_nil, placing_active tenantId referenced inv.active]
  rw [seen]
  refine ⟨⟨inv.tidy, inv.active, inv.founding, fun owner list member => ?_, ?_⟩, fun _ _ => rfl⟩
  · rcases List.mem_append.mp member with old | now
    · exact inv.shown owner list old
    · cases List.mem_singleton.mp now
      exact List.prefix_refl _
  · refine List.pairwise_append.mpr ⟨inv.steady, List.pairwise_singleton _ _, ?_⟩
    rintro ⟨owner, list⟩ old later now own
    cases List.mem_singleton.mp now
    cases own
    exact inv.shown tenantId list old

end

def standing : Discipline machine Request :=
  .ofRely _ foundsInTurn (fun _ _ => True) Standing (fun _ _ => True) (fun pid s t => t.server.staged pid = s.server.staged pid)
    (fun pid s => s.server.staged pid = []) (fun _ _ => rfl) (fun _ _ _ _ first second => second.trans first)
    (fun _ _ inv _ => ⟨(keeping_rollback inv).1, trivial, fun other different =>
      ⟨(keeping_rollback inv).2 other different, ((keeping_rollback inv).2 other different).trans⟩⟩)

section
variable {pid : Nat} {request : Request}

abbrev Stands {α : Type} (pid : Nat) (request : Request) (pre : Town → Prop) (program : Call α) (post : α → Town → Prop) : Prop :=
  Raises standing.toContract pid request pre program post (fun _ _ => True)

theorem stands_ask {pre : Town → Prop} (post : Ans stmt → Town → Prop) (stable : Stable standing.toContract pid pre)
    (executes : ∀ s choice answer t, pre s → Standing s → foundsInTurn pid request stmt s →
      exec pid stmt choice s = some (answer, t) → Keeping pid s t ∧ post answer t) : Stands pid request pre (ask stmt) post := by
  refine raises_ask (S := projectSig) stmt post stable (fun s choice answer t before inv met executed => ?_)
  obtain ⟨⟨inv, others⟩, after⟩ := executes s choice answer t before inv met executed
  exact ⟨⟨inv, trivial, fun other different => ⟨others other different, (others other different).trans⟩⟩, after⟩

def Unstaged (pid : Nat) (s : Town) : Prop := s.server.staged pid = []

theorem unstaged_stable : Stable standing.toContract pid (Unstaged pid) := fun _ _ clean same _ => same.trans clean

-- The statements that write nothing and show nothing.
def quiet : Stmt → Bool
  | .begin | .rateLimit | .lock _ | .count _ | .newId | .db .select => true
  | _ => false

theorem exec_quiet (quietly : quiet stmt = true) {choice : Choice} {t : Town} {answer : Ans stmt}
    (executed : exec pid stmt choice s = some (answer, t)) : t.server = s.server ∧ t.shown = s.shown := by
  cases stmt with
  | begin | rateLimit | count =>
      cases executed
      exact ⟨rfl, rfl⟩
  | lock | newId =>
      simp only [exec] at executed
      split at executed <;> cases executed
      exact ⟨rfl, rfl⟩
  | db stmt =>
      cases stmt with
      | select =>
          cases executed
          exact ⟨rfl, rfl⟩
      | _ => exact absurd quietly Bool.false_ne_true
  | summary => exact absurd quietly Bool.false_ne_true

theorem quiet_stands (quietly : quiet stmt = true) :
    Stands pid request (Unstaged pid) (ask stmt) (fun _ => Unstaged pid) := by
  refine stands_ask _ unstaged_stable (fun s choice answer t clean inv _ executed => ?_)
  obtain ⟨server, shown⟩ := exec_quiet quietly executed
  exact ⟨keeping_same inv server shown, by rw [Unstaged, server]; exact clean⟩

theorem enforce_rate_limit_stands : Stands pid request (Unstaged pid) enforceRateLimit (fun _ => Unstaged pid) := by
  refine raises_bind _ (quiet_stands rfl) (fun (limited : Bool) => ?_)
  cases limited with
  | true => exact raises_throw _ (fun _ _ => trivial)
  | false => exact raises_pure _ (fun _ holds => holds)

theorem insert_project_stands (id : Nat) (active : project.status = .active) :
    Stands pid request (Unstaged pid) (insertProject id project) (fun _ _ => True) := by
  refine raises_bind (fun _ _ => True) (stands_ask _ unstaged_stable (fun s choice answer t clean inv _ executed => ⟨?_, trivial⟩))
    (fun (inserted : Bool) => ?_)
  · obtain ⟨⟨done, server⟩, performed, same⟩ := Option.map_eq_some_iff.mp executed
    cases same
    have move := perform_moves performed
    rcases inserts_cases performed with ⟨-, -, rfl⟩ | ⟨-, accepted, -, rfl⟩
    · exact keeping_same inv rfl rfl
    · refine keeping_move inv move rfl rfl ?_
      have staged : ((s.server.grabs pid (schema.claims id project)).stages pid (.put id project)).staged pid = [.put id project] := by
        simp [Server.stages, Server.grabs, show s.server.staged pid = [] from clean]
      have seen : s.server.view pid = s.server.db := by
        rw [Server.view, show s.server.staged pid = [] from clean, replay_nil]
      have fresh := accepts_absent accepted
      rw [seen] at fresh
      exact staged ▸ .founds id project active fresh
  · cases inserted with
    | true => exact raises_pure _ (fun _ _ => trivial)
    | false => exact raises_throw _ (fun _ _ => trivial)

theorem create_project_stands (lockKey : Nat → Int) (tenantId createdBy : Nat) (code name : String) :
    Stands pid request (Unstaged pid) (createProject lockKey tenantId createdBy code name) (fun _ _ => True) := by
  refine raises_bind _ (quiet_stands rfl) (fun startedAt => ?_)
  refine raises_bind _ enforce_rate_limit_stands (fun _ => ?_)
  refine raises_bind _ (quiet_stands rfl) (fun _ => ?_)
  refine raises_bind _ (quiet_stands rfl) (fun db => ?_)
  split
  · exact raises_throw _ (fun _ _ => trivial)
  refine raises_bind _ (quiet_stands rfl) (fun (active : Nat) => ?_)
  split
  · exact raises_throw _ (fun _ _ => trivial)
  · exact raises_bind _ (quiet_stands rfl) (fun (id : Nat) => insert_project_stands id rfl)

theorem list_agent_rooms_stands (tenantId : Nat) :
    Stands pid request (Unstaged pid) (listAgentRooms tenantId) (fun _ _ => True) := by
  refine raises_bind _ (quiet_stands rfl) (fun _ => stands_ask _ unstaged_stable ?_)
  intro s choice answer t clean inv _ executed
  cases executed
  exact ⟨keeping_summary inv clean tenantId choice.referenced, trivial⟩

theorem serve_stands (lockKey : Nat → Int) (stays : notArchiving request = true) :
    Stands pid request (Unstaged pid) (serve lockKey request) (fun _ _ => True) := by
  have anywhere : Stable standing.toContract pid (fun _ => True) := fun _ _ _ _ _ => trivial
  have routed : Stands pid request (Unstaged pid) (route lockKey request) (fun _ _ => True) := by
    cases request with
    | createProject tenantId createdBy code name => exact raises_map _ (create_project_stands lockKey tenantId createdBy code name)
    | archiveProject tenantId id => exact absurd stays Bool.false_ne_true
    | listAgentRooms tenantId => exact raises_map _ (list_agent_rooms_stands tenantId)
  refine raises_bind (fun _ _ => True) (raises_catch _ routed (fun refusal => ?_)) (fun response => ?_)
  · refine raises_bind (fun _ _ => True) (stands_ask _ anywhere ?_) (fun _ => raises_throw _ (fun _ _ => trivial))
    intro s choice answer t _ inv _ executed
    cases executed
    exact ⟨keeping_rollback inv, trivial⟩
  · refine raises_bind (fun _ _ => True) (stands_ask _ anywhere ?_) (fun _ => raises_pure _ (fun _ _ => trivial))
    intro s choice answer t _ inv turn executed
    cases executed
    exact ⟨keeping_commit inv turn, trivial⟩

end

-- Lists shown one after the other, by rooms with any references, while every commit
-- founds a project that sorts after the shown ones.
theorem building_stays (lockKey : Nat → Int) (db : AList Row) (active : allActive db) (actions : List Action) (system : System)
    (run : Runs (step lockKey) (Pool.Meets (notArchiving · = true) foundsInTurn (fun _ _ => True)) (boot db) actions system)
    (tenantId earlier later : Nat) (first second : List Nat) (before : earlier < later)
    (shownFirst : system.shared.shown[earlier]? = some (tenantId, first))
    (shownSecond : system.shared.shown[later]? = some (tenantId, second)) (id : String) (lot : Nat)
    (given : (assignLots (first.map uuidText)).lookup id = some lot) :
    (assignLots (second.map uuidText)).lookup id = some lot := by
  have start : Sound standing (fun _ _ _ _ => True) (boot db) :=
    sound_start _ ⟨tidy_start db, active, fun _ => .nothing, fun _ _ present => (nomatch present), .nil⟩ (fun _ => rfl)
  have kept : Sound standing (fun _ _ _ _ => True) system := by
    refine runs_sound (fun _ _ _ _ _ _ _ _ => trivial) (fun pid request s stays _ clean => ?_) (fun _ _ _ _ _ => trivial) run start
    exact safe_weaken (fun _ _ _ => trivial) _ s (serve_stands lockKey stays s clean)
  obtain ⟨firstBound, firstIs⟩ := List.getElem?_eq_some_iff.mp shownFirst
  obtain ⟨secondBound, secondIs⟩ := List.getElem?_eq_some_iff.mp shownSecond
  have grows := List.pairwise_iff_getElem.mp kept.inv.steady earlier later firstBound secondBound before
  rw [firstIs, secondIs] at grows
  exact assign_lots_prefix _ _ ((grows rfl).map uuidText) id lot given

instance (pid : Nat) (request : Request) (stmt : Stmt) (s : Town) : Decidable (foundsInTurn pid request stmt s) :=
  match stmt with
  | .db .commit => inferInstanceAs (Decidable ((s.server.staged pid).all (inTurn s) = true))
  | .db .select | .db (.selectForUpdate _ _ _) | .db (.selectSkipLocked _ _) | .db (.insert _ _) | .db (.update _ _ _)
  | .db (.updateWhere _ _ _) | .db (.delete _) | .db .rollback | .db .written | .db (.note _) | .begin | .rateLimit | .lock _
  | .count _ | .newId | .summary _ => inferInstanceAs (Decidable True)

namespace Sample

def northId : Nat := 0x01990000000070008000000000000001

def southId : Nat := 0x0199000000007000800000000000000a

def begins (pid time : Nat) : Action := .step pid { time := time }

-- What is left of a create after its transaction has started.
def founds (pid id : Nat) : List Action :=
  [turn pid, turn pid, turn pid, turn pid, .step pid { id := id }, turn pid, turn pid]

def looks (pid : Nat) : List Action := [turn pid, turn pid, turn pid]

def arrivals : List Action :=
  [.arrive (.createProject 1 7 "north" "North"), .arrive (.createProject 1 7 "south" "South"), .arrive (.listAgentRooms 1),
    .arrive (.listAgentRooms 1)]

def inOrder : List Action :=
  arrivals ++ [begins 0 1, begins 1 2] ++ founds 0 northId ++ looks 2 ++ founds 1 southId ++ looks 3

-- The transaction that starts first commits last.
def overtaken : List Action :=
  arrivals ++ [begins 0 1, begins 1 2] ++ founds 1 southId ++ looks 2 ++ founds 0 northId ++ looks 3

end Sample

theorem building_stays_in_order :
    ∃ system, Runs (step (fun tenantId => tenantId)) (Pool.Meets (notArchiving · = true) foundsInTurn (fun _ _ => True)) (boot ∅)
        Sample.inOrder system ∧
      system.shared.shown = [(1, [Sample.northId]), (1, [Sample.northId, Sample.southId])] ∧
      (assignLots ([Sample.northId, Sample.southId].map uuidText)).lookup (uuidText Sample.northId) = some 24 := by
  obtain ⟨system, run, shown⟩ := checked_exhibit (step (fun tenantId => tenantId))
    (Pool.checks notArchiving (fun pid request (stmt : Stmt) s => decide (foundsInTurn pid request stmt s)) (fun _ _ => true))
    (fun system label checked => by simpa using Pool.meets_of_checks _ _ _ system label checked)
    (fun system => decide (system.shared.shown = [(1, [Sample.northId]), (1, [Sample.northId, Sample.southId])])) (boot ∅)
    Sample.inOrder (by decide +kernel)
  have lists := of_decide_eq_true shown
  exact ⟨system, run, lists, building_stays _ ∅ (fun _ _ stored => nomatch stored) Sample.inOrder system run 1 0 1 _ _ Nat.zero_lt_one
    (by rw [lists]; rfl) (by rw [lists]; rfl) _ 24 (by decide +kernel)⟩

theorem overtaken_building_moves :
    ∃ system, Runs (step (fun tenantId => tenantId)) (Pool.Meets (notArchiving · = true) (fun _ _ _ _ => True) (fun _ _ => False))
        (boot ∅) Sample.overtaken system ∧
      system.shared.shown = [(1, [Sample.southId]), (1, [Sample.northId, Sample.southId])] ∧
      (assignLots ([Sample.southId].map uuidText)).lookup (uuidText Sample.southId) = some 24 ∧
      (assignLots ([Sample.northId, Sample.southId].map uuidText)).lookup (uuidText Sample.southId) = some 25 := by
  obtain ⟨system, run, shown⟩ := checked_exhibit (step (fun tenantId => tenantId))
    (Pool.checks notArchiving (fun _ _ _ _ => true) (fun _ _ => false))
    (fun system label checked => by simpa using Pool.meets_of_checks _ _ _ system label checked)
    (fun system => decide (system.shared.shown = [(1, [Sample.southId]), (1, [Sample.northId, Sample.southId])])) (boot ∅)
    Sample.overtaken (by decide +kernel)
  exact ⟨system, run, of_decide_eq_true shown, by decide +kernel, by decide +kernel⟩

end AiWorld.Projects
