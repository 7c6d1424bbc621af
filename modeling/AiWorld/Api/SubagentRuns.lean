import Mathlib.Data.List.FinRange
import Mathlib.Data.List.Perm.Subperm
import AiWorld.Api.FirstSights

set_option autoImplicit false

namespace AiWorld.Api

open AiWorld.Concurrency AiWorld.Database

variable {s t : Sys} {query : Database.Stmt Row CloseCall} {id pid tenantId : Nat} {key : Key} {agentCode : String}

theorem digits_no_colon (number : Nat) : ':' ∉ Nat.toDigits 10 number := by
  intro member
  have digit := Nat.isDigit_of_mem_toDigits (by decide) (by decide) member
  cases digit

theorem after_colon {first : List Char} (second : List Char) {rest : List Char} (others : List Char) (clear : ':' ∉ first) (free : ':' ∉ second)
    (same : first ++ ':' :: rest = second ++ ':' :: others) : rest = others := by
  induction first generalizing second with
  | nil =>
      cases second with
      | nil => simpa using same
      | cons char tail =>
          have head : ':' = char := by simpa using congrArg List.head? same
          exact absurd (head ▸ List.mem_cons_self) free
  | cons char tail ih =>
      cases second with
      | nil =>
          have head : char = ':' := by simpa using congrArg List.head? same
          exact absurd (head ▸ List.mem_cons_self) clear
      | cons other more =>
          have tails : tail ++ ':' :: rest = more ++ ':' :: others := by simpa using congrArg List.tail same
          exact ih more (fun member => clear (List.mem_cons_of_mem _ member)) (fun member => free (List.mem_cons_of_mem _ member)) tails

-- Keys of subagent tasks are as distinct as the instance refs.
theorem subagent_key_ref (missionId other : Nat) (ref rival : String)
    (same : subagentIdempotencyKey missionId ref = subagentIdempotencyKey other rival) : ref = rival := by
  have chars : Nat.toDigits 10 missionId ++ (':' :: 'a' :: 'r' :: ':' :: ref.toList) =
      Nat.toDigits 10 other ++ (':' :: 'a' :: 'r' :: ':' :: rival.toList) := by
    simpa [subagentIdempotencyKey, String.toList_append] using congrArg String.toList same
  have rest := after_colon _ _ (digits_no_colon _) (digits_no_colon _) chars
  exact String.toList_inj.mp (by simpa using rest)

-- The session a subagent is registered under: it has not ended, and its mission has no
-- task of the subagent yet.
structure LiveParent (start : Db) (user : User) (payload : SubagentPayload) (parentId missionId : Nat) : Prop where
  stored : ∃ row, start.session parentId = some row ∧ row.tenantId = user.tenantId ∧ row.kind = .session ∧
    row.externalSessionRef = payload.parentExternalSessionRef ∧ row.missionId = some missionId ∧ row.endedAt = none
  mission : (start.mission missionId).isSome = true
  task : ∀ id row, start.task id = some row → row.idempotencyKey ≠ subagentIdempotencyKey missionId payload.externalInstanceRef

-- A first sight under a live session, of a persona that is not suspended.
structure Admissible (start : Db) (tenantId : Nat) (codes : List String) (user : User) (payload : SubagentPayload) : Prop where
  tenant : user.tenantId = tenantId
  code : personaCode payload ∈ codes
  parent : ∃ parentId missionId, LiveParent start user payload parentId missionId
  unseen : ∀ id row, start.session id = some row → row.tenantId = user.tenantId → row.kind = .subagent →
    row.externalInstanceRef ≠ some payload.externalInstanceRef
  persona : ∀ id agent, start.agent id = some agent → agent.tenantId = user.tenantId → agent.agentCode = personaCode payload →
    agent.lifecycleState ≠ .suspended

-- The requests of all processes together: pairwise distinct refs, personas that fit in
-- the slots, and either a slot to spare or no two requests for one new persona.
structure Enrolled (start : Db) (tenantId : Nat) (codes : List String) (assigned : Nat → Option Request) : Prop where
  admitted : ∀ pid request, assigned pid = some request →
    ∃ user payload, request = .registerSubagent user payload ∧ Admissible start tenantId codes user payload
  refs : ∀ pid other user rival payload sibling, assigned pid = some (.registerSubagent user payload) →
    assigned other = some (.registerSubagent rival sibling) → payload.externalInstanceRef = sibling.externalInstanceRef → pid = other
  listed : ∀ id row, start.lookup (.personaSlot id) = some row → row.tenantId = tenantId → row.agentCode ∈ codes
  policy : ∃ id row, start.modelPolicy id = some row ∧ row.tenantId = tenantId ∧ row.name = "claude-code-external"
  fit : codes.length ≤ personaSlotCap
  spare : codes.length < personaSlotCap ∨ ∀ pid other user rival payload sibling,
    assigned pid = some (.registerSubagent user payload) → assigned other = some (.registerSubagent rival sibling) →
    personaCode payload = personaCode sibling → pid ≠ other → HasAgent tenantId (personaCode payload) start

-- What a process has committed nothing of.
def Unpublished (pid : Nat) (s : Sys) : Prop :=
  ∀ (key : Key) id, key.minted = some id → s.drawn id = some pid → s.db.lookup key = none

theorem unpublished_newcomers (pid : Nat) (s t : Sys) (newcomers : Newcomers pid s t) (unpublished : Unpublished pid s) :
    Unpublished pid t := fun key id named held =>
  newcomers.mine.absent key id named (newcomers.undrawn id held) (unpublished key id named (newcomers.undrawn id held))

theorem unpublished_same (db : t.db = s.db) (drawn : t.drawn = s.drawn) (unpublished : Unpublished pid s) :
    Unpublished pid t := fun key id named held => by
  rw [db]
  exact unpublished key id named (by rwa [drawn] at held)

theorem takes_id_unpublished (minted : Minted s) (unpublished : Unpublished pid s) :
    Unpublished pid (s.takesId pid) := fun key id named held => by
  by_cases fresh : id = s.nextId
  · subst fresh
    exact (takes_id_fresh pid minted).unused key named
  · exact unpublished key id named (by simpa [Sys.takesId, fresh] using held)

section
variable {start : Db} {tenantId : Nat} {codes : List String} {assigned : Nat → Option Request} {pid : Nat} {user : User}
  {payload : SubagentPayload} {s : Sys} (enrolled : Enrolled start tenantId codes assigned) (sights : Sights start assigned s)
  (mine : assigned pid = some (.registerSubagent user payload)) (unpublished : Unpublished pid s)

include enrolled mine in
theorem enrolled_admissible : Admissible start tenantId codes user payload := by
  obtain ⟨_, _, same, admissible⟩ := enrolled.admitted pid _ mine
  cases same
  exact admissible

include enrolled sights mine unpublished

-- Somebody else's new row comes from another ref, and one's own is not committed.
theorem authored_elsewhere {row : Row key} (id : Nat) (named : key.minted = some id) (stored : s.db.lookup key = some row) :
    (start.lookup key).isSome = true ∨ ∃ other rival sibling, other ≠ pid ∧ assigned other = some (.registerSubagent rival sibling) ∧
      sibling.externalInstanceRef ≠ payload.externalInstanceRef ∧ authors (.registerSubagent rival sibling) key row := by
  refine (sights.authored key row id named stored).imp_right (fun ⟨other, request, held, theirs, wrote⟩ => ?_)
  obtain ⟨rival, sibling, rfl, -⟩ := enrolled.admitted other request theirs
  have different : other ≠ pid := by
    rintro rfl
    cases stored.symm.trans (unpublished key id named held)
  exact ⟨other, rival, sibling, different, theirs, fun same => different (enrolled.refs other pid _ _ _ _ theirs mine same), wrote⟩

theorem ref_unseen {row : AgentRuntimeSession} (stored : s.db.session id = some row) (owner : row.tenantId = user.tenantId)
    (kind : row.kind = .subagent) : row.externalInstanceRef ≠ some payload.externalInstanceRef := by
  rcases authored_elsewhere enrolled sights mine unpublished id rfl stored with before | ⟨_, _, sibling, -, -, apart, wrote⟩
  · obtain ⟨old, present⟩ := Option.isSome_iff_exists.mp before
    have persists : Persists Eq _ _ := sights.since (.session id)
    rw [present, show s.db.lookup (.session id) = some row from stored] at persists
    obtain rfl : old = row := persists
    exact (enrolled_admissible enrolled mine).unseen id old present owner kind
  · rw [wrote.2]
    exact fun same => apart (Option.some.inj same)

theorem task_unseen {parentId missionId : Nat} {row : Task} (parent : LiveParent start user payload parentId missionId)
    (stored : s.db.task id = some row) : row.idempotencyKey ≠ subagentIdempotencyKey missionId payload.externalInstanceRef := by
  rcases authored_elsewhere enrolled sights mine unpublished id rfl stored with before | ⟨_, _, sibling, -, -, apart, other, wrote⟩
  · obtain ⟨old, present⟩ := Option.isSome_iff_exists.mp before
    have persists : Persists Eq _ _ := sights.since (.task id)
    rw [present, show s.db.lookup (.task id) = some row from stored] at persists
    obtain rfl : old = row := persists
    exact parent.task id old present
  · rw [wrote]
    exact fun same => apart (subagent_key_ref _ _ _ _ same)

omit mine unpublished in
theorem slot_listed (id : Nat) (row : AgentRuntimePersonaSlot) (stored : s.db.lookup (.personaSlot id) = some row)
    (owner : row.tenantId = tenantId) : row.agentCode ∈ codes := by
  rcases sights.authored (.personaSlot id) row id rfl stored with before | ⟨other, request, -, theirs, wrote⟩
  · obtain ⟨old, present⟩ := Option.isSome_iff_exists.mp before
    cases stored.symm.trans (slot_moves sights.since present)
    exact enrolled.listed id row present owner
  · obtain ⟨rival, sibling, rfl, admissible⟩ := enrolled.admitted other request theirs
    exact wrote.2 ▸ admissible.code

-- While no two requests share a new persona, nobody else claims a slot for it.
theorem slot_unclaimed (alone : ∀ pid other user rival payload sibling,
      assigned pid = some (.registerSubagent user payload) → assigned other = some (.registerSubagent rival sibling) →
      personaCode payload = personaCode sibling → pid ≠ other → HasAgent tenantId (personaCode payload) start)
    (absent : ¬ HasAgent tenantId (personaCode payload) start) (paired : Paired start) {row : AgentRuntimePersonaSlot}
    (stored : s.db.lookup (.personaSlot id) = some row) (owner : row.tenantId = tenantId) : row.agentCode ≠ personaCode payload := by
  rcases authored_elsewhere enrolled sights mine unpublished id rfl stored with
    before | ⟨other, rival, sibling, different, theirs, -, wrote⟩
  · obtain ⟨old, present⟩ := Option.isSome_iff_exists.mp before
    cases stored.symm.trans (slot_moves sights.since present)
    intro same
    exact absent (owner ▸ same ▸ paired id row present)
  · intro same
    exact absent (alone pid other user rival payload sibling mine theirs (same.symm.trans wrote.2) (Ne.symm different))

end

variable {db : Db}

-- When all slots are taken, there are as many personas.
theorem full_slots (distinct : Distinct schema db) {codes : List String} (full : AllTaken tenantId db)
    (listed : ∀ id row, db.lookup (.personaSlot id) = some row → row.tenantId = tenantId → row.agentCode ∈ codes) :
    personaSlotCap ≤ codes.length := by
  choose id row stored owner same using fun slot : Fin personaSlotCap => full slot.1 slot.2
  have injective : Function.Injective (fun slot => (row slot).agentCode) := fun first second alike => by
    have place := distinct (.personaSlot (id first)) (row first) (.personaSlot (id second)) (row second)
      (.personaCode tenantId (row first).agentCode) (stored first) (stored second) (by simp [schema, indexed, owner])
      (by simp [schema, indexed, owner, show (row first).agentCode = (row second).agentCode from alike])
    have here : id first = id second := by simpa using place
    have rows : row first = row second := Option.some.inj ((stored first).symm.trans (here ▸ stored second))
    exact Fin.ext ((same first).symm.trans (rows ▸ same second))
  have within : List.ofFn (fun slot => (row slot).agentCode) ⊆ codes := fun code member => by
    obtain ⟨slot, rfl⟩ := List.mem_ofFn.mp member
    exact listed (id slot) (row slot) (stored slot) (owner slot)
  simpa using (List.subperm_of_subset (List.nodup_ofFn.mpr injective) within).length_le

theorem agent_accepted (row : Agent) (fresh : db.lookup (.agent id) = none) (plain : row.activeVersionId = none)
    (agentless : ¬ HasAgent row.tenantId row.agentCode db) : schema.accepts (.agent id) row db = true := by
  refine table_accepted fresh rfl (by simp [references, plain]) (fun rival found entry stored occupied wanted => ?_)
  obtain rfl : entry = .agentCode row.tenantId row.agentCode := List.mem_singleton.mp wanted
  cases rival with
  | agent other =>
      have same : row.tenantId = found.tenantId ∧ row.agentCode = found.agentCode := by simpa [indexed] using occupied
      exact agentless ⟨other, found, stored, same.1.symm, same.2.symm⟩
  | _ => cases indexed_on _ found _ occupied

-- The slot INSERT of a registration meets no rival.
def slotAccepted (pid : Nat) (stmt : Stmt) (s : Sys) : Bool :=
  match stmt with
  | .db (.insert (.personaSlot id) row) => schema.accepts (.personaSlot id) row (s.server.view pid)
  | _ => true

def sightRegime (start : Db) (assigned : Nat → Option Request) : Regime Request where
  rule := personaRule
  trans := persona_rule_trans
  guard := fun pid request stmt s => assigned pid = some request ∧ slotAccepted pid stmt s = true
  mayCrash := noCrash
  extra := Sights start assigned
  promise := fun _ _ => True
  also := Newcomers
  also_refl := newcomers_refl
  also_trans := fun pid s t u _ => newcomers_trans pid s t u
  unbegun := Unpublished
  stays_unbegun := unpublished_newcomers
  crashed := fun _ _ _ _ never => never.elim

def sighting (start : Db) (assigned : Nat → Option Request) : Discipline machine Request := (sightRegime start assigned).discipline

-- Every table but those of the agents and of their slots.
def Key.plain : Key → Bool
  | .agent _ => false
  | .personaSlot _ => false
  | _ => true

theorem plain_cell (plain : key.plain = true) {before after : Option (Row key)} (moved : PersonaCell key before after) :
    Persists Eq before after := by
  cases key with
  | agent id => cases plain
  | personaSlot id => cases plain
  | _ => exact moved

-- What a transaction holds: tables it has not written, rows that are there, rows as it
-- has inserted them, and ids it has drawn.
structure Cargo where
  table : Key → Bool
  rows : List Key := []
  kept : List (Sigma Row) := []
  ids : List Nat := []

structure Aboard (pid : Nat) (cargo : Cargo) (s : Sys) : Prop where
  unpublished : Unpublished pid s
  settles : Settles pid s
  untouched : s.server.Untouched pid cargo.table
  present : ∀ key ∈ cargo.rows, ((s.server.view pid).lookup key).isSome = true
  kept : ∀ entry ∈ cargo.kept, entry.1.plain = true ∧ (s.server.view pid).lookup entry.1 = some entry.2
  drawn : ∀ id ∈ cargo.ids, s.drawn id = some pid

theorem kept_moves {before : Db} (after : Db) (moved : PersonaMoves before after) (entry : Sigma Row) (plain : entry.1.plain = true)
    (stored : before.lookup entry.1 = some entry.2) : after.lookup entry.1 = some entry.2 := by
  have persists := plain_cell plain (moved entry.1)
  rw [stored] at persists
  obtain ⟨found, present, same⟩ := persists_found persists
  rw [present, same]

-- The others leave a transaction fit to commit.
theorem settles_steady (kept : Kept personaRule t) (slots : Slots t) (steady : Steady personaRule pid s.server t.server)
    (settles : Settles pid s) : Settles pid t := by
  have unlocked : ∀ key, s.server.rowLock key ≠ some pid → (t.server.view pid).lookup key = t.db.lookup key := fun key free =>
    view_unlocked kept.1 (fun held => free ((steady.undisturbed.rowLock key).mp held))
  refine ⟨fun id row seen => ?_, ?_⟩
  · by_cases held : s.server.rowLock (.personaSlot id) = some pid
    · rw [view_undisturbed steady.undisturbed held] at seen
      exact has_agent_moves steady.seen _ _ (settles.paired id row seen)
    · rw [unlocked _ held] at seen
      exact has_agent_moves (kept.2 pid) _ _ (slots.paired id row seen)
  · rintro tenantId agentCode ⟨id, agent, seen, owner, code⟩
    by_cases held : s.server.rowLock (.agent id) = some pid
    · have before : (s.server.view pid).lookup (.agent id) = some agent :=
        (view_undisturbed steady.undisturbed held).symm.trans seen
      exact (settles.slotted tenantId agentCode ⟨id, agent, before, owner, code⟩).imp (has_agent_moves steady.committed _ _)
        (has_slot_moves steady.seen _ _)
    · exact .inl ⟨id, agent, (unlocked _ held).symm.trans seen, owner, code⟩

theorem settles_clean (slots : Slots s) (clean : Clean pid s) : Settles pid s := by
  refine ⟨?_, ?_⟩
  · rw [clean_view clean]
    exact slots.paired
  · rw [clean_view clean]
    exact fun _ _ has => .inl has

-- So do the transaction's own statements on other tables.
theorem settles_onward (writes : personaWrites query) (onward : Onward schema pid query s.server t.server)
    (plain : ∀ key row, query = .insert key row → key.plain = true) (settles : Settles pid s) : Settles pid t := by
  have moved := persona_own_view pid query t.server writes onward
  have db : t.db = s.db := onward.db
  refine ⟨fun id row seen => ?_, ?_⟩
  · rcases onward_row onward seen with before | ⟨rfl, -⟩
    · obtain ⟨old, stored⟩ := Option.isSome_iff_exists.mp before
      cases seen.symm.trans (slot_moves moved stored)
      exact has_agent_moves moved _ _ (settles.paired id row stored)
    · cases plain _ _ rfl
  · rintro tenantId agentCode ⟨id, agent, seen, owner, code⟩
    rcases onward_row onward seen with before | ⟨rfl, -⟩
    · obtain ⟨old, stored⟩ := Option.isSome_iff_exists.mp before
      have persists := (moved (.agent id)).1
      rw [stored, show (t.server.view pid).lookup (.agent id) = some agent from seen] at persists
      have kept : agent = { old with activeVersionId := agent.activeVersionId } := persists
      have has : HasAgent tenantId agentCode (s.server.view pid) :=
        ⟨id, old, stored, by rw [← owner, kept], by rw [← code, kept]⟩
      rw [db]
      exact (settles.slotted tenantId agentCode has).imp_right (has_slot_moves moved _ _)
    · cases plain _ _ rfl

section
variable {start : Db} {assigned : Nat → Option Request} {pid : Nat} {request : Request} {pre : Sys → Prop}
  {raised : Failure → Sys → Prop}

theorem sight_guarantees {stmt : Stmt} {choice : Choice} {answer : Ans stmt} (inv : (sighting start assigned).inv s)
    (lawful : Lawful pid stmt s) (authorised : Authorised assigned pid stmt) (executed : exec pid stmt choice s = some (answer, t)) :
    (sighting start assigned).guarantee pid s t := by
  obtain ⟨sights, newcomers⟩ := sights_step inv.1 inv.2 lawful authorised executed
  exact Regime.guarantees stmt choice s t answer inv.1 (fun query issued => by
      subst issued
      exact persona_respects inv.1.2 lawful.1) ⟨sights, trivial, newcomers⟩ executed

theorem sight_ask (stmt : Stmt) {post : Ans stmt → Sys → Prop} (stable : Stable (sighting start assigned).toContract pid pre)
    (lawful : ∀ s, pre s → (sighting start assigned).inv s → Lawful pid stmt s)
    (authorised : assigned pid = some request → Authorised assigned pid stmt)
    (executes : ∀ s choice answer t, pre s → (sighting start assigned).inv s → (sighting start assigned).inv t →
      assigned pid = some request → slotAccepted pid stmt s = true → exec pid stmt choice s = some (answer, t) → post answer t) :
    Raises (sighting start assigned).toContract pid request pre (ask stmt) post raised := by
  refine raises_ask (S := apiSig) stmt post stable (fun s choice answer t before inv met executed => ?_)
  have promised := sight_guarantees inv (lawful s before inv) (authorised met.1) executed
  exact ⟨promised, executes s choice answer t before inv ((sighting start assigned).keeps_inv pid s t inv promised) met.1 met.2 executed⟩

theorem aboard_stable (cargo : Cargo) : Stable (sighting start assigned).toContract pid (Aboard pid cargo) := fun s t aboard moved inv => {
  unpublished := unpublished_newcomers pid s t moved.2 aboard.unpublished
  settles := settles_steady inv.1 inv.2.slots moved.1 aboard.settles
  untouched := untouched_undisturbed inv.1.1 moved.1.undisturbed aboard.untouched
  present := fun key member => present_moves moved.1.seen key (aboard.present key member)
  kept := fun entry member => ⟨(aboard.kept entry member).1,
    kept_moves (t.server.view pid) moved.1.seen entry (aboard.kept entry member).1 (aboard.kept entry member).2⟩
  drawn := fun id member => moved.2.mine.drawn id (aboard.drawn id member) }

theorem fresh_stable_sighting (stable : Stable (sighting start assigned).toContract pid pre) :
    Stable (sighting start assigned).toContract pid (fun s => pre s ∧ Fresh pid id s) := fun s t holds moved inv =>
  ⟨stable s t holds.1 moved inv, fresh_mine holds.2 moved.1.undisturbed moved.2.mine⟩

theorem sight_new_id (stable : Stable (sighting start assigned).toContract pid pre)
    (keeps : ∀ s, pre s → Sights start assigned s → pre (s.takesId pid)) :
    Raises (sighting start assigned).toContract pid request pre newId (fun id s => pre s ∧ Fresh pid id s) raised := by
  refine sight_ask .newId stable (fun _ _ _ => trivial) (fun _ => trivial) (fun s choice answer t before inv _ _ _ executed => ?_)
  cases executed
  exact ⟨keeps s before inv.2, takes_id_fresh pid inv.2.slots.minted⟩

variable {cargo : Cargo}

theorem aboard_takes_id (minted : Minted s) (aboard : Aboard pid cargo s) : Aboard pid cargo (s.takesId pid) where
  unpublished := takes_id_unpublished minted aboard.unpublished
  settles := ⟨aboard.settles.paired, aboard.settles.slotted⟩
  untouched := aboard.untouched
  present := aboard.present
  kept := aboard.kept
  drawn := fun id member => (takes_id_mine pid s pid minted).drawn id (aboard.drawn id member)

theorem aboard_new_id :
    Raises (sighting start assigned).toContract pid request (Aboard pid cargo) newId (fun id s => Aboard pid cargo s ∧ Fresh pid id s) raised :=
  sight_new_id (aboard_stable cargo) (fun _ aboard sights => aboard_takes_id sights.slots.minted aboard)

theorem aboard_less {less : Cargo} (table : ∀ key, less.table key = true → cargo.table key = true)
    (rows : ∀ key ∈ less.rows, key ∈ cargo.rows) (kept : ∀ entry ∈ less.kept, entry ∈ cargo.kept)
    (ids : ∀ id ∈ less.ids, id ∈ cargo.ids) (aboard : Aboard pid cargo s) : Aboard pid less s :=
  ⟨aboard.unpublished, aboard.settles, fun key listed => aboard.untouched key (table key listed),
    fun key member => aboard.present key (rows key member), fun entry member => aboard.kept entry (kept entry member),
    fun id member => aboard.drawn id (ids id member)⟩

-- An INSERT that is accepted.
theorem aboard_insert (table : Key → Bool) (key : Key) (row : Row key) (id : Nat) (named : key.minted = some id)
    (plain : key.plain = true) (elsewhere : table key = false) (within : ∀ key, table key = true → cargo.table key = true)
    (authorised : assigned pid = some request → authors request key row)
    (accepted : ∀ s, Aboard pid cargo s → Fresh pid id s → Kept personaRule s → Sights start assigned s → assigned pid = some request →
      schema.accepts key row (s.server.view pid) = true) :
    Raises (sighting start assigned).toContract pid request (fun s => Aboard pid cargo s ∧ Fresh pid id s) (insert key row)
    (fun _ => Aboard pid ⟨table, key :: cargo.rows, ⟨key, row⟩ :: cargo.kept, id :: cargo.ids⟩) raised := by
  have writes : personaWrites (.insert key row) := by
    cases key with
    | agent id => cases plain
    | _ => trivial
  refine raises_bind (fun (inserted : Bool) s => inserted = true ∧
      Aboard pid ⟨table, key :: cargo.rows, ⟨key, row⟩ :: cargo.kept, id :: cargo.ids⟩ s)
    (sight_ask (.db (.insert key row)) (fresh_stable_sighting (aboard_stable cargo))
      (fun s holds _ => ⟨writes, fun other same => by cases named.symm.trans same; exact holds.2.drawn, nofun⟩)
      (fun mine => ⟨request, mine, authorised mine⟩) (fun s choice answer t before inv _ mine _ executed => ?_))
    (fun (inserted : Bool) => ?_)
  · have onward := exec_onward _ s t answer nofun nofun executed
    have moved := persona_own_view pid _ t.server writes onward
    have drawn : t.drawn = s.drawn := by
      obtain ⟨_, -, same⟩ := Option.map_eq_some_iff.mp executed
      cases same
      rfl
    rcases exec_insert executed with ⟨-, refused, -⟩ | ⟨inserted, -, view⟩
    · exact absurd (refused.symm.trans (accepted s before.1 before.2 inv.1 inv.2 mine)) Bool.false_ne_true
    have here : (t.server.view pid).lookup key = some row := by
      rw [view]
      exact AList.lookup_insert _
    refine ⟨inserted, unpublished_same onward.db drawn before.1.unpublished,
      settles_onward writes onward (fun place other same => by cases same; exact plain) before.1.settles,
      untouched_onward onward (fun write issued => by cases issued; exact elsewhere)
        (fun place listed => before.1.untouched place (within place listed)), ?_, ?_, ?_⟩
    · intro place member
      rcases List.mem_cons.mp member with rfl | old
      · exact Option.isSome_of_eq_some here
      · exact present_moves moved place (before.1.present place old)
    · intro entry member
      rcases List.mem_cons.mp member with rfl | old
      · exact ⟨plain, here⟩
      · exact ⟨(before.1.kept entry old).1, kept_moves (t.server.view pid) moved entry (before.1.kept entry old).1
          (before.1.kept entry old).2⟩
    · intro number member
      rw [drawn]
      rcases List.mem_cons.mp member with rfl | old
      · exact before.2.drawn
      · exact before.1.drawn number old
  · cases inserted with
    | true => exact raises_pure _ (fun s holds => holds.2)
    | false => exact raises_throw _ (fun s holds => by cases holds.1)

-- Any other statement within the transaction.
theorem aboard_within (writes : personaWrites query) (goes : query ≠ .commit) (forward : query ≠ .rollback)
    (changes : ∀ key row, query ≠ .insert key row)
    (elsewhere : ∀ write, query.write = some write → cargo.table write.key = false) :
    Raises (sighting start assigned).toContract pid request (Aboard pid cargo) (ask (.db query)) (fun _ => Aboard pid cargo) raised := by
  refine sight_ask (.db query) (aboard_stable cargo) (fun s _ _ => ⟨writes, ?_, fun ends => absurd ends goes⟩) (fun _ => ?_)
    (fun s choice answer t before _ _ _ _ executed => ?_)
  · cases query with
    | insert key row => exact absurd rfl (changes key row)
    | _ => trivial
  · cases query with
    | insert key row => exact absurd rfl (changes key row)
    | _ => trivial
  · have onward := exec_onward query s t answer goes forward executed
    have moved := persona_own_view pid query t.server writes onward
    have drawn : t.drawn = s.drawn := by
      obtain ⟨_, -, same⟩ := Option.map_eq_some_iff.mp executed
      cases same
      rfl
    exact ⟨unpublished_same onward.db drawn before.unpublished,
      settles_onward writes onward (fun key row same => absurd same (changes key row)) before.settles,
      untouched_onward onward elsewhere before.untouched,
      fun key member => present_moves moved key (before.present key member),
      fun entry member => ⟨(before.kept entry member).1, kept_moves (t.server.view pid) moved entry
        (before.kept entry member).1 (before.kept entry member).2⟩,
      fun id member => by rw [drawn]; exact before.drawn id member⟩

-- A read by a transaction that has written nothing.
theorem sight_select {α : Type} (query : Db → α) {post : α → Sys → Prop} (stable : Stable (sighting start assigned).toContract pid pre)
    (clean : ∀ s, pre s → Clean pid s)
    (reads : ∀ s, pre s → (sighting start assigned).inv s → assigned pid = some request → post (query s.db) s) :
    Raises (sighting start assigned).toContract pid request pre (select query) post raised := by
  refine raises_bind (fun (db : Db) s => post (query db) s)
    (sight_ask (.db .select) stable (fun _ _ _ => ⟨trivial, trivial, nofun⟩) (fun _ => trivial)
      (fun s choice answer t before inv _ mine _ executed => ?_)) (fun db => raises_pure _ (fun _ holds => holds))
  obtain ⟨rfl, rfl⟩ := exec_select executed
  have holds := reads _ before inv mine
  rwa [← clean_view (clean _ before)] at holds

end

-- A registration before its first write, and one that has missed its persona and read
-- the model policy.
structure Begun (pid : Nat) (s : Sys) : Prop where
  clean : Clean pid s
  unpublished : Unpublished pid s

structure Missing (pid tenantId : Nat) (agentCode : String) (s : Sys) : Prop where
  begun : Begun pid s
  late : HasAgent tenantId agentCode s.db → HasSlot tenantId agentCode s.db

structure Provided (pid tenantId : Nat) (agentCode : String) (policyId : Nat) (s : Sys) : Prop where
  missing : Missing pid tenantId agentCode s
  policy : (s.db.lookup (.modelPolicy policyId)).isSome = true

def afterPersona : Key → Bool
  | .task _ => true
  | .session _ => true
  | _ => false

def afterAgent : Key → Bool
  | .agentVersion _ => true
  | key => afterPersona key

def afterSlot : Key → Bool
  | .agent _ => true
  | key => afterAgent key

def afterTask : Key → Bool
  | .session _ => true
  | _ => false

-- The slot is in the transaction. While it is, nobody else can commit the persona.
structure Slotted (pid tenantId : Nat) (agentCode : String) (slotId policyId : Nat) (s : Sys) : Prop where
  unpublished : Unpublished pid s
  untouched : s.server.Untouched pid afterSlot
  creating : Creating pid tenantId agentCode s
  drawn : s.drawn slotId = some pid
  slot : ∃ row, (s.server.view pid).lookup (.personaSlot slotId) = some row ∧ row.tenantId = tenantId ∧ row.agentCode = agentCode
  agentless : ¬ HasAgent tenantId agentCode s.db
  policy : ((s.server.view pid).lookup (.modelPolicy policyId)).isSome = true

section
variable {start : Db} {assigned : Nat → Option Request} {pid : Nat} {request : Request} {raised : Failure → Sys → Prop}

theorem begun_stable : Stable (sighting start assigned).toContract pid (Begun pid) := fun s t begun moved _ =>
  ⟨moved.1.undisturbed.staged.trans begun.clean, unpublished_newcomers pid s t moved.2 begun.unpublished⟩

theorem missing_stable :
    Stable (sighting start assigned).toContract pid (Missing pid tenantId agentCode) := fun s t missing moved inv =>
  ⟨begun_stable s t missing.begun moved inv, fun has => (moved.2.agents tenantId agentCode has).elim
    (fun before => moved.2.slots tenantId agentCode (missing.late before)) (fun slot => slot)⟩

theorem provided_stable (agentCode : String) (policyId : Nat) :
    Stable (sighting start assigned).toContract pid (Provided pid tenantId agentCode policyId) := fun s t provided moved inv =>
  ⟨missing_stable s t provided.missing moved inv, present_moves moved.1.committed _ provided.policy⟩

theorem slotted_stable {slotId policyId : Nat} :
    Stable (sighting start assigned).toContract pid (Slotted pid tenantId agentCode slotId policyId) := by
  intro s t slotted moved inv
  have unpublished := unpublished_newcomers pid s t moved.2 slotted.unpublished
  have drawn := moved.2.mine.drawn slotId slotted.drawn
  obtain ⟨row, stored, owner, code⟩ := slotted.slot
  have slot := slot_moves moved.1.seen stored
  refine ⟨unpublished, untouched_undisturbed inv.1.1 moved.1.undisturbed slotted.untouched,
    creating_steady inv.1.1 moved.1 slotted.creating, drawn, ⟨row, slot, owner, code⟩, fun has => ?_,
    present_moves moved.1.seen _ slotted.policy⟩
  rcases moved.2.agents tenantId agentCode has with before | ⟨other, rival, committed, theirs, same⟩
  · exact slotted.agentless before
  · have seen := slot_moves (inv.1.2 pid) committed
    have place := inv.2.slots.unique.seen pid (.personaSlot slotId) row (.personaSlot other) rival (.personaCode tenantId agentCode)
      slot seen (by simp [schema, indexed, owner, code]) (by simp [schema, indexed, theirs, same])
    cases place
    cases committed.symm.trans (unpublished (.personaSlot slotId) slotId rfl drawn)

theorem claim_sights {agentCode : String} (policyId : Nat) {occupied : List Nat}
    (free : ∃ slot, slot < personaSlotCap ∧ slot ∉ occupied)
    (named : ∀ slot id, assigned pid = some request → authors request (.personaSlot id) ⟨tenantId, slot, agentCode⟩) :
    Raises (sighting start assigned).toContract pid request (Provided pid tenantId agentCode policyId)
      (claimSlot tenantId agentCode maxClaimAttempts occupied false)
      (fun winner s => winner = (none, false) ∧ ∃ slotId, Slotted pid tenantId agentCode slotId policyId s) raised := by
  change Raises _ _ _ _ (claimSlot tenantId agentCode (personaSlotCap + 1) occupied false) _ _
  unfold claimSlot
  split
  next full =>
    obtain ⟨slot, small, unoccupied⟩ := free
    exact absurd (List.find?_eq_none.mp full slot (List.mem_range.mpr small)) (by simpa using unoccupied)
  next slot found =>
    refine raises_bind _ (sight_new_id (provided_stable agentCode policyId) (fun s provided sights =>
      ⟨⟨⟨provided.missing.begun.clean, takes_id_unpublished sights.slots.minted provided.missing.begun.unpublished⟩,
        provided.missing.late⟩, provided.policy⟩)) (fun id => ?_)
    let row : AgentRuntimePersonaSlot := ⟨tenantId, slot, agentCode⟩
    refine raises_bind (fun (inserted : Bool) s => inserted = true ∧ Slotted pid tenantId agentCode id policyId s)
      (sight_ask (.db (.insert (.personaSlot id) row)) (fresh_stable_sighting (provided_stable agentCode policyId))
        (fun s holds _ => ⟨trivial, fun other same => by cases same; exact holds.2.drawn, nofun⟩)
        (fun mine => ⟨request, mine, named slot id mine⟩) (fun s choice answer t before inv _ _ accepted executed => ?_))
      (fun (inserted : Bool) => ?_)
    · obtain ⟨⟨missing, policy⟩, fresh⟩ := before
      have onward := exec_onward _ s t answer nofun nofun executed
      have moved := persona_own_view pid (.insert (.personaSlot id) row) t.server trivial onward
      have clean := clean_view missing.begun.clean
      have db : t.db = s.db := onward.db
      have drawn : t.drawn = s.drawn := by
        obtain ⟨_, -, same⟩ := Option.map_eq_some_iff.mp executed
        cases same
        rfl
      rcases exec_insert executed with ⟨-, refused, -⟩ | ⟨inserted, accepts, view⟩
      · exact absurd (refused.symm.trans accepted) Bool.false_ne_true
      have here : (t.server.view pid).lookup (.personaSlot id) = some row := by
        rw [view]
        exact AList.lookup_insert _
      have slotless : ¬ HasSlot tenantId agentCode s.db := by
        rintro ⟨other, rival, stored, owner, code⟩
        rw [clean] at accepts
        refine ((accepts_cases accepts).1 (.personaSlot other) rival stored).2
          (.personaCode tenantId agentCode) ?_ ?_
        · simp [schema, indexed, owner, code]
        · simp [schema, indexed, row]
      refine ⟨inserted, unpublished_same db drawn missing.begun.unpublished,
        untouched_onward onward (fun write issued => by cases issued; rfl)
          (fun key _ => by rw [clean]; rfl), ?_, by rw [drawn]; exact fresh.drawn, ⟨row, here, rfl, rfl⟩,
        by rw [db]; exact fun has => slotless (missing.late has), ?_⟩
      · exact ⟨holding_onward tenantId (.insert (.personaSlot id) row) s t trivial ⟨rfl, rfl⟩ onward
          (holding_clean tenantId agentCode missing.begun.clean), id, row, here, rfl, rfl⟩
      · exact present_moves moved _ (by rw [clean]; exact policy)
    · cases inserted with
      | true => exact raises_pure _ (fun s holds => ⟨rfl, id, holds.2⟩)
      | false => exact fun s holds => by cases holds.1

end

end AiWorld.Api
